import BirdCode.Lib.AppendOnly
import BirdCode.Store.Admission
import BirdCode.Store.ChildPersistence

/-! What an append leaves of the log before it: the rows, the run's own events and the counts of
identities. -/
namespace BirdCode.Store

open Lib (Persists Stepwise)

variable {documents : PlanningDocuments} {env : Environment} {log log' : EventLog}
  {event : EventEnvelope} {admission : EventAdmission}

section Rows

variable {sessionId : SessionId} {runId : RunId} {run : Run} {later : List EventEnvelope}

theorem storedRun_append (h : log'.events = log.events ++ later)
    (hrun : storedRun log runId = some run) : storedRun log' runId = some run := by
  unfold storedRun at hrun ⊢
  rw [h, List.filterMap_append, List.find?_append, hrun, Option.some_or]

theorem storedSession_append {session : Session} (h : log'.events = log.events ++ later)
    (hsession : storedSession log sessionId = some session) :
    storedSession log' sessionId = some session := by
  unfold storedSession at hsession ⊢
  rw [h, List.filterMap_append, List.find?_append, hsession, Option.some_or]

theorem storedRun_id (hrun : storedRun log runId = some run) : run.id = runId := by
  have := List.find?_some hrun
  exact of_decide_eq_true this

theorem durableRunForEvent_eq_ok :
    durableRunForEvent log sessionId runId = .ok run ↔
      storedRun log runId = some run ∧ run.spec.sessionId = sessionId := by
  simp [durableRunForEvent, expect_eq_ok, Option.filter_eq_some_iff]

theorem durableSessionWorkspaceRoot_persists (hkept : log.events <+: log'.events) :
    Persists (durableSessionWorkspaceRoot log sessionId)
      (durableSessionWorkspaceRoot log' sessionId) := by
  obtain ⟨later, hlater⟩ := hkept
  unfold durableSessionWorkspaceRoot
  refine Persists.bind_left fun session h => ?_
  rw [expect_eq_ok] at h ⊢
  exact storedSession_append hlater.symm h

theorem runEvents_append (h : log'.events = log.events ++ later) :
    runEvents log' sessionId runId = runEvents log sessionId runId ++
      later.filter fun event => event.sessionId = sessionId ∧ event.runId = some runId := by
  unfold runEvents
  rw [h, List.filter_append]

theorem mem_runEvents : event ∈ runEvents log sessionId runId ↔
    event ∈ log.events ∧ event.sessionId = sessionId ∧ event.runId = some runId := by
  simp [runEvents]

theorem identityCount_append (h : log'.events = log.events ++ later)
    (carries : EventPayload → Bool) :
    identityCount log' carries =
      identityCount log carries + later.countP fun event => carries event.payload := by
  unfold identityCount
  rw [h, List.countP_append]

/-- A count of zero before an event that carries the identity rules the event out. -/
theorem not_carries_of_identityCount_eq_zero {carries : EventPayload → Bool}
    (h : identityCount log carries = 0) {stored : EventEnvelope} (hmem : stored ∈ log.events) :
    carries stored.payload = false := by
  have := List.countP_eq_zero.mp h stored hmem
  simpa using this

theorem storedEventForRun_mem {eventId : EventId}
    (h : storedEventForRun log sessionId runId eventId = .ok event) :
    event ∈ log.events ∧ event.id = eventId ∧ event.runId = some runId ∧
      event.sessionId = sessionId := by
  unfold storedEventForRun at h
  rw [expect_eq_ok] at h
  have hfound := List.find?_some h
  exact ⟨List.mem_of_find?_eq_some h, of_decide_eq_true hfound⟩

/-- An event is known by its identity. -/
theorem EventLog.eq_of_id (log : EventLog) {first second : EventEnvelope}
    (hfirst : first ∈ log.events) (hsecond : second ∈ log.events) (h : first.id = second.id) :
    first = second := List.inj_on_of_nodup_map log.idsDistinct hfirst hsecond h

theorem latest_mem {kind : EventPayload → Bool}
    (h : latest log sessionId runId kind = some event) :
    event ∈ runEvents log sessionId runId ∧ kind event.payload = true := by
  have hmem := List.mem_of_getLast? h
  rw [List.mem_filter] at hmem
  obtain ⟨hlog, hkind⟩ := hmem
  obtain ⟨hsession, hrun, hkind⟩ := of_decide_eq_true hkind
  exact ⟨mem_runEvents.mpr ⟨hlog, hsession, hrun⟩, hkind⟩

/-- Before the next sequence of the session, the latest event of a kind is the latest of all. -/
theorem latestBefore_eq_latest {kind : EventPayload → Bool} {bound : ℕ}
    (h : ∀ stored ∈ log.events, stored.sessionId = sessionId → stored.sequence < bound) :
    latestBefore log sessionId runId kind bound = latest log sessionId runId kind := by
  unfold latestBefore latest
  congr 1
  refine List.filter_congr fun stored hstored => ?_
  have := h stored hstored
  by_cases hsession : stored.sessionId = sessionId
  · simp [hsession, this hsession]
  · simp [hsession]

theorem latestCancellationGenerationBefore_eq_latest {bound : ℕ}
    (h : ∀ stored ∈ log.events, stored.sessionId = sessionId → stored.sequence < bound) :
    latestCancellationGenerationBefore log sessionId runId bound =
      latestCancellationGeneration log sessionId runId := by
  unfold latestCancellationGenerationBefore latestCancellationGeneration
  congr 1
  refine List.filter_congr fun stored hstored => ?_
  have := h stored hstored
  by_cases hsession : stored.sessionId = sessionId
  · simp [hsession, this hsession]
  · simp [hsession]

end Rows

section Append

/-- What an append that was accepted establishes. -/
structure Appended (documents : PlanningDocuments) (env : Environment) (log : EventLog)
    (event : EventEnvelope) (admission : EventAdmission) (log' : EventLog) : Prop where
  events : log'.events = log.events ++ [event]
  fresh : ∀ stored ∈ log.events, stored.id ≠ event.id
  later : ∀ stored ∈ log.events, stored.sessionId = event.sessionId →
    stored.sequence < event.sequence
  refs : env.typedArtifactRefs event.provenance event.payload = .ok ()
  bound : event.payload.createdRun = none → ∀ runId, event.runId = some runId →
    ∃ run, storedRun log runId = some run ∧ run.spec.sessionId = event.sessionId
  kind : validateEventKind documents env log event admission = .ok ()
  projected : projectRunStates log.runStates event = .ok log'.runStates
  sequence : event.sequence ≤ maxSqliteInteger

theorem applyExactEventEnvelope_appended
    (h : applyExactEventEnvelope documents env log event admission = .ok log') :
    Appended documents env log event admission log' := by
  simp only [applyExactEventEnvelope, bind_eq_ok, expect_eq_ok, ensure_eq_ok] at h
  obtain ⟨_, hexact, _, hrefs, _, hkind, _, _, _, _, hinsert⟩ := h
  simp only [EventLog.insert, bind_eq_ok, ensure_eq_ok] at hinsert
  obtain ⟨_, hsequence, runStates, hprojected, hinsert⟩ := hinsert
  split at hinsert
  case isFalse => cases hinsert
  case isTrue hconstraints =>
    cases hinsert
    obtain ⟨hid, hlater⟩ := hconstraints
    refine ⟨rfl, ?_, hlater, hrefs, ?_, hkind, hprojected, hsequence⟩
    · intro stored hstored heq
      exact hid (List.mem_map.mpr ⟨stored, hstored, heq⟩)
    · intro hnone runId hrun
      simp only [validateExactEventAdmission, bind_eq_ok, ensure_eq_ok, hnone,
        Option.isNone_none, true_implies] at hexact
      obtain ⟨_, _, _, _, _, hbound, _⟩ := hexact
      rw [hrun, Option.all_some, Option.any_eq_true] at hbound
      obtain ⟨run, hstored, hsession⟩ := hbound
      exact ⟨run, hstored, of_decide_eq_true hsession⟩

theorem Appended.kept (h : Appended documents env log event admission log') :
    log.events <+: log'.events := ⟨[event], h.events.symm⟩

theorem Appended.mem (h : Appended documents env log event admission log') :
    event ∈ log'.events := by
  rw [h.events]
  exact List.mem_append_right _ (List.mem_singleton.mpr rfl)

/-- The appended event is replayed over the log that holds it as it was admitted. -/
theorem Appended.continued (h : Appended documents env log event admission log') :
    ContinuedFrom log log' event.sessionId event.sequence := by
  refine ⟨[event], h.events, fun stored hstored _ => ?_⟩
  rw [List.mem_singleton.mp hstored]

/-- An event of an admitted log was appended to an admitted log that the log continues. -/
theorem Admitted.split (h : Admitted documents env log) (hmem : event ∈ log.events) :
    ∃ before after admission, Admitted documents env before ∧
      Appended documents env before event admission after ∧ after.events <+: log.events := by
  induction h with
  | empty => cases hmem
  | @append log log' added admission hadmitted happly ih =>
    have happended := applyExactEventEnvelope_appended happly
    rw [happended.events, List.mem_append, List.mem_singleton] at hmem
    obtain hmem | rfl := hmem
    · obtain ⟨before, after, admission, hbefore, hafter, hkept⟩ := ih hmem
      exact ⟨before, after, admission, hbefore, hafter, hkept.trans happended.kept⟩
    · exact ⟨log, log', admission, hadmitted, happended, List.prefix_refl _⟩

/-- How an event of a log was appended: to an admitted log of the events before it. -/
structure AppendedAfter (documents : PlanningDocuments) (env : Environment) (whole : EventLog)
    (before : List EventEnvelope) (event : EventEnvelope) : Prop where
  append : ∃ log log' admission, log.events = before ∧ Admitted documents env log ∧
    Appended documents env log event admission log' ∧ log'.events <+: whole.events

theorem Admitted.stepwise {whole : EventLog} (h : Admitted documents env log)
    (hwhole : log.events <+: whole.events) :
    Stepwise (AppendedAfter documents env whole) log.events := by
  induction h with
  | empty =>
    intro before event after heq
    simp at heq
  | @append log log' event admission hadmitted happly ih =>
    have happended := applyExactEventEnvelope_appended happly
    rw [happended.events]
    refine (ih (happended.kept.trans hwhole)).append ⟨log, log', admission, rfl, hadmitted,
      happended, hwhole⟩

theorem Admitted.attempt (h : Admitted documents env log) (request : AppendRequest) :
    Admitted documents env (log.attempt documents env request) := by
  unfold EventLog.attempt
  split
  case h_1 appended happly => exact h.append happly
  case h_2 => exact h

/-- Failed appends or not, the log stays an admitted one. -/
theorem Admitted.attempts (h : Admitted documents env log) (requests : List AppendRequest) :
    Admitted documents env (log.attempts documents env requests) := by
  unfold EventLog.attempts
  induction requests generalizing log with
  | nil => exact h
  | cons request rest ih => exact ih (h.attempt request)

/-- Appends lead on, failed ones or not. -/
theorem Continues.attempts (h : Continues documents env log log') (requests : List AppendRequest) :
    Continues documents env log (log'.attempts documents env requests) := by
  unfold EventLog.attempts
  induction requests generalizing log' with
  | nil => exact h
  | cons request rest ih =>
    refine ih ?_
    unfold EventLog.attempt
    split
    case h_1 appended happly => exact h.append happly
    case h_2 => exact h

theorem Continues.kept (h : Continues documents env log log') : log.events <+: log'.events := by
  induction h with
  | refl => exact List.prefix_refl _
  | append _ happly ih => exact ih.trans (applyExactEventEnvelope_appended happly).kept

theorem Admitted.continue (h : Admitted documents env log) (hc : Continues documents env log log') :
    Admitted documents env log' := by
  induction hc with
  | refl => exact h
  | append _ happly ih => exact ih.append happly

/-- Every event of a run follows the run's creation in the same session. -/
theorem Admitted.run_stored (h : Admitted documents env log) (hmem : event ∈ log.events)
    {runId : RunId} (hrun : event.runId = some runId) :
    ∃ run, storedRun log runId = some run ∧ run.spec.sessionId = event.sessionId := by
  induction h with
  | empty => cases hmem
  | @append log log' added admission hadm happly ih =>
    have happended := applyExactEventEnvelope_appended happly
    have hkeep {run : Run} (hrun : storedRun log runId = some run) :=
      storedRun_append happended.events hrun
    rw [happended.events, List.mem_append, List.mem_singleton] at hmem
    rcases hmem with hmem | rfl
    · obtain ⟨run, hstored, hsession⟩ := ih hmem
      exact ⟨run, hkeep hstored, hsession⟩
    · cases hcreated : event.payload.createdRun with
      | none =>
        obtain ⟨run, hstored, hsession⟩ := happended.bound hcreated runId hrun
        exact ⟨run, hkeep hstored, hsession⟩
      | some created =>
        have hpayload : event.payload = .runCreated created := by
          cases hp : event.payload <;> simp_all [EventPayload.createdRun]
        have hkind := happended.kind
        simp only [validateEventKind, hpayload, ensure_eq_ok] at hkind
        obtain ⟨hsession, hid, _, _, hnone, _⟩ := hkind
        obtain rfl : created.id = runId := by
          rw [hrun] at hid
          exact (Option.some.inj hid).symm
        refine ⟨created, ?_, hsession.symm⟩
        unfold storedRun at hnone ⊢
        rw [happended.events, List.filterMap_append, List.find?_append,
          Option.isNone_iff_eq_none.mp hnone, Option.none_or]
        simp [hpayload, EventPayload.createdRun]

/-- What admission of an event of any generic kind checks of that kind. -/
theorem Appended.generic (h : Appended documents env log event admission log')
    (hsession : event.payload.createdSession = none) (hrun : event.payload.createdRun = none) :
    validateGenericEvent documents env log event admission = .ok () := by
  have hkind := h.kind
  unfold validateEventKind at hkind
  split at hkind
  case h_1 session hp => simp [hp, EventPayload.createdSession] at hsession
  case h_2 created hp => simp [hp, EventPayload.createdRun] at hrun
  case h_3 =>
    simp only [bind_eq_ok] at hkind
    obtain ⟨_, _, hgeneric⟩ := hkind
    exact hgeneric

/-- The kind's own validator, past the two fences. -/
theorem Appended.unfenced (h : Appended documents env log event admission log')
    (hsession : event.payload.createdSession = none) (hrun : event.payload.createdRun = none) :
    validatePendingCleanupAuthorityFence env log event = .ok () ∧
    validateRootPlanningFailureFence log event = .ok () := by
  have hgeneric := h.generic hsession hrun
  simp only [validateGenericEvent, bind_eq_ok] at hgeneric
  obtain ⟨_, hpending, _, hplanning, _⟩ := hgeneric
  exact ⟨hpending, hplanning⟩

end Append

end BirdCode.Store
