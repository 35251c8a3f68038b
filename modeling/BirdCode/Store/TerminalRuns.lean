import BirdCode.Store.Fixtures
import BirdCode.Store.RunStates
import BirdCode.Store.SnapshotRuns

/-! Terminal states absorb: what may still be appended for a run after the change of state that
ended it, and after its cancellation was requested. -/
namespace BirdCode.Store

variable {documents : PlanningDocuments} {env : Environment} {log log' : EventLog} {run : Run}
  {event : EventEnvelope} {admission : EventAdmission} {runId : RunId} {state : RunState}

namespace EventPayload

def isTerminalChange : EventPayload → Bool
  | .runStateChanged _ after => after.isTerminal
  | _ => false

def cancellationRequest : EventPayload → Option CancellationRequested
  | .cancellationRequested request => some request
  | _ => none

def isLeaseReleased : EventPayload → Bool
  | .repositorySnapshotLeaseReleased _ => true
  | _ => false

end EventPayload

/-- The run has ended. -/
def Ended (log : EventLog) (runId : RunId) : Prop :=
  ∃ state, foldedRunState log runId = some state ∧ state.isTerminal = true

section Step

theorem foldRunState_of_not_change {state : Option RunState}
    (hcreated : event.payload.createdRun = none)
    (hchanged : ∀ before after, event.payload ≠ .runStateChanged before after) :
    foldRunState state event = state := by
  unfold foldRunState
  split
  case h_1 run hpayload => simp [hpayload, EventPayload.createdRun] at hcreated
  case h_2 before after hpayload => exact absurd hpayload (hchanged before after)
  case h_3 => rfl

theorem validRunTransition_not_terminal {before after : RunState}
    (h : validRunTransition before after = true) : before.isTerminal = false := by
  cases before <;> cases after <;> first | rfl | cases h

/-- A run is created in a log that has no event of it. -/
theorem Appended.created (h : Appended documents env log event admission log')
    {created : Run} (hpayload : event.payload = .runCreated created) :
    event.runId = some created.id ∧ event.sessionId = created.spec.sessionId ∧
      created.state = .queued ∧ storedRun log created.id = none := by
  have hkind := h.kind
  simp only [validateEventKind, hpayload, ensure_eq_ok] at hkind
  obtain ⟨hsession, hrun, hqueued, _, hnone, _⟩ := hkind
  exact ⟨hrun, hsession, hqueued, Option.isNone_iff_eq_none.mp hnone⟩

theorem Appended.created_unfolded (h : Appended documents env log event admission log')
    (hfold : RunStatesFold log) {created : Run} (hpayload : event.payload = .runCreated created) :
    foldedRunState log created.id = none := by
  have hprojected := h.projected
  simp only [projectRunStates, hpayload, projectRunCreation, bind_eq_ok, ensure_eq_ok,
    expect_eq_ok] at hprojected
  obtain ⟨_, _, owner, howner, _, hnew, _⟩ := hprojected
  obtain rfl : created.id = owner := Option.some.inj ((h.created hpayload).1.symm.trans howner)
  rw [← hfold.projected, projectedRunState, Option.map_eq_none_iff, Lib.rowAt, List.find?_eq_none]
  intro row hrow
  simpa using List.all_eq_true.mp hnew row hrow

/-- After the end of a run, what is appended for it is telemetry or ends a snapshot. -/
theorem Appended.after_end (h : Appended documents env log event admission log')
    (hfold : RunStatesFold log) (hended : Ended log runId) (hrun : event.runId = some runId) :
    event.payload.isTelemetry = true ∨ event.payload.isLeaseReleased = true ∨
      ∃ adopted, event.payload = .repositorySnapshotCaptureClaimAdopted adopted := by
  obtain ⟨state, hstate, hterminal⟩ := hended
  have hnonterminal {state' : RunState} {runId' : RunId} (hrun' : event.runId = some runId')
      (hstate' : foldedRunState log runId' = some state') (h' : state'.isTerminal = false) :
      False := by
    obtain rfl := Option.some.inj (hrun.symm.trans hrun')
    obtain rfl := Option.some.inj (hstate.symm.trans hstate')
    rw [hterminal] at h'
    cases h'
  have hneeds (hneeds : event.payload.needsRunning = true) : False := by
    obtain ⟨owner, hrunning⟩ := h.running hneeds
    exact hnonterminal hrunning.1 (hrunning.folded hfold) rfl
  cases hp : event.payload <;> simp only [hp, EventPayload.needsRunning] at hneeds
  case userInput | backendEvent | artifactStored => exact .inl rfl
  case repositorySnapshotLeaseReleased => exact .inr (.inl rfl)
  case repositorySnapshotCaptureClaimAdopted adopted => exact .inr (.inr ⟨adopted, rfl⟩)
  case sessionCreated session =>
    have hkind := h.kind
    simp only [validateEventKind, hp, ensure_eq_ok] at hkind
    rw [hrun] at hkind
    cases hkind.2.1
  case runCreated created =>
    obtain ⟨howner, _, _, _⟩ := h.created hp
    obtain rfl := Option.some.inj (hrun.symm.trans howner)
    rw [h.created_unfolded hfold hp] at hstate
    cases hstate
  case runStateChanged before after =>
    obtain ⟨owner, hchanged⟩ := h.stateChanged hp
    exact (hnonterminal hchanged.owner (hfold.current hchanged.current)
      (validRunTransition_not_terminal hchanged.transition)).elim
  case runClaimed claim =>
    obtain ⟨owner, state', hclaimed⟩ := h.claimed hp
    obtain ⟨hstate', hnot⟩ := requireNonterminalRun_folded hfold hclaimed.current
    exact (hnonterminal hclaimed.owner hstate' hnot).elim
  case cancellationRequested request =>
    obtain ⟨owner, state', hcancelled⟩ := h.cancelled hp
    obtain ⟨hstate', hnot⟩ := requireNonterminalRun_folded hfold hcancelled.current
    exact (hnonterminal hcancelled.owner hstate' hnot).elim
  case repositorySnapshotRecovery =>
    have hgeneric := h.generic (by simp [hp, EventPayload.createdSession])
      (by simp [hp, EventPayload.createdRun])
    simp only [validateGenericEvent, hp, bind_eq_ok, reduceCtorEq, and_false, exists_false]
      at hgeneric
  all_goals exact absurd trivial hneeds

/-- Nothing that may follow the end of a run changes its state. -/
theorem Appended.ended (h : Appended documents env log event admission log')
    (hfold : RunStatesFold log) (hended : Ended log runId) : Ended log' runId := by
  obtain ⟨state, hstate, hterminal⟩ := hended
  refine ⟨state, ?_, hterminal⟩
  by_cases hrun : event.runId = some runId
  · rw [foldedRunState_append_own h.events hrun, hstate]
    have hafter := h.after_end hfold ⟨state, hstate, hterminal⟩ hrun
    refine foldRunState_of_not_change ?_ ?_
    · obtain htelemetry | hreleased | ⟨adopted, hadopted⟩ := hafter <;>
        cases hp : event.payload <;> simp_all [EventPayload.isTelemetry,
          EventPayload.isLeaseReleased, EventPayload.createdRun]
    · intro before after hp
      obtain htelemetry | hreleased | ⟨adopted, hadopted⟩ := hafter <;>
        simp_all [EventPayload.isTelemetry, EventPayload.isLeaseReleased]
  · rw [foldedRunState_append_other h.events hrun, hstate]

end Step

section Snapshot

/-- No snapshot event follows the end of a parallel reconnaissance run that holds no snapshot. -/
theorem Appended.unheld_telemetry (h : Appended documents env log event admission log')
    (hfold : RunStatesFold log) (hrun : storedRun log run.id = some run)
    {lifecycle : RepositorySnapshotLifecycleReplay}
    (hlifecycle : replayRepositorySnapshotLifecycle env log run = .ok lifecycle)
    (hunheld : lifecycle.isHeld = false) (hended : Ended log run.id)
    (hown : event.runId = some run.id) : event.payload.isTelemetry = true := by
  obtain htelemetry | hreleased | ⟨adopted, hadopted⟩ := h.after_end hfold hended hown
  · exact htelemetry
  · cases hp : event.payload <;> simp only [hp, EventPayload.isLeaseReleased,
      Bool.false_eq_true] at hreleased
    obtain ⟨capture, leaseEvent, rfl, _⟩ := h.release_step hrun hown hlifecycle hp
    cases hunheld
  · obtain ⟨owner, other, capture, _, howner, hother, _, hopen, _⟩ := h.captureAdoption hadopted
    obtain rfl := Option.some.inj (howner.symm.trans hown)
    obtain rfl := Option.some.inj (hother.symm.trans hrun)
    obtain rfl := Except.ok.inj (hlifecycle.symm.trans hopen)
    cases hunheld

theorem ofSnapshot_of_telemetry (h : event.payload.isTelemetry = true) :
    ¬event.ofSnapshot runId := by
  rintro ⟨_, hkind⟩
  cases hp : event.payload <;> simp_all [EventPayload.isTelemetry, EventPayload.isSnapshotLifecycle]

/-- The step that ends a run is a change of state to a terminal one. -/
theorem Appended.ends (h : Appended documents env log event admission log')
    (hbefore : ¬Ended log runId) (hafter : Ended log' runId) :
    event.runId = some runId ∧ event.payload.isTerminalChange = true := by
  obtain ⟨state, hstate, hterminal⟩ := hafter
  by_cases hrun : event.runId = some runId
  · refine ⟨hrun, ?_⟩
    rw [foldedRunState_append_own h.events hrun] at hstate
    unfold foldRunState at hstate
    split at hstate
    case h_1 created hp =>
      obtain ⟨_, _, hqueued, _⟩ := h.created hp
      obtain rfl := Option.some.inj hstate
      rw [hqueued] at hterminal
      cases hterminal
    case h_2 before after hp =>
      obtain rfl := Option.some.inj hstate
      rw [hp]
      exact hterminal
    case h_3 => exact absurd ⟨state, hstate, hterminal⟩ hbefore
  · rw [foldedRunState_append_other h.events hrun] at hstate
    exact absurd ⟨state, hstate, hterminal⟩ hbefore

/-- An ended parallel reconnaissance run holds no snapshot. -/
theorem Admitted.ended_unheld (h : Admitted documents env log)
    (hrun : storedRun log run.id = some run) (hrecon : run.isParallelRecon = true)
    (hended : Ended log run.id) : ∃ lifecycle,
      replayRepositorySnapshotLifecycle env log run = .ok lifecycle ∧
        lifecycle.isHeld = false := by
  induction h with
  | empty => cases hrun
  | @append log log' event admission hadmitted happly ih =>
    have happended := applyExactEventEnvelope_appended happly
    have hfold := hadmitted.runStatesFold
    by_cases hbefore : Ended log run.id
    · have hstored : storedRun log run.id = some run := by
        obtain ⟨state, hstate, _⟩ := hbefore
        have hevents : eventsOf log run.id ≠ [] := by
          intro hnone
          rw [foldedRunState, hnone] at hstate
          cases hstate
        obtain ⟨stored, hmem⟩ := List.exists_mem_of_ne_nil _ hevents
        obtain ⟨hmem, hown⟩ := List.mem_filter.mp hmem
        obtain ⟨other, hother, _⟩ := hadmitted.run_stored hmem (of_decide_eq_true hown)
        rw [storedRun_append happended.events hother] at hrun
        rw [hother, Option.some.inj hrun]
      obtain ⟨lifecycle, hlifecycle, hunheld⟩ := ih hstored hbefore
      refine ⟨lifecycle, happended.lifecycle_other ?_ lifecycle hlifecycle, hunheld⟩
      by_cases hown : event.runId = some run.id
      · exact ofSnapshot_of_telemetry
          (happended.unheld_telemetry hfold hstored hlifecycle hunheld hbefore hown)
      · exact fun hsnapshot => hown hsnapshot.1
    · obtain ⟨hown, hterminal⟩ := happended.ends hbefore hended
      cases hp : event.payload <;> simp only [hp, EventPayload.isTerminalChange,
        Bool.false_eq_true] at hterminal
      obtain ⟨owner, hchanged⟩ := happended.stateChanged hp
      obtain rfl := Option.some.inj (hchanged.owner.symm.trans hown)
      obtain ⟨other, hother, hfence⟩ := hchanged.fence hterminal
      obtain ⟨hother, _⟩ := durableRunForEvent_eq_ok.mp hother
      obtain rfl : other = run := by
        rw [storedRun_append happended.events hother] at hrun
        exact Option.some.inj hrun
      simp only [validateParallelReconSnapshotTerminalFence, whenever_eq_ok, hrecon, hterminal,
        and_self, true_implies, bind_eq_ok, ensure_eq_ok] at hfence
      obtain ⟨lifecycle, hlifecycle, hunheld⟩ := hfence
      refine ⟨lifecycle, happended.lifecycle_other ?_ lifecycle hlifecycle, hunheld⟩
      rintro ⟨_, hkind⟩
      simp [hp, EventPayload.isSnapshotLifecycle] at hkind

end Snapshot

section Absorption

/-- What may follow the end of a run: telemetry, and outside parallel reconnaissance the release
of a snapshot lease that was issued before. -/
def outlivesRun (run : Run) (payload : EventPayload) : Bool :=
  payload.isTelemetry || (!run.isParallelRecon && payload.isLeaseReleased)

theorem Appended.outlives (h : Appended documents env log event admission log')
    (hadmitted : Admitted documents env log) (hrun : storedRun log run.id = some run)
    (hended : Ended log run.id) (hown : event.runId = some run.id) :
    outlivesRun run event.payload = true := by
  have hfold := hadmitted.runStatesFold
  unfold outlivesRun
  by_cases hrecon : run.isParallelRecon = true
  · obtain ⟨lifecycle, hlifecycle, hunheld⟩ := hadmitted.ended_unheld hrun hrecon hended
    rw [h.unheld_telemetry hfold hrun hlifecycle hunheld hended hown, Bool.true_or]
  · obtain htelemetry | hreleased | ⟨adopted, hadopted⟩ := h.after_end hfold hended hown
    · rw [htelemetry, Bool.true_or]
    · simp [hrecon, hreleased]
    · obtain ⟨owner, other, _, _, howner, hother, hparallel, _⟩ := h.captureAdoption hadopted
      obtain rfl := Option.some.inj (howner.symm.trans hown)
      obtain rfl := Option.some.inj (hother.symm.trans hrun)
      exact absurd hparallel hrecon

/-- A terminal change in the log has ended its run. -/
theorem Admitted.ended_of_change (h : Admitted documents env log) {change : EventEnvelope}
    (hmem : change ∈ eventsOf log runId) (hterminal : change.payload.isTerminalChange = true) :
    Ended log runId := by
  induction h with
  | empty => cases hmem
  | @append log log' event admission hadmitted happly ih =>
    have happended := applyExactEventEnvelope_appended happly
    have hfold := hadmitted.runStatesFold
    rw [eventsOf_append happended.events, List.mem_append] at hmem
    obtain hmem | hmem := hmem
    · exact happended.ended hfold (ih hmem)
    · split at hmem
      case isFalse => cases hmem
      case isTrue hown =>
        rw [List.mem_singleton.mp hmem] at hterminal
        cases hp : event.payload <;> simp only [hp, EventPayload.isTerminalChange,
          Bool.false_eq_true] at hterminal
        case runStateChanged before after =>
          refine ⟨after, ?_, hterminal⟩
          rw [foldedRunState_append_own happended.events hown]
          simp [foldRunState, hp]

/-- Terminal states absorb. -/
theorem Admitted.absorbs (h : Admitted documents env log) (hrun : storedRun log run.id = some run) :
    (eventsOf log run.id).Pairwise fun change event =>
      change.payload.isTerminalChange = true → outlivesRun run event.payload = true := by
  refine h.pairwise (List.prefix_refl _) ?_
  intro before after event admission hadmitted happended hwhole hown change hchange hterminal
  have hended := hadmitted.ended_of_change hchange hterminal
  obtain ⟨stored, hstored, _⟩ := hadmitted.stored_of_mem hchange
  obtain ⟨later, hlater⟩ := happended.kept.trans hwhole
  obtain rfl : stored = run :=
    Option.some.inj ((storedRun_append hlater.symm hstored).symm.trans hrun)
  exact happended.outlives hadmitted hstored hended hown

end Absorption

section Cancellation

/-- The cancellation requests of a run. -/
def cancellationsOf (log : EventLog) (runId : RunId) : List CancellationRequested :=
  (eventsOf log runId).filterMap fun event => event.payload.cancellationRequest

theorem left_le_max64 (a b : UInt64) : a ≤ max a b := by
  show a ≤ if a ≤ b then b else a
  split
  case isTrue h => exact h
  case isFalse => exact UInt64.le_refl a

theorem right_le_max64 (a b : UInt64) : b ≤ max a b := by
  show b ≤ if a ≤ b then b else a
  split
  case isTrue => exact UInt64.le_refl b
  case isFalse h => exact UInt64.le_of_lt (UInt64.not_le.mp h)

theorem le_maxCancellationGeneration {events : List EventEnvelope} {request : CancellationRequested}
    (hmem : event ∈ events) (hpayload : event.payload = .cancellationRequested request) :
    request.cancellationGeneration ≤ maxCancellationGeneration events := by
  unfold maxCancellationGeneration
  induction events using List.reverseRecOn with
  | nil => cases hmem
  | append_singleton events last ih =>
    rw [List.foldl_append, List.foldl_cons, List.foldl_nil]
    obtain hmem | hmem := List.mem_append.mp hmem
    · have := ih hmem
      split
      · exact UInt64.le_trans this (left_le_max64 _ _)
      · exact this
    · rw [List.mem_singleton.mp hmem] at hpayload
      rw [hpayload]
      exact right_le_max64 _ _

/-- Where no request is, the generation is zero. -/
theorem maxCancellationGeneration_eq_zero {events : List EventEnvelope}
    (h : ∀ event ∈ events, event.payload.cancellationRequest = none) :
    maxCancellationGeneration events = 0 := by
  unfold maxCancellationGeneration
  induction events with
  | nil => rfl
  | cons first rest ih =>
    rw [List.foldl_cons]
    have hfirst := h first (List.mem_cons_self ..)
    have hrest := ih fun event hevent => h event (List.mem_cons_of_mem _ hevent)
    split
    case h_1 request hp => simp [hp, EventPayload.cancellationRequest] at hfirst
    case h_2 => exact hrest

/-- A request in the log is the generation of its run from then on. -/
theorem Admitted.cancellation_pos (h : Admitted documents env log) {request : EventEnvelope}
    (hmem : request ∈ eventsOf log runId)
    (hpayload : request.payload.isCancellationRequested = true) :
    0 < latestCancellationGeneration log request.sessionId runId := by
  obtain ⟨hmem, hown⟩ := List.mem_filter.mp hmem
  have hown := of_decide_eq_true hown
  cases hp : request.payload <;> simp only [hp, EventPayload.isCancellationRequested,
    Bool.false_eq_true] at hpayload
  case cancellationRequested cancellation =>
    obtain ⟨before, after, admission, _, happended, _⟩ := h.split hmem
    obtain ⟨_, _, hcancelled⟩ := happended.cancelled hp
    have hle : cancellation.cancellationGeneration ≤
        latestCancellationGeneration log request.sessionId runId :=
      le_maxCancellationGeneration (List.mem_filter.mpr ⟨hmem, by simp [hown]⟩) hp
    rw [hcancelled.generation] at hle
    have hpos : (0 : UInt64) < 1 := by decide
    rw [UInt64.lt_iff_toNat_lt] at hpos ⊢
    rw [UInt64.le_iff_toNat_le] at hle
    omega

end Cancellation

section History

def EventPayload.isCompletion : EventPayload → Bool
  | .runStateChanged _ after => after = .completed
  | _ => false

/-- The requests that two events of a run make are made in the one session of the run. -/
theorem Admitted.same_session (h : Admitted documents env log) {earlier : EventEnvelope}
    (happended : Appended documents env log event admission log')
    (hcreated : event.payload.createdRun = none) (hown : event.runId = some runId)
    (hearlier : earlier ∈ eventsOf log runId) : earlier.sessionId = event.sessionId := by
  obtain ⟨stored, hstored, hsession⟩ := h.stored_of_mem hearlier
  obtain rfl := storedRun_id hstored
  rw [happended.session hstored hown hcreated, hsession]

/-- Completed does not follow a cancellation request. -/
theorem Admitted.uncancelled_completion (h : Admitted documents env log) (runId : RunId) :
    (eventsOf log runId).Pairwise fun request change =>
      request.payload.isCancellationRequested = true → change.payload.isCompletion = false := by
  refine h.pairwise (List.prefix_refl _) ?_
  intro before after event admission hadmitted happended _ hown request hrequest hcancels
  cases hp : event.payload <;> try rfl
  case runStateChanged earlier later =>
    obtain ⟨owner, hchanged⟩ := happended.stateChanged hp
    obtain rfl := Option.some.inj (hchanged.owner.symm.trans hown)
    have hpos := hadmitted.cancellation_pos hrequest hcancels
    rw [hadmitted.same_session happended (by simp [hp, EventPayload.createdRun]) hown hrequest]
      at hpos
    rw [hchanged.uncancelled hpos]
    rfl

/-- A second cancellation request is refused. -/
theorem Admitted.one_cancellation (h : Admitted documents env log) (runId : RunId) :
    (eventsOf log runId).Pairwise fun first second =>
      first.payload.isCancellationRequested = true →
        second.payload.isCancellationRequested = false := by
  refine h.pairwise (List.prefix_refl _) ?_
  intro before after event admission hadmitted happended _ hown first hfirst hcancels
  cases hp : event.payload <;> try rfl
  case cancellationRequested request =>
    obtain ⟨owner, state, hcancelled⟩ := happended.cancelled hp
    obtain rfl := Option.some.inj (hcancelled.owner.symm.trans hown)
    have hpos := hadmitted.cancellation_pos hfirst hcancels
    rw [hadmitted.same_session happended (by simp [hp, EventPayload.createdRun]) hown hfirst,
      hcancelled.first] at hpos
    exact absurd hpos (by decide)

theorem isCancellationRequested_of_request {payload : EventPayload}
    {request : CancellationRequested} (h : payload.cancellationRequest = some request) :
    payload = .cancellationRequested request ∧ payload.isCancellationRequested = true := by
  cases payload <;> cases h
  exact ⟨rfl, rfl⟩

/-- The generations of the accepted requests: none, or the first. -/
theorem Admitted.cancellation_generations (h : Admitted documents env log) (runId : RunId) :
    (cancellationsOf log runId).map CancellationRequested.cancellationGeneration = [] ∨
      (cancellationsOf log runId).map CancellationRequested.cancellationGeneration = [1] := by
  have hfirst : ∀ request ∈ cancellationsOf log runId, request.cancellationGeneration = 1 := by
    intro request hrequest
    obtain ⟨event, hevent, hread⟩ := List.mem_filterMap.mp hrequest
    obtain ⟨hpayload, _⟩ := isCancellationRequested_of_request hread
    obtain ⟨before, after, admission, _, happended, _⟩ := h.split (List.mem_filter.mp hevent).1
    obtain ⟨_, _, hcancelled⟩ := happended.cancelled hpayload
    exact hcancelled.generation
  have hpairwise : (cancellationsOf log runId).Pairwise fun _ _ => False := by
    refine List.Pairwise.filterMap _ ?_ (h.one_cancellation runId)
    intro first second hone request hrequest other hother
    obtain ⟨_, hcancels⟩ := isCancellationRequested_of_request hrequest
    obtain ⟨_, hagain⟩ := isCancellationRequested_of_request hother
    rw [hone hcancels] at hagain
    cases hagain
  match hrequests : cancellationsOf log runId with
  | [] => exact .inl rfl
  | [request] =>
    have := hfirst request (by simp [hrequests])
    exact .inr (by simp [this])
  | first :: second :: _ =>
    rw [hrequests] at hpairwise
    exact (List.rel_of_pairwise_cons hpairwise (List.mem_cons_self ..)).elim

theorem isTerminalChange_of_outlives {payload : EventPayload}
    (h : outlivesRun run payload = true) : payload.isTerminalChange = false := by
  cases payload <;> first | rfl | simp [outlivesRun, EventPayload.isTelemetry,
    EventPayload.isLeaseReleased] at h

/-- A run has one terminal change of state at most. -/
theorem Admitted.one_terminal (h : Admitted documents env log)
    (hrun : storedRun log run.id = some run) :
    ((eventsOf log run.id).countP fun event => event.payload.isTerminalChange) ≤ 1 := by
  refine Lib.countP_le_one_of_pairwise ((h.absorbs hrun).imp ?_)
  intro first second houtlives hfirst
  exact isTerminalChange_of_outlives (houtlives hfirst)

/-- What the history of one run keeps to. -/
structure RunHistory (log : EventLog) (run : Run) : Prop where
  oneTerminal : ((eventsOf log run.id).countP fun event => event.payload.isTerminalChange) ≤ 1
  absorbs : (eventsOf log run.id).Pairwise fun change event =>
    change.payload.isTerminalChange = true → outlivesRun run event.payload = true
  uncancelled : (eventsOf log run.id).Pairwise fun request change =>
    request.payload.isCancellationRequested = true → change.payload.isCompletion = false
  cancellations :
    (cancellationsOf log run.id).map CancellationRequested.cancellationGeneration = [] ∨
      (cancellationsOf log run.id).map CancellationRequested.cancellationGeneration = [1]
  projected : projectedRunState log run.id = foldedRunState log run.id

/-- Whatever appends follow an admitted log, failed ones among them, the history of each run keeps
to its end. -/
theorem runHistory_of_attempts (documents : PlanningDocuments) (env : Environment) (log : EventLog)
    (requests : List AppendRequest) (run : Run) (hadmitted : Admitted documents env log)
    (hrun : storedRun (log.attempts documents env requests) run.id = some run) :
    RunHistory (log.attempts documents env requests) run := by
  have h := hadmitted.attempts requests
  exact {
    oneTerminal := h.one_terminal hrun
    absorbs := h.absorbs hrun
    uncancelled := h.uncancelled_completion run.id
    cancellations := h.cancellation_generations run.id
    projected := h.runStatesFold.projected run.id }

end History

section Sample

/-! A run that is cancelled while it holds the lease of a snapshot. -/

def heldRelease : RepositorySnapshotReleaseDocument where
  schemaVersion := 1
  leaseId := sampleId 20
  leaseEventId := sampleId 8
  detachReceipt := ⟨.detach, .unixBytes hdiutilExecutable,
    [.literal "detach", .path (.unixBytes [47, 109])], 0, sampleArtifact 3 "text/plain",
    sampleArtifact 3 "text/plain", sampleClock 9⟩
  unmountedVerified := true

def heldEnv : Environment := plainEnvironment {
  sampleSnapshotWires 7 with
  snapshotRelease := sampleCodec [(2, heldRelease)] }

def heldRows : List EventEnvelope :=
  sampleStart (sampleRun .execute .notApplicable none) ++ [
    sampleRow 5 1 (some 4) none (.cancellationRequested ⟨sampleId 1, 1⟩),
    sampleRow 6 1 (some 5) none (.runClaimed (sampleClaim 2 2 1))] ++
  sampleSnapshotRows 7 6 (sampleClaim 2 2 1) ++ [
    sampleRow 9 1 (some 8) none (.runStateChanged .running .cancelled),
    sampleRow 10 1 (some 8) (some (sampleArtifact 2 repositorySnapshotReleaseMediaType))
      (.repositorySnapshotLeaseReleased ⟨sampleId 1, sampleId 6, sampleId 2, 2, sampleId 1, 1,
        sampleId 8, sampleArtifact 2 repositorySnapshotReleaseMediaType, sampleDigest 2⟩)]

def heldLog : EventLog := sampleLogOf noPlanningDocuments heldEnv heldRows
theorem heldLog_events : heldLog.events = heldRows := by decide +kernel

theorem heldLog_stored : storedRun heldLog (sampleRun .execute .notApplicable none).id =
    some (sampleRun .execute .notApplicable none) := by
  unfold storedRun
  rw [heldLog_events]
  rfl

theorem runHistory_of_held : RunHistory heldLog (sampleRun .execute .notApplicable none) :=
  runHistory_of_attempts noPlanningDocuments heldEnv emptyLog
    (heldRows.map fun row => ⟨row, .publicAppend⟩) _ .empty heldLog_stored

/-- The release of the lease is admitted after the run was cancelled, and it is no telemetry. -/
theorem release_follows_end : ¬∀ (documents : PlanningDocuments) (env : Environment)
    (log : EventLog) (run : Run), Admitted documents env log → storedRun log run.id = some run →
    (eventsOf log run.id).Pairwise fun change event =>
      change.payload.isTerminalChange = true → event.payload.isTelemetry = true := by
  intro h
  have hadmitted : Admitted noPlanningDocuments heldEnv heldLog := .attempts .empty _
  have habsorbs := h noPlanningDocuments heldEnv heldLog _ hadmitted heldLog_stored
  unfold eventsOf at habsorbs
  rw [heldLog_events] at habsorbs
  exact absurd habsorbs (by decide)

end Sample

end BirdCode.Store
