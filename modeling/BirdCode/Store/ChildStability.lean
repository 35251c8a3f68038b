import BirdCode.Store.SnapshotFacts

/-! A child's history in an admitted log: it replays, and an append of an event of another child
leaves its replay as it was. -/
namespace BirdCode.Store

open Lib (Persists)

variable {documents : PlanningDocuments} {env : Environment} {log log' : EventLog} {run : Run}
  {event : EventEnvelope} {admission : EventAdmission} {runId : RunId}
  {workOrderId : ChildWorkOrderId}

/-- An event of one child work order of a run. -/
def EventEnvelope.ofChild (event : EventEnvelope) (runId : RunId)
    (workOrderId : ChildWorkOrderId) : Prop :=
  event.runId = some runId ∧ event.payload.childWorkOrderId = some workOrderId

section Histories

/-- The events `child_history` selects. -/
def childEvents (log : EventLog) (run : Run) (workOrderId : ChildWorkOrderId) :
    List EventEnvelope :=
  (runEvents log run.spec.sessionId run.id).filter fun event =>
    event.payload.childWorkOrderId = some workOrderId

theorem childHistory_eq_ok {events : List EventEnvelope} (hrun : storedRun log runId = some run) :
    childHistory log runId workOrderId = .ok events ↔
      (childEvents log run workOrderId).length ≤ maxChildReplayEvents ∧
        childEvents log run workOrderId = events := by
  have hid := storedRun_id hrun
  simp only [childHistory, childEvents, hrun, hid, expect, bind_eq_ok, ensure_eq_ok,
    Except.ok.injEq, exists_eq_left', pure, Except.pure]
  constructor
  · rintro ⟨_, hlength, heq⟩
    exact ⟨hlength, heq⟩
  · rintro ⟨hlength, heq⟩
    exact ⟨(), hlength, heq⟩

theorem mem_childEvents : event ∈ childEvents log run workOrderId ↔
    event ∈ log.events ∧ event.sessionId = run.spec.sessionId ∧
      event.ofChild run.id workOrderId := by
  rw [childEvents, List.mem_filter, mem_runEvents, decide_eq_true_eq, EventEnvelope.ofChild]
  constructor
  · rintro ⟨⟨hlog, hsession, hrun⟩, hchild⟩
    exact ⟨hlog, hsession, hrun, hchild⟩
  · rintro ⟨hlog, hsession, hrun, hchild⟩
    exact ⟨⟨hlog, hsession, hrun⟩, hchild⟩

theorem childEvents_append {later : List EventEnvelope}
    (h : log'.events = log.events ++ later) :
    childEvents log' run workOrderId = childEvents log run workOrderId ++
      (later.filter fun event => event.sessionId = run.spec.sessionId ∧
        event.runId = some run.id).filter fun event =>
          event.payload.childWorkOrderId = some workOrderId := by
  unfold childEvents
  rw [runEvents_append h, List.filter_append]

/-- Events that are not the child's leave its history as it was. -/
theorem childEvents_of_others {later : List EventEnvelope}
    (h : log'.events = log.events ++ later)
    (hothers : ∀ event ∈ later, ¬event.ofChild run.id workOrderId) :
    childEvents log' run workOrderId = childEvents log run workOrderId := by
  rw [childEvents_append h, List.filter_filter, List.filter_eq_nil_iff.mpr, List.append_nil]
  intro event hevent hselected
  simp only [Bool.and_eq_true, decide_eq_true_eq] at hselected
  exact hothers event hevent ⟨hselected.2.2, hselected.1⟩

theorem loadChildEvent_persists (h : ContinuedFrom log log' event.sessionId event.sequence)
    (replay : Option ChildReplay) :
    Persists (loadChildEvent env log replay event) (loadChildEvent env log' replay event) := by
  unfold loadChildEvent
  exact .bind_right fun _ _ => replayChildEvent_persists h replay

theorem foldlM_loadChildEvent_persists (hkept : log.events <+: log'.events)
    {history : List EventEnvelope} (hmem : ∀ event ∈ history, event ∈ log.events)
    (replay : Option ChildReplay) :
    Persists (history.foldlM (loadChildEvent env log) replay)
      (history.foldlM (loadChildEvent env log') replay) :=
  .foldlM fun event hevent replay => loadChildEvent_persists (.of_mem hkept (hmem event hevent)) replay

/-- What a load that succeeded has read. -/
theorem loadChildReplay_eq_ok {loaded : LoadedChildReplay}
    (hrun : storedRun log runId = some run) :
    loadChildReplay env log runId workOrderId = .ok loaded ↔
      (childEvents log run workOrderId).length ≤ maxChildReplayEvents ∧
      (childEvents log run workOrderId).foldlM (loadChildEvent env log) none = .ok loaded.replay ∧
      loaded.eventCount = (childEvents log run workOrderId).length ∧
      loaded.adoptionCount = (childEvents log run workOrderId).countP
        (fun event => event.payload.adoptionKind.isSome) ∧
      loaded.takeoverCount = (childEvents log run workOrderId).countP
        (fun event => event.payload.adoptionKind = some .takeover) := by
  simp only [loadChildReplay, bind_eq_ok, childHistory_eq_ok hrun]
  constructor
  · rintro ⟨events, ⟨hlength, rfl⟩, replay, hreplay, hloaded⟩
    cases hloaded
    exact ⟨hlength, hreplay, rfl, rfl, rfl⟩
  · obtain ⟨replay, eventCount, adoptionCount, takeoverCount⟩ := loaded
    rintro ⟨hlength, hreplay, rfl, rfl, rfl⟩
    exact ⟨_, ⟨hlength, rfl⟩, replay, hreplay, rfl⟩

/-- The replay of a child is the same over a log continued by other events. -/
theorem loadChildReplay_of_others (hkept : log.events <+: log'.events)
    (hrun : storedRun log runId = some run)
    (hothers : ∀ event ∈ log'.events, event ∉ log.events → ¬event.ofChild runId workOrderId) :
    Persists (loadChildReplay env log runId workOrderId)
      (loadChildReplay env log' runId workOrderId) := by
  intro loaded hloaded
  have hid := storedRun_id hrun
  obtain ⟨later, hlater⟩ := hkept
  have hnew : ∀ event ∈ later, ¬event.ofChild run.id workOrderId := by
    intro event hevent
    rw [hid]
    refine hothers event (hlater ▸ List.mem_append_right _ hevent) fun hold => ?_
    have hdistinct := log'.idsDistinct
    rw [← hlater, List.map_append] at hdistinct
    exact (List.nodup_append.mp hdistinct).2.2 event.id (List.mem_map_of_mem hold) event.id
      (List.mem_map_of_mem hevent) rfl
  rw [loadChildReplay_eq_ok (storedRun_append hlater.symm hrun),
    childEvents_of_others hlater.symm hnew]
  rw [loadChildReplay_eq_ok hrun] at hloaded
  obtain ⟨hlength, hreplay, hcounts⟩ := hloaded
  have hmem : ∀ event ∈ childEvents log run workOrderId, event ∈ log.events :=
    fun event hevent => (mem_childEvents.mp hevent).1
  exact ⟨hlength, foldlM_loadChildEvent_persists ⟨later, hlater⟩ hmem none _ hreplay, hcounts⟩

/-- Every event of a child's history leaves a replay behind. -/
theorem loadChildEvent_isSome {replay next : Option ChildReplay}
    (h : loadChildEvent env log replay event = .ok next) : next.isSome = true := by
  simp only [loadChildEvent, bind_eq_ok] at h
  obtain ⟨_, _, h⟩ := h
  unfold replayChildEvent at h
  split at h
  all_goals
    simp only [bind_eq_ok] at h
    obtain ⟨_, _, _, _, h⟩ := h
    cases h
    rfl

end Histories

section Admitted

/-- A child's own event is admitted by replaying it over the child's loaded history. -/
theorem Appended.child (h : Appended documents env log event admission log')
    (hchild : event.payload.childWorkOrderId = some workOrderId) :
    validateChildReconnaissanceEvent env log event = .ok () := by
  have hgeneric := h.generic (by cases hp : event.payload <;> simp_all [
      EventPayload.childWorkOrderId, EventPayload.createdSession])
    (by cases hp : event.payload <;> simp_all [
      EventPayload.childWorkOrderId, EventPayload.createdRun])
  unfold validateGenericEvent at hgeneric
  cases hp : event.payload
  all_goals first
    | (rw [hp] at hchild; cases hchild; done)
    | (simp only [hp, bind_eq_ok] at hgeneric
       first
         | (obtain ⟨_, _, _, _, _, _, hevent⟩ := hgeneric; exact hevent)
         | (obtain ⟨_, _, _, _, hevent⟩ := hgeneric; exact hevent))

/-- What the append of a child's event establishes about the child. -/
structure ChildAdmitted (env : Environment) (log : EventLog) (event : EventEnvelope)
    (workOrderId : ChildWorkOrderId) (run : Run) (loaded : LoadedChildReplay)
    (next : Option ChildReplay) : Prop where
  runId : event.runId = some run.id
  stored : storedRun log run.id = some run
  session : event.sessionId = run.spec.sessionId
  running : requireRunningRun log event run.id = .ok ()
  load : loadChildReplay env log run.id workOrderId = .ok loaded
  budget : loaded.eventCount < maxChildReplayEvents
  replayed : replayChildEvent env log loaded.replay event = .ok next

theorem Appended.childAdmitted (h : Appended documents env log event admission log')
    (hchild : event.payload.childWorkOrderId = some workOrderId) :
    ∃ run loaded next, ChildAdmitted env log event workOrderId run loaded next := by
  have hevent := h.child hchild
  simp only [validateChildReconnaissanceEvent, plannerRunId, durableRunForEvent, hchild,
    validateChildReplayAdmission, bind_eq_ok, expect_eq_ok, ensure_eq_ok,
    Option.filter_eq_some_iff, decide_eq_true_eq] at hevent
  obtain ⟨runId, hrunId, _, hrunning, _, hworkOrder, run, ⟨hrun, hsession⟩, _, _, loaded,
    hloaded, _, ⟨hbudget, _⟩, _, _, next, hnext, _⟩ := hevent
  obtain rfl := Option.some.inj hworkOrder
  obtain rfl := storedRun_id hrun
  exact ⟨run, loaded, next, hrunId, hrun, hsession.symm, hrunning, hloaded, hbudget, hnext⟩

/-- Every child work order of a run in an admitted log replays. -/
theorem Admitted.loadChildReplay (h : Admitted documents env log)
    (hrun : storedRun log runId = some run) (workOrderId : ChildWorkOrderId) :
    ∃ loaded, loadChildReplay env log runId workOrderId = .ok loaded := by
  induction h with
  | empty => cases hrun
  | @append log log' event admission hadm happly ih =>
    have happended := applyExactEventEnvelope_appended happly
    cases hbefore : storedRun log runId with
    | none =>
      have hid := storedRun_id hrun
      have hempty : childEvents log run workOrderId = [] := by
        rw [List.eq_nil_iff_forall_not_mem]
        intro stored hstored
        obtain ⟨hmem, _, hrunId, _⟩ := mem_childEvents.mp hstored
        obtain ⟨other, hother, _⟩ := hadm.run_stored hmem hrunId
        rw [hid, hbefore] at hother
        cases hother
      have hnone : ∀ added ∈ [event], ¬added.ofChild run.id workOrderId := by
        intro added hadded hchild
        rw [List.mem_singleton.mp hadded] at hchild
        have hcreated : event.payload.createdRun = none := by
          have := hchild.2
          cases hp : event.payload <;> simp_all [EventPayload.childWorkOrderId,
            EventPayload.createdRun]
        obtain ⟨other, hother, _⟩ := happended.bound hcreated run.id hchild.1
        rw [hid, hbefore] at hother
        cases hother
      refine ⟨⟨none, 0, 0, 0⟩, (loadChildReplay_eq_ok hrun).mpr ?_⟩
      rw [childEvents_of_others happended.events hnone, hempty]
      exact ⟨Nat.zero_le _, rfl, rfl, rfl, rfl⟩
    | some stored =>
      obtain rfl : stored = run :=
        Option.some.inj ((storedRun_append happended.events hbefore).symm.trans hrun)
      obtain ⟨loaded, hloaded⟩ := ih hbefore
      obtain rfl := storedRun_id hbefore
      by_cases hchild : event.ofChild stored.id workOrderId
      · obtain ⟨hrunId, hpayload⟩ := hchild
        obtain ⟨run', loaded', next, hadmitted⟩ := happended.childAdmitted hpayload
        have hsame : run'.id = stored.id := Option.some.inj (hadmitted.runId.symm.trans hrunId)
        obtain rfl : run' = stored :=
          Option.some.inj (hadmitted.stored.symm.trans (hsame ▸ hbefore))
        obtain ⟨hlength, hreplay, hcount, _⟩ := (loadChildReplay_eq_ok hbefore).mp hadmitted.load
        have hbudget := hadmitted.budget
        have hevents : childEvents log' run' workOrderId =
            childEvents log run' workOrderId ++ [event] := by
          rw [childEvents_append happended.events]
          simp [hadmitted.session, hadmitted.runId, hpayload]
        refine ⟨⟨next, _, _, _⟩, (loadChildReplay_eq_ok hrun).mpr ⟨?_, ?_, rfl, rfl, rfl⟩⟩
        · rw [hevents, List.length_append, List.length_singleton]
          omega
        · have hmem : ∀ stored ∈ childEvents log run' workOrderId, stored ∈ log.events :=
            fun stored hstored => (mem_childEvents.mp hstored).1
          have hnext : loadChildEvent env log' loaded'.replay event = .ok next := by
            simp only [loadChildEvent, bind_eq_ok]
            exact ⟨(), happended.refs,
              replayChildEvent_persists happended.continued _ _ hadmitted.replayed⟩
          rw [hevents, List.foldlM_append,
            foldlM_loadChildEvent_persists happended.kept hmem none _ hreplay]
          simp only [List.foldlM_cons, List.foldlM_nil]
          show (loadChildEvent env log' loaded'.replay event >>= pure) = _
          rw [hnext]
          rfl
      · refine ⟨loaded, loadChildReplay_of_others happended.kept hbefore ?_ _ hloaded⟩
        intro added hadded hnew
        rw [happended.events, List.mem_append, List.mem_singleton] at hadded
        rcases hadded with hold | rfl
        · exact absurd hold hnew
        · exact hchild

/-- An issued work order has a replay. -/
theorem loadChildReplay_isSome {loaded : LoadedChildReplay}
    (hrun : storedRun log runId = some run)
    (hloaded : loadChildReplay env log runId workOrderId = .ok loaded)
    (hmem : event ∈ childEvents log run workOrderId) : loaded.replay.isSome = true := by
  obtain ⟨_, hreplay, _⟩ := (loadChildReplay_eq_ok hrun).mp hloaded
  obtain ⟨before, last, hsplit⟩ : ∃ before last,
      childEvents log run workOrderId = before ++ [last] :=
    ⟨_, _, (List.dropLast_append_getLast (List.ne_nil_of_mem hmem)).symm⟩
  rw [hsplit, List.foldlM_append, bind_eq_ok] at hreplay
  obtain ⟨replay, _, hlast⟩ := hreplay
  rw [List.foldlM_cons, bind_eq_ok] at hlast
  obtain ⟨next, hnext, hpure⟩ := hlast
  cases hpure
  exact loadChildEvent_isSome hnext

end Admitted

end BirdCode.Store
