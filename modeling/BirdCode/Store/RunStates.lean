import BirdCode.Lib.MaterialisedView
import BirdCode.Store.RunAuthority

/-! The states of runs: the table that the triggers keep is the fold of the log, and what follows
a terminal change of state or a cancellation. -/
namespace BirdCode.Store

open Lib (Materialises Stepwise foldKey rowAt)

variable {documents : PlanningDocuments} {env : Environment} {log log' : EventLog}
  {event : EventEnvelope} {admission : EventAdmission} {runId : RunId}

section Fold

/-- What an event makes of the state of its run. -/
def foldRunState (state : Option RunState) (event : EventEnvelope) : Option RunState :=
  match event.payload with
  | .runCreated run => some run.state
  | .runStateChanged _ after => some after
  | _ => state

/-- The events that carry the identity of a run. -/
def eventsOf (log : EventLog) (runId : RunId) : List EventEnvelope :=
  log.events.filter fun event => event.runId = some runId

/-- The state that the events of a run fold to, in the order of the log. -/
def foldedRunState (log : EventLog) (runId : RunId) : Option RunState :=
  (eventsOf log runId).foldl foldRunState none

/-- The state in the row of a run. -/
def projectedRunState (log : EventLog) (runId : RunId) : Option RunState :=
  (rowAt RunStateRow.runId log.runStates runId).map RunStateRow.state

/-- The table of run states agrees with the log. -/
def RunStatesFold (log : EventLog) : Prop :=
  Materialises EventEnvelope.runId foldRunState RunStateRow.runId RunStateRow.state log.events
    log.runStates

theorem RunStatesFold.projected (h : RunStatesFold log) (runId : RunId) :
    projectedRunState log runId = foldedRunState log runId := h.agrees runId

end Fold

section Step

theorem projectRunCreation_step {run : Run} (h : RunStatesFold log)
    (hevents : log'.events = log.events ++ [event]) (hpayload : event.payload = .runCreated run)
    (hrows : projectRunCreation log.runStates event run = .ok log'.runStates) :
    RunStatesFold log' := by
  simp only [projectRunCreation, bind_eq_ok, ensure_eq_ok, expect_eq_ok] at hrows
  obtain ⟨_, _, created, hrun, _, hnew, heq⟩ := hrows
  have heq := Except.ok.inj heq
  unfold RunStatesFold
  rw [hevents, ← heq]
  refine h.insert hrun ?_ ?_
  · intro other hother
    have := List.all_eq_true.mp hnew other hother
    exact of_decide_eq_true this
  · simp [foldRunState, hpayload]

theorem RunStateRow.projects_iff {row : RunStateRow} {before after : RunState} :
    row.projects event before after = true ↔ some row.runId = event.runId ∧
      row.sessionId = event.sessionId ∧ row.state = before ∧
      row.stateSequence < event.sequence ∧ validRunTransition before after = true := by
  simp [RunStateRow.projects, and_assoc]

theorem projectRunStateChange_step {before after : RunState} (h : RunStatesFold log)
    (hevents : log'.events = log.events ++ [event])
    (hpayload : event.payload = .runStateChanged before after)
    (hrows : projectRunStateChange log.runStates event before after = .ok log'.runStates) :
    RunStatesFold log' := by
  simp only [projectRunStateChange, bind_eq_ok, ensure_eq_ok] at hrows
  obtain ⟨_, hcount, heq⟩ := hrows
  have heq := Except.ok.inj heq
  obtain ⟨row, hrow, hprojects⟩ : ∃ row ∈ log.runStates, row.projects event before after = true := by
    rw [← List.countP_pos_iff]
    omega
  have hrun := (RunStateRow.projects_iff.mp hprojects).1
  unfold RunStatesFold
  rw [hevents, ← heq]
  refine h.update (fun other => ?_) hrun.symm hrow ?_ ?_
  · split <;> rfl
  · intro other _ hother
    rw [if_neg]
    intro hprojected
    exact hother (Option.some.inj ((RunStateRow.projects_iff.mp hprojected).1.trans hrun.symm))
  · simp [foldRunState, hpayload, hprojects]

theorem Appended.runStatesFold (h : Appended documents env log event admission log')
    (hfold : RunStatesFold log) : RunStatesFold log' := by
  have hprojected := h.projected
  unfold projectRunStates at hprojected
  split at hprojected
  case h_1 run hpayload => exact projectRunCreation_step hfold h.events hpayload hprojected
  case h_2 before after hpayload =>
    exact projectRunStateChange_step hfold h.events hpayload hprojected
  case h_3 hcreated hchanged =>
    unfold RunStatesFold
    rw [h.events, ← Except.ok.inj hprojected]
    refine hfold.skip fun state => ?_
    unfold foldRunState
    split
    case h_1 run hpayload => exact absurd hpayload (hcreated run)
    case h_2 before after hpayload => exact absurd hpayload (hchanged before after)
    case h_3 => rfl

theorem Admitted.runStatesFold (h : Admitted documents env log) : RunStatesFold log := by
  induction h with
  | empty => exact ⟨List.nodup_nil, fun _ => rfl⟩
  | append _ happly ih => exact (applyExactEventEnvelope_appended happly).runStatesFold ih

end Step

section Current

variable {sessionId : SessionId} {state : RunState}

/-- What `current_run_state` returns is in the row of the run. -/
theorem RunStatesFold.current (h : RunStatesFold log)
    (hstate : currentRunState log sessionId runId = .ok state) :
    foldedRunState log runId = some state := by
  rw [← h.projected]
  unfold currentRunState at hstate
  rw [expect_eq_ok, Option.map_eq_some_iff] at hstate
  obtain ⟨row, hrow, rfl⟩ := hstate
  have hfound := List.find?_some hrow
  obtain ⟨rfl, _⟩ := of_decide_eq_true hfound
  unfold projectedRunState
  rw [Lib.rowAt_of_mem h.distinct (List.mem_of_find?_eq_some hrow)]
  rfl

theorem Running.folded (h : Running log event runId) (hfold : RunStatesFold log) :
    foldedRunState log runId = some .running := by
  obtain ⟨_, hrunning⟩ := h
  simp only [requireRunningRun, bind_eq_ok, ensure_eq_ok] at hrunning
  obtain ⟨state, hstate, rfl⟩ := hrunning
  exact hfold.current hstate

theorem requireNonterminalRun_folded (hfold : RunStatesFold log)
    (h : requireNonterminalRun log event runId = .ok state) :
    foldedRunState log runId = some state ∧ state.isTerminal = false := by
  simp only [requireNonterminalRun, bind_eq_ok, ensure_eq_ok] at h
  obtain ⟨current, hstate, _, hterminal, heq⟩ := h
  cases heq
  exact ⟨hfold.current hstate, hterminal⟩

end Current

section Facts

/-- What the append of a change of state establishes. -/
structure StateChangeAdmitted (documents : PlanningDocuments) (env : Environment) (log : EventLog)
    (event : EventEnvelope) (before after : RunState) (runId : RunId) : Prop where
  owner : event.runId = some runId
  current : currentRunState log event.sessionId runId = .ok before
  transition : validRunTransition before after = true
  parent : requireLatestRunParent log event runId = .ok ()
  uncancelled : 0 < latestCancellationGeneration log event.sessionId runId → after = .cancelled
  fence : after.isTerminal = true → ∃ run, durableRunForEvent log event.sessionId runId = .ok run ∧
    validateParallelReconSnapshotTerminalFence env log run after = .ok ()
  planning : validateRootPlanningTermination log event runId after = .ok ()
  cause : after = .completed ∨ after = .failed →
    validateTerminalCause documents env log event runId after = .ok ()
  turn : after = .cancelled → validateCancelledTurn documents env log event runId = .ok ()
  authority : requireTransitionAuthority log event runId before after = .ok ()

theorem Appended.stateChanged (h : Appended documents env log event admission log')
    {before after : RunState} (hpayload : event.payload = .runStateChanged before after) :
    ∃ runId, StateChangeAdmitted documents env log event before after runId := by
  have hgeneric := h.generic (by simp [hpayload, EventPayload.createdSession])
    (by simp [hpayload, EventPayload.createdRun])
  simp only [validateGenericEvent, hpayload, validateRunStateChange, bind_eq_ok, ensure_eq_ok,
    plannerRunId_eq_ok, whenever_eq_ok] at hgeneric
  obtain ⟨_, _, _, _, runId, hrun, state, hcurrent, _, ⟨hbefore, htransition⟩, _, hparent, _,
    huncancelled, _, hfence, _, hplanning, _, hcause, _, hturn, hauthority⟩ := hgeneric
  subst hbefore
  exact ⟨runId, hrun, hcurrent, htransition, hparent, huncancelled, hfence, hplanning, hcause,
    hturn, hauthority⟩

/-- What the append of a claim establishes. -/
structure ClaimAdmitted (env : Environment) (log : EventLog) (event : EventEnvelope)
    (claim : RunClaimed) (admission : EventAdmission) (runId : RunId) (state : RunState) :
    Prop where
  owner : event.runId = some runId
  current : requireNonterminalRun log event runId = .ok state
  parent : requireLatestRunParent log event runId = .ok ()
  live : event.occurredAt < claim.leaseExpiresAt
  fresh : identityCount log (EventPayload.carriesClaim claim.claimId) = 0
  cancellation : claim.cancellationGeneration =
    latestCancellationGeneration log event.sessionId runId
  startable : 0 < latestCancellationGeneration log event.sessionId runId →
    state ≠ .queued ∧ state ≠ .waiting
  succession : validateClaimSuccession env log event runId claim admission
    (latestClaimForRun log event.sessionId runId) = .ok ()
  oneActor : ∀ stored ∈ log.events, stored.payload.claimsRuntime claim.runtimeInstanceId = true →
    stored.actorId = event.actorId

theorem Appended.claimed (h : Appended documents env log event admission log')
    {claim : RunClaimed} (hpayload : event.payload = .runClaimed claim) :
    ∃ runId state, ClaimAdmitted env log event claim admission runId state := by
  have hgeneric := h.generic (by simp [hpayload, EventPayload.createdSession])
    (by simp [hpayload, EventPayload.createdRun])
  simp only [validateGenericEvent, hpayload, validateRunClaim, bind_eq_ok, ensure_eq_ok,
    plannerRunId_eq_ok] at hgeneric
  obtain ⟨_, _, _, _, runId, hrun, state, hcurrent, _, hparent, _, ⟨_, hlive, hfresh⟩, _,
    hcancellation, _, hstartable, _, hsuccession, hactors⟩ := hgeneric
  refine ⟨runId, state, hrun, hcurrent, hparent, hlive, hfresh, hcancellation, ?_, hsuccession, ?_⟩
  · intro hcancelled
    by_contra hstate
    apply hstartable
    refine ⟨hcancelled, ?_⟩
    by_contra hneither
    exact hstate (not_or.mp hneither)
  · intro stored hstored hclaims
    have := List.countP_eq_zero.mp hactors stored hstored
    simpa [hclaims] using this

/-- What the append of a cancellation request establishes. -/
structure CancellationAdmitted (log : EventLog) (event : EventEnvelope)
    (request : CancellationRequested) (runId : RunId) (state : RunState) : Prop where
  owner : event.runId = some runId
  current : requireNonterminalRun log event runId = .ok state
  parent : requireLatestRunParent log event runId = .ok ()
  generation : request.cancellationGeneration = 1
  first : latestCancellationGeneration log event.sessionId runId = 0

theorem Appended.cancelled (h : Appended documents env log event admission log')
    {request : CancellationRequested} (hpayload : event.payload = .cancellationRequested request) :
    ∃ runId state, CancellationAdmitted log event request runId state := by
  have hgeneric := h.generic (by simp [hpayload, EventPayload.createdSession])
    (by simp [hpayload, EventPayload.createdRun])
  simp only [validateGenericEvent, hpayload, validateCancellation, bind_eq_ok, ensure_eq_ok,
    plannerRunId_eq_ok] at hgeneric
  obtain ⟨_, _, _, _, runId, hrun, state, hcurrent, _, hparent, hgeneration, hfirst, _⟩ := hgeneric
  exact ⟨runId, state, hrun, hcurrent, hparent, hgeneration, hfirst⟩

end Facts

section Events

theorem eventsOf_append (hevents : log'.events = log.events ++ [event]) :
    eventsOf log' runId = eventsOf log runId ++ if event.runId = some runId then [event] else [] := by
  unfold eventsOf
  rw [hevents, List.filter_append]
  by_cases hrun : event.runId = some runId <;> simp [hrun]

theorem eventsOf_append_own (hevents : log'.events = log.events ++ [event])
    (hrun : event.runId = some runId) : eventsOf log' runId = eventsOf log runId ++ [event] := by
  rw [eventsOf_append hevents, if_pos hrun]

theorem eventsOf_append_other (hevents : log'.events = log.events ++ [event])
    (hrun : event.runId ≠ some runId) : eventsOf log' runId = eventsOf log runId := by
  rw [eventsOf_append hevents, if_neg hrun, List.append_nil]

theorem foldedRunState_append_own (hevents : log'.events = log.events ++ [event])
    (hrun : event.runId = some runId) :
    foldedRunState log' runId = foldRunState (foldedRunState log runId) event := by
  unfold foldedRunState
  rw [eventsOf_append_own hevents hrun, List.foldl_append]
  rfl

theorem foldedRunState_append_other (hevents : log'.events = log.events ++ [event])
    (hrun : event.runId ≠ some runId) :
    foldedRunState log' runId = foldedRunState log runId := by
  unfold foldedRunState
  rw [eventsOf_append_other hevents hrun]

/-- In an admitted log the events of a run are in its session. -/
theorem Admitted.eventsOf_eq (h : Admitted documents env log) {run : Run}
    (hrun : storedRun log runId = some run) :
    eventsOf log runId = runEvents log run.spec.sessionId runId := by
  refine List.filter_congr fun event hevent => ?_
  by_cases hown : event.runId = some runId
  · obtain ⟨other, hother, hsession⟩ := h.run_stored hevent hown
    obtain rfl := Option.some.inj (hother.symm.trans hrun)
    simp [hown, hsession]
  · simp [hown]

/-- A run that has an event is stored. -/
theorem Admitted.stored_of_mem (h : Admitted documents env log) (hmem : event ∈ eventsOf log runId) :
    ∃ run, storedRun log runId = some run ∧ run.spec.sessionId = event.sessionId := by
  obtain ⟨hmem, hown⟩ := List.mem_filter.mp hmem
  exact h.run_stored hmem (of_decide_eq_true hown)

/-- How an event of a run was appended: to an admitted log of the run's events before it. -/
structure OwnAppendedAfter (documents : PlanningDocuments) (env : Environment) (whole : EventLog)
    (runId : RunId) (before : List EventEnvelope) (event : EventEnvelope) : Prop where
  append : ∃ log log' admission, eventsOf log runId = before ∧ Admitted documents env log ∧
    Appended documents env log event admission log' ∧ log'.events <+: whole.events ∧
    event.runId = some runId

theorem Admitted.own_stepwise {whole : EventLog} (h : Admitted documents env log)
    (hwhole : log.events <+: whole.events) (runId : RunId) :
    Stepwise (OwnAppendedAfter documents env whole runId) (eventsOf log runId) := by
  induction h with
  | empty =>
    intro before event after heq
    simp [eventsOf] at heq
  | @append log log' event admission hadmitted happly ih =>
    have happended := applyExactEventEnvelope_appended happly
    have ih := ih (happended.kept.trans hwhole)
    by_cases hown : event.runId = some runId
    · rw [eventsOf_append_own happended.events hown]
      exact ih.append ⟨log, log', admission, rfl, hadmitted, happended, hwhole, hown⟩
    · rw [eventsOf_append_other happended.events hown]
      exact ih

/-- What every append on the way to a log finds of the earlier events of its run holds of any
two events of the run. -/
theorem Admitted.pairwise {R : EventEnvelope → EventEnvelope → Prop} {whole : EventLog}
    (h : Admitted documents env log) (hwhole : log.events <+: whole.events)
    (step : ∀ {log log' : EventLog} {event : EventEnvelope} {admission : EventAdmission},
      Admitted documents env log → Appended documents env log event admission log' →
      log'.events <+: whole.events → event.runId = some runId →
      ∀ earlier ∈ eventsOf log runId, R earlier event) : (eventsOf log runId).Pairwise R := by
  refine (h.own_stepwise hwhole runId).pairwise ?_
  intro before event hafter earlier hearlier
  obtain ⟨log, log', admission, rfl, hadmitted, happended, hkept, hown⟩ := hafter.append
  exact step hadmitted happended hkept hown earlier hearlier

end Events

end BirdCode.Store
