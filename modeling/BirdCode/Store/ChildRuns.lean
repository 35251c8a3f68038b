import BirdCode.Store.ChildInvariant
import BirdCode.Store.Fixtures
import BirdCode.Store.LogExtension

/-! The runs of one child: every history that is accepted event by event is a lawful life, and the
one gap in the documents through which it is not. -/
namespace BirdCode.Store

variable {env : Environment} {log : EventLog} {replay next : ChildReplay} {event : EventEnvelope}
  {attempt attempt' : ReplayedChildAttempt} {step : AttemptStep} {steps : List AttemptStep}

section Identifiers

variable {sessionId : SessionId} {runId : RunId} {attempts : List ReplayedChildAttempt}
  {traces : List AttemptTrace}

theorem forall₂_mem_right {A B : Type} {R : A → B → Prop} {as : List A} {bs : List B}
    (h : List.Forall₂ R as bs) {b : B} (hb : b ∈ bs) : ∃ a ∈ as, R a b := by
  induction h with
  | nil => cases hb
  | cons hab _ ih =>
    rcases List.mem_cons.mp hb with rfl | hb
    · exact ⟨_, List.mem_cons_self .., hab⟩
    · obtain ⟨a, ha, hR⟩ := ih hb
      exact ⟨a, List.mem_cons_of_mem _ ha, hR⟩

/-- A model call that no attempt has seen was prepared in none. -/
theorem unseen_modelCall
    (h : List.Forall₂ (AttemptMatches env log sessionId runId) replay.attempts traces)
    {call : ChildModelCallId} (hfresh : replay.childModelCallSeen call = false) :
    call ∉ (modelCallsOf traces).map Prod.fst := by
  intro hmem
  obtain ⟨⟨found, reservation⟩, hpair, rfl⟩ := List.mem_map.mp hmem
  obtain ⟨trace, htrace, hpair⟩ := List.mem_flatMap.mp hpair
  obtain ⟨attempt, hattempt, hmatch⟩ := forall₂_mem_right h htrace
  have hseen := List.any_eq_false.mp hfresh attempt hattempt
  simp only [Bool.or_eq_true, not_or, Option.any_eq_true, decide_eq_true_eq] at hseen
  rcases hmatch.identities.models found reservation hpair with ⟨pending, hpending, hcall, -⟩ | hdone
  · exact hseen.1 ⟨pending, hpending, hcall⟩
  · apply hseen.2
    rw [Std.ExtTreeMap.contains_eq_isSome_getElem?, hdone]
    rfl

/-- The same of token reservations. -/
theorem unseen_reservation
    (h : List.Forall₂ (AttemptMatches env log sessionId runId) replay.attempts traces)
    {reservation : TokenReservationId}
    (hfresh : replay.childTokenReservationSeen reservation = false) :
    reservation ∉ (modelCallsOf traces).map Prod.snd := by
  intro hmem
  obtain ⟨⟨call, found⟩, hpair, rfl⟩ := List.mem_map.mp hmem
  obtain ⟨trace, htrace, hpair⟩ := List.mem_flatMap.mp hpair
  obtain ⟨attempt, hattempt, hmatch⟩ := forall₂_mem_right h htrace
  have hseen := List.any_eq_false.mp hfresh attempt hattempt
  simp only [Bool.or_eq_true, not_or, Option.any_eq_true, List.any_eq_true, decide_eq_true_eq]
    at hseen
  rcases hmatch.identities.models call found hpair with ⟨pending, hpending, -, hid⟩ | hdone
  · exact hseen.1 ⟨pending, hpending, hid⟩
  · exact hseen.2 ⟨found, mem_mapValues.mpr ⟨call, hdone⟩, rfl⟩

/-- The same of tool calls. -/
theorem unseen_toolCall
    (h : List.Forall₂ (AttemptMatches env log sessionId runId) replay.attempts traces)
    {call : ChildToolCallId} (hfresh : replay.childToolCallSeen call = false) :
    call ∉ toolCallsOf traces := by
  intro hmem
  obtain ⟨trace, htrace, hmem⟩ := List.mem_flatMap.mp hmem
  obtain ⟨attempt, hattempt, hmatch⟩ := forall₂_mem_right h htrace
  have hseen := List.any_eq_false.mp hfresh attempt hattempt
  simp only [Bool.or_eq_true, not_or, Option.any_eq_true, decide_eq_true_eq] at hseen
  rcases hmatch.identities.tools call hmem with ⟨pending, hpending, hcall⟩ | hdone
  · exact hseen.1.1 ⟨pending, hpending, hcall⟩
  · exact hseen.1.2 (Std.ExtTreeSet.contains_iff_mem.mpr hdone)

end Identifiers

section Runs

variable {sessionId : SessionId} {runId : RunId} {trace : AttemptTrace}
  {traces : List AttemptTrace} {spec : ChildWorkOrderSpec}

/-- The replayed attempts hold what the traces say, and the traces are a lawful life. -/
structure ChildMatches (env : Environment) (log : EventLog) (sessionId : SessionId)
    (runId : RunId) (replay : ChildReplay) (traces : List AttemptTrace) : Prop where
  attempts : List.Forall₂ (AttemptMatches env log sessionId runId) replay.attempts traces
  lifecycle : ChildLifecycle env replay.issued.spec traces

theorem modelCallsOf_push (trace : AttemptTrace) (traces : List AttemptTrace)
    (step : AttemptStep) :
    modelCallsOf (trace.push step :: traces) =
      step.preparedModelCall.toList ++ modelCallsOf (trace :: traces) := by
  cases step <;>
    simp [modelCallsOf, AttemptTrace.push, AttemptTrace.steps, List.filterMap_cons]

theorem toolCallsOf_push (trace : AttemptTrace) (traces : List AttemptTrace)
    (step : AttemptStep) :
    toolCallsOf (trace.push step :: traces) =
      step.preparedToolCall.toList ++ toolCallsOf (trace :: traces) := by
  cases step <;>
    simp [toolCallsOf, AttemptTrace.push, AttemptTrace.steps, List.filterMap_cons]

/-- The chain of retries looks at the latest attempt's start only. -/
theorem RetryChain.push (h : RetryChain (trace :: traces)) (step : AttemptStep) :
    RetryChain (trace.push step :: traces) := by
  cases traces with
  | nil => exact h
  | cons previous earlier => exact h

theorem AttemptLifecycle.push (h : AttemptLifecycle env spec trace)
    (hlawful : StepLawful env spec step trace.steps) :
    AttemptLifecycle env spec (trace.push step) where
  bound := by
    intro event hevent
    rcases List.mem_cons.mp hevent with rfl | hevent
    · rfl
    · exact h.bound event hevent
  lawful := ⟨hlawful, h.lawful⟩

/-- The calls a step prepares were prepared in no attempt. -/
structure FreshStep (step : AttemptStep) (traces : List AttemptTrace) : Prop where
  model : ∀ call reservation, step.preparedModelCall = some (call, reservation) →
    call ∉ (modelCallsOf traces).map Prod.fst ∧ reservation ∉ (modelCallsOf traces).map Prod.snd
  tool : ∀ call, step.preparedToolCall = some call → call ∉ toolCallsOf traces

theorem AttemptChange.fresh
    (h : List.Forall₂ (AttemptMatches env log sessionId runId) replay.attempts traces)
    (hchange : AttemptChange env replay event attempt step attempt') : FreshStep step traces := by
  cases hchange with
  | modelPrepared prepared supplied idle handoff fresh freshReservation ordinal cap stored =>
    refine ⟨?_, by simp⟩
    intro call reservation hcall
    cases hcall
    exact ⟨unseen_modelCall h fresh, unseen_reservation h freshReservation⟩
  | toolPrepared prepared pending source reset idle handoff fresh ordinal cap successful proposed
      isPending stored =>
    refine ⟨by simp, ?_⟩
    intro call hcall
    cases hcall
    exact unseen_toolCall h fresh
  | _ => exact ⟨by simp, by simp⟩

theorem ChildLifecycle.push (h : ChildLifecycle env spec (trace :: traces))
    (hlawful : StepLawful env spec step trace.steps) (hfresh : FreshStep step (trace :: traces)) :
    ChildLifecycle env spec (trace.push step :: traces) where
  chain := h.chain.push step
  bounded := h.bounded
  attemptIds := h.attemptIds
  attempts := by
    intro found hfound
    rcases List.mem_cons.mp hfound with rfl | hfound
    · exact (h.attempts trace (List.mem_cons_self ..)).push hlawful
    · exact h.attempts found (List.mem_cons_of_mem _ hfound)
  modelCallIds := by
    rw [modelCallsOf_push]
    cases hcall : step.preparedModelCall with
    | none => exact h.modelCallIds
    | some prepared => exact List.nodup_cons.mpr ⟨(hfresh.model _ _ hcall).1, h.modelCallIds⟩
  reservationIds := by
    rw [modelCallsOf_push]
    cases hcall : step.preparedModelCall with
    | none => exact h.reservationIds
    | some prepared => exact List.nodup_cons.mpr ⟨(hfresh.model _ _ hcall).2, h.reservationIds⟩
  toolCallIds := by
    rw [toolCallsOf_push]
    cases hcall : step.preparedToolCall with
    | none => exact h.toolCallIds
    | some call => exact List.nodup_cons.mpr ⟨hfresh.tool call hcall, h.toolCallIds⟩

/-- A retry starts after an attempt that failed with leave to try again. -/
theorem ChildMatches.started (h : ChildMatches env log sessionId runId replay traces)
    {started : ChildExecutionStarted}
    (hroom : replay.attempts.length < replay.issued.spec.maxAttempts.toNat)
    (hfresh : ∀ attempt ∈ replay.attempts,
      attempt.projection.attemptId ≠ started.binding.attemptId)
    (hparent : retryParent replay started = .ok ()) :
    ChildMatches env log sessionId runId
      { replay with attempts := startedAttempt event.id started :: replay.attempts }
      (⟨started, []⟩ :: traces) where
  attempts := .cons (.started event.id started) h.attempts
  lifecycle := {
    chain := by
      unfold retryParent at hparent
      cases hattempts : replay.attempts with
      | nil =>
        have htraces := h.attempts
        rw [hattempts, List.forall₂_nil_left_iff] at htraces
        subst htraces
        simpa [RetryChain, ChildReplay.last, hattempts] using hparent
      | cons previous earlier =>
        have htraces := h.attempts
        rw [hattempts, List.forall₂_cons_left_iff] at htraces
        obtain ⟨trace, before, hmatch, -, rfl⟩ := htraces
        simp only [ChildReplay.last, hattempts, List.head?_cons, ensure_eq_ok,
          Option.any_eq_true] at hparent
        obtain ⟨hid, ⟨outcome, houtcome, hretry⟩, -⟩ := hparent
        obtain ⟨finished, hhead, rfl⟩ := hmatch.outcome.finished outcome houtcome
        exact ⟨hid.trans (congrArg some hmatch.attemptId), ⟨finished, hhead, hretry⟩,
          h.lifecycle.chain⟩
    bounded := by
      have hlength := h.attempts.length_eq
      simp only [List.length_cons]
      omega
    attemptIds := by
      refine List.nodup_cons.mpr ⟨?_, h.lifecycle.attemptIds⟩
      intro hmem
      obtain ⟨trace, htrace, heq⟩ := List.mem_map.mp hmem
      obtain ⟨attempt, hattempt, hmatch⟩ := forall₂_mem_right h.attempts htrace
      exact hfresh attempt hattempt (hmatch.attemptId.trans heq)
    attempts := by
      intro trace htrace
      rcases List.mem_cons.mp htrace with rfl | htrace
      · exact ⟨by simp, trivial⟩
      · exact h.lifecycle.attempts trace htrace
    modelCallIds := h.lifecycle.modelCallIds
    reservationIds := h.lifecycle.reservationIds
    toolCallIds := h.lifecycle.toolCallIds }

/-- Where a broker-v2 Unknown names a Prepared event of a tool call, it names that call. -/
def NamesPreparedCall (log : EventLog) (sessionId : SessionId) (runId : RunId)
    (event : EventEnvelope) : Prop :=
  ∀ unknown prepared attemptId call, event.payload = .childToolOutcomeUnknownV2 unknown →
    storedEventForRun log sessionId runId unknown.preparedEventId = .ok prepared →
    prepared.payload.preparedTool = some (attemptId, call) → unknown.toolCallId = call

/-- The call a terminal closes is the one in flight: a broker-v2 Unknown names it by hypothesis,
and the documents of every other terminal compare it. -/
theorem AttemptChange.named (h : StoredMatch log sessionId runId attempt)
    (hnames : NamesPreparedCall log sessionId runId event)
    (hchange : AttemptChange env replay event attempt step attempt') (call : ChildToolCallId)
    (pending : PendingChildTool) (hstep : step = .toolClosed call)
    (hpending : attempt.pendingTool = some pending) : call = pending.toolCallId := by
  cases hchange with
  | toolClosed _ closed context completed clock incomparable contiguous reset brokerClock
      results failure isPending outcome count named =>
    cases hstep
    cases isPending.symm.trans hpending
    rcases named with hcall | ⟨unknown, hpayload, rfl, hprepared⟩
    · exact hcall
    · obtain ⟨prepared, hstored, htool⟩ := h.tool pending hpending
      rw [← hprepared] at hstored
      exact hnames unknown prepared _ _ hpayload hstored htool
  | _ => cases hstep

/-- One event of an issued child. -/
theorem ChildMatches.change (h : ChildMatches env log sessionId runId replay traces)
    (hstored : storedEventForRun log sessionId runId event.id = .ok event)
    (hnames : NamesPreparedCall log sessionId runId event)
    (hchange : ChildChange env replay event next) :
    ChildMatches env log sessionId runId next (readChildEvent traces event) := by
  cases hchange with
  | adopted adopted claim payload unstarted =>
    simp only [readChildEvent, payload, EventPayload.attemptStep]
    exact { h with }
  | adoptedAttempt adopted claim attempt incomparable contiguous requiresUnknown payload last =>
    simp only [readChildEvent, payload, EventPayload.attemptStep]
    obtain ⟨earlier, hattempts⟩ := List.head?_eq_some_iff.mp last
    have hmatch := h.attempts
    rw [hattempts, List.forall₂_cons_left_iff] at hmatch
    obtain ⟨trace, before, hhead, htail, rfl⟩ := hmatch
    refine ⟨?_, h.lifecycle⟩
    rw [ChildReplay.setLast, hattempts]
    exact .cons (hhead.adopt ..) htail
  | started started payload room fresh parent =>
    simp only [readChildEvent, payload]
    exact h.started room fresh parent
  | attempt attempt attempt' step last reads change =>
    obtain ⟨earlier, hattempts⟩ := List.head?_eq_some_iff.mp last
    have hmatch := h.attempts
    rw [hattempts, List.forall₂_cons_left_iff] at hmatch
    obtain ⟨trace, before, hhead, htail, rfl⟩ := hmatch
    have hnamed := change.named hhead.stored hnames
    have hread : readChildEvent (trace :: before) event = trace.push step :: before := by
      rw [hhead.attemptId] at reads
      unfold readChildEvent
      split
      · next started hpayload =>
        rw [hpayload] at reads
        cases reads
      · rw [reads]
        rfl
    have hmem : attempt ∈ replay.attempts := by simp [hattempts]
    rw [hread, ChildReplay.setLast, hattempts]
    refine ⟨.cons (hhead.change hmem hstored change hnamed) htail, ?_⟩
    exact h.lifecycle.push (hhead.lawful change hnamed) (change.fresh h.attempts)

/-- A finished attempt reports its terminal event. -/
theorem AttemptMatches.finishedRecovery
    (h : AttemptMatches env log sessionId runId attempt trace) {outcome : ChildExecutionOutcome}
    (houtcome : attempt.projection.outcome = some outcome) (retryCapacity : Bool) :
    ∃ terminalEventId event state, attempt.projection.terminalEventId = some terminalEventId ∧
      storedEventForRun log sessionId runId terminalEventId = .ok event ∧
      childRecoveryState log sessionId runId attempt (some event) retryCapacity = .ok state := by
  obtain ⟨terminalEventId, event, finished, hid, hstored, hpayload, hbound, rfl⟩ :=
    h.stored.terminal outcome houtcome
  refine ⟨terminalEventId, event, ?_⟩
  simp only [childRecoveryState, houtcome]
  by_cases hretry : (retryCapacity && finished.outcome.requiresNewAttempt) = true
  · refine ⟨.retryable event finished.outcome, hid, hstored, ?_⟩
    simp only [bind_eq_ok, expect_eq_ok]
    refine ⟨event, rfl, ?_⟩
    simp only [hpayload, bind_eq_ok, ensure_eq_ok]
    exact ⟨(), ⟨hbound, trivial⟩, if_pos hretry⟩
  · refine ⟨.terminal event finished.outcome, hid, hstored, ?_⟩
    simp only [bind_eq_ok, expect_eq_ok]
    refine ⟨event, rfl, ?_⟩
    simp only [hpayload, bind_eq_ok, ensure_eq_ok]
    exact ⟨(), ⟨hbound, trivial⟩, if_neg hretry⟩

/-- A pending tool call is found with its start, when it has one. -/
theorem AttemptMatches.toolRecovery (h : AttemptMatches env log sessionId runId attempt trace)
    {pending : PendingChildTool} (hpending : attempt.pendingTool = some pending) :
    ∃ state, pendingToolRecoveryState log sessionId runId attempt pending = .ok state := by
  obtain ⟨prepared, hprepared, htool⟩ := h.stored.tool pending hpending
  cases hstart : pending.startedEventId with
  | none =>
    refine ⟨.pendingEffect (.tool prepared none), ?_⟩
    simp only [pendingToolRecoveryState, bind_eq_ok, ensure_eq_ok]
    refine ⟨prepared, hprepared, (), htool, ?_⟩
    rw [hstart]
    rfl
  | some startedEventId =>
    obtain ⟨event, started, hstored, hpayload, hattempt, hcall, hevent⟩ :=
      h.stored.start pending startedEventId hpending hstart
    refine ⟨.pendingEffect (.tool prepared (some event)), ?_⟩
    simp only [pendingToolRecoveryState, bind_eq_ok, ensure_eq_ok]
    refine ⟨prepared, hprepared, (), htool, ?_⟩
    simp only [hstart, bind_eq_ok]
    refine ⟨event, hstored, ?_⟩
    simp only [hpayload, bind_eq_ok, ensure_eq_ok]
    exact ⟨(), ⟨hattempt, hcall, hevent⟩, rfl⟩

theorem ChildAction.toolOperation_or_isFinish (action : ChildAction) :
    action.toolOperation.isSome = true ∨ action.isFinish = true := by
  cases action with
  | finish handoff => exact .inr rfl
  | _ => exact .inl rfl

/-- An attempt with nothing in flight is ready for its next step. -/
theorem AttemptMatches.idleRecovery (h : AttemptMatches env log sessionId runId attempt trace)
    (hidle : attempt.Idle) (retryCapacity : Bool) :
    ∃ state, childRecoveryState log sessionId runId attempt none retryCapacity = .ok state := by
  simp only [childRecoveryState, hidle.outcome, hidle.pendingModel, hidle.pendingTool]
  by_cases hfinish : (attempt.projection.handoffEventId.isSome ||
      attempt.requiredModelTerminalRetry.isSome) = true
  · exact ⟨.readyToFinishAttempt, by simp [bind_eq_ok, hfinish]⟩
  · by_cases hturn : attempt.modelTurnRequired = true
    · exact ⟨.readyForModel, by simp [bind_eq_ok, hfinish, hturn]⟩
    · have hclosed := hfinish
      simp only [Bool.or_eq_true, not_or, Bool.not_eq_true, Option.isSome_eq_false_iff,
        Option.isNone_iff_eq_none] at hclosed
      obtain ⟨source, hsource⟩ := Option.isSome_iff_exists.mp
        (h.plans.ready hidle hclosed.1 hclosed.2 (Bool.not_eq_true _ ▸ hturn))
      by_cases hoperation : source.proposedAction.toolOperation.isSome = true
      · refine ⟨.readyForTool, ?_⟩
        rw [bind_eq_ok]
        refine ⟨(), rfl, ?_⟩
        rw [if_neg hfinish, if_neg hturn, bind_eq_ok]
        exact ⟨source, expect_eq_ok.mpr hsource, if_pos hoperation⟩
      · have hlast := (source.proposedAction.toolOperation_or_isFinish).resolve_left hoperation
        refine ⟨.readyForHandoff, ?_⟩
        rw [bind_eq_ok]
        refine ⟨(), rfl, ?_⟩
        rw [if_neg hfinish, if_neg hturn, bind_eq_ok]
        exact ⟨source, expect_eq_ok.mpr hsource, (if_neg hoperation).trans (if_pos hlast)⟩

/-- The latest attempt always has a recovery state. -/
theorem AttemptMatches.recovery (h : AttemptMatches env log sessionId runId attempt trace)
    (retryCapacity : Bool) : ∃ terminalEvent state,
      (attempt.projection.terminalEventId.mapM fun eventId =>
        storedEventForRun log sessionId runId eventId) = .ok terminalEvent ∧
      childRecoveryState log sessionId runId attempt terminalEvent retryCapacity = .ok state := by
  cases houtcome : attempt.projection.outcome with
  | some outcome =>
    obtain ⟨terminalEventId, event, state, hid, hstored, hstate⟩ :=
      h.finishedRecovery houtcome retryCapacity
    refine ⟨some event, state, ?_, hstate⟩
    simp [hid, hstored]
  | none =>
    refine ⟨none, ?_⟩
    simp only [h.stored.noTerminal houtcome]
    cases hmodel : attempt.pendingModel with
    | some pending =>
      obtain ⟨event, hstored, hprepared⟩ := h.stored.model pending hmodel
      refine ⟨.pendingEffect (.model event), rfl, ?_⟩
      simp only [childRecoveryState, houtcome, hmodel, bind_eq_ok, ensure_eq_ok]
      exact ⟨(), rfl, event, hstored, (), ⟨hprepared, by simp [h.effects.onePending pending hmodel]⟩,
        rfl⟩
    | none =>
      cases htool : attempt.pendingTool with
      | some pending =>
        obtain ⟨state, hstate⟩ := h.toolRecovery htool
        refine ⟨state, rfl, ?_⟩
        simp only [childRecoveryState, houtcome, hmodel, htool, bind_eq_ok, ensure_eq_ok]
        exact ⟨(), rfl, hstate⟩
      | none =>
        obtain ⟨state, hstate⟩ := h.idleRecovery ⟨houtcome, hmodel, htool⟩ retryCapacity
        exact ⟨state, rfl, hstate⟩

/-- An issued work order has no attempt yet. -/
theorem ChildMatches.issued {issued : ChildWorkOrderIssued}
    (h : replayWorkOrderIssued env log event issued = .ok replay) :
    ChildMatches env log sessionId runId replay [] := by
  simp only [replayWorkOrderIssued, bind_eq_ok] at h
  obtain ⟨-, -, runId, -, claimEvent, -, h⟩ := h
  split at h
  · cases h
    exact ⟨.nil, trivial, Nat.zero_le _, .nil, by simp, .nil, .nil, .nil⟩
  · cases h

theorem replayChildEvent_isSome {before after : Option ChildReplay}
    (h : replayChildEvent env log before event = .ok after) : after.isSome = true := by
  unfold replayChildEvent at h
  split at h <;>
  · rw [bind_eq_ok] at h
    obtain ⟨_, -, h⟩ := h
    rw [bind_eq_ok] at h
    obtain ⟨_, -, hafter⟩ := h
    cases hafter
    rfl

/-- Only the empty history leaves no child. -/
theorem replayChildHistory_eq_none {history : List EventEnvelope}
    (h : replayChildHistory env log history = .ok none) : history = [] := by
  cases history using List.reverseRecOn with
  | nil => rfl
  | append_singleton history event =>
    rw [replayChildHistory, List.foldlM_append, bind_eq_ok] at h
    obtain ⟨before, -, hlast⟩ := h
    simp only [List.foldlM_cons, List.foldlM_nil, bind_eq_ok] at hlast
    obtain ⟨after, hlast, hafter⟩ := hlast
    cases hafter
    cases replayChildEvent_isSome hlast

/-- The events of a history are the log's, and its broker-v2 Unknowns name the call they close. -/
structure StoredHistory (log : EventLog) (sessionId : SessionId) (runId : RunId)
    (history : List EventEnvelope) : Prop where
  stored : ∀ event ∈ history, storedEventForRun log sessionId runId event.id = .ok event
  names : ∀ event ∈ history, NamesPreparedCall log sessionId runId event

theorem childMatches_replayChildHistory {history : List EventEnvelope}
    (hhistory : StoredHistory log sessionId runId history)
    (h : replayChildHistory env log history = .ok (some replay)) :
    ChildMatches env log sessionId runId replay (readChildHistory history) := by
  induction history using List.reverseRecOn generalizing replay with
  | nil => cases h
  | append_singleton history event ih =>
    have hevent : event ∈ history ++ [event] := by simp
    have hbefore : StoredHistory log sessionId runId history :=
      ⟨fun earlier hearlier => hhistory.stored earlier (List.mem_append_left _ hearlier),
        fun earlier hearlier => hhistory.names earlier (List.mem_append_left _ hearlier)⟩
    rw [replayChildHistory, List.foldlM_append, bind_eq_ok] at h
    obtain ⟨before, hwhole, hlast⟩ := h
    simp only [List.foldlM_cons, List.foldlM_nil, bind_eq_ok] at hlast
    obtain ⟨after, hlast, hafter⟩ := hlast
    cases hafter
    rw [readChildHistory, List.foldl_append]
    unfold replayChildEvent at hlast
    split at hlast
    · -- the issue is the first event, so there is nothing before it
      next issued hpayload =>
      simp only [bind_eq_ok, ensure_eq_ok, Option.isNone_iff_eq_none] at hlast
      obtain ⟨-, rfl, replay', hissued, hnext⟩ := hlast
      cases hnext
      cases replayChildHistory_eq_none hwhole
      simp only [List.foldl_cons, List.foldl_nil, readChildEvent, hpayload,
        EventPayload.attemptStep]
      exact .issued hissued
    · simp only [bind_eq_ok, expect_eq_ok] at hlast
      obtain ⟨replay', rfl, next, hstep, hnext⟩ := hlast
      cases hnext
      exact (ih hbefore hwhole).change (hhistory.stored event hevent)
        (hhistory.names event hevent) (replayIssuedChildEvent_change hstep)

theorem ChildMatches.recovery (h : ChildMatches env log sessionId runId replay traces) :
    ∃ state, replay.recovery log sessionId runId = .ok state := by
  unfold ChildReplay.recovery
  cases hlast : replay.last with
  | none => exact ⟨.awaitingAttempt, rfl⟩
  | some attempt =>
    obtain ⟨earlier, hattempts⟩ := List.head?_eq_some_iff.mp hlast
    have hmatch := h.attempts
    rw [hattempts, List.forall₂_cons_left_iff] at hmatch
    obtain ⟨trace, before, hhead, -, -⟩ := hmatch
    obtain ⟨terminalEvent, state, hterminal, hstate⟩ := hhead.recovery
      (replay.attempts.length < replay.issued.spec.maxAttempts.toNat)
    exact ⟨state, bind_eq_ok.mpr ⟨terminalEvent, hterminal, hstate⟩⟩

/-- The life of a child: whatever events are accepted one after another, as long as every
broker-v2 Unknown among them names the call of the Prepared event it closes. -/
theorem childLifecycle_of_replay (env : Environment) (log : EventLog) (sessionId : SessionId)
    (runId : RunId) (history : List EventEnvelope) (replay : ChildReplay)
    (hlog : ∀ event ∈ history, event ∈ log.events ∧ event.sessionId = sessionId ∧
      event.runId = some runId)
    (h : replayChildHistory env log history = .ok (some replay))
    (hnames : ∀ event ∈ history, NamesPreparedCall log sessionId runId event) :
    ChildLifecycle env replay.issued.spec (readChildHistory history) ∧
      ∃ state, replay.recovery log sessionId runId = .ok state := by
  have hhistory : StoredHistory log sessionId runId history := by
    refine ⟨?_, hnames⟩
    intro event hevent
    obtain ⟨hmem, hsession, hrun⟩ := hlog event hevent
    exact storedEventForRun_of_mem hmem hsession hrun
  have hmatches := childMatches_replayChildHistory hhistory h
  exact ⟨hmatches.lifecycle, hmatches.recovery⟩

end Runs

section Sample

def sampleManifest : ChildContextManifest := ⟨1, sampleId 1, sampleId 1, [⟨sampleId 1, none⟩]⟩

def sampleIssued : ChildWorkOrderIssued where
  issuerActorId := sampleId 1
  authorizationEventId := sampleId 3
  authorizationClaimEventId := sampleId 2
  authorizationClaimId := sampleId 1
  authorizationClaimGeneration := 1
  authorizationRuntimeInstanceId := sampleId 1
  spec := sampleSpec
  workOrderArtifact := sampleArtifact 0 childWorkOrderMediaType
  workOrderDigest := sampleDigest 0
  contextManifestArtifact := sampleArtifact 1 childContextManifestMediaType
  contextManifestDigest := sampleDigest 1
  cancellationGeneration := 0

def sampleAuthorized : ChildDelegationAuthorizedV2 where
  authorizationId := sampleId 1
  issuerActorId := sampleId 1
  claimEventId := sampleId 2
  claimId := sampleId 1
  claimGeneration := 1
  claimRuntimeInstanceId := sampleId 1
  cancellationGeneration := 0
  acceptedEventId := sampleId 1
  acceptedArtifact := sampleArtifact 0 childWorkOrderMediaType
  acceptedDigest := sampleDigest 0
  snapshotLeaseEventId := sampleId 1
  spec := sampleSpec
  workOrderArtifact := sampleArtifact 0 childWorkOrderMediaType
  workOrderDigest := sampleDigest 0
  contextManifestArtifact := sampleArtifact 1 childContextManifestMediaType
  contextManifestDigest := sampleDigest 1
  plannerTurnId := sampleId 1
  delegateDirectiveId := sampleId 1
  plannerWorkOrder := ⟨"w", 1, sampleArtifact 0 childWorkOrderMediaType, sampleDigest 0⟩

def sampleInventory : ChildModelContextInventory where
  workOrderEventId := sampleId 5
  workOrderArtifact := sampleArtifact 0 childWorkOrderMediaType
  workOrderDigest := sampleDigest 0
  contextManifestArtifact := sampleArtifact 1 childContextManifestMediaType
  contextManifestDigest := sampleDigest 1
  priorPlan := none
  previousTool := none

def samplePrompt : ChildModelPromptDocument :=
  ⟨1, .repositoryExplorerV1, sampleDigest 16, .repositoryExplorerV1, sampleDigest 17, ⟨"{}"⟩⟩

def sampleRequest : ChildModelRequestDocument := ⟨1, sampleModel, none, sampleLineage, ⟨"{}"⟩⟩

def samplePrepared : ChildModelInferencePrepared where
  promptContract := .repositoryExplorerV1
  promptContractDigest := sampleDigest 16
  outputContract := .repositoryExplorerV1
  outputContractDigest := sampleDigest 17
  binding := sampleBinding
  modelCallId := sampleId 1
  modelCallOrdinal := 1
  backendModel := sampleModel
  backendInstance := none
  modelLineage := sampleLineage
  localPlanId := sampleId 1
  contextInventory := sampleInventory
  promptManifestArtifact := sampleArtifact 4 childModelPromptManifestMediaType
  promptManifestDigest := sampleDigest 4
  promptArtifact := sampleArtifact 2 childModelPromptMediaType
  promptDigest := sampleDigest 2
  requestArtifact := sampleArtifact 3 childModelRequestMediaType
  requestDigest := sampleDigest 3
  tokenReservation := ⟨sampleId 1, 100, 10⟩
  preparedAt := sampleClock 7

def samplePlan : ChildLocalPlanSnapshot where
  contractVersion := 1
  binding := sampleBinding
  planId := sampleId 1
  revision := 1
  previousPlanDigest := none
  objective := "o"
  steps := [⟨"s", "o", .inProgress⟩]
  activeStepId := some "s"
  assumptions := []
  unknowns := []

def sampleAction : ChildAction := .repositoryFileRead (sampleId 1) ⟨[.utf8 "f"]⟩ 0 1

def sampleOperation : ChildToolOperation := .repositoryFileRead (.unix [[102]]) 0 1

def sampleResponse : ChildModelStructuredResponse := ⟨1, samplePlan, sampleAction⟩

def sampleObserved : ChildModelInferenceObserved where
  binding := sampleBinding
  modelCallId := sampleId 1
  modelCallOrdinal := 1
  preparedEventId := sampleId 7
  backendModel := sampleModel
  backendInstance := none
  modelLineage := sampleLineage
  tokenReservationId := sampleId 1
  normalizedCompleteEvidenceArtifact := sampleArtifact 5 childModelEvidenceMediaType
  evidenceDigest := sampleDigest 5
  finishedAt := sampleClock 8
  outcome := .succeeded sampleModel sampleUsage

def sampleEvidence : ChildModelEvidenceRecord where
  contractVersion := 1
  binding := sampleBinding
  modelCallId := sampleId 1
  modelCallOrdinal := 1
  preparedEventId := sampleId 7
  backendModel := sampleModel
  backendInstance := none
  modelLineage := sampleLineage
  promptManifestDigest := sampleDigest 4
  promptDigest := sampleDigest 2
  requestDigest := sampleDigest 3
  tokenReservationId := sampleId 1
  preparedAt := sampleClock 7
  finishedAt := sampleClock 8
  outcome := .succeeded sampleModel sampleUsage "{}" ⟨"{}"⟩ sampleResponse ⟨"{}"⟩

def samplePlanBinding : ChildLocalPlanBinding := ⟨sampleId 1, 1, sampleDigest 11⟩

def sampleActionBinding : ChildValidatedActionBinding where
  actionId := sampleId 1
  sourceModelCallId := sampleId 1
  sourceModelCallOrdinal := 1
  sourceModelObservedEventId := sampleId 8
  sourceModelEvidenceDigest := sampleDigest 5
  sourcePlan := samplePlanBinding
  activePlanStepId := some "s"
  completionHandoffId := none
  validatedActionArtifact := sampleArtifact 6 childValidatedActionMediaType
  validatedActionDigest := sampleDigest 6

def sampleValidatedAction : ChildValidatedActionDocument where
  contractVersion := 1
  binding := sampleBinding
  actionId := sampleId 1
  sourceModelCallId := sampleId 1
  sourceModelCallOrdinal := 1
  sourceModelObservedEventId := sampleId 8
  sourceModelEvidenceDigest := sampleDigest 5
  sourcePlan := samplePlanBinding
  activePlanStepId := some "s"
  completionHandoffId := none
  action := sampleAction

def sampleParameters : RepositoryToolCanonicalParameters :=
  ⟨2, sampleBinding, sampleId 1, 1, sampleActionBinding, sampleId 1, sampleOperation⟩

variable (decision : RepositoryToolAuthorizationDecisionV2)

def sampleToolReceipt : RepositoryToolPreparedReceiptV2 where
  schemaVersion := 2
  binding := sampleBinding
  toolCallId := sampleId 1
  toolOrdinal := 1
  actionBinding := sampleActionBinding
  operation := sampleOperation
  authority := receiptAuthority sampleAuthority [sampleGrant]
  canonicalParametersArtifact := sampleArtifact 7 repositoryToolCanonicalParametersV2MediaType
  canonicalParametersDigest := sampleDigest 7
  authorization := decision
  brokerCallSequence := 1
  brokerPreparedAt := ⟨sampleId 1, 9⟩
  runtimePreparedAt := sampleClock 9

def sampleToolPrepared : ChildToolPrepared RepositoryToolAuthorizationDecisionV2 where
  binding := sampleBinding
  toolCallId := sampleId 1
  toolOrdinal := 1
  actionBinding := sampleActionBinding
  operation := sampleOperation
  authorization := decision
  brokerInstanceId := sampleId 1
  brokerCallSequence := 1
  preparedReceiptArtifact := sampleArtifact 8 repositoryToolPreparedReceiptV2MediaType
  preparedReceiptDigest := sampleDigest 8
  preparedAt := sampleClock 9

variable (named : ChildToolCallId)

def sampleTiming : RepositoryToolUnknownTimingV2 := .brokerRecorded ⟨sampleId 1, 10⟩ 1

def sampleUnknown : ChildToolOutcomeUnknownV2 where
  binding := sampleBinding
  toolCallId := named
  preparedEventId := sampleId 9
  actionBinding := sampleActionBinding
  preparedReceiptDigest := sampleDigest 8
  terminalReceiptArtifact := sampleArtifact 9 repositoryToolUnknownReceiptV2MediaType
  terminalReceiptDigest := sampleDigest 9
  boundaryAt := sampleClock 10
  reason := .claimExpiredBeforeObservation
  boundary := .deadline
  cancellation := none
  timing := sampleTiming

def sampleUnknownReceipt : RepositoryToolUnknownReceiptV2 where
  schemaVersion := 2
  binding := sampleBinding
  toolCallId := named
  preparedEventId := sampleId 9
  actionBinding := sampleActionBinding
  preparedReceiptArtifact := sampleArtifact 8 repositoryToolPreparedReceiptV2MediaType
  preparedReceiptDigest := sampleDigest 8
  boundary := .deadline
  cancellation := none
  unknownEvidenceArtifact := sampleArtifact 10 repositoryToolUnknownEvidenceV2MediaType
  timing := sampleTiming
  effect := .indeterminate
  cleanup := .indeterminate .manualReconciliationRequired none
  runtimeBoundaryAt := sampleClock 10

/-- The rows of one session and run: the actor 1 is the issuer, the actor 2 the child. -/
def sampleEvent (n : Fin (2 ^ 128)) (actor : Fin (2 ^ 128)) (parent : Option (Fin (2 ^ 128)))
    (rawArtifact : Option ArtifactRef) (payload : EventPayload) : EventEnvelope where
  id := sampleId n
  sequence := n
  sessionId := sampleId 1
  runId := some (sampleId 1)
  actorId := sampleId actor
  causalParent := parent.map sampleId
  occurredAt := 11
  provenance := ⟨"sample", if actor = 2 then some sampleBackend else none, rawArtifact⟩
  payload

def sampleSource : EventEnvelope := sampleEvent 1 1 none none (.userInput ⟨"{}"⟩)

/-- The child's own events. -/
def sampleHistory : List EventEnvelope := [
  sampleEvent 5 1 (some 3) (some (sampleArtifact 0 childWorkOrderMediaType))
    (.childWorkOrderIssued sampleIssued),
  sampleEvent 6 2 (some 5) none
    (.childExecutionStarted ⟨sampleBinding, none, sampleId 1, sampleModel, sampleLineage,
      sampleClock 6⟩),
  sampleEvent 7 2 (some 6) (some (sampleArtifact 4 childModelPromptManifestMediaType))
    (.childModelInferencePrepared samplePrepared),
  sampleEvent 8 2 (some 7) (some (sampleArtifact 5 childModelEvidenceMediaType))
    (.childModelInferenceObserved sampleObserved),
  sampleEvent 9 2 (some 8) (some (sampleArtifact 8 repositoryToolPreparedReceiptV2MediaType))
    (.childToolPreparedV2 (sampleToolPrepared decision)),
  sampleEvent 10 2 (some 9) (some (sampleArtifact 9 repositoryToolUnknownReceiptV2MediaType))
    (.childToolOutcomeUnknownV2 (sampleUnknown named))]

def sampleRows : List EventEnvelope := [
  sampleSource,
  sampleEvent 2 1 none none (.runClaimed ⟨sampleId 1, sampleId 1, 1, 0, 1000⟩),
  sampleEvent 3 1 (some 1) none (.childDelegationAuthorizedV2 sampleAuthorized),
  sampleEvent 4 1 none none
    (.repositoryBrokerEpochActivated ⟨none, ⟨sampleId 1, []⟩, sampleClock 4⟩)] ++
  sampleHistory decision named

def sampleLog : EventLog where
  events := sampleRows decision named
  runStates := [⟨sampleId 1, sampleId 1, .running, 0⟩]
  idsDistinct := by
    change (List.map sampleId [1, 2, 3, 4, 5, 6, 7, 8, 9, 10] : List EventId).Nodup
    decide +kernel
  ordered := by
    change List.Pairwise _ ([_, _, _, _, _, _, _, _, _, _] : List EventEnvelope)
    simp [sampleEvent, sampleSource]

def sampleEnv : Environment where
  root := sampleRoot
  wires := {
    workOrder := sampleCodec [(0, sampleSpec)]
    contextManifest := sampleCodec [(1, sampleManifest)]
    modelPrompt := sampleCodec [(2, samplePrompt)]
    modelRequest := sampleCodec [(3, sampleRequest)]
    modelPromptManifest := sampleCodec [(4, expectedPromptManifest samplePrepared)]
    modelEvidence := sampleCodec [(5, sampleEvidence)]
    modelUnknown := sampleCodec []
    validatedAction := sampleCodec [(6, sampleValidatedAction)]
    toolParameters := sampleCodec [(7, sampleParameters)]
    toolPrepared := sampleCodec []
    toolPreparedV2 := sampleCodec [(8, sampleToolReceipt decision)]
    toolObserved := sampleCodec []
    toolUnknown := sampleCodec []
    toolObservedV2 := sampleCodec []
    toolUnknownV2 := sampleCodec [(9, sampleUnknownReceipt named)]
    failureEvidence := sampleCodec []
    denialEvidence := sampleCodec []
    unknownEvidence := sampleCodec [(10, ⟨named, .deadline, .indeterminate⟩)]
    handoff := sampleCodec []
    executionFailure := sampleCodec []
    writerLease := sampleCodec []
    snapshotLease := sampleCodec []
    snapshotRelease := sampleCodec []
    event := sampleCodec [(14, sampleSource)]
    localPlan := sampleCodec [(11, samplePlan)]
    value := ⟨fun bytes => if bytes = [123, 125] then some ⟨"{}"⟩ else none,
      fun value => if value = ⟨"{}"⟩ then some [15] else none⟩
    structuredResponse := sampleCodec [(15, sampleResponse)] }
  identityIntegrity _ := true
  repositoryAuthorityValid _ := true
  referencesArtifact _ _ := false
  typedArtifactRefs _ _ := .ok ()
  compile _ _ _ := some (samplePrompt, sampleRequest)
  backendRequestLength _ := some 10
  authorize _ _ _ _ _ := decision
  projectSuccess _ _ _ _ := none
  encodeResult _ := none
  resultV2 _ _ _ _ := none
  snapshotLeaseDocumentValid _ := false

theorem sampleHistory_stored : ∀ event ∈ sampleHistory decision named,
    event ∈ (sampleLog decision named).events ∧ event.sessionId = sampleId 1 ∧
      event.runId = some (sampleId 1) := by
  intro event hevent
  refine ⟨List.mem_append_right _ hevent, ?_⟩
  simp only [sampleHistory, List.mem_cons, List.not_mem_nil, or_false] at hevent
  rcases hevent with rfl | rfl | rfl | rfl | rfl | rfl <;> exact ⟨rfl, rfl⟩

/-- The Unknown names the call that its Prepared event put in flight. -/
theorem sampleHistory_names : ∀ event ∈ sampleHistory decision (sampleId 1),
    NamesPreparedCall (sampleLog decision (sampleId 1)) (sampleId 1) (sampleId 1) event := by
  intro event hevent unknown prepared attemptId call hpayload hstored htool
  simp only [sampleHistory, List.mem_cons, List.not_mem_nil, or_false] at hevent
  rcases hevent with rfl | rfl | rfl | rfl | rfl | rfl <;> cases hpayload
  have hmem : sampleEvent 9 2 (some 8)
      (some (sampleArtifact 8 repositoryToolPreparedReceiptV2MediaType))
      (.childToolPreparedV2 (sampleToolPrepared decision)) ∈
        (sampleLog decision (sampleId 1)).events := by
    simp [sampleLog, sampleRows, sampleHistory]
  have hfound := storedEventForRun_of_mem hmem rfl rfl
  cases hfound.symm.trans hstored
  cases htool
  rfl

theorem sampleHistory_accepted (named : ChildToolCallId)
    (h : (replayChildHistory (sampleEnv .authorized named) (sampleLog .authorized named)
      (sampleHistory .authorized named)).toOption.join.isSome = true) :
    ∃ replay, replayChildHistory (sampleEnv .authorized named) (sampleLog .authorized named)
      (sampleHistory .authorized named) = .ok (some replay) := by
  obtain ⟨replay, hreplay⟩ := Option.isSome_iff_exists.mp h
  refine ⟨replay, ?_⟩
  cases hresult : replayChildHistory (sampleEnv .authorized named) (sampleLog .authorized named)
      (sampleHistory .authorized named) with
  | error error =>
    rw [hresult] at hreplay
    cases hreplay
  | ok state =>
    rw [hresult] at hreplay
    exact congrArg Except.ok hreplay

theorem childLifecycle_of_sample :
    ∃ replay : ChildReplay, ChildLifecycle (sampleEnv .authorized (sampleId 1)) replay.issued.spec
        (readChildHistory (sampleHistory .authorized (sampleId 1))) ∧
      ∃ state, replay.recovery (sampleLog .authorized (sampleId 1)) (sampleId 1) (sampleId 1) =
        .ok state := by
  obtain ⟨replay, hreplay⟩ := sampleHistory_accepted (sampleId 1) (by decide +kernel)
  exact ⟨replay, childLifecycle_of_replay _ _ _ _ _ replay (sampleHistory_stored _ _) hreplay
    (sampleHistory_names _)⟩

/-- The same history with the call 2 named by its Unknown is accepted, though the call 1 was
prepared: its Prepared is closed by no event of its own call. -/
theorem childLifecycle_broken_by_unknown :
    (∀ event ∈ sampleHistory .authorized (sampleId 2),
      event ∈ (sampleLog .authorized (sampleId 2)).events ∧ event.sessionId = sampleId 1 ∧
        event.runId = some (sampleId 1)) ∧
    ∃ replay, replayChildHistory (sampleEnv .authorized (sampleId 2))
        (sampleLog .authorized (sampleId 2)) (sampleHistory .authorized (sampleId 2)) =
          .ok (some replay) ∧
      ¬ChildLifecycle (sampleEnv .authorized (sampleId 2)) replay.issued.spec
        (readChildHistory (sampleHistory .authorized (sampleId 2))) := by
  refine ⟨sampleHistory_stored _ _, ?_⟩
  obtain ⟨replay, hreplay⟩ := sampleHistory_accepted (sampleId 2) (by decide +kernel)
  refine ⟨replay, hreplay, ?_⟩
  intro hlife
  have hlawful := (hlife.attempts _ (List.mem_singleton.mpr rfl)).lawful.1.oneEffect
  exact absurd hlawful (by decide)

end Sample

end BirdCode.Store
