import BirdCode.Store.ChildSteps

/-! The replayed state of each attempt holds exactly what the reading of its events says, and every
accepted event keeps it so. -/
namespace BirdCode.Store

variable {env : Environment} {log : EventLog} {replay next : ChildReplay} {event : EventEnvelope}
  {attempt attempt' : ReplayedChildAttempt} {step : AttemptStep} {steps : List AttemptStep}

theorem checkedSucc32_eq_some {a b : UInt32} (h : checkedSucc32 a = some b) :
    b.toNat = a.toNat + 1 := by
  unfold checkedSucc32 at h
  split at h
  · next hlt =>
    cases h
    rw [UInt32.toNat_add, Nat.mod_eq_of_lt (by simpa using hlt)]
    rfl
  · cases h

section Effects

/-- The call in flight, of either slot. -/
def ReplayedChildAttempt.pendingCall (attempt : ReplayedChildAttempt) : Option ChildCall :=
  match attempt.pendingModel with
  | some pending => some (.model pending.modelCallId)
  | none => attempt.pendingTool.map fun pending => .tool pending.toolCallId

/-- The pending slots and the counters agree with the steps. -/
structure EffectsMatch (attempt : ReplayedChildAttempt) (steps : List AttemptStep) : Prop where
  pending : BirdCode.Store.pendingCall steps = attempt.pendingCall
  onePending : ∀ pending, attempt.pendingModel = some pending → attempt.pendingTool = none
  closedModels : attempt.projection.completedModelCalls.toNat = steps.countP AttemptStep.closesModel
  closedTools : attempt.projection.completedToolCalls.toNat = steps.countP AttemptStep.closesTool
  preparedModels : (steps.filterMap AttemptStep.preparedModelCall).length =
    steps.countP AttemptStep.closesModel + attempt.pendingModel.toList.length
  preparedTools : (steps.filterMap AttemptStep.preparedToolCall).length =
    steps.countP AttemptStep.closesTool + attempt.pendingTool.toList.length

theorem pendingModel_eq_none {pending : PendingChildTool}
    (hone : ∀ model, attempt.pendingModel = some model → attempt.pendingTool = none)
    (htool : attempt.pendingTool = some pending) : attempt.pendingModel = none := by
  cases hslot : attempt.pendingModel with
  | none => rfl
  | some model =>
    rw [hone model hslot] at htool
    cases htool

theorem EffectsMatch.change (h : EffectsMatch attempt steps)
    (hchange : AttemptChange env replay event attempt step attempt') :
    EffectsMatch attempt' (step :: steps) := by
  obtain ⟨hpending, hone, hclosedModels, hclosedTools, hmodels, htools⟩ := h
  cases hchange with
  | modelPrepared prepared supplied idle handoff fresh freshReservation ordinal cap stored =>
    have hmodel := idle.pendingModel
    have htool := idle.pendingTool
    constructor <;> simp_all [ReplayedChildAttempt.pendingCall, ReplayedChildAttempt.prepareModel,
      preparedModelCall, List.filterMap_cons]
  | modelSucceeded observed pending validated completed isPending outcome pendingTool count named
      valid =>
    have hcount := checkedSucc32_eq_some count
    constructor <;> simp_all [ReplayedChildAttempt.pendingCall, ReplayedChildAttempt.closeModel,
      ReplayedChildAttempt.retainModelSuccess, List.filterMap_cons, List.countP_cons]
  | modelFailed pending call completed incomparable contiguous clock retry isPending outcome
      pendingTool count named =>
    have hcount := checkedSucc32_eq_some count
    constructor <;> simp_all [ReplayedChildAttempt.pendingCall, ReplayedChildAttempt.closeModel,
      ReplayedChildAttempt.retainModelFailure, ReplayedChildAttempt.withClock,
      List.filterMap_cons, List.countP_cons]
  | toolPrepared prepared pending source reset idle handoff fresh ordinal cap successful proposed
      isPending stored =>
    have hmodel := idle.pendingModel
    have htool := idle.pendingTool
    constructor <;> simp_all [ReplayedChildAttempt.pendingCall, ReplayedChildAttempt.prepareTool,
      List.filterMap_cons]
  | toolStarted started pending isPending outcome call stored =>
    have hmodel := pendingModel_eq_none hone isPending
    constructor <;> simp_all [ReplayedChildAttempt.pendingCall, List.filterMap_cons]
  | toolClosed pending call context completed clock incomparable contiguous reset brokerClock results
      failure isPending outcome count named =>
    have hcount := checkedSucc32_eq_some count
    have hmodel := pendingModel_eq_none hone isPending
    constructor <;> simp_all [ReplayedChildAttempt.pendingCall, ReplayedChildAttempt.closeTool,
      ReplayedChildAttempt.withClock, List.filterMap_cons, List.countP_cons]
  | handoff status source idle handoff successful proposed =>
    have hmodel := idle.pendingModel
    have htool := idle.pendingTool
    constructor <;> simp_all [ReplayedChildAttempt.pendingCall, List.filterMap_cons]
  | finished finished idle counts succeeded bound stored =>
    have hmodel := idle.pendingModel
    have htool := idle.pendingTool
    constructor <;> simp_all [ReplayedChildAttempt.pendingCall, List.filterMap_cons]

end Effects

section Outcome

/-- The retained handoff and the outcome agree with the steps. -/
structure OutcomeMatch (attempt : ReplayedChildAttempt) (steps : List AttemptStep) : Prop where
  handoff : attempt.projection.handoffEventId.isSome = true ↔ .handoff ∈ steps
  unfinished : attempt.projection.outcome = none → ∀ finished, .finished finished ∉ steps
  finished : ∀ outcome, attempt.projection.outcome = some outcome →
    ∃ finished, steps.head? = some (.finished finished) ∧ finished.outcome = outcome

/-- A step that neither hands off nor finishes leaves both as they were. -/
theorem OutcomeMatch.cons (h : OutcomeMatch attempt steps)
    (hopen : attempt.projection.outcome = none)
    (hoff : attempt'.projection.handoffEventId = attempt.projection.handoffEventId)
    (hout : attempt'.projection.outcome = none) (hhandoff : step ≠ .handoff)
    (hfinished : ∀ finished, step ≠ .finished finished) : OutcomeMatch attempt' (step :: steps) := by
  constructor
  · rw [hoff, List.mem_cons, h.handoff]
    constructor
    · exact .inr
    · rintro (heq | hmem)
      · exact absurd heq.symm hhandoff
      · exact hmem
  · intro _ finished hmem
    rcases List.mem_cons.mp hmem with heq | hmem
    · exact hfinished finished heq.symm
    · exact h.unfinished hopen finished hmem
  · intro outcome houtcome
    rw [hout] at houtcome
    cases houtcome

theorem OutcomeMatch.change (h : OutcomeMatch attempt steps)
    (hchange : AttemptChange env replay event attempt step attempt') :
    OutcomeMatch attempt' (step :: steps) := by
  cases hchange with
  | modelPrepared prepared supplied idle =>
    exact h.cons idle.outcome rfl idle.outcome (by simp) (by simp)
  | modelSucceeded observed pending validated completed isPending outcome =>
    exact h.cons outcome rfl outcome (by simp) (by simp)
  | modelFailed pending call completed incomparable contiguous clock retry isPending outcome =>
    exact h.cons outcome rfl outcome (by simp) (by simp)
  | toolPrepared prepared pending source reset idle =>
    exact h.cons idle.outcome rfl idle.outcome (by simp) (by simp)
  | toolStarted started pending isPending outcome =>
    exact h.cons outcome rfl outcome (by simp) (by simp)
  | toolClosed pending call context completed clock incomparable contiguous reset brokerClock
      results failure isPending outcome =>
    exact h.cons outcome rfl outcome (by simp) (by simp)
  | handoff status source idle handoff =>
    constructor
    · simp
    · intro _ finished hmem
      rcases List.mem_cons.mp hmem with heq | hmem
      · cases heq
      · exact h.unfinished idle.outcome finished hmem
    · intro outcome houtcome
      cases idle.outcome.symm.trans houtcome
  | finished finished idle counts succeeded bound stored =>
    constructor
    · rw [List.mem_cons]
      simpa using h.handoff
    · intro hnone
      cases hnone
    · intro outcome houtcome
      cases houtcome
      exact ⟨finished, rfl, rfl⟩

end Outcome

section Plans

/-- The retained plan is that of the latest success, and its revision counts the successes. -/
def RetainedPlanMatches (env : Environment) :
    Option RetainedChildPlan → List ArtifactRef → Prop
  | none, [] => True
  | some plan, evidence :: earlier =>
    (∃ response, retainedResponse env evidence = some response ∧ response.plan = plan.snapshot) ∧
      canonicalPlanDigest env plan.snapshot = some plan.binding.planDigest ∧
      plan.binding.revision.toNat = earlier.length + 1
  | _, _ => False

/-- The plan and the proposal agree with the steps, and an attempt at rest that needs no model
turn has a proposal. -/
structure PlanMatch (env : Environment) (attempt : ReplayedChildAttempt)
    (steps : List AttemptStep) : Prop where
  plan : RetainedPlanMatches env attempt.latestPlan (steps.filterMap AttemptStep.successEvidence)
  proposal : ∀ source, attempt.lastSuccessfulModel = some source → attempt.Idle →
    ∃ call evidence response, steps.head? = some (.modelClosed call (some evidence)) ∧
      retainedResponse env evidence = some response ∧ response.action = source.proposedAction
  ready : attempt.Idle → attempt.projection.handoffEventId = none →
    attempt.requiredModelTerminalRetry = none → attempt.modelTurnRequired = false →
    attempt.lastSuccessfulModel.isSome = true

/-- A valid success is the next revision of the plan. -/
theorem PlanMatch.nextRevision (h : PlanMatch env attempt steps) {evidence : ArtifactRef}
    {validated : ValidatedChildModelSuccess} (hvalid : ValidSuccess env attempt evidence validated)
    (hroom : (steps.filterMap AttemptStep.successEvidence).length + 1 < 2 ^ 64) :
    NextRevision env evidence steps ∧
      validated.planBinding.revision.toNat =
        (steps.filterMap AttemptStep.successEvidence).length + 1 := by
  obtain ⟨⟨response, hread, hresponse, -⟩, hrevision, hbinding, hdigest⟩ := hvalid
  have hplan := h.plan
  cases hlatest : attempt.latestPlan with
  | none =>
    cases hsuccesses : steps.filterMap AttemptStep.successEvidence with
    | cons previous earlier => simp [hlatest, hsuccesses, RetainedPlanMatches] at hplan
    | nil =>
      simp only [hlatest, validPlanRevision, Bool.and_eq_true, decide_eq_true_eq,
        Option.isNone_iff_eq_none] at hrevision
      refine ⟨⟨response, hread, ?_, ?_⟩, ?_⟩
      · simp [hresponse, hsuccesses, hrevision.1]
      · simp [hresponse, hsuccesses, hrevision.2]
      · simp [hbinding, hrevision.1]
  | some plan =>
    cases hsuccesses : steps.filterMap AttemptStep.successEvidence with
    | nil => simp [hlatest, hsuccesses, RetainedPlanMatches] at hplan
    | cons previous earlier =>
      simp only [hlatest, hsuccesses, RetainedPlanMatches] at hplan
      obtain ⟨⟨previousResponse, hprevious, hsnapshot⟩, hpreviousDigest, hcount⟩ := hplan
      simp only [hlatest, validPlanRevision, Bool.and_eq_true, decide_eq_true_eq] at hrevision
      obtain ⟨⟨-, hnext⟩, hchained⟩ := hrevision
      rw [hsuccesses, List.length_cons] at hroom
      have hrevision : validated.plan.revision.toNat = earlier.length + 1 + 1 := by omega
      refine ⟨⟨response, hread, ?_, ?_⟩, ?_⟩
      · rw [hresponse, hsuccesses, hrevision, List.length_cons]
      · simp only [hsuccesses, List.head?_cons]
        exact ⟨previousResponse, plan.binding.planDigest, hprevious, hsnapshot ▸ hpreviousDigest,
          hresponse ▸ hchained⟩
      · rw [hbinding, hrevision, List.length_cons]

theorem length_successEvidence_le (steps : List AttemptStep) :
    (steps.filterMap AttemptStep.successEvidence).length ≤
      steps.countP AttemptStep.closesModel := by
  induction steps with
  | nil => simp
  | cons step before ih =>
    cases step with
    | modelClosed call evidence =>
      cases evidence <;> simp [List.filterMap_cons, List.countP_cons] <;> omega
    | _ => simpa [List.filterMap_cons] using ih

/-- The successes never reach the saturation of a plan revision. -/
theorem EffectsMatch.room (h : EffectsMatch attempt steps) :
    (steps.filterMap AttemptStep.successEvidence).length + 1 < 2 ^ 64 := by
  have hle := length_successEvidence_le steps
  have hlt := attempt.projection.completedModelCalls.toNat_lt
  have hcount := h.closedModels
  omega

theorem PlanMatch.change (h : PlanMatch env attempt steps) (heffects : EffectsMatch attempt steps)
    (hchange : AttemptChange env replay event attempt step attempt') :
    PlanMatch env attempt' (step :: steps) := by
  cases hchange with
  | modelPrepared prepared supplied idle handoff fresh freshReservation ordinal cap stored =>
    refine ⟨h.plan, ?_, ?_⟩
    · intro source hsource
      cases hsource
    · intro hidle
      cases hidle.pendingModel
  | modelSucceeded observed pending validated completed isPending outcome pendingTool count named
      valid =>
    obtain ⟨⟨response, hread, hplan, haction⟩, -, -, hdigest⟩ := id valid
    refine ⟨?_, ?_, ?_⟩
    · exact ⟨⟨response, hread, hplan⟩, hdigest, (h.nextRevision valid heffects.room).2⟩
    · intro source hsource _
      cases hsource
      exact ⟨_, _, response, rfl, hread, haction⟩
    · intros
      rfl
  | modelFailed pending call completed incomparable contiguous clock retry isPending outcome
      pendingTool count named =>
    refine ⟨h.plan, ?_, ?_⟩
    · intro source hsource
      cases hsource
    · intro _ _ hretry
      cases hretry
  | toolPrepared prepared pending source reset idle handoff fresh ordinal cap successful proposed
      isPending stored =>
    refine ⟨h.plan, ?_, ?_⟩
    · intro source _ hidle
      cases hidle.pendingTool
    · intro hidle
      cases hidle.pendingTool
  | toolStarted started pending isPending outcome call stored =>
    refine ⟨h.plan, ?_, ?_⟩
    · intro source _ hidle
      cases hidle.pendingTool
    · intro hidle
      cases hidle.pendingTool
  | toolClosed pending call context completed clock incomparable contiguous reset brokerClock
      results failure isPending outcome count named =>
    refine ⟨h.plan, ?_, ?_⟩
    · intro source hsource
      cases hsource
    · intro _ _ _ hturn
      cases hturn
  | handoff status source idle handoff successful proposed =>
    refine ⟨h.plan, ?_, ?_⟩
    · intro source hsource
      cases hsource
    · intro _ hhandoff
      cases hhandoff
  | finished finished idle counts succeeded bound stored =>
    refine ⟨h.plan, ?_, ?_⟩
    · intro source _ hidle
      cases hidle.outcome
    · intro hidle
      cases hidle.outcome

end Plans

section Identities

/-- Every call that was prepared is in flight or recorded as completed. -/
structure IdentitiesMatch (attempt : ReplayedChildAttempt) (steps : List AttemptStep) : Prop where
  models : ∀ call reservation,
    (call, reservation) ∈ steps.filterMap AttemptStep.preparedModelCall →
    (∃ pending, attempt.pendingModel = some pending ∧ pending.modelCallId = call ∧
      pending.tokenReservation.id = reservation) ∨
    attempt.completedModelCallIds[call]? = some reservation
  pendingFresh : ∀ pending, attempt.pendingModel = some pending →
    attempt.completedModelCallIds[pending.modelCallId]? = none
  tools : ∀ call ∈ steps.filterMap AttemptStep.preparedToolCall,
    (∃ pending, attempt.pendingTool = some pending ∧ pending.toolCallId = call) ∨
    call ∈ attempt.completedToolCallIds

theorem IdentitiesMatch.closeModel (h : IdentitiesMatch attempt steps)
    {pending : PendingChildModel} (hpending : attempt.pendingModel = some pending)
    (call : ChildModelCallId) (reservation : TokenReservationId)
    (hmem : (call, reservation) ∈ steps.filterMap AttemptStep.preparedModelCall) :
    (attempt.completedModelCallIds.insert pending.modelCallId pending.tokenReservation.id)[call]? =
      some reservation := by
  rcases h.models call reservation hmem with ⟨found, hfound, rfl, rfl⟩ | hcompleted
  · cases hpending.symm.trans hfound
    simp
  · rw [getElem?_insert_of_ne]
    · exact hcompleted
    · intro heq
      have hfresh := h.pendingFresh pending hpending
      rw [heq, hcompleted] at hfresh
      cases hfresh

theorem IdentitiesMatch.change (h : IdentitiesMatch attempt steps)
    (hmem : attempt ∈ replay.attempts)
    (hchange : AttemptChange env replay event attempt step attempt')
    (hnamed : ∀ call pending, step = .toolClosed call → attempt.pendingTool = some pending →
      call = pending.toolCallId) :
    IdentitiesMatch attempt' (step :: steps) := by
  cases hchange with
  | modelPrepared prepared supplied idle handoff fresh freshReservation ordinal cap stored =>
    refine ⟨?_, ?_, ?_⟩
    · intro call reservation hcall
      rcases List.mem_cons.mp hcall with heq | hcall
      · cases heq
        exact .inl ⟨_, rfl, rfl, rfl⟩
      · rcases h.models call reservation hcall with ⟨found, hfound, -⟩ | hcompleted
        · cases idle.pendingModel.symm.trans hfound
        · exact .inr hcompleted
    · intro pending hpending
      cases hpending
      have hseen := List.any_eq_false.mp fresh attempt hmem
      simp only [Bool.or_eq_true, not_or, Bool.not_eq_true] at hseen
      apply Std.ExtTreeMap.getElem?_eq_none
      intro hcontains
      rw [← Std.ExtTreeMap.contains_iff_mem] at hcontains
      exact Bool.false_ne_true (hseen.2.symm.trans hcontains)
    · exact h.tools
  | modelSucceeded observed pending validated completed isPending outcome pendingTool count named
      valid =>
    refine ⟨?_, ?_, h.tools⟩
    · intro call reservation hcall
      exact .inr (h.closeModel isPending call reservation hcall)
    · intro pending hpending
      cases hpending
  | modelFailed pending call completed incomparable contiguous clock retry isPending outcome
      pendingTool count named =>
    refine ⟨?_, ?_, h.tools⟩
    · intro call reservation hcall
      exact .inr (h.closeModel isPending call reservation hcall)
    · intro pending hpending
      cases hpending
  | toolPrepared prepared pending source reset idle handoff fresh ordinal cap successful proposed
      isPending stored =>
    refine ⟨h.models, h.pendingFresh, ?_⟩
    intro call hcall
    rcases List.mem_cons.mp hcall with rfl | hcall
    · exact .inl ⟨pending, rfl, isPending.1⟩
    · rcases h.tools call hcall with ⟨found, hfound, -⟩ | hcompleted
      · cases idle.pendingTool.symm.trans hfound
      · exact .inr hcompleted
  | toolStarted started pending isPending outcome call stored =>
    refine ⟨h.models, h.pendingFresh, ?_⟩
    intro call hcall
    rcases h.tools call hcall with ⟨found, hfound, rfl⟩ | hcompleted
    · cases isPending.symm.trans hfound
      exact .inl ⟨_, rfl, rfl⟩
    · exact .inr hcompleted
  | toolClosed pending closed context completed clock incomparable contiguous reset brokerClock
      results failure isPending outcome count named =>
    refine ⟨h.models, h.pendingFresh, ?_⟩
    intro call hcall
    right
    have hclosed : closed = pending.toolCallId := hnamed closed pending rfl isPending
    rcases h.tools call hcall with ⟨found, hfound, rfl⟩ | hcompleted
    · cases isPending.symm.trans hfound
      exact Std.ExtTreeSet.mem_insert.mpr (.inl (by simp [hclosed]))
    · exact Std.ExtTreeSet.mem_insert.mpr (.inr hcompleted)
  | handoff status source idle handoff successful proposed =>
    exact ⟨h.models, h.pendingFresh, h.tools⟩
  | finished finished idle counts succeeded bound stored =>
    exact ⟨h.models, h.pendingFresh, h.tools⟩

end Identities

section Stored

variable {sessionId : SessionId} {runId : RunId}

/-- The events that the pending slots and the terminal name are in the log, and say so. -/
structure StoredMatch (log : EventLog) (sessionId : SessionId) (runId : RunId)
    (attempt : ReplayedChildAttempt) : Prop where
  model : ∀ pending, attempt.pendingModel = some pending → ∃ event,
    storedEventForRun log sessionId runId pending.preparedEventId = .ok event ∧
      event.payload.preparedModel = some (attempt.projection.attemptId, pending.modelCallId)
  tool : ∀ pending, attempt.pendingTool = some pending → ∃ event,
    storedEventForRun log sessionId runId pending.preparedEventId = .ok event ∧
      event.payload.preparedTool = some (attempt.projection.attemptId, pending.toolCallId)
  start : ∀ pending startedEventId, attempt.pendingTool = some pending →
    pending.startedEventId = some startedEventId → ∃ event started,
    storedEventForRun log sessionId runId startedEventId = .ok event ∧
      event.payload = .childToolDispatchStartedV2 started ∧
      started.binding.attemptId = attempt.projection.attemptId ∧
      started.toolCallId = pending.toolCallId ∧
      started.preparedEventId = pending.preparedEventId
  terminal : ∀ outcome, attempt.projection.outcome = some outcome →
    ∃ terminalEventId event finished, attempt.projection.terminalEventId = some terminalEventId ∧
      storedEventForRun log sessionId runId terminalEventId = .ok event ∧
      event.payload = .childExecutionFinished finished ∧
      finished.binding.attemptId = attempt.projection.attemptId ∧ finished.outcome = outcome
  noTerminal : attempt.projection.outcome = none → attempt.projection.terminalEventId = none

theorem StoredMatch.change (h : StoredMatch log sessionId runId attempt)
    (hstored : storedEventForRun log sessionId runId event.id = .ok event)
    (hchange : AttemptChange env replay event attempt step attempt') :
    StoredMatch log sessionId runId attempt' := by
  cases hchange with
  | modelPrepared prepared supplied idle handoff fresh freshReservation ordinal cap stored =>
    refine ⟨?_, h.tool, h.start, h.terminal, h.noTerminal⟩
    intro pending hpending
    cases hpending
    exact ⟨event, hstored, stored⟩
  | modelSucceeded observed pending validated completed isPending outcome pendingTool count named
      valid =>
    refine ⟨?_, h.tool, h.start, h.terminal, h.noTerminal⟩
    intro pending hpending
    cases hpending
  | modelFailed pending call completed incomparable contiguous clock retry isPending outcome
      pendingTool count named =>
    refine ⟨?_, h.tool, h.start, h.terminal, h.noTerminal⟩
    intro pending hpending
    cases hpending
  | toolPrepared prepared pending source reset idle handoff fresh ordinal cap successful proposed
      isPending stored =>
    refine ⟨h.model, ?_, ?_, h.terminal, h.noTerminal⟩
    · intro found hfound
      cases hfound
      rw [isPending.1, isPending.2.1]
      exact ⟨event, hstored, stored⟩
    · intro found startedEventId hfound hstarted
      cases hfound
      cases isPending.2.2.symm.trans hstarted
  | toolStarted started pending isPending outcome call stored =>
    refine ⟨h.model, ?_, ?_, h.terminal, h.noTerminal⟩
    · intro found hfound
      cases hfound
      exact h.tool pending isPending
    · intro found startedEventId hfound hstarted
      cases hfound
      cases hstarted
      exact ⟨event, started, hstored, stored, call.2.2, call.1, call.2.1⟩
  | toolClosed pending closed context completed clock incomparable contiguous reset brokerClock
      results failure isPending outcome count named =>
    refine ⟨h.model, ?_, ?_, h.terminal, h.noTerminal⟩
    · intro pending hpending
      cases hpending
    · intro pending startedEventId hpending
      cases hpending
  | handoff status source idle handoff successful proposed =>
    exact ⟨h.model, h.tool, h.start, h.terminal, h.noTerminal⟩
  | finished finished idle counts succeeded bound stored =>
    refine ⟨h.model, h.tool, h.start, ?_, ?_⟩
    · intro outcome houtcome
      cases houtcome
      exact ⟨event.id, event, finished, rfl, hstored, stored, bound, rfl⟩
    · intro houtcome
      cases houtcome

end Stored

section Attempts

variable {sessionId : SessionId} {runId : RunId}

/-- One replayed attempt holds what its trace says. -/
structure AttemptMatches (env : Environment) (log : EventLog) (sessionId : SessionId)
    (runId : RunId) (attempt : ReplayedChildAttempt) (trace : AttemptTrace) : Prop where
  attemptId : attempt.projection.attemptId = trace.attemptId
  effects : EffectsMatch attempt trace.steps
  outcome : OutcomeMatch attempt trace.steps
  plans : PlanMatch env attempt trace.steps
  identities : IdentitiesMatch attempt trace.steps
  stored : StoredMatch log sessionId runId attempt

/-- The latest success authorises what its response proposes. -/
theorem AttemptMatches.authorised {trace : AttemptTrace}
    (h : AttemptMatches env log sessionId runId attempt trace) (hidle : attempt.Idle)
    {source : SuccessfulChildModel} (hsource : attempt.lastSuccessfulModel = some source)
    {wanted : ChildAction → Bool} (hwanted : wanted source.proposedAction = true) :
    AuthorisedBy env wanted trace.steps := by
  obtain ⟨call, evidence, response, hhead, hread, haction⟩ := h.plans.proposal source hsource hidle
  exact ⟨call, evidence, response, hhead, hread, haction ▸ hwanted⟩

/-- With nothing in flight the trace has nothing pending. -/
theorem AttemptMatches.pendingCall_eq_none {trace : AttemptTrace}
    (h : AttemptMatches env log sessionId runId attempt trace) (hidle : attempt.Idle) :
    pendingCall trace.steps = none := by
  rw [h.effects.pending, ReplayedChildAttempt.pendingCall, hidle.pendingModel, hidle.pendingTool]
  rfl

/-- Every change is a lawful step of the trace. -/
theorem AttemptMatches.lawful {trace : AttemptTrace}
    (h : AttemptMatches env log sessionId runId attempt trace)
    (hchange : AttemptChange env replay event attempt step attempt')
    (hnamed : ∀ call pending, step = .toolClosed call → attempt.pendingTool = some pending →
      call = pending.toolCallId) :
    StepLawful env replay.issued.spec step trace.steps := by
  cases hchange with
  | modelPrepared prepared supplied idle handoff fresh freshReservation ordinal cap stored =>
    refine ⟨h.pendingCall_eq_none idle, h.outcome.unfinished idle.outcome, ?_, cap⟩
    rw [checkedSucc32_eq_some ordinal, h.effects.preparedModels, h.effects.closedModels,
      idle.pendingModel]
    rfl
  | modelSucceeded observed pending validated completed isPending outcome pendingTool count named
      valid =>
    refine ⟨?_, h.outcome.unfinished outcome, ?_⟩
    · rw [h.effects.pending, ReplayedChildAttempt.pendingCall, isPending, named]
      rfl
    · intro artifact hartifact
      cases hartifact
      exact (h.plans.nextRevision valid h.effects.room).1
  | modelFailed pending call completed incomparable contiguous clock retry isPending outcome
      pendingTool count named =>
    refine ⟨?_, h.outcome.unfinished outcome, ?_⟩
    · rw [h.effects.pending, ReplayedChildAttempt.pendingCall, isPending, named]
      rfl
    · intro artifact hartifact
      cases hartifact
  | toolPrepared prepared pending source reset idle handoff fresh ordinal cap successful proposed
      isPending stored =>
    refine ⟨h.pendingCall_eq_none idle, h.outcome.unfinished idle.outcome, ?_, cap, ?_⟩
    · rw [checkedSucc32_eq_some ordinal, h.effects.preparedTools, h.effects.closedTools,
        idle.pendingTool]
      rfl
    · exact h.authorised idle successful (by simp [proposed])
  | toolStarted started pending isPending outcome call stored =>
    refine ⟨?_, h.outcome.unfinished outcome, trivial⟩
    rw [h.effects.pending, ReplayedChildAttempt.pendingCall,
      pendingModel_eq_none h.effects.onePending isPending, isPending]
    rfl
  | toolClosed pending call context completed clock incomparable contiguous reset brokerClock
      results failure isPending outcome count named =>
    refine ⟨?_, h.outcome.unfinished outcome, trivial⟩
    rw [h.effects.pending, ReplayedChildAttempt.pendingCall,
      pendingModel_eq_none h.effects.onePending isPending, isPending, hnamed call pending rfl isPending]
    rfl
  | handoff status source idle handoff successful proposed =>
    exact ⟨h.pendingCall_eq_none idle, h.outcome.unfinished idle.outcome,
      h.authorised idle successful proposed⟩
  | finished finished idle counts succeeded bound stored =>
    refine ⟨h.pendingCall_eq_none idle, h.outcome.unfinished idle.outcome, ?_, ?_, ?_⟩
    · rw [counts.1, h.effects.closedModels]
    · rw [counts.2, h.effects.closedTools]
    · rw [succeeded, h.outcome.handoff]

theorem AttemptChange.attemptId (hchange : AttemptChange env replay event attempt step attempt') :
    attempt'.projection.attemptId = attempt.projection.attemptId := by
  cases hchange <;> rfl

/-- The trace with one more event of its own. -/
def AttemptTrace.push (trace : AttemptTrace) (step : AttemptStep) : AttemptTrace :=
  { trace with events := (trace.attemptId, step) :: trace.events }

theorem AttemptMatches.change {trace : AttemptTrace}
    (h : AttemptMatches env log sessionId runId attempt trace)
    (hmem : attempt ∈ replay.attempts)
    (hstored : storedEventForRun log sessionId runId event.id = .ok event)
    (hchange : AttemptChange env replay event attempt step attempt')
    (hnamed : ∀ call pending, step = .toolClosed call → attempt.pendingTool = some pending →
      call = pending.toolCallId) :
    AttemptMatches env log sessionId runId attempt' (trace.push step) where
  attemptId := hchange.attemptId.trans h.attemptId
  effects := h.effects.change hchange
  outcome := h.outcome.change hchange
  plans := h.plans.change h.effects hchange
  identities := h.identities.change hmem hchange hnamed
  stored := h.stored.change hstored hchange

/-- A claim adoption changes nothing that the trace speaks of. -/
theorem AttemptMatches.adopt {trace : AttemptTrace}
    (h : AttemptMatches env log sessionId runId attempt trace)
    (incomparable contiguous requiresUnknown : Bool) (tail : EventId) :
    AttemptMatches env log sessionId runId
      { attempt.withClock incomparable contiguous with
        pendingEffectRequiresUnknown := requiresUnknown
        tailEventId := tail } trace where
  attemptId := h.attemptId
  effects := { h.effects with }
  outcome := { h.outcome with }
  plans := ⟨h.plans.plan,
    fun source hsource hidle => h.plans.proposal source hsource ⟨hidle.1, hidle.2, hidle.3⟩,
    fun hidle => h.plans.ready ⟨hidle.1, hidle.2, hidle.3⟩⟩
  identities := { h.identities with }
  stored := { h.stored with }

/-- A fresh attempt has an empty trace. -/
theorem AttemptMatches.started (eventId : EventId) (started : ChildExecutionStarted) :
    AttemptMatches env log sessionId runId (startedAttempt eventId started) ⟨started, []⟩ where
  attemptId := rfl
  effects := ⟨rfl, fun _ _ => rfl, rfl, rfl, rfl, rfl⟩
  outcome := ⟨by simp [startedAttempt, AttemptTrace.steps], by simp [AttemptTrace.steps],
    by simp [startedAttempt]⟩
  plans := ⟨trivial, by simp [startedAttempt], by simp [startedAttempt]⟩
  identities := ⟨by simp [AttemptTrace.steps], by simp [startedAttempt],
    by simp [AttemptTrace.steps]⟩
  stored := ⟨by simp [startedAttempt], by simp [startedAttempt], by simp [startedAttempt],
    by simp [startedAttempt], by simp [startedAttempt]⟩

end Attempts

end BirdCode.Store
