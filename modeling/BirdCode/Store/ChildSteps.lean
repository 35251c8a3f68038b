import BirdCode.Store.ChildLifecycle

/-! What each accepted event does to the replayed state, said once for every kind of event: the
guards it passed and the attempt it leaves. -/
namespace BirdCode.Store

variable {env : Environment} {log : EventLog} {replay next : ChildReplay} {event : EventEnvelope}
  {attempt : ReplayedChildAttempt}

/-- Only the marks of continuity differ. -/
def ReplayedChildAttempt.withClock (attempt : ReplayedChildAttempt)
    (incomparable contiguous : Bool) : ReplayedChildAttempt :=
  { attempt with
    clockBecameIncomparable := incomparable
    projection := { attempt.projection with monotonicClockContiguous := contiguous } }

/-- Nothing is in flight and the attempt is open. -/
structure ReplayedChildAttempt.Idle (attempt : ReplayedChildAttempt) : Prop where
  outcome : attempt.projection.outcome = none
  pendingModel : attempt.pendingModel = none
  pendingTool : attempt.pendingTool = none

/-- The response that a success retains, and the plan binding that its plan is checked into. -/
structure ValidSuccess (env : Environment) (attempt : ReplayedChildAttempt)
    (evidence : ArtifactRef) (validated : ValidatedChildModelSuccess) : Prop where
  retained : ∃ response, retainedResponse env evidence = some response ∧
    response.plan = validated.plan ∧ response.action = validated.action
  revision : validPlanRevision attempt.latestPlan validated.plan = true
  bindingRevision : validated.planBinding.revision = validated.plan.revision
  digest : canonicalPlanDigest env validated.plan = some validated.planBinding.planDigest

/-- The step of one event on the latest attempt. The last field of a tool's terminal is what the
two versions differ in: only a broker-v2 Unknown may name another call than the pending one. -/
inductive AttemptChange (env : Environment) (replay : ChildReplay) (event : EventEnvelope)
    (attempt : ReplayedChildAttempt) : AttemptStep → ReplayedChildAttempt → Prop
  | modelPrepared (prepared : ChildModelInferencePrepared)
      (supplied : BTreeMap ChildToolCallId (UInt32 × EventId × ArtifactRef))
      (idle : attempt.Idle) (handoff : attempt.projection.handoffEventId = none)
      (fresh : replay.childModelCallSeen prepared.modelCallId = false)
      (freshReservation : replay.childTokenReservationSeen prepared.tokenReservation.id = false)
      (ordinal : checkedSucc32 attempt.projection.completedModelCalls =
        some prepared.modelCallOrdinal)
      (cap : prepared.modelCallOrdinal ≤ replay.issued.spec.maxModelCallsPerAttempt)
      (stored : event.payload.preparedModel =
        some (attempt.projection.attemptId, prepared.modelCallId)) :
      AttemptChange env replay event attempt prepared.step
        ({ attempt with suppliedToolResults := supplied }.prepareModel event.id prepared)
  | modelSucceeded (observed : ChildModelInferenceObserved) (pending : PendingChildModel)
      (validated : ValidatedChildModelSuccess) (completed : UInt32)
      (isPending : attempt.pendingModel = some pending)
      (outcome : attempt.projection.outcome = none) (pendingTool : attempt.pendingTool = none)
      (count : checkedSucc32 attempt.projection.completedModelCalls = some completed)
      (named : observed.modelCallId = pending.modelCallId)
      (valid : ValidSuccess env attempt observed.normalizedCompleteEvidenceArtifact validated) :
      AttemptChange env replay event attempt
        (.modelClosed observed.modelCallId (some observed.normalizedCompleteEvidenceArtifact))
        ((attempt.closeModel pending completed event.id observed.finishedAt).retainModelSuccess
          event.id observed validated)
  | modelFailed (pending : PendingChildModel) (call : ChildModelCallId) (completed : UInt32)
      (incomparable contiguous : Bool) (clock : RuntimeClockReading) (retry : RetryDisposition)
      (isPending : attempt.pendingModel = some pending)
      (outcome : attempt.projection.outcome = none) (pendingTool : attempt.pendingTool = none)
      (count : checkedSucc32 attempt.projection.completedModelCalls = some completed)
      (named : call = pending.modelCallId) :
      AttemptChange env replay event attempt (.modelClosed call none)
        (((attempt.withClock incomparable contiguous).closeModel pending completed event.id
          clock).retainModelFailure event.id call retry)
  | toolPrepared {Decision : Type} (prepared : ChildToolPrepared Decision)
      (pending : PendingChildTool) (source : SuccessfulChildModel)
      (reset : Option RepositoryBrokerInstanceId)
      (idle : attempt.Idle) (handoff : attempt.projection.handoffEventId = none)
      (fresh : replay.childToolCallSeen prepared.toolCallId = false)
      (ordinal : checkedSucc32 attempt.projection.completedToolCalls = some prepared.toolOrdinal)
      (cap : prepared.toolOrdinal ≤ replay.issued.spec.maxToolCallsPerAttempt)
      (successful : attempt.lastSuccessfulModel = some source)
      (proposed : source.proposedAction.toolOperation = some prepared.operation)
      (isPending : pending.toolCallId = prepared.toolCallId ∧
        pending.preparedEventId = event.id ∧ pending.startedEventId = none)
      (stored : event.payload.preparedTool =
        some (attempt.projection.attemptId, prepared.toolCallId)) :
      AttemptChange env replay event attempt prepared.step
        (attempt.prepareTool event.id prepared pending reset)
  | toolStarted (started : ChildToolDispatchStartedV2) (pending : PendingChildTool)
      (isPending : attempt.pendingTool = some pending)
      (outcome : attempt.projection.outcome = none)
      (call : started.toolCallId = pending.toolCallId ∧
        started.preparedEventId = pending.preparedEventId ∧
        started.binding.attemptId = attempt.projection.attemptId)
      (stored : event.payload = .childToolDispatchStartedV2 started) :
      AttemptChange env replay event attempt (.toolStarted pending.toolCallId)
        { attempt with
          pendingTool := some { pending with startedEventId := some event.id }
          tailEventId := event.id
          tailClock := started.startedAt }
  | toolClosed (pending : PendingChildTool) (call : ChildToolCallId)
      (context : ChildPreviousToolContext) (completed : UInt32) (clock : RuntimeClockReading)
      (incomparable contiguous : Bool) (reset : Option RepositoryBrokerInstanceId)
      (brokerClock : Option RepositoryBrokerClock)
      (results : BTreeMap ChildToolCallId (EventId × ArtifactRef))
      (failure : Option (EventId × ChildToolCallId))
      (isPending : attempt.pendingTool = some pending)
      (outcome : attempt.projection.outcome = none)
      (count : checkedSucc32 attempt.projection.completedToolCalls = some completed)
      (named : call = pending.toolCallId ∨ ∃ unknown,
        event.payload = .childToolOutcomeUnknownV2 unknown ∧ unknown.toolCallId = call ∧
          unknown.preparedEventId = pending.preparedEventId) :
      AttemptChange env replay event attempt (.toolClosed call)
        ({ attempt.withClock incomparable contiguous with
          brokerResetAuthorizedFrom := reset
          lastBrokerTerminalClock := brokerClock
          observedResults := results
          toolFailureTerminal := failure }.closeTool context call completed event.id clock)
  | handoff (status : ChildHandoffStatus) (source : SuccessfulChildModel)
      (idle : attempt.Idle) (handoff : attempt.projection.handoffEventId = none)
      (successful : attempt.lastSuccessfulModel = some source)
      (proposed : source.proposedAction.isFinish = true) :
      AttemptChange env replay event attempt .handoff
        { attempt with
          projection := { attempt.projection with handoffEventId := some event.id }
          handoffStatus := some status
          lastSuccessfulModel := none
          tailEventId := event.id }
  | finished (finished : ChildExecutionFinished)
      (idle : attempt.Idle)
      (counts : finished.completedModelCalls = attempt.projection.completedModelCalls ∧
        finished.completedToolCalls = attempt.projection.completedToolCalls)
      (succeeded : finished.outcome.isSucceeded = true ↔
        attempt.projection.handoffEventId.isSome = true)
      (bound : finished.binding.attemptId = attempt.projection.attemptId)
      (stored : event.payload = .childExecutionFinished finished) :
      AttemptChange env replay event attempt (.finished finished)
        { attempt with
          projection := { attempt.projection with
            terminalEventId := some event.id
            finishedAt := some finished.finishedAt
            outcome := some finished.outcome }
          tailEventId := event.id
          tailClock := finished.finishedAt }

/-- What one event does to an issued child. -/
inductive ChildChange (env : Environment) (replay : ChildReplay) (event : EventEnvelope) :
    ChildReplay → Prop
  | adopted (adopted : ChildExecutionClaimAdopted) (claim : ActiveChildClaim)
      (payload : event.payload = .childExecutionClaimAdopted adopted)
      (unstarted : replay.attempts = []) :
      ChildChange env replay event
        { replay with preAttemptTailEventId := event.id, activeClaim := claim }
  | adoptedAttempt (adopted : ChildExecutionClaimAdopted) (claim : ActiveChildClaim)
      (attempt : ReplayedChildAttempt) (incomparable contiguous requiresUnknown : Bool)
      (payload : event.payload = .childExecutionClaimAdopted adopted)
      (last : replay.last = some attempt) :
      ChildChange env replay event
        { replay.setLast { attempt.withClock incomparable contiguous with
            pendingEffectRequiresUnknown := requiresUnknown
            tailEventId := event.id } with
          activeClaim := claim }
  | started (started : ChildExecutionStarted)
      (payload : event.payload = .childExecutionStarted started)
      (room : replay.attempts.length < replay.issued.spec.maxAttempts.toNat)
      (fresh : ∀ attempt ∈ replay.attempts,
        attempt.projection.attemptId ≠ started.binding.attemptId)
      (parent : retryParent replay started = .ok ()) :
      ChildChange env replay event
        { replay with attempts := startedAttempt event.id started :: replay.attempts }
  | attempt (attempt attempt' : ReplayedChildAttempt) (step : AttemptStep)
      (last : replay.last = some attempt)
      (reads : event.payload.attemptStep = some (attempt.projection.attemptId, step))
      (change : AttemptChange env replay event attempt step attempt') :
      ChildChange env replay event (replay.setLast attempt')

section ModelCalls

theorem validateModelPrepared_ok {prepared : ChildModelInferencePrepared} {allowBrokerV2 : Bool}
    {input : ChildRepositoryExplorerTurnInput}
    (h : validateModelPrepared env log replay attempt event prepared allowBrokerV2 = .ok input) :
    replay.childModelCallSeen prepared.modelCallId = false ∧
      replay.childTokenReservationSeen prepared.tokenReservation.id = false ∧
      modelPreparable replay attempt event prepared = .ok () := by
  simp only [validateModelPrepared, bind_eq_ok, ensure_eq_ok] at h
  obtain ⟨-, ⟨hcall, hreservation⟩, -, -, -, -, -, -, -, -, ⟨⟩, hpreparable, -⟩ := h
  exact ⟨hcall, hreservation, hpreparable⟩

/-- Either version of Prepared, once its checks have passed. -/
theorem modelPrepared_change {prepared : ChildModelInferencePrepared} {allowBrokerV2 : Bool}
    {input : ChildRepositoryExplorerTurnInput}
    (supplied : BTreeMap ChildToolCallId (UInt32 × EventId × ArtifactRef))
    (hlast : replay.last = some attempt)
    (hvalid : validateModelPrepared env log replay attempt event prepared allowBrokerV2 = .ok input)
    (hreads : event.payload.attemptStep = some (prepared.binding.attemptId, prepared.step))
    (hstored : event.payload.preparedModel =
      some (prepared.binding.attemptId, prepared.modelCallId)) :
    ChildChange env replay event (replay.setLast
      ({ attempt with suppliedToolResults := supplied }.prepareModel event.id prepared)) := by
  obtain ⟨hfresh, hreservation, hpreparable⟩ := validateModelPrepared_ok hvalid
  simp only [modelPreparable, bind_eq_ok, ensure_eq_ok, expect_eq_ok, Option.isNone_iff_eq_none]
    at hpreparable
  obtain ⟨ordinal, hordinal, hattempt, hopen, hmodel, htool, hhandoff, -, -, -, heq, hcap, -⟩ :=
    hpreparable
  rw [hattempt] at hreads hstored
  exact .attempt attempt _ _ hlast hreads <| .modelPrepared prepared supplied
    ⟨hopen, hmodel, htool⟩ hhandoff hfresh hreservation (heq ▸ hordinal) hcap hstored

theorem replayModelPrepared_change {prepared : ChildModelInferencePrepared}
    (hpayload : event.payload = .childModelInferencePrepared prepared)
    (h : replayModelPrepared env log replay event prepared = .ok next) :
    ChildChange env replay event next := by
  simp only [replayModelPrepared, bind_eq_ok, expect_eq_ok] at h
  obtain ⟨attempt, hlast, input, hvalid, hnext⟩ := h
  cases hnext
  exact modelPrepared_change attempt.suppliedToolResults hlast hvalid
    (by rw [hpayload]; rfl) (by rw [hpayload]; rfl)

theorem replayModelPreparedV2_change {prepared : ChildModelInferencePreparedV2}
    (hpayload : event.payload = .childModelInferencePreparedV2 prepared)
    (h : replayModelPreparedV2 env log replay event prepared = .ok next) :
    ChildChange env replay event next := by
  simp only [replayModelPreparedV2, bind_eq_ok, expect_eq_ok] at h
  obtain ⟨-, -, attempt, hlast, input, hvalid, -, -, supplied, -, hnext⟩ := h
  cases hnext
  exact modelPrepared_change _ hlast hvalid (by rw [hpayload]; rfl) (by rw [hpayload]; rfl)

theorem validateChildLocalPlan_ok {spec : ChildWorkOrderSpec} {binding : ChildExecutionBinding}
    {localPlanId : ChildLocalPlanId} {prior : Option RetainedChildPlan}
    {plan : ChildLocalPlanSnapshot} {action : ChildAction} {planBinding : ChildLocalPlanBinding}
    (h : validateChildLocalPlan env spec binding localPlanId prior plan action =
      .ok planBinding) :
    validPlanRevision prior plan = true ∧ planBinding.revision = plan.revision ∧
      canonicalPlanDigest env plan = some planBinding.planDigest := by
  simp only [validateChildLocalPlan, bind_eq_ok, ensure_eq_ok, expect_eq_ok] at h
  obtain ⟨-, -, -, hrevision, -, -, -, -, -, -, -, -, -, -, -, -, bytes, hbytes, digest, hdigest,
    hbinding⟩ := h
  cases hbinding
  refine ⟨hrevision, rfl, ?_⟩
  simp [canonicalPlanDigest, hbytes, hdigest, Except.toOption]

/-- Evidence of a success is what `retainedResponse` reads; evidence of a failure has none. -/
theorem validateChildModelObservedDocument_ok {observed : ChildModelInferenceObserved}
    {pending : PendingChildModel} {spec : ChildWorkOrderSpec}
    {validated : Option ValidatedChildModelSuccess}
    (h : validateChildModelObservedDocument env observed pending spec attempt.latestPlan =
      .ok validated) :
    observed.modelCallId = pending.modelCallId ∧
      ∀ success, validated = some success →
        ValidSuccess env attempt observed.normalizedCompleteEvidenceArtifact success := by
  simp only [validateChildModelObservedDocument, bind_eq_ok, ensure_eq_ok] at h
  obtain ⟨-, ⟨-, -, -, hcall, -⟩, retained, hread, -, -, hevidence⟩ := h
  refine ⟨hcall, ?_⟩
  rintro success rfl
  cases houtcome : retained.outcome with
  | failed error normalizedError =>
    simp only [houtcome, validateChildModelEvidence, bind_eq_ok] at hevidence
    obtain ⟨-, -, hnone⟩ := hevidence
    cases hnone
  | succeeded reported usage rawText providerValue response providerEvidence =>
    simp only [houtcome, validateChildModelEvidence, bind_eq_ok] at hevidence
    obtain ⟨-, -, -, -, -, -, planBinding, hplan, hsuccess⟩ := hevidence
    cases hsuccess
    obtain ⟨hrevision, hbinding, hdigest⟩ := validateChildLocalPlan_ok hplan
    refine ⟨⟨response, ?_, rfl, rfl⟩, hrevision, hbinding, hdigest⟩
    simp [retainedResponse, hread, Except.toOption, houtcome]

theorem replayModelObserved_change {observed : ChildModelInferenceObserved}
    (hpayload : event.payload = .childModelInferenceObserved observed)
    (h : replayModelObserved env log replay event observed = .ok next) :
    ChildChange env replay event next := by
  simp only [replayModelObserved, bind_eq_ok, ensure_eq_ok, expect_eq_ok,
    Option.isNone_iff_eq_none] at h
  obtain ⟨-, -, -, -, -, -, attempt, hlast, pending, hpending, -,
    ⟨hattempt, hopen, htool, -, -⟩, validated, hvalid, completed, hcount, hnext⟩ := h
  obtain ⟨hcall, hsuccess⟩ := validateChildModelObservedDocument_ok hvalid
  have hreads : event.payload.attemptStep =
      some (attempt.projection.attemptId, observed.step) := by
    rw [hpayload, ← hattempt]
    rfl
  cases houtcome : observed.outcome with
  | succeeded reported usage =>
    simp only [houtcome, bind_eq_ok, expect_eq_ok] at hnext
    obtain ⟨success, rfl, hnext⟩ := hnext
    cases hnext
    simp only [ChildModelInferenceObserved.step, houtcome] at hreads
    exact .attempt attempt _ _ hlast hreads <| .modelSucceeded observed pending success completed
      hpending hopen htool hcount hcall (hsuccess success rfl)
  | failed error =>
    simp only [houtcome, bind_eq_ok] at hnext
    obtain ⟨-, -, hnext⟩ := hnext
    cases hnext
    simp only [ChildModelInferenceObserved.step, houtcome] at hreads
    exact .attempt attempt _ _ hlast hreads <| .modelFailed pending observed.modelCallId completed
      attempt.clockBecameIncomparable attempt.projection.monotonicClockContiguous
      observed.finishedAt error.retry hpending hopen htool hcount hcall

theorem replayModelUnknown_change {unknown : ChildModelInferenceOutcomeUnknown}
    (hpayload : event.payload = .childModelInferenceOutcomeUnknown unknown)
    (h : replayModelUnknown env log replay event unknown = .ok next) :
    ChildChange env replay event next := by
  simp only [replayModelUnknown, bind_eq_ok, ensure_eq_ok, expect_eq_ok,
    Option.isNone_iff_eq_none] at h
  obtain ⟨-, -, -, -, -, -, attempt, hlast, pending, hpending, -,
    ⟨hattempt, hopen, htool, -⟩, incomparable, hvalid, completed, hcount, hnext⟩ := h
  cases hnext
  have hcall : unknown.modelCallId = pending.modelCallId := by
    simp only [validateChildModelUnknownDocument, bind_eq_ok, ensure_eq_ok] at hvalid
    obtain ⟨-, ⟨-, -, -, hcall, -⟩, -⟩ := hvalid
    exact hcall
  have hreads : event.payload.attemptStep =
      some (attempt.projection.attemptId, .modelClosed unknown.modelCallId none) := by
    rw [hpayload, ← hattempt]
    rfl
  exact .attempt attempt _ _ hlast hreads <| .modelFailed pending unknown.modelCallId completed _ _
    unknown.boundaryAt unknown.retry hpending hopen htool hcount hcall

end ModelCalls

section ToolCalls

theorem validateChildActionBinding_ok {binding : ChildExecutionBinding}
    {actionBinding : ChildValidatedActionBinding} {document : ChildValidatedActionDocument}
    (h : validateChildActionBinding env binding actionBinding attempt = .ok document) :
    ∃ source, attempt.lastSuccessfulModel = some source ∧
      document.action = source.proposedAction := by
  simp only [validateChildActionBinding, bind_eq_ok, ensure_eq_ok, expect_eq_ok] at h
  obtain ⟨source, hsource, -, -, read, -, -, hchecks, hdocument⟩ := h
  cases hdocument
  obtain ⟨-, -, -, -, -, -, -, -, -, -, -, -, -, haction⟩ := hchecks
  exact ⟨source, hsource, haction⟩

theorem validateChildActionAgainstAuthority_ok {action : ChildAction}
    {authority : ChildRepositoryAuthority} {grant : RepositoryToolGrant}
    {operation : ChildToolOperation}
    (h : validateChildActionAgainstAuthority action authority = .ok (some (grant, operation))) :
    action.toolOperation = some operation := by
  unfold validateChildActionAgainstAuthority at h
  split at h
  · cases h
  · simp only [bind_eq_ok, ensure_eq_ok, expect_eq_ok] at h
    obtain ⟨granted, -, found, hfound, -, -, hpair⟩ := h
    cases hpair
    exact hfound

/-- The call that a Prepared document puts in flight carries out the model's proposal. -/
structure PreparesTool {Decision : Type} (event : EventEnvelope)
    (attempt : ReplayedChildAttempt) (prepared : ChildToolPrepared Decision)
    (pending : PendingChildTool) : Prop where
  proposed : ∃ source, attempt.lastSuccessfulModel = some source ∧
    source.proposedAction.toolOperation = some prepared.operation
  isPending : pending.toolCallId = prepared.toolCallId ∧ pending.preparedEventId = event.id ∧
    pending.startedEventId = none

theorem validateChildToolPreparedDocument_ok
    {prepared : ChildToolPrepared RepositoryToolAuthorizationDecision}
    {issued : ChildWorkOrderIssued} {pending : PendingChildTool}
    (h : validateChildToolPreparedDocument env event.id prepared issued attempt = .ok pending) :
    PreparesTool event attempt prepared pending := by
  simp only [validateChildToolPreparedDocument, bind_eq_ok, ensure_eq_ok, expect_eq_ok] at h
  obtain ⟨document, hdocument, granted, hgranted, ⟨grant, operation⟩, rfl,
    -, ⟨rfl, -⟩, receipt, -, -, -, -, -, -, -, -, -, hpending⟩ := h
  cases hpending
  obtain ⟨source, hsource, haction⟩ := validateChildActionBinding_ok hdocument
  exact ⟨⟨source, hsource, haction ▸ validateChildActionAgainstAuthority_ok hgranted⟩,
    rfl, rfl, rfl⟩

theorem validateChildToolPreparedDocumentV2_ok
    {prepared : ChildToolPrepared RepositoryToolAuthorizationDecisionV2}
    {issued : ChildWorkOrderIssued} {pending : PendingChildTool}
    (h : validateChildToolPreparedDocumentV2 env log event prepared issued attempt =
      .ok pending) :
    PreparesTool event attempt prepared pending := by
  simp only [validateChildToolPreparedDocumentV2, bind_eq_ok, ensure_eq_ok, expect_eq_ok] at h
  obtain ⟨document, hdocument, granted, hgranted, ⟨grant, operation⟩, rfl,
    -, ⟨rfl, -⟩, receipt, -, -, -, ⟨parameters, bytes⟩, -, -, -, -, -, -, -, epochEvent, -, h⟩ := h
  split at h
  · simp only [bind_eq_ok, ensure_eq_ok] at h
    obtain ⟨-, -, hpending⟩ := h
    cases hpending
    obtain ⟨source, hsource, haction⟩ := validateChildActionBinding_ok hdocument
    exact ⟨⟨source, hsource, haction ▸ validateChildActionAgainstAuthority_ok hgranted⟩,
      rfl, rfl, rfl⟩
  · cases h

/-- Either version of a tool's Prepared, once its checks have passed. -/
theorem toolPrepared_change {Decision : Type} {prepared : ChildToolPrepared Decision}
    {pending : PendingChildTool} {reset : Option RepositoryBrokerInstanceId}
    (hlast : replay.last = some attempt)
    (hpreparable : validateToolPreparable replay attempt event prepared = .ok ())
    (hvalid : PreparesTool event attempt prepared pending)
    (hreads : event.payload.attemptStep = some (prepared.binding.attemptId, prepared.step))
    (hstored : event.payload.preparedTool =
      some (prepared.binding.attemptId, prepared.toolCallId)) :
    ChildChange env replay event
      (replay.setLast (attempt.prepareTool event.id prepared pending reset)) := by
  simp only [validateToolPreparable, bind_eq_ok, ensure_eq_ok, expect_eq_ok,
    Option.isNone_iff_eq_none] at hpreparable
  obtain ⟨-, hfresh, -, -, -, -, ordinal, hordinal, hattempt, hopen, hmodel, htool, hhandoff,
    -, -, -, heq, hcap, -⟩ := hpreparable
  obtain ⟨⟨source, hsource, hproposed⟩, hpending⟩ := hvalid
  rw [hattempt] at hreads hstored
  exact .attempt attempt _ _ hlast hreads <| .toolPrepared prepared pending source reset
    ⟨hopen, hmodel, htool⟩ hhandoff hfresh (heq ▸ hordinal) hcap hsource hproposed hpending hstored

theorem replayToolPrepared_change
    {prepared : ChildToolPrepared RepositoryToolAuthorizationDecision}
    (hpayload : event.payload = .childToolPrepared prepared)
    (h : replayToolPrepared env replay event prepared = .ok next) :
    ChildChange env replay event next := by
  simp only [replayToolPrepared, bind_eq_ok, ensure_eq_ok, expect_eq_ok] at h
  obtain ⟨attempt, hlast, ⟨⟩, hpreparable, -, -, pending, hvalid, -, -, hnext⟩ := h
  cases hnext
  exact toolPrepared_change hlast hpreparable (validateChildToolPreparedDocument_ok hvalid)
    (by rw [hpayload]; rfl) (by rw [hpayload]; rfl)

theorem replayToolPreparedV2_change
    {prepared : ChildToolPrepared RepositoryToolAuthorizationDecisionV2}
    (hpayload : event.payload = .childToolPreparedV2 prepared)
    (h : replayToolPreparedV2 env log replay event prepared = .ok next) :
    ChildChange env replay event next := by
  simp only [replayToolPreparedV2, bind_eq_ok, expect_eq_ok] at h
  obtain ⟨attempt, hlast, ⟨⟩, hpreparable, pending, hvalid, runId, -, epochEvent, -, h⟩ := h
  split at h
  · simp only [bind_eq_ok, ensure_eq_ok] at h
    obtain ⟨-, -, -, -, hnext⟩ := h
    cases hnext
    obtain ⟨hproposed, hpending⟩ := validateChildToolPreparedDocumentV2_ok hvalid
    exact toolPrepared_change hlast hpreparable ⟨hproposed, hpending⟩
      (by rw [hpayload]; rfl) (by rw [hpayload]; rfl)
  · cases h

theorem replayToolDispatchStartedV2_change {started : ChildToolDispatchStartedV2}
    (hpayload : event.payload = .childToolDispatchStartedV2 started)
    (h : replayToolDispatchStartedV2 log replay event started = .ok next) :
    ChildChange env replay event next := by
  simp only [replayToolDispatchStartedV2, bind_eq_ok, ensure_eq_ok, expect_eq_ok] at h
  obtain ⟨-, -, -, -, runId, -, claimEvent, -, h⟩ := h
  split at h
  · simp only [bind_eq_ok, expect_eq_ok] at h
    obtain ⟨epochEvent, -, h⟩ := h
    split at h
    · simp only [bind_eq_ok, ensure_eq_ok, expect_eq_ok, Option.isNone_iff_eq_none] at h
      obtain ⟨attempt, hlast, pending, hpending, -,
        ⟨hattempt, hopen, -, -, -, -, hcall, hprepared, -⟩, hnext⟩ := h
      cases hnext
      refine .attempt attempt _ (.toolStarted pending.toolCallId) hlast ?_ <|
        .toolStarted started pending hpending hopen ⟨hcall, hprepared, hattempt⟩ hpayload
      rw [hpayload, ← hattempt, ← hcall]
      rfl
    · cases h
  · cases h

/-- A terminal of a tool call, whichever of its kinds, once its checks have passed. -/
theorem toolClosed_change (attempt : ReplayedChildAttempt) {pending : PendingChildTool}
    {call : ChildToolCallId} {context : ChildPreviousToolContext} {completed : UInt32} {clock : RuntimeClockReading}
    (incomparable contiguous : Bool) (reset : Option RepositoryBrokerInstanceId)
    {brokerClock : Option RepositoryBrokerClock}
    {results : BTreeMap ChildToolCallId (EventId × ArtifactRef)}
    {failure : Option (EventId × ChildToolCallId)} {attemptId : ChildAttemptId}
    (hlast : replay.last = some attempt) (hpending : attempt.pendingTool = some pending)
    (hopen : attempt.projection.outcome = none)
    (hcount : checkedSucc32 attempt.projection.completedToolCalls = some completed)
    (hattempt : attemptId = attempt.projection.attemptId)
    (hreads : event.payload.attemptStep = some (attemptId, .toolClosed call))
    (hnamed : call = pending.toolCallId ∨ ∃ unknown,
      event.payload = .childToolOutcomeUnknownV2 unknown ∧ unknown.toolCallId = call ∧
        unknown.preparedEventId = pending.preparedEventId) :
    ChildChange env replay event (replay.setLast
      ({ attempt.withClock incomparable contiguous with
        brokerResetAuthorizedFrom := reset
        lastBrokerTerminalClock := brokerClock
        observedResults := results
        toolFailureTerminal := failure }.closeTool context call completed event.id clock)) := by
  rw [hattempt] at hreads
  exact .attempt attempt _ _ hlast hreads <| .toolClosed pending call context completed clock
    incomparable contiguous reset brokerClock results failure hpending hopen hcount hnamed

theorem replayToolObserved_change {observed : ChildToolObserved ChildToolObservation}
    (hpayload : event.payload = .childToolObserved observed)
    (h : replayToolObserved env replay event observed = .ok next) :
    ChildChange env replay event next := by
  simp only [replayToolObserved, bind_eq_ok, ensure_eq_ok, expect_eq_ok,
    Option.isNone_iff_eq_none] at h
  obtain ⟨-, -, -, -, attempt, hlast, pending, hpending, -, ⟨hattempt, hopen, -, -⟩,
    ⟨resultArtifact, brokerClock⟩, hvalid, completed, hcount, hnext⟩ := h
  cases hnext
  have hcall : observed.toolCallId = pending.toolCallId := by
    simp only [validateChildToolObservedDocument, bind_eq_ok, ensure_eq_ok] at hvalid
    obtain ⟨-, ⟨-, -, -, -, hcall, -⟩, -⟩ := hvalid
    exact hcall
  exact toolClosed_change attempt attempt.clockBecameIncomparable
    attempt.projection.monotonicClockContiguous attempt.brokerResetAuthorizedFrom
    hlast hpending hopen hcount hattempt (by rw [hpayload]; rfl) (.inl hcall)

theorem replayToolObservedV2_change
    {observed : ChildToolObserved RepositoryToolObservedTerminalV2}
    (hpayload : event.payload = .childToolObservedV2 observed)
    (h : replayToolObservedV2 env replay event observed = .ok next) :
    ChildChange env replay event next := by
  simp only [replayToolObservedV2, bind_eq_ok, ensure_eq_ok, expect_eq_ok,
    Option.isNone_iff_eq_none] at h
  obtain ⟨-, -, -, -, attempt, hlast, pending, hpending, -, -, -,
    ⟨hattempt, hopen, -, hcall, -⟩, ⟨resultArtifact, brokerClock⟩, -, completed, hcount,
    hnext⟩ := h
  cases hnext
  exact toolClosed_change attempt attempt.clockBecameIncomparable
    attempt.projection.monotonicClockContiguous attempt.brokerResetAuthorizedFrom
    hlast hpending hopen hcount hattempt (by rw [hpayload]; rfl) (.inl hcall)

theorem pendingUnknownTool_ok {unknown : ChildToolOutcomeUnknown} {pending : PendingChildTool}
    (h : pendingUnknownTool log replay event unknown = .ok (attempt, pending)) :
    replay.last = some attempt ∧ attempt.pendingTool = some pending ∧
      unknown.binding.attemptId = attempt.projection.attemptId ∧
      attempt.projection.outcome = none := by
  simp only [pendingUnknownTool, bind_eq_ok, ensure_eq_ok, expect_eq_ok,
    Option.isNone_iff_eq_none] at h
  obtain ⟨-, -, -, -, -, -, found, hlast, tool, hpending, -, ⟨hattempt, hopen, -⟩, hpair⟩ := h
  cases hpair
  exact ⟨hlast, hpending, hattempt, hopen⟩

theorem replayToolUnknown_change {unknown : ChildToolOutcomeUnknown}
    (hpayload : event.payload = .childToolOutcomeUnknown unknown)
    (h : replayToolUnknown env log replay event unknown = .ok next) :
    ChildChange env replay event next := by
  simp only [replayToolUnknown, bind_eq_ok, expect_eq_ok] at h
  obtain ⟨⟨attempt, pending⟩, hpending, ⟨incomparable, brokerClock⟩, hvalid, completed, hcount,
    hnext⟩ := h
  cases hnext
  obtain ⟨hlast, hpending, hattempt, hopen⟩ := pendingUnknownTool_ok hpending
  have hcall : unknown.toolCallId = pending.toolCallId := by
    simp only [validateChildToolUnknownDocument, bind_eq_ok, ensure_eq_ok] at hvalid
    obtain ⟨-, ⟨-, -, -, -, -, hcall, -⟩, -⟩ := hvalid
    exact hcall
  exact toolClosed_change attempt _ _ attempt.brokerResetAuthorizedFrom hlast hpending hopen hcount
    hattempt (by rw [hpayload]; rfl) (.inl hcall)

/-- The broker-v2 document fixes the Prepared event that an Unknown closes, but not its call. -/
theorem validateChildToolUnknownDocumentV2_ok {unknown : ChildToolOutcomeUnknownV2}
    {pending : PendingChildTool} {closed : Bool × Option RepositoryBrokerClock}
    (h : validateChildToolUnknownDocumentV2 env log event unknown pending = .ok closed) :
    unknown.preparedEventId = pending.preparedEventId := by
  simp only [validateChildToolUnknownDocumentV2, bind_eq_ok, ensure_eq_ok] at h
  obtain ⟨-, -, receipt, -, boundary, -, -, ⟨-, -, -, hunknown, hpending, -⟩, -⟩ := h
  exact hunknown.symm.trans hpending

theorem replayToolUnknownV2_change {unknown : ChildToolOutcomeUnknownV2}
    (hpayload : event.payload = .childToolOutcomeUnknownV2 unknown)
    (h : replayToolUnknownV2 env log replay event unknown = .ok next) :
    ChildChange env replay event next := by
  simp only [replayToolUnknownV2, bind_eq_ok, expect_eq_ok] at h
  obtain ⟨⟨attempt, pending⟩, hpending, ⟨incomparable, brokerClock⟩, hvalid, completed, hcount,
    hnext⟩ := h
  cases hnext
  obtain ⟨hlast, hpending, hattempt, hopen⟩ := pendingUnknownTool_ok hpending
  exact toolClosed_change attempt _ _ _ hlast hpending hopen hcount hattempt
    (by rw [hpayload]; rfl)
    (.inr ⟨unknown, hpayload, rfl, validateChildToolUnknownDocumentV2_ok hvalid⟩)

end ToolCalls

section Closing

theorem replayHandoffCommitted_change {handoff : ChildHandoffCommitted}
    (hpayload : event.payload = .childHandoffCommitted handoff)
    (h : replayHandoffCommitted env replay event handoff = .ok next) :
    ChildChange env replay event next := by
  simp only [replayHandoffCommitted, bind_eq_ok, ensure_eq_ok, expect_eq_ok,
    Option.isNone_iff_eq_none] at h
  obtain ⟨-, -, -, -, attempt, hlast, -,
    ⟨hattempt, hopen, hmodel, htool, hhandoff, -⟩, status, hvalid, hnext⟩ := h
  cases hnext
  simp only [validateChildHandoffDocument, bind_eq_ok] at hvalid
  obtain ⟨document, hdocument, hvalid⟩ := hvalid
  obtain ⟨source, hsource, haction⟩ := validateChildActionBinding_ok hdocument
  have hfinish : source.proposedAction.isFinish = true := by
    rw [← haction]
    split at hvalid
    · next content heq => rw [heq]; rfl
    · cases hvalid
  refine .attempt attempt _ .handoff hlast ?_ <|
    .handoff status source ⟨hopen, hmodel, htool⟩ hhandoff hsource hfinish
  rw [hpayload, ← hattempt]
  rfl

/-- A success names the retained handoff, and no other outcome leaves one. -/
theorem validateChildExecutionTerminalOutcome_ok {issued : ChildWorkOrderIssued}
    {finished : ChildExecutionFinished}
    (h : validateChildExecutionTerminalOutcome env log event issued attempt finished = .ok ()) :
    finished.outcome.isSucceeded = true ↔ attempt.projection.handoffEventId.isSome = true := by
  unfold validateChildExecutionTerminalOutcome at h
  cases houtcome : finished.outcome with
  | succeeded status =>
    simp only [houtcome, bind_eq_ok, ensure_eq_ok] at h
    obtain ⟨-, ⟨hsome, heq, -⟩, -⟩ := h
    simp [ChildExecutionOutcome.isSucceeded, ← heq, hsome]
  | failed kind retry cause =>
    simp only [houtcome, bind_eq_ok, ensure_eq_ok] at h
    obtain ⟨-, ⟨-, hnone⟩, -⟩ := h
    simp [ChildExecutionOutcome.isSucceeded, hnone]
  | cancelled cause =>
    simp only [houtcome, bind_eq_ok, ensure_eq_ok] at h
    obtain ⟨-, ⟨-, hnone⟩, -⟩ := h
    simp [ChildExecutionOutcome.isSucceeded, hnone]

theorem replayExecutionFinished_change {finished : ChildExecutionFinished}
    (hpayload : event.payload = .childExecutionFinished finished)
    (h : replayExecutionFinished env log replay event finished = .ok next) :
    ChildChange env replay event next := by
  simp only [replayExecutionFinished, bind_eq_ok, ensure_eq_ok, expect_eq_ok,
    Option.isNone_iff_eq_none] at h
  obtain ⟨-, -, attempt, hlast, -, ⟨hattempt, hopen, hmodel, htool, -, hmodels, htools, -⟩,
    ⟨⟩, hvalid, hnext⟩ := h
  cases hnext
  refine .attempt attempt _ (.finished finished) hlast ?_ <|
    .finished finished ⟨hopen, hmodel, htool⟩ ⟨hmodels, htools⟩
      (validateChildExecutionTerminalOutcome_ok hvalid) hattempt hpayload
  rw [hpayload, ← hattempt]
  rfl

end Closing

section Authority

theorem replayClaimAdopted_change {adopted : ChildExecutionClaimAdopted}
    (hpayload : event.payload = .childExecutionClaimAdopted adopted)
    (h : replayClaimAdopted log replay event adopted = .ok next) :
    ChildChange env replay event next := by
  simp only [replayClaimAdopted, bind_eq_ok] at h
  obtain ⟨adoption, -, h⟩ := h
  cases hlast : replay.last with
  | none =>
    simp only [hlast] at h
    cases h
    exact .adopted adopted adoption.claim hpayload (List.head?_eq_none_iff.mp hlast)
  | some attempt =>
    simp only [hlast] at h
    cases h
    cases adoption.authorityContiguous with
    | false =>
      exact .adoptedAttempt adopted adoption.claim attempt true false _ hpayload hlast
    | true =>
      exact .adoptedAttempt adopted adoption.claim attempt attempt.clockBecameIncomparable
        attempt.projection.monotonicClockContiguous attempt.pendingEffectRequiresUnknown hpayload
        hlast

theorem replayExecutionStarted_change {started : ChildExecutionStarted}
    (hpayload : event.payload = .childExecutionStarted started)
    (h : replayExecutionStarted replay event started = .ok next) :
    ChildChange env replay event next := by
  simp only [replayExecutionStarted, bind_eq_ok, ensure_eq_ok] at h
  obtain ⟨-, ⟨-, -, -, -, hroom, hfresh, -⟩, -, -, ⟨⟩, hparent, -, -, hnext⟩ := h
  cases hnext
  refine .started started hpayload hroom ?_ hparent
  simpa using hfresh

end Authority

/-- The dispatch: every accepted event is one of the changes. -/
theorem replayIssuedChildEvent_change
    (h : replayIssuedChildEvent env log replay event = .ok next) :
    ChildChange env replay event next := by
  unfold replayIssuedChildEvent at h
  cases hpayload : event.payload <;> simp only [hpayload] at h
  case childExecutionClaimAdopted => exact replayClaimAdopted_change hpayload h
  case childExecutionStarted => exact replayExecutionStarted_change hpayload h
  case childModelInferencePrepared => exact replayModelPrepared_change hpayload h
  case childModelInferencePreparedV2 => exact replayModelPreparedV2_change hpayload h
  case childModelInferenceObserved => exact replayModelObserved_change hpayload h
  case childModelInferenceOutcomeUnknown => exact replayModelUnknown_change hpayload h
  case childToolPrepared => exact replayToolPrepared_change hpayload h
  case childToolPreparedV2 => exact replayToolPreparedV2_change hpayload h
  case childToolDispatchStartedV2 => exact replayToolDispatchStartedV2_change hpayload h
  case childToolObserved => exact replayToolObserved_change hpayload h
  case childToolObservedV2 => exact replayToolObservedV2_change hpayload h
  case childToolOutcomeUnknown => exact replayToolUnknown_change hpayload h
  case childToolOutcomeUnknownV2 => exact replayToolUnknownV2_change hpayload h
  case childHandoffCommitted => exact replayHandoffCommitted_change hpayload h
  case childExecutionFinished => exact replayExecutionFinished_change hpayload h
  all_goals cases h

end BirdCode.Store
