import BirdCode.Store.ChildWorkOrder

/-! The fold of a child's history: one function for each event kind, the dispatch over them and
the recovery state of the latest attempt. -/
namespace BirdCode.Store

variable (env : Environment) (log : EventLog)

section Authority

def activeChildClaim (issued : ChildWorkOrderIssued) (claim : RunClaimed) : ActiveChildClaim where
  eventId := issued.authorizationClaimEventId
  claimId := issued.authorizationClaimId
  generation := issued.authorizationClaimGeneration
  runtimeInstanceId := issued.authorizationRuntimeInstanceId
  cancellationGeneration := issued.cancellationGeneration
  leaseExpiresAt := claim.leaseExpiresAt

def replayWorkOrderIssued (event : EventEnvelope) (issued : ChildWorkOrderIssued) :
    Except StoreError ChildReplay := do
  validateChildWorkOrderDocuments env log event issued
  let runId ← expect .invalidStateEvent event.runId
  let claimEvent ←
    storedEventForRun log event.sessionId runId issued.authorizationClaimEventId
  let .runClaimed claim := claimEvent.payload | .error .invalidStateEvent
  return {
    workOrderEventId := event.id
    preAttemptTailEventId := event.id
    issued
    activeClaim := activeChildClaim issued claim
    attempts := [] }

/-- An attempt that a claim may still be adopted for: no handoff is retained, and an outcome, if
there is one, requires a new attempt. -/
def adoptionOpen (attempt : ReplayedChildAttempt) : Bool :=
  attempt.projection.handoffEventId.isNone &&
    attempt.projection.outcome.all ChildExecutionOutcome.requiresNewAttempt

/-- The adopted claim, and whether authority passed without a gap. -/
structure AdoptedClaim where
  claim : ActiveChildClaim
  authorityContiguous : Bool

/-- The claims an adoption names: the one that held the child and the latest of the run. -/
def adoptClaim (replay : ChildReplay) (event : EventEnvelope)
    (adopted : ChildExecutionClaimAdopted) : Except StoreError AdoptedClaim := do
  let runId ← expect .invalidStateEvent event.runId
  ensure (adopted.workOrderId = replay.issued.spec.workOrderId ∧
    adopted.executionId = replay.issued.spec.executionId ∧
    adopted.attemptId = replay.last.map (·.projection.attemptId) ∧
    adopted.priorClaimEventId = replay.activeClaim.eventId ∧
    adopted.priorClaimId = replay.activeClaim.claimId ∧
    adopted.priorClaimGeneration = replay.activeClaim.generation ∧
    adopted.priorRuntimeInstanceId = replay.activeClaim.runtimeInstanceId ∧
    adopted.cancellationGeneration = replay.activeClaim.cancellationGeneration ∧
    event.causalParent = some replay.tailEventId ∧
    event.provenance.backend = none ∧ event.provenance.rawArtifact = none ∧
    replay.last.all adoptionOpen = true) .invalidStateEvent
  let prior ← storedEventForRun log event.sessionId runId adopted.priorClaimEventId
  let newClaim ← storedEventForRun log event.sessionId runId adopted.newClaimEventId
  let latestClaim ← expect .invalidStateEvent <|
    latestClaimForRunBefore log event.sessionId runId event.sequence
  let .runClaimed priorClaim := prior.payload | .error .invalidStateEvent
  let .runClaimed nextClaim := newClaim.payload | .error .invalidStateEvent
  let expectedKind : ChildClaimAdoptionKind :=
    if priorClaim.runtimeInstanceId = nextClaim.runtimeInstanceId then .renewal else .takeover
  ensure (latestClaim.id = newClaim.id ∧ newClaim.sequence < event.sequence ∧
    event.actorId = newClaim.actorId ∧
    priorClaim.claimId = adopted.priorClaimId ∧
    priorClaim.claimGeneration = adopted.priorClaimGeneration ∧
    priorClaim.runtimeInstanceId = adopted.priorRuntimeInstanceId ∧
    nextClaim.claimId = adopted.newClaimId ∧
    nextClaim.claimGeneration = adopted.newClaimGeneration ∧
    nextClaim.runtimeInstanceId = adopted.newRuntimeInstanceId ∧
    nextClaim.cancellationGeneration = adopted.cancellationGeneration ∧
    event.occurredAt < nextClaim.leaseExpiresAt ∧
    adopted.priorClaimGeneration < adopted.newClaimGeneration ∧
    adopted.kind = expectedKind ∧
    latestCancellationGenerationBefore log event.sessionId runId event.sequence =
      adopted.cancellationGeneration) .invalidStateEvent
  return {
    claim := {
      eventId := adopted.newClaimEventId
      claimId := adopted.newClaimId
      generation := adopted.newClaimGeneration
      runtimeInstanceId := adopted.newRuntimeInstanceId
      cancellationGeneration := adopted.cancellationGeneration
      leaseExpiresAt := nextClaim.leaseExpiresAt }
    authorityContiguous := expectedKind = .renewal &&
      newClaim.occurredAt < priorClaim.leaseExpiresAt &&
      event.occurredAt < priorClaim.leaseExpiresAt }

/-- A gap in authority makes the attempt's clock incomparable, and an effect in flight closable
by an Unknown terminal only. -/
def ReplayedChildAttempt.loseContinuity (attempt : ReplayedChildAttempt) : ReplayedChildAttempt :=
  { attempt with
    clockBecameIncomparable := true
    projection := { attempt.projection with monotonicClockContiguous := false }
    pendingEffectRequiresUnknown := attempt.pendingEffectRequiresUnknown ||
      attempt.pendingModel.isSome || attempt.pendingTool.isSome }

def replayClaimAdopted (replay : ChildReplay) (event : EventEnvelope)
    (adopted : ChildExecutionClaimAdopted) : Except StoreError ChildReplay := do
  let adoption ← adoptClaim log replay event adopted
  match replay.last with
  | none =>
    return { replay with preAttemptTailEventId := event.id, activeClaim := adoption.claim }
  | some attempt =>
    let attempt := if adoption.authorityContiguous then attempt else attempt.loseContinuity
    return { replay.setLast { attempt with tailEventId := event.id } with
      activeClaim := adoption.claim }

end Authority

section Started

def startedAttempt (eventId : EventId) (started : ChildExecutionStarted) :
    ReplayedChildAttempt where
  projection := {
    attemptId := started.binding.attemptId
    parentAttemptId := started.parentAttemptId
    localPlanId := started.localPlanId
    startedEventId := eventId
    terminalEventId := none
    startedAt := started.startedAt
    finishedAt := none
    monotonicClockContiguous := true
    completedModelCalls := 0
    completedToolCalls := 0
    latestPlan := none
    repositoryBrokerInstanceId := none
    lastBrokerCallSequence := 0
    handoffEventId := none
    outcome := none }
  tailEventId := eventId
  tailClock := started.startedAt
  clockBecameIncomparable := false
  repositoryBrokerInstanceId := none
  lastBrokerCallSequence := 0
  lastBrokerTerminalClock := none
  brokerResetAuthorizedFrom := none
  pendingModel := none
  pendingTool := none
  completedModelCallIds := ∅
  completedToolCallIds := ∅
  lastSuccessfulModel := none
  latestPlan := none
  previousToolContext := none
  modelVisibleToolTranscript := []
  handoffStatus := none
  modelFailureTerminal := none
  toolFailureTerminal := none
  modelTurnRequired := true
  requiredModelTerminalRetry := none
  observedResults := ∅
  suppliedToolResults := ∅
  latestEffectEventId := none
  pendingEffectRequiresUnknown := false

/-- The first attempt has no parent; a later one names the attempt it retries, which must have
failed with leave to try again. -/
def retryParent (replay : ChildReplay) (started : ChildExecutionStarted) :
    Except StoreError Unit :=
  match replay.last with
  | none => ensure (started.parentAttemptId = none) .invalidStateEvent
  | some previous =>
    ensure (started.parentAttemptId = some previous.projection.attemptId ∧
      previous.projection.outcome.any ChildExecutionOutcome.requiresNewAttempt = true ∧
      (started.startedAt.runtimeInstanceId = previous.tailClock.runtimeInstanceId →
        sameRuntimeNotBefore previous.tailClock started.startedAt = true)) .invalidStateEvent

def replayExecutionStarted (replay : ChildReplay) (event : EventEnvelope)
    (started : ChildExecutionStarted) : Except StoreError ChildReplay := do
  ensure (bindingMatchesOrder started.binding replay.issued ∧
    started.startedAt.runtimeInstanceId = replay.activeClaim.runtimeInstanceId ∧
    started.backendModel = replay.issued.spec.resolvedModel ∧
    started.modelLineage = replay.issued.spec.modelLineage ∧
    replay.attempts.length < replay.issued.spec.maxAttempts.toNat ∧
    (replay.attempts.all fun attempt =>
      attempt.projection.attemptId ≠ started.binding.attemptId) = true ∧
    withinDeadline replay.issued.spec event started.startedAt = true) .invalidStateEvent
  requireChildEventProvenance event replay.issued none
  retryParent replay started
  ensure (event.causalParent = some replay.tailEventId) .invalidStateEvent
  return { replay with attempts := startedAttempt event.id started :: replay.attempts }

end Started

section ModelCalls

/-- What Prepared requires of the attempt: nothing is in flight and a model turn is due. -/
def modelPreparable (replay : ChildReplay) (attempt : ReplayedChildAttempt)
    (event : EventEnvelope) (prepared : ChildModelInferencePrepared) : Except StoreError Unit := do
  let ordinal ← expect .invalidStateEvent (checkedSucc32 attempt.projection.completedModelCalls)
  ensure (prepared.binding.attemptId = attempt.projection.attemptId ∧
    attempt.projection.outcome.isNone = true ∧ attempt.pendingModel.isNone = true ∧
    attempt.pendingTool.isNone = true ∧ attempt.projection.handoffEventId.isNone = true ∧
    attempt.modelTurnRequired = true ∧ attempt.requiredModelTerminalRetry.isNone = true ∧
    event.causalParent = some attempt.tailEventId ∧
    prepared.modelCallOrdinal = ordinal ∧
    prepared.modelCallOrdinal ≤ replay.issued.spec.maxModelCallsPerAttempt ∧
    childAttemptClockAccepts attempt prepared.preparedAt = true) .invalidStateEvent

def preparedModelCall (eventId : EventId) (prepared : ChildModelInferencePrepared) :
    PendingChildModel where
  preparedEventId := eventId
  modelCallId := prepared.modelCallId
  modelCallOrdinal := prepared.modelCallOrdinal
  backendModel := prepared.backendModel
  backendInstance := prepared.backendInstance
  modelLineage := prepared.modelLineage
  localPlanId := prepared.localPlanId
  promptManifestDigest := prepared.promptManifestDigest
  promptDigest := prepared.promptDigest
  requestDigest := prepared.requestDigest
  tokenReservation := prepared.tokenReservation
  preparedAt := prepared.preparedAt

/-- The attempt with the model call in flight. -/
def ReplayedChildAttempt.prepareModel (attempt : ReplayedChildAttempt) (eventId : EventId)
    (prepared : ChildModelInferencePrepared) : ReplayedChildAttempt :=
  { attempt with
    lastSuccessfulModel := none
    pendingModel := some (preparedModelCall eventId prepared)
    tailEventId := eventId
    tailClock := prepared.preparedAt }

/-- The checks that Prepared makes of either version, and the turn input it was compiled from. -/
def validateModelPrepared (replay : ChildReplay) (attempt : ReplayedChildAttempt)
    (event : EventEnvelope) (prepared : ChildModelInferencePrepared) (allowBrokerV2 : Bool) :
    Except StoreError ChildRepositoryExplorerTurnInput := do
  ensure (replay.childModelCallSeen prepared.modelCallId = false ∧
    replay.childTokenReservationSeen prepared.tokenReservation.id = false) .invalidStateEvent
  let runId ← expect .invalidStateEvent event.runId
  let input ← resolveTurnInput env log ⟨event.sessionId, runId, event.sequence⟩ prepared replay
    attempt allowBrokerV2
  ensure (bindingMatchesOrder prepared.binding replay.issued ∧
    prepared.preparedAt.runtimeInstanceId = replay.activeClaim.runtimeInstanceId ∧
    prepared.backendModel = replay.issued.spec.resolvedModel ∧
    prepared.backendInstance = replay.issued.spec.backendInstance ∧
    prepared.modelLineage = replay.issued.spec.modelLineage ∧
    withinDeadline replay.issued.spec event prepared.preparedAt = true) .invalidStateEvent
  requireChildEventProvenance event replay.issued (some prepared.promptManifestArtifact)
  modelPreparable replay attempt event prepared
  validateChildModelPreparedDocuments env prepared attempt.projection.localPlanId
    (expectedContextInventory replay attempt) input
  return input

def replayModelPrepared (replay : ChildReplay) (event : EventEnvelope)
    (prepared : ChildModelInferencePrepared) : Except StoreError ChildReplay := do
  let attempt ← expect .invalidStateEvent replay.last
  let _ ← validateModelPrepared env log replay attempt event prepared false
  return replay.setLast (attempt.prepareModel event.id prepared)

/-- A result is supplied to one model call of an attempt. -/
def supplyToolResults (prepared : ChildModelInferencePreparedV2) (eventId : EventId)
    (supplied : BTreeMap ChildToolCallId (UInt32 × EventId × ArtifactRef)) :
    Except StoreError (BTreeMap ChildToolCallId (UInt32 × EventId × ArtifactRef)) :=
  prepared.suppliedToolResults.foldlM (fun supplied result => do
    ensure (supplied.contains result.toolCallId = false) .invalidStateEvent
    return supplied.insert result.toolCallId
      (prepared.prepared.modelCallOrdinal, eventId, result.resultArtifact)) supplied

def replayModelPreparedV2 (replay : ChildReplay) (event : EventEnvelope)
    (prepared : ChildModelInferencePreparedV2) : Except StoreError ChildReplay := do
  ensure (env.identityIntegrity prepared.backendInstance = true ∧
    prepared.prepared.backendInstance = some prepared.backendInstance ∧
    replay.issued.spec.backendInstance = some prepared.backendInstance) .invalidStateEvent
  let attempt ← expect .invalidStateEvent replay.last
  let input ← validateModelPrepared env log replay attempt event prepared.prepared true
  ensure (prepared.suppliedToolResults = expectedSuppliedToolResults input) .invalidStateEvent
  let supplied ← supplyToolResults prepared event.id attempt.suppliedToolResults
  return replay.setLast
    ({ attempt with suppliedToolResults := supplied }.prepareModel event.id prepared.prepared)

/-- What a terminal of a model call does to the attempt, whatever its outcome. -/
def ReplayedChildAttempt.closeModel (attempt : ReplayedChildAttempt)
    (pending : PendingChildModel) (completed : UInt32) (eventId : EventId)
    (clock : RuntimeClockReading) : ReplayedChildAttempt :=
  { attempt with
    projection := { attempt.projection with completedModelCalls := completed }
    completedModelCallIds :=
      attempt.completedModelCallIds.insert pending.modelCallId pending.tokenReservation.id
    pendingModel := none
    pendingEffectRequiresUnknown := false
    latestEffectEventId := some eventId
    tailEventId := eventId
    tailClock := clock
    modelTurnRequired := false }

/-- A successful observation retains the plan and proposes the action. -/
def ReplayedChildAttempt.retainModelSuccess (attempt : ReplayedChildAttempt) (eventId : EventId)
    (observed : ChildModelInferenceObserved) (validated : ValidatedChildModelSuccess) :
    ReplayedChildAttempt :=
  { attempt with
    lastSuccessfulModel := some {
      observedEventId := eventId
      modelCallId := observed.modelCallId
      modelCallOrdinal := observed.modelCallOrdinal
      evidenceDigest := observed.evidenceDigest
      plan := validated.plan
      planBinding := validated.planBinding
      proposedAction := validated.action }
    latestPlan := some {
      snapshot := validated.plan
      binding := validated.planBinding
      sourceModelObservedEventId := eventId
      sourceModelEvidenceArtifact := observed.normalizedCompleteEvidenceArtifact
      sourceModelEvidenceDigest := observed.evidenceDigest }
    projection := { attempt.projection with latestPlan := some validated.planBinding }
    modelFailureTerminal := none
    requiredModelTerminalRetry := none }

/-- A failed or unknown call leaves the attempt nothing to do but finish. -/
def ReplayedChildAttempt.retainModelFailure (attempt : ReplayedChildAttempt) (eventId : EventId)
    (modelCallId : ChildModelCallId) (retry : RetryDisposition) : ReplayedChildAttempt :=
  { attempt with
    lastSuccessfulModel := none
    modelFailureTerminal := some (eventId, modelCallId, retry)
    requiredModelTerminalRetry := some retry }

/-- The cancellation that a terminal names, when it names one, is the latest of the run. -/
def validateOptionalCancellation (event : EventEnvelope)
    (cancellation : Option ChildCancellationCause) : Except StoreError Unit :=
  match cancellation with
  | some cause => validateChildCancellationCause log event cause
  | none => .ok ()

def ChildModelInferenceObservation.cancellation :
    ChildModelInferenceObservation → Option ChildCancellationCause
  | .failed error => error.cancellation
  | .succeeded .. => none

def replayModelObserved (replay : ChildReplay) (event : EventEnvelope)
    (observed : ChildModelInferenceObserved) : Except StoreError ChildReplay := do
  ensure (bindingMatchesOrder observed.binding replay.issued ∧
    observed.finishedAt.runtimeInstanceId = replay.activeClaim.runtimeInstanceId)
    .invalidStateEvent
  validateOptionalCancellation log event observed.outcome.cancellation
  requireChildEventProvenance event replay.issued
    (some observed.normalizedCompleteEvidenceArtifact)
  let attempt ← expect .invalidStateEvent replay.last
  let pending ← expect .invalidStateEvent attempt.pendingModel
  ensure (observed.binding.attemptId = attempt.projection.attemptId ∧
    attempt.projection.outcome.isNone = true ∧ attempt.pendingTool.isNone = true ∧
    attempt.pendingEffectRequiresUnknown = false ∧
    event.causalParent = some attempt.tailEventId) .invalidStateEvent
  let validated ← validateChildModelObservedDocument env observed pending replay.issued.spec
    attempt.latestPlan
  let completed ← expect .invalidStateEvent (checkedSucc32 attempt.projection.completedModelCalls)
  let closed := attempt.closeModel pending completed event.id observed.finishedAt
  match observed.outcome with
  | .succeeded .. => do
    let validated ← expect .invalidStateEvent validated
    return replay.setLast (closed.retainModelSuccess event.id observed validated)
  | .failed error => do
    ensure (validated.isNone = true) .invalidStateEvent
    return replay.setLast
      (closed.retainModelFailure event.id observed.modelCallId error.retry)

/-- A boundary in another runtime makes the attempt's clock incomparable. -/
def ReplayedChildAttempt.crossBoundary (attempt : ReplayedChildAttempt)
    (becameIncomparable : Bool) : ReplayedChildAttempt :=
  { attempt with
    clockBecameIncomparable := attempt.clockBecameIncomparable || becameIncomparable
    projection := { attempt.projection with
      monotonicClockContiguous :=
        attempt.projection.monotonicClockContiguous && !becameIncomparable } }

def replayModelUnknown (replay : ChildReplay) (event : EventEnvelope)
    (unknown : ChildModelInferenceOutcomeUnknown) : Except StoreError ChildReplay := do
  ensure (bindingMatchesOrder unknown.binding replay.issued ∧
    unknown.boundaryAt.runtimeInstanceId = replay.activeClaim.runtimeInstanceId)
    .invalidStateEvent
  validateOptionalCancellation log event unknown.cancellation
  requireChildEventProvenance event replay.issued (some unknown.boundaryArtifact)
  let attempt ← expect .invalidStateEvent replay.last
  let pending ← expect .invalidStateEvent attempt.pendingModel
  ensure (unknown.binding.attemptId = attempt.projection.attemptId ∧
    attempt.projection.outcome.isNone = true ∧ attempt.pendingTool.isNone = true ∧
    event.causalParent = some attempt.tailEventId) .invalidStateEvent
  let becameIncomparable ← validateChildModelUnknownDocument env unknown pending
  let completed ← expect .invalidStateEvent (checkedSucc32 attempt.projection.completedModelCalls)
  return replay.setLast
    (((attempt.crossBoundary becameIncomparable).closeModel pending completed event.id
      unknown.boundaryAt).retainModelFailure event.id unknown.modelCallId unknown.retry)

end ModelCalls

end BirdCode.Store
