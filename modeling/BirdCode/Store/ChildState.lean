import BirdCode.Store.ChildDocuments

/-! The state that a child's history is folded into, and the checks of identity, provenance and
clock that every transition shares. -/
namespace BirdCode.Store

section State

structure PendingChildModel where
  preparedEventId : EventId
  modelCallId : ChildModelCallId
  modelCallOrdinal : UInt32
  backendModel : BackendModelIdentity
  backendInstance : Option BackendInstanceIdentity
  modelLineage : ModelLineage
  localPlanId : ChildLocalPlanId
  promptManifestDigest : Sha256Digest
  promptDigest : Sha256Digest
  requestDigest : Sha256Digest
  tokenReservation : TokenReservation
  preparedAt : RuntimeClockReading

structure SuccessfulChildModel where
  observedEventId : EventId
  modelCallId : ChildModelCallId
  modelCallOrdinal : UInt32
  evidenceDigest : Sha256Digest
  plan : ChildLocalPlanSnapshot
  planBinding : ChildLocalPlanBinding
  proposedAction : ChildAction

structure RetainedChildPlan where
  snapshot : ChildLocalPlanSnapshot
  binding : ChildLocalPlanBinding
  sourceModelObservedEventId : EventId
  sourceModelEvidenceArtifact : ArtifactRef
  sourceModelEvidenceDigest : Sha256Digest

inductive PendingChildToolAuthorization
  | v1 (decision : RepositoryToolAuthorizationDecision)
  | v2 (decision : RepositoryToolAuthorizationDecisionV2)
  deriving DecidableEq

structure PendingChildTool where
  preparedEventId : EventId
  toolCallId : ChildToolCallId
  actionBinding : ChildValidatedActionBinding
  operation : ChildToolOperation
  authorization : PendingChildToolAuthorization
  preparedReceiptArtifact : ArtifactRef
  brokerInstanceId : RepositoryBrokerInstanceId
  brokerPreparedAt : RepositoryBrokerClock
  preparedReceiptDigest : Sha256Digest
  preparedAt : RuntimeClockReading
  brokerEpochActivationEventId : Option EventId
  startedEventId : Option EventId
  dispatchStartRequired : Bool

structure ChildAttemptProjection where
  attemptId : ChildAttemptId
  parentAttemptId : Option ChildAttemptId
  localPlanId : ChildLocalPlanId
  startedEventId : EventId
  terminalEventId : Option EventId
  startedAt : RuntimeClockReading
  finishedAt : Option RuntimeClockReading
  monotonicClockContiguous : Bool
  completedModelCalls : UInt32
  completedToolCalls : UInt32
  latestPlan : Option ChildLocalPlanBinding
  repositoryBrokerInstanceId : Option RepositoryBrokerInstanceId
  lastBrokerCallSequence : UInt64
  handoffEventId : Option EventId
  outcome : Option ChildExecutionOutcome

structure ReplayedChildAttempt where
  projection : ChildAttemptProjection
  tailEventId : EventId
  tailClock : RuntimeClockReading
  clockBecameIncomparable : Bool
  repositoryBrokerInstanceId : Option RepositoryBrokerInstanceId
  lastBrokerCallSequence : UInt64
  lastBrokerTerminalClock : Option RepositoryBrokerClock
  brokerResetAuthorizedFrom : Option RepositoryBrokerInstanceId
  pendingModel : Option PendingChildModel
  pendingTool : Option PendingChildTool
  completedModelCallIds : BTreeMap ChildModelCallId TokenReservationId
  completedToolCallIds : BTreeSet ChildToolCallId
  lastSuccessfulModel : Option SuccessfulChildModel
  latestPlan : Option RetainedChildPlan
  previousToolContext : Option ChildPreviousToolContext
  modelVisibleToolTranscript : List ChildPreviousToolContext
  handoffStatus : Option ChildHandoffStatus
  modelFailureTerminal : Option (EventId × ChildModelCallId × RetryDisposition)
  toolFailureTerminal : Option (EventId × ChildToolCallId)
  modelTurnRequired : Bool
  requiredModelTerminalRetry : Option RetryDisposition
  observedResults : BTreeMap ChildToolCallId (EventId × ArtifactRef)
  suppliedToolResults : BTreeMap ChildToolCallId (UInt32 × EventId × ArtifactRef)
  latestEffectEventId : Option EventId
  pendingEffectRequiresUnknown : Bool

structure ActiveChildClaim where
  eventId : EventId
  claimId : RunClaimId
  generation : UInt64
  runtimeInstanceId : RuntimeInstanceId
  cancellationGeneration : UInt64
  leaseExpiresAt : DateTime
  deriving DecidableEq

/-- The attempts are kept latest first, so that the attempt every transition works on is the
head. -/
structure ChildReplay where
  workOrderEventId : EventId
  preAttemptTailEventId : EventId
  issued : ChildWorkOrderIssued
  activeClaim : ActiveChildClaim
  attempts : List ReplayedChildAttempt

end State

/-- `binding_matches_order`. -/
def bindingMatchesOrder (binding : ChildExecutionBinding) (issued : ChildWorkOrderIssued) : Prop :=
  binding.workOrderId = issued.spec.workOrderId ∧
  binding.executionId = issued.spec.executionId ∧
  binding.childActorId = issued.spec.childActorId ∧
  binding.contextId = issued.spec.contextId ∧
  binding.workOrderDigest = issued.workOrderDigest ∧
  binding.contextManifestDigest = issued.contextManifestDigest

instance (binding : ChildExecutionBinding) (issued : ChildWorkOrderIssued) :
    Decidable (bindingMatchesOrder binding issued) := by
  unfold bindingMatchesOrder
  infer_instance

def requireChildEventProvenance (event : EventEnvelope) (issued : ChildWorkOrderIssued)
    (rawArtifact : Option ArtifactRef) : Except StoreError Unit :=
  ensure (event.actorId = issued.spec.childEventActorId ∧
    event.provenance.backend = some issued.spec.backend ∧
    event.provenance.rawArtifact = rawArtifact) .invalidStateEvent

def sameRuntimeNotBefore (previous next : RuntimeClockReading) : Bool :=
  previous.runtimeInstanceId = next.runtimeInstanceId &&
    previous.monotonicNanos ≤ next.monotonicNanos

/-- Within one runtime the clock advances; after an incomparable takeover the first reading of
the replacement runtime is accepted. -/
def childAttemptClockAccepts (attempt : ReplayedChildAttempt) (next : RuntimeClockReading) : Bool :=
  if attempt.tailClock.runtimeInstanceId = next.runtimeInstanceId then
    sameRuntimeNotBefore attempt.tailClock next
  else attempt.clockBecameIncomparable

def validChildTokenReservation (reservation : TokenReservation) : Bool :=
  0 < reservation.reservedTokens && 0 < reservation.maxOutputTokens &&
    reservation.maxOutputTokens ≤ reservation.reservedTokens

def validChildTokenUsage (usage : TokenUsage) (reservation : TokenReservation) : Bool :=
  usage.outputTokens ≤ reservation.maxOutputTokens &&
  usage.totalTokens ≤ reservation.reservedTokens &&
  checkedAdd usage.inputTokens usage.outputTokens = some usage.totalTokens &&
  usage.cachedInputTokens.all fun cached => cached ≤ usage.inputTokens

/-- The run deadline, when there is one, has not passed. -/
def withinDeadline (spec : ChildWorkOrderSpec) (event : EventEnvelope)
    (reading : RuntimeClockReading) : Bool :=
  spec.runDeadline.all fun deadline =>
    event.occurredAt ≤ deadline && reading.observedAt ≤ deadline

def validateChildCancellationCause (log : EventLog) (terminalEvent : EventEnvelope)
    (cause : ChildCancellationCause) : Except StoreError Unit := do
  let runId ← expect .invalidStateEvent terminalEvent.runId
  let cancellation ← storedEventForRun log terminalEvent.sessionId runId cause.requestEventId
  let .cancellationRequested request := cancellation.payload | .error .invalidStateEvent
  let latest ← expect .invalidStateEvent <|
    latestCancellationForRunBefore log terminalEvent.sessionId runId terminalEvent.sequence
  ensure (cancellation.sequence < terminalEvent.sequence ∧ latest.id = cancellation.id ∧
    request.cancellationRequestId = cause.requestId ∧
    request.cancellationGeneration = cause.cancellationGeneration) .invalidStateEvent

/-- The loops over identified texts of plans and handoffs: every identifier and text is bounded
and no identifier repeats. -/
def validateIdentifiedTexts (entries : List (String × String)) : Except StoreError Unit :=
  ensure ((entries.all fun entry => boundedIdentifier entry.1 && boundedText entry.2) ∧
    (entries.map Prod.fst).Nodup) .invalidStateEvent

namespace ChildReplay

def childToolCallSeen (replay : ChildReplay) (toolCallId : ChildToolCallId) : Bool :=
  replay.attempts.any fun attempt =>
    (attempt.pendingTool.any fun pending => pending.toolCallId = toolCallId) ||
    attempt.completedToolCallIds.contains toolCallId ||
    attempt.observedResults.contains toolCallId

def childModelCallSeen (replay : ChildReplay) (modelCallId : ChildModelCallId) : Bool :=
  replay.attempts.any fun attempt =>
    (attempt.pendingModel.any fun pending => pending.modelCallId = modelCallId) ||
    attempt.completedModelCallIds.contains modelCallId

def childTokenReservationSeen (replay : ChildReplay) (id : TokenReservationId) : Bool :=
  replay.attempts.any fun attempt =>
    (attempt.pendingModel.any fun pending => pending.tokenReservation.id = id) ||
    (mapValues attempt.completedModelCallIds).any fun seen => seen = id

/-- `attempts.last()`. -/
def last (replay : ChildReplay) : Option ReplayedChildAttempt := replay.attempts.head?

/-- The event a child-specific event must name as its parent. -/
def tailEventId (replay : ChildReplay) : EventId :=
  (replay.last.map ReplayedChildAttempt.tailEventId).getD replay.preAttemptTailEventId

/-- `attempts.last_mut()`, with what was done to the attempt. -/
def setLast (replay : ChildReplay) (attempt : ReplayedChildAttempt) : ChildReplay :=
  { replay with attempts := attempt :: replay.attempts.tail }

end ChildReplay

end BirdCode.Store
