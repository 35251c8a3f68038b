import BirdCode.Store.Artifacts

/-! The events of one child work order: what is delegated, each attempt's model and tool calls,
its plan revisions, its handoff and its terminal. -/
namespace BirdCode.Store

section WorkOrder

structure ChildWorkOrderSpec where
  contractVersion : UInt32
  workOrderId : ChildWorkOrderId
  executionId : ChildExecutionId
  childActorId : ChildActorId
  childEventActorId : ActorId
  contextId : ChildContextId
  backend : BackendSelection
  resolvedModel : BackendModelIdentity
  backendInstance : Option BackendInstanceIdentity
  modelLineage : ModelLineage
  plannerWorkOrderLocalId : String
  objective : String
  completionContract : String
  runDeadline : Option DateTime
  repositoryAuthority : ChildRepositoryAuthority
  maxAttempts : UInt32
  minPlanRevisions : UInt32
  maxModelCallsPerAttempt : UInt32
  maxToolCallsPerAttempt : UInt32
  maxModelEvidenceBytes : UInt64
  maxModelVisibleInputBytes : UInt64
  deriving DecidableEq

structure ChildContextSource where
  sourceEventId : EventId
  artifact : Option ArtifactRef
  deriving DecidableEq

structure ChildContextManifest where
  contractVersion : UInt32
  workOrderId : ChildWorkOrderId
  contextId : ChildContextId
  sources : List ChildContextSource
  deriving DecidableEq

/-- The fields that `ChildDelegationAuthorized` and `ChildDelegationAuthorizedV2` share; the
accepted event is the plan in the first and the planner turn in the second. -/
structure ChildDelegation where
  authorizationId : ChildDelegationAuthorizationId
  issuerActorId : ActorId
  claimEventId : EventId
  claimId : RunClaimId
  claimGeneration : UInt64
  claimRuntimeInstanceId : RuntimeInstanceId
  cancellationGeneration : UInt64
  acceptedEventId : EventId
  acceptedArtifact : ArtifactRef
  acceptedDigest : Sha256Digest
  snapshotLeaseEventId : EventId
  spec : ChildWorkOrderSpec
  workOrderArtifact : ArtifactRef
  workOrderDigest : Sha256Digest
  contextManifestArtifact : ArtifactRef
  contextManifestDigest : Sha256Digest
  deriving DecidableEq

structure ChildDelegationAuthorized extends ChildDelegation where
  plannerWorkOrderLocalId : String
  deriving DecidableEq

structure ChildWorkOrderIssued where
  issuerActorId : ActorId
  authorizationEventId : EventId
  authorizationClaimEventId : EventId
  authorizationClaimId : RunClaimId
  authorizationClaimGeneration : UInt64
  authorizationRuntimeInstanceId : RuntimeInstanceId
  spec : ChildWorkOrderSpec
  workOrderArtifact : ArtifactRef
  workOrderDigest : Sha256Digest
  contextManifestArtifact : ArtifactRef
  contextManifestDigest : Sha256Digest
  cancellationGeneration : UInt64
  deriving DecidableEq

inductive ChildClaimAdoptionKind
  | renewal | takeover
  deriving DecidableEq

structure ChildExecutionClaimAdopted where
  adoptionId : ChildClaimAdoptionId
  workOrderId : ChildWorkOrderId
  executionId : ChildExecutionId
  attemptId : Option ChildAttemptId
  priorClaimEventId : EventId
  priorClaimId : RunClaimId
  priorClaimGeneration : UInt64
  priorRuntimeInstanceId : RuntimeInstanceId
  newClaimEventId : EventId
  newClaimId : RunClaimId
  newClaimGeneration : UInt64
  newRuntimeInstanceId : RuntimeInstanceId
  cancellationGeneration : UInt64
  kind : ChildClaimAdoptionKind
  deriving DecidableEq

structure ChildExecutionBinding where
  workOrderId : ChildWorkOrderId
  executionId : ChildExecutionId
  attemptId : ChildAttemptId
  childActorId : ChildActorId
  contextId : ChildContextId
  workOrderDigest : Sha256Digest
  contextManifestDigest : Sha256Digest
  deriving DecidableEq

structure ChildExecutionStarted where
  binding : ChildExecutionBinding
  parentAttemptId : Option ChildAttemptId
  localPlanId : ChildLocalPlanId
  backendModel : BackendModelIdentity
  modelLineage : ModelLineage
  startedAt : RuntimeClockReading
  deriving DecidableEq

end WorkOrder

section LocalPlan

inductive ChildLocalPlanStepStatus
  | pending | inProgress | completed | blocked | cancelled
  deriving DecidableEq

structure ChildLocalPlanStep where
  stepId : String
  objective : String
  status : ChildLocalPlanStepStatus
  deriving DecidableEq

structure ChildLocalPlanAssumption where
  assumptionId : String
  statement : String
  deriving DecidableEq

structure ChildLocalPlanUnknown where
  unknownId : String
  question : String
  deriving DecidableEq

structure ChildLocalPlanSnapshot where
  contractVersion : UInt32
  binding : ChildExecutionBinding
  planId : ChildLocalPlanId
  revision : UInt64
  previousPlanDigest : Option Sha256Digest
  objective : String
  steps : List ChildLocalPlanStep
  activeStepId : Option String
  assumptions : List ChildLocalPlanAssumption
  unknowns : List ChildLocalPlanUnknown
  deriving DecidableEq

structure ChildLocalPlanBinding where
  planId : ChildLocalPlanId
  revision : UInt64
  planDigest : Sha256Digest
  deriving DecidableEq

end LocalPlan

section Handoff

inductive ChildFindingConfidence
  | low | medium | high
  deriving DecidableEq

inductive ChildHandoffStatus
  | complete | partially | blocked
  deriving DecidableEq

structure ChildHandoffEvidenceBinding where
  toolCallId : ChildToolCallId
  observedEventId : EventId
  resultArtifact : ArtifactRef
  deriving DecidableEq

structure ChildHandoffFinding where
  findingId : String
  statement : String
  confidence : ChildFindingConfidence
  evidence : List ChildHandoffEvidenceBinding
  deriving DecidableEq

structure ChildHandoffUnknown where
  unknownId : String
  question : String
  deriving DecidableEq

structure ChildHandoffRecommendedFollowup where
  followupId : String
  text : String
  deriving DecidableEq

structure ChildHandoffContent where
  status : ChildHandoffStatus
  summary : String
  findings : List ChildHandoffFinding
  unknowns : List ChildHandoffUnknown
  recommendedFollowups : List ChildHandoffRecommendedFollowup
  deriving DecidableEq

structure ChildHandoffDocument where
  contractVersion : UInt32
  binding : ChildExecutionBinding
  handoffId : ChildHandoffId
  content : ChildHandoffContent
  deriving DecidableEq

end Handoff

section Action

inductive ChildAction
  | repositoryTree (toolGrantId : RepositoryToolGrantId) (path : ModelRepositoryPath)
      (maxDepth maxEntries : UInt32)
  | repositoryFileRead (toolGrantId : RepositoryToolGrantId) (path : ModelRepositoryPath)
      (offsetBytes maxBytes : UInt64)
  | literalSearch (toolGrantId : RepositoryToolGrantId) (path : ModelRepositoryPath)
      (literalUtf8 : String) (maxDepth maxFiles maxMatches : UInt32)
      (maxBytesPerFile maxTotalBytes : UInt64)
  | finish (handoff : ChildHandoffContent)
  deriving DecidableEq

def ChildAction.toolGrantId : ChildAction → Option RepositoryToolGrantId
  | .repositoryTree id .. => some id
  | .repositoryFileRead id .. => some id
  | .literalSearch id .. => some id
  | .finish _ => none

def ChildAction.toolOperation : ChildAction → Option ChildToolOperation
  | .repositoryTree _ path maxDepth maxEntries =>
    some (.repositoryTree path.toRepositoryPath maxDepth maxEntries)
  | .repositoryFileRead _ path offsetBytes maxBytes =>
    some (.repositoryFileRead path.toRepositoryPath offsetBytes maxBytes)
  | .literalSearch _ path literal maxDepth maxFiles maxMatches maxBytesPerFile maxTotalBytes =>
    some (.literalSearch path.toRepositoryPath literal maxDepth maxFiles maxMatches
      maxBytesPerFile maxTotalBytes)
  | .finish _ => none

structure ChildValidatedActionDocument where
  contractVersion : UInt32
  binding : ChildExecutionBinding
  actionId : ChildValidatedActionId
  sourceModelCallId : ChildModelCallId
  sourceModelCallOrdinal : UInt32
  sourceModelObservedEventId : EventId
  sourceModelEvidenceDigest : Sha256Digest
  sourcePlan : ChildLocalPlanBinding
  activePlanStepId : Option String
  completionHandoffId : Option ChildHandoffId
  action : ChildAction
  deriving DecidableEq

structure ChildValidatedActionBinding where
  actionId : ChildValidatedActionId
  sourceModelCallId : ChildModelCallId
  sourceModelCallOrdinal : UInt32
  sourceModelObservedEventId : EventId
  sourceModelEvidenceDigest : Sha256Digest
  sourcePlan : ChildLocalPlanBinding
  activePlanStepId : Option String
  completionHandoffId : Option ChildHandoffId
  validatedActionArtifact : ArtifactRef
  validatedActionDigest : Sha256Digest
  deriving DecidableEq

structure ChildHandoffCommitted where
  binding : ChildExecutionBinding
  handoffId : ChildHandoffId
  actionBinding : ChildValidatedActionBinding
  handoffArtifact : ArtifactRef
  handoffDigest : Sha256Digest
  deriving DecidableEq

end Action

section ModelCall

structure ChildPriorPlanContext where
  plan : ChildLocalPlanBinding
  sourceModelObservedEventId : EventId
  sourceModelEvidenceArtifact : ArtifactRef
  sourceModelEvidenceDigest : Sha256Digest
  deriving DecidableEq

inductive ChildPreviousToolContext
  | observed (toolCallId : ChildToolCallId) (terminalEventId : EventId)
      (terminalReceiptArtifact : ArtifactRef) (terminalReceiptDigest : Sha256Digest)
  | unknown (toolCallId : ChildToolCallId) (terminalEventId : EventId)
      (terminalReceiptArtifact : ArtifactRef) (terminalReceiptDigest : Sha256Digest)
  deriving DecidableEq

structure ChildModelContextInventory where
  workOrderEventId : EventId
  workOrderArtifact : ArtifactRef
  workOrderDigest : Sha256Digest
  contextManifestArtifact : ArtifactRef
  contextManifestDigest : Sha256Digest
  priorPlan : Option ChildPriorPlanContext
  previousTool : Option ChildPreviousToolContext
  deriving DecidableEq

inductive ChildModelPromptContract
  | repositoryExplorerV1
  deriving DecidableEq

inductive ChildModelOutputContractKind
  | repositoryExplorerV1
  deriving DecidableEq

structure ChildModelInferencePrepared where
  promptContract : ChildModelPromptContract
  promptContractDigest : Sha256Digest
  outputContract : ChildModelOutputContractKind
  outputContractDigest : Sha256Digest
  binding : ChildExecutionBinding
  modelCallId : ChildModelCallId
  modelCallOrdinal : UInt32
  backendModel : BackendModelIdentity
  backendInstance : Option BackendInstanceIdentity
  modelLineage : ModelLineage
  localPlanId : ChildLocalPlanId
  contextInventory : ChildModelContextInventory
  promptManifestArtifact : ArtifactRef
  promptManifestDigest : Sha256Digest
  promptArtifact : ArtifactRef
  promptDigest : Sha256Digest
  requestArtifact : ArtifactRef
  requestDigest : Sha256Digest
  tokenReservation : TokenReservation
  preparedAt : RuntimeClockReading
  deriving DecidableEq

structure ChildModelSuppliedToolResult where
  toolCallId : ChildToolCallId
  terminalEventId : EventId
  resultArtifact : ArtifactRef
  deriving DecidableEq

structure ChildModelInferencePreparedV2 where
  backendInstance : BackendInstanceIdentity
  prepared : ChildModelInferencePrepared
  suppliedToolResults : List ChildModelSuppliedToolResult
  deriving DecidableEq

inductive ChildModelInferenceErrorKind
  | transport | timeout | authentication | rateLimited | providerRejected
  | protocolViolation | invalidStructuredResponse | cancelled
  deriving DecidableEq

structure ChildModelInferenceError where
  kind : ChildModelInferenceErrorKind
  retry : RetryDisposition
  cancellation : Option ChildCancellationCause
  deriving DecidableEq

inductive ChildModelInferenceObservation
  | succeeded (reportedBackendModel : BackendModelIdentity) (tokenUsage : TokenUsage)
  | failed (error : ChildModelInferenceError)
  deriving DecidableEq

structure ChildModelInferenceObserved where
  binding : ChildExecutionBinding
  modelCallId : ChildModelCallId
  modelCallOrdinal : UInt32
  preparedEventId : EventId
  backendModel : BackendModelIdentity
  backendInstance : Option BackendInstanceIdentity
  modelLineage : ModelLineage
  tokenReservationId : TokenReservationId
  normalizedCompleteEvidenceArtifact : ArtifactRef
  evidenceDigest : Sha256Digest
  finishedAt : RuntimeClockReading
  outcome : ChildModelInferenceObservation
  deriving DecidableEq

inductive UnknownInferenceOutcomeReason
  | runtimeRestartedBeforeObservation | claimExpiredBeforeObservation
  | evidenceCommitIndeterminate
  deriving DecidableEq

inductive UnknownInferenceBoundary
  | restart | shutdown | claimRenewalFailed | deadline | cancelled
  deriving DecidableEq

structure ChildModelInferenceOutcomeUnknown where
  binding : ChildExecutionBinding
  modelCallId : ChildModelCallId
  modelCallOrdinal : UInt32
  preparedEventId : EventId
  backendModel : BackendModelIdentity
  backendInstance : Option BackendInstanceIdentity
  modelLineage : ModelLineage
  tokenReservationId : TokenReservationId
  boundaryArtifact : ArtifactRef
  boundaryDigest : Sha256Digest
  boundaryAt : RuntimeClockReading
  reason : UnknownInferenceOutcomeReason
  boundary : UnknownInferenceBoundary
  cancellation : Option ChildCancellationCause
  retry : RetryDisposition
  deriving DecidableEq

end ModelCall

section ToolCall

/-- `ChildToolPrepared` and `ChildToolPreparedV2`, which differ in the type of the
authorization decision. -/
structure ChildToolPrepared (Decision : Type) where
  binding : ChildExecutionBinding
  toolCallId : ChildToolCallId
  toolOrdinal : UInt32
  actionBinding : ChildValidatedActionBinding
  operation : ChildToolOperation
  authorization : Decision
  brokerInstanceId : RepositoryBrokerInstanceId
  brokerCallSequence : UInt64
  preparedReceiptArtifact : ArtifactRef
  preparedReceiptDigest : Sha256Digest
  preparedAt : RuntimeClockReading
  deriving DecidableEq

inductive ChildToolSuccess
  | treeEnumerated (resultArtifact : ArtifactRef) (entriesReturned : UInt32)
      (directoryEntriesScanned directoryNameBytesScanned : UInt64) (truncated : Bool)
  | fileRead (resultArtifact : ArtifactRef) (offsetBytes bytesRead fileByteLen : UInt64)
      (truncated : Bool)
  | literalMatches (resultArtifact : ArtifactRef) (matchCount : UInt32)
      (filesScanned bytesScanned directoriesScanned directoryEntriesScanned
        directoryNameBytesScanned symlinksSkipped specialNodesSkipped : UInt64)
      (truncated : Bool)
  deriving DecidableEq

def ChildToolSuccess.resultArtifact : ChildToolSuccess → ArtifactRef
  | .treeEnumerated artifact .. => artifact
  | .fileRead artifact .. => artifact
  | .literalMatches artifact .. => artifact

inductive ChildToolObservation
  | succeeded (result : ChildToolSuccess)
  | failed (error : RepositoryToolFailure)
  | authorizationDenied (denial : RepositoryToolPreparationDenial)
  deriving DecidableEq

structure RepositoryUnretainedEvidenceDigest where
  mediaType : String
  byteLen : UInt64
  sha256 : Sha256Digest
  deriving DecidableEq

inductive RepositoryToolObservedTerminalV2
  | succeeded (resultArtifact : ArtifactRef)
  | failed (failure : RepositoryToolFailure) (evidenceArtifact : ArtifactRef)
      (unretainedPartial : Option RepositoryUnretainedEvidenceDigest)
  | authorizationDenied (denial : RepositoryToolPreparationDenialV2)
      (evidenceArtifact : ArtifactRef)
  deriving DecidableEq

/-- `ChildToolObserved` and `ChildToolObservedV2`, which differ in how the outcome is told. -/
structure ChildToolObserved (Outcome : Type) where
  binding : ChildExecutionBinding
  toolCallId : ChildToolCallId
  preparedEventId : EventId
  actionBinding : ChildValidatedActionBinding
  preparedReceiptDigest : Sha256Digest
  terminalReceiptArtifact : ArtifactRef
  terminalReceiptDigest : Sha256Digest
  finishedAt : RuntimeClockReading
  outcome : Outcome
  deriving DecidableEq

inductive ChildToolUnknownReason
  | runtimeRestartedBeforeObservation | claimExpiredBeforeObservation
  | evidenceCommitIndeterminate | executionCancelledBeforeObservation
  deriving DecidableEq

inductive ChildToolUnknownBoundary
  | restart | shutdown | claimRenewalFailed | deadline | cancelled
  deriving DecidableEq

structure ChildToolOutcomeUnknown where
  binding : ChildExecutionBinding
  toolCallId : ChildToolCallId
  preparedEventId : EventId
  actionBinding : ChildValidatedActionBinding
  preparedReceiptDigest : Sha256Digest
  terminalReceiptArtifact : ArtifactRef
  terminalReceiptDigest : Sha256Digest
  boundaryAt : RuntimeClockReading
  reason : ChildToolUnknownReason
  boundary : ChildToolUnknownBoundary
  cancellation : Option ChildCancellationCause
  deriving DecidableEq

inductive RepositoryToolUnknownTimingV2
  | brokerRecorded (recordedAt : RepositoryBrokerClock) (elapsedNanoseconds : UInt64)
  | runtimeReconciled (abandonedBrokerInstanceId : RepositoryBrokerInstanceId)
  deriving DecidableEq

structure ChildToolOutcomeUnknownV2 extends ChildToolOutcomeUnknown where
  timing : RepositoryToolUnknownTimingV2
  deriving DecidableEq

structure ChildToolDispatchStartedV2 where
  binding : ChildExecutionBinding
  toolCallId : ChildToolCallId
  preparedEventId : EventId
  actionBinding : ChildValidatedActionBinding
  preparedReceiptDigest : Sha256Digest
  claimEventId : EventId
  claimId : RunClaimId
  claimGeneration : UInt64
  runtimeInstanceId : RuntimeInstanceId
  cancellationGeneration : UInt64
  brokerEpochActivationEventId : EventId
  brokerInstanceId : RepositoryBrokerInstanceId
  startedAt : RuntimeClockReading
  deriving DecidableEq

structure RepositoryBrokerEpochState where
  activeBrokerInstanceId : RepositoryBrokerInstanceId
  closedBrokerInstanceIds : List RepositoryBrokerInstanceId
  deriving DecidableEq

structure RepositoryBrokerEpochActivated where
  previousActiveBrokerInstanceId : Option RepositoryBrokerInstanceId
  state : RepositoryBrokerEpochState
  activatedAt : RuntimeClockReading
  deriving DecidableEq

end ToolCall

section Terminal

inductive ChildExecutionFailureKind
  | model | tool | context | budget | protocol | durableState
  deriving DecidableEq

structure ChildExecutionFailureEvidence where
  contractVersion : UInt32
  binding : ChildExecutionBinding
  kind : ChildExecutionFailureKind
  retry : RetryDisposition
  diagnostic : Value
  deriving DecidableEq

inductive ChildExecutionFailureCause
  | modelTerminal (terminalEventId : EventId) (modelCallId : ChildModelCallId)
  | toolTerminal (terminalEventId : EventId) (toolCallId : ChildToolCallId)
  | runtimeEvidence (evidenceArtifact : ArtifactRef) (evidenceDigest : Sha256Digest)
  deriving DecidableEq

inductive ChildExecutionOutcome
  | succeeded (handoffStatus : ChildHandoffStatus)
  | failed (kind : ChildExecutionFailureKind) (retry : RetryDisposition)
      (cause : ChildExecutionFailureCause)
  | cancelled (cause : ChildCancellationCause)
  deriving DecidableEq

/-- `ChildExecutionOutcome::Failed { retry: RetryDisposition::RequiresNewAttempt, .. }`. -/
def ChildExecutionOutcome.requiresNewAttempt : ChildExecutionOutcome → Bool
  | .failed _ .requiresNewAttempt _ => true
  | _ => false

def ChildExecutionOutcome.isSucceeded : ChildExecutionOutcome → Bool
  | .succeeded _ => true
  | _ => false

structure ChildExecutionFinished where
  binding : ChildExecutionBinding
  handoffEventId : Option EventId
  completedModelCalls : UInt32
  completedToolCalls : UInt32
  finishedAt : RuntimeClockReading
  outcome : ChildExecutionOutcome
  deriving DecidableEq

end Terminal

end BirdCode.Store
