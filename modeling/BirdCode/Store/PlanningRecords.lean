import BirdCode.Store.ChildRecords

/-! The events of root planning and of planner turns, and the evidence a planner turn is given. -/
namespace BirdCode.Store

abbrev InferenceAttemptId := UuidId .inferenceAttempt
abbrev PlanProposalId := UuidId .planProposal
abbrev PlanSemanticReviewId := UuidId .planSemanticReview
abbrev RootPlanningStageFailureId := UuidId .rootPlanningStageFailure
abbrev ReadOperationId := UuidId .readOperation
abbrev PlannerEvidenceEntryId := UuidId .plannerEvidenceEntry
abbrev PlannerDelegateDirectiveId := UuidId .plannerDelegateDirective
abbrev ReconCompletionGateId := UuidId .reconCompletionGate

section Inference

inductive PlannerInferenceErrorKind
  | transport | timeout | authentication | rateLimited | providerRejected
  | protocolViolation | invalidStructuredResponse | cancelled
  deriving DecidableEq

structure PlannerInferenceError where
  kind : PlannerInferenceErrorKind
  retry : RetryDisposition
  deriving DecidableEq

inductive PlannerInferenceObservation
  | succeeded (reportedBackendModel : BackendModelIdentity) (tokenUsage : TokenUsage)
  | failed (error : PlannerInferenceError)
  deriving DecidableEq

def PlannerInferenceObservation.isSucceeded : PlannerInferenceObservation → Bool
  | .succeeded .. => true
  | .failed _ => false

structure PlanCandidateBinding where
  proposalEventId : EventId
  planRevision : UInt64
  planDigest : Sha256Digest
  planArtifact : ArtifactRef
  deriving DecidableEq

inductive PlannerStageContext
  | initialPlan (modelActorId : ActorId) (modelLineage criticLineage : ModelLineage)
      (executionPolicyArtifact : ArtifactRef)
  | initialReview (modelActorId : ActorId) (modelLineage : ModelLineage)
      (executionPolicyArtifact criticPolicyArtifact : ArtifactRef) (reviewRound : UInt32)
      (candidate : PlanCandidateBinding)
  | repair (modelActorId : ActorId) (modelLineage : ModelLineage)
      (executionPolicyArtifact : ArtifactRef) (repairOrdinal : UInt32)
      (candidate : PlanCandidateBinding) (triggeringReviewEventId : EventId)
      (requiredFindingIds : List String)
  | finalReview (modelActorId : ActorId) (modelLineage : ModelLineage)
      (executionPolicyArtifact criticPolicyArtifact : ArtifactRef)
      (reviewRound repairOrdinal : UInt32) (candidate : PlanCandidateBinding)
  deriving DecidableEq

structure PlannerInferencePrepared where
  attemptId : InferenceAttemptId
  parentAttemptId : Option InferenceAttemptId
  backendModel : BackendModelIdentity
  backendInstance : Option BackendInstanceIdentity
  promptArtifact : ArtifactRef
  promptManifestDigest : Sha256Digest
  requestArtifact : ArtifactRef
  tokenReservation : TokenReservation
  planRevision : UInt64
  planDigest : Sha256Digest
  obligationSnapshotDigest : Sha256Digest
  acceptancePolicyDigest : Sha256Digest
  contextManifestDigest : Sha256Digest
  plannerPolicyDigest : Sha256Digest
  cancellationGeneration : UInt64
  stageContext : Option PlannerStageContext
  deriving DecidableEq

structure PlannerInferenceObserved where
  attemptId : InferenceAttemptId
  tokenReservationId : TokenReservationId
  preparedEventId : EventId
  normalizedCompleteEvidenceArtifact : ArtifactRef
  outcome : PlannerInferenceObservation
  deriving DecidableEq

structure PlannerInferenceOutcomeUnknown where
  attemptId : InferenceAttemptId
  tokenReservationId : TokenReservationId
  preparedEventId : EventId
  reason : UnknownInferenceOutcomeReason
  cancellationGeneration : UInt64
  deriving DecidableEq

/-- What the store reads of a read operation. -/
structure ReadOperationPrepared where
  operationId : ReadOperationId
  planRevision : UInt64
  planDigest : Sha256Digest
  cancellationGeneration : UInt64
  deriving DecidableEq

structure ReadOperationObserved where
  operationId : ReadOperationId
  preparedEventId : EventId
  deriving DecidableEq

end Inference

section Decisions

inductive PlanProposalRejectionReason
  | invalidSchema | staleBaseRevision | staleBaseDigest | protectedAuthorityMutation
  | obligationCoverageIncomplete | dependencyCycle | policyLimitExceeded
  deriving DecidableEq

structure PlanProposalRejected where
  proposalId : PlanProposalId
  inferenceAttemptId : InferenceAttemptId
  observedEventId : EventId
  proposalArtifact : ArtifactRef
  basePlanRevision : UInt64
  basePlanDigest : Sha256Digest
  reason : PlanProposalRejectionReason
  validationEvidenceArtifact : ArtifactRef
  deriving DecidableEq

structure PlanProposalAccepted where
  proposalId : PlanProposalId
  inferenceAttemptId : InferenceAttemptId
  observedEventId : EventId
  proposalArtifact : ArtifactRef
  previousPlanRevision : UInt64
  previousPlanDigest : Sha256Digest
  acceptedPlanRevision : UInt64
  acceptedPlanDigest : Sha256Digest
  acceptedPlanArtifact : ArtifactRef
  validationEvidenceArtifact : ArtifactRef
  deriving DecidableEq

structure PlanSemanticReviewAccepted where
  reviewId : PlanSemanticReviewId
  inferenceAttemptId : InferenceAttemptId
  observedEventId : EventId
  candidate : PlanCandidateBinding
  critiqueArtifact : ArtifactRef
  validationEvidenceArtifact : ArtifactRef
  deriving DecidableEq

inductive PlanSemanticReviewRejectionDisposition
  | repairOnceAuthorized | terminalReject | reviewContractInvalid
  deriving DecidableEq

structure PlanSemanticReviewRejected where
  reviewId : PlanSemanticReviewId
  inferenceAttemptId : InferenceAttemptId
  observedEventId : EventId
  candidate : PlanCandidateBinding
  critiqueArtifact : ArtifactRef
  validationEvidenceArtifact : ArtifactRef
  disposition : PlanSemanticReviewRejectionDisposition
  requiredFindingIds : List String
  deriving DecidableEq

end Decisions

section Failures

inductive RootPlanningFailurePhase
  | preflight | modelDiscovery | promptPreparation
  deriving DecidableEq

inductive RootPlanningFailureReason
  | invalidWallDeadline | invalidRunConfiguration | backendDiscoveryFailed | discoveryTimedOut
  | invalidDiscoveryCatalog | selectedModelUnavailable | wallDeadlineExceeded
  | promptCompilationFailed | artifactPersistenceFailed | durableStateConflict
  deriving DecidableEq

inductive RootPlanningModelRole
  | producer | independentCritic
  deriving DecidableEq

structure RootPlanningModelSubject where
  role : RootPlanningModelRole
  lineage : ModelLineage
  deriving DecidableEq

structure RootPlanningFailed where
  claimEventId : EventId
  claimId : RunClaimId
  cancellationGeneration : UInt64
  phase : RootPlanningFailurePhase
  reason : RootPlanningFailureReason
  modelSubject : Option RootPlanningModelSubject
  evidenceArtifact : ArtifactRef
  deriving DecidableEq

inductive RootPlanningStage
  | initialPlan | initialReview | repair | finalReview
  deriving DecidableEq

inductive RootPlanningStageFailureReason
  | wallDeadlineExceeded | independentReviewerUnavailable | selectedModelUnavailable
  | aggregateBudgetExhausted | promptCompilationFailed | artifactPersistenceFailed
  | invalidCommittedArtifact | configurationDrift | durableStateConflict
  deriving DecidableEq

structure RootPlanningStageFailed where
  failureId : RootPlanningStageFailureId
  failedStage : RootPlanningStage
  predecessorEventId : EventId
  executionPolicyArtifact : ArtifactRef
  cancellationGeneration : UInt64
  reason : RootPlanningStageFailureReason
  modelSubject : RootPlanningModelSubject
  evidenceArtifact : ArtifactRef
  deriving DecidableEq

end Failures

section Evidence

inductive PlannerTurnPurpose
  | initialDelegation | evidenceReplan
  deriving DecidableEq

structure PlannerAcceptedRootPlanEvidence where
  acceptedPlanEventId : EventId
  acceptedPlanRevision : UInt64
  acceptedPlanArtifact : ArtifactRef
  acceptedPlanDigest : Sha256Digest
  deriving DecidableEq

structure PlannerChildHandoffEvidence where
  binding : ChildExecutionBinding
  handoffEventId : EventId
  handoffId : ChildHandoffId
  handoffArtifact : ArtifactRef
  handoffDigest : Sha256Digest
  finishedEventId : EventId
  deriving DecidableEq

structure PlannerChildFailedEvidence where
  binding : ChildExecutionBinding
  finishedEventId : EventId
  kind : ChildExecutionFailureKind
  retry : RetryDisposition
  cause : ChildExecutionFailureCause
  evidenceArtifact : ArtifactRef
  evidenceDigest : Sha256Digest
  deriving DecidableEq

structure PlannerChildCancelledEvidence where
  binding : ChildExecutionBinding
  finishedEventId : EventId
  cause : ChildCancellationCause
  deriving DecidableEq

inductive PlannerEvidenceMaterial
  | acceptedRootPlan (evidence : PlannerAcceptedRootPlanEvidence)
  | childHandoff (evidence : PlannerChildHandoffEvidence)
  | childFailed (evidence : PlannerChildFailedEvidence)
  | childCancelled (evidence : PlannerChildCancelledEvidence)
  deriving DecidableEq

structure PlannerEvidenceEntry where
  evidenceId : PlannerEvidenceEntryId
  normalizedContentDigest : Sha256Digest
  material : PlannerEvidenceMaterial
  deriving DecidableEq

structure PlannerEvidenceBinding where
  evidenceId : PlannerEvidenceEntryId
  normalizedContentDigest : Sha256Digest
  deriving DecidableEq

structure PlannerEvidencePacket where
  schemaVersion : UInt32
  purpose : PlannerTurnPurpose
  contextManifestDigest : Sha256Digest
  entries : List PlannerEvidenceEntry
  deriving DecidableEq

structure PlannerEvidenceDelta where
  schemaVersion : UInt32
  purpose : PlannerTurnPurpose
  previousPacketDigest : Option Sha256Digest
  previousEvidence : List PlannerEvidenceBinding
  newlyAvailable : List PlannerEvidenceBinding
  deltaDigest : Sha256Digest
  deriving DecidableEq

end Evidence

section Turns

structure PlannerBasePlanBinding where
  acceptedEventId : EventId
  revision : UInt64
  digest : Sha256Digest
  artifact : ArtifactRef
  deriving DecidableEq

inductive ChildModelReasoningSetting
  | off | on | low | medium | high
  deriving DecidableEq

structure ModelOutputBudget where
  maxTotalReservedOutputTokens : UInt64
  maxOutputTokensPerCall : UInt64
  deriving DecidableEq

structure PlannerTurnPrepared where
  schemaVersion : UInt32
  turnId : PlannerTurnId
  purpose : PlannerTurnPurpose
  claimEventId : EventId
  claimId : RunClaimId
  claimGeneration : UInt64
  claimRuntimeInstanceId : RuntimeInstanceId
  cancellationGeneration : UInt64
  basePlan : PlannerBasePlanBinding
  obligationSnapshotDigest : Sha256Digest
  acceptancePolicyDigest : Sha256Digest
  contextManifestDigest : Sha256Digest
  plannerPolicyDigest : Sha256Digest
  durableEvidencePacket : PlannerEvidencePacket
  durableEvidencePacketArtifact : ArtifactRef
  durableEvidencePacketDigest : Sha256Digest
  durableEvidenceDelta : PlannerEvidenceDelta
  durableEvidenceDeltaArtifact : ArtifactRef
  durableEvidenceDeltaDigest : Sha256Digest
  promptEvidencePacketArtifact : ArtifactRef
  promptEvidencePacketDigest : Sha256Digest
  promptEvidenceDeltaArtifact : ArtifactRef
  promptEvidenceDeltaDigest : Sha256Digest
  backendModel : BackendModelIdentity
  backendInstance : BackendInstanceIdentity
  modelLineage : ModelLineage
  reasoning : Option ChildModelReasoningSetting
  promptManifestArtifact : ArtifactRef
  promptManifestDigest : Sha256Digest
  promptArtifact : ArtifactRef
  promptDigest : Sha256Digest
  requestArtifact : ArtifactRef
  requestDigest : Sha256Digest
  tokenReservation : TokenReservation
  outputBudget : ModelOutputBudget
  preparedAt : RuntimeClockReading
  deriving DecidableEq

structure PlannerTurnObserved where
  turnId : PlannerTurnId
  preparedEventId : EventId
  normalizedCompleteEvidenceArtifact : ArtifactRef
  outcome : PlannerInferenceObservation
  observedAt : RuntimeClockReading
  deriving DecidableEq

structure PlannerTurnUnknown where
  turnId : PlannerTurnId
  preparedEventId : EventId
  boundaryEvidenceArtifact : ArtifactRef
  reason : UnknownInferenceOutcomeReason
  boundary : UnknownInferenceBoundary
  cancellation : Option ChildCancellationCause
  boundaryAt : RuntimeClockReading
  deriving DecidableEq

structure PlannerDelegatedWorkOrderBinding where
  workOrderId : String
  revision : UInt32
  workOrderArtifact : ArtifactRef
  workOrderDigest : Sha256Digest
  deriving DecidableEq

structure PlannerAcceptedDelegation where
  directiveId : PlannerDelegateDirectiveId
  sourceDelegationIndex : UInt32
  workOrders : List PlannerDelegatedWorkOrderBinding
  deriving DecidableEq

structure PlannerPromptObligationRef where
  id : String
  contentSha256 : Sha256Digest
  deriving DecidableEq

structure PlannerPromptFinishClaim where
  obligation : PlannerPromptObligationRef
  evidenceIds : List String
  deriving DecidableEq

inductive PlannerAcceptedDirective
  | execute (workOrder : PlannerDelegatedWorkOrderBinding)
  | delegate (delegations : List PlannerAcceptedDelegation)
  | clarify (requests : Value)
  | escalate (requests : Value)
  | finishPendingGate (claims : List PlannerPromptFinishClaim)
  deriving DecidableEq

structure PlannerTurnAccepted where
  turnId : PlannerTurnId
  purpose : PlannerTurnPurpose
  preparedEventId : EventId
  observedEventId : EventId
  basePlan : PlannerBasePlanBinding
  resultingPlan : PlannerBasePlanBinding
  acceptedPromptOutputArtifact : ArtifactRef
  acceptedPromptOutputDigest : Sha256Digest
  acceptedPromptOutput : Value
  resolvedDirective : PlannerAcceptedDirective
  validationEvidenceArtifact : ArtifactRef
  validationEvidenceDigest : Sha256Digest
  acceptedAt : RuntimeClockReading
  deriving DecidableEq

inductive PlannerTurnRejectionReason
  | invalidSchema | bindingMismatch | wrongPurpose | staleBasePlan | evidenceOmitted
  | evidenceSubstituted | evidenceFabricated | directiveInvalid | policyLimitExceeded
  deriving DecidableEq

structure PlannerTurnRejected where
  turnId : PlannerTurnId
  purpose : PlannerTurnPurpose
  preparedEventId : EventId
  observedEventId : EventId
  basePlan : PlannerBasePlanBinding
  rejectedOutputArtifact : ArtifactRef
  rejectedOutputDigest : Sha256Digest
  reason : PlannerTurnRejectionReason
  validationEvidenceArtifact : ArtifactRef
  validationEvidenceDigest : Sha256Digest
  rejectedAt : RuntimeClockReading
  deriving DecidableEq

/-- The delegation of a child by a directive of an accepted planner turn. -/
structure ChildDelegationAuthorizedV2 extends ChildDelegation where
  plannerTurnId : PlannerTurnId
  delegateDirectiveId : PlannerDelegateDirectiveId
  plannerWorkOrder : PlannerDelegatedWorkOrderBinding
  deriving DecidableEq

end Turns

section Gate

structure ReconCompletionChildTerminalBinding where
  binding : ChildExecutionBinding
  startedEventId : EventId
  finishedEventId : EventId
  startedAt : RuntimeClockReading
  finishedAt : RuntimeClockReading
  outcome : ChildExecutionOutcome
  deriving DecidableEq

structure ReconCompletionParallelOverlap where
  runtimeInstanceId : RuntimeInstanceId
  leftAttemptId : ChildAttemptId
  rightAttemptId : ChildAttemptId
  overlapStartNanos : UInt64
  overlapEndNanos : UInt64
  overlapDurationNanos : UInt64
  deriving DecidableEq

structure ReconCompletionGateReceipt where
  schemaVersion : UInt32
  gateId : ReconCompletionGateId
  sessionId : SessionId
  runId : RunId
  acceptedPlannerTurnEventId : EventId
  plannerTurnId : PlannerTurnId
  preparedEventId : EventId
  observedEventId : EventId
  resultingPlan : PlannerBasePlanBinding
  obligationSnapshotDigest : Sha256Digest
  acceptancePolicyDigest : Sha256Digest
  contextManifestDigest : Sha256Digest
  durableEvidencePacketDigest : Sha256Digest
  finishClaims : List PlannerPromptFinishClaim
  childTerminals : ReconCompletionChildTerminalBinding × ReconCompletionChildTerminalBinding
  parallelOverlap : ReconCompletionParallelOverlap
  snapshotLeaseEventId : EventId
  snapshotReleaseEventId : EventId
  validatedAt : RuntimeClockReading
  deriving DecidableEq

structure ReconCompletionGateAccepted where
  schemaVersion : UInt32
  gateId : ReconCompletionGateId
  claimEventId : EventId
  claimId : RunClaimId
  claimGeneration : UInt64
  claimRuntimeInstanceId : RuntimeInstanceId
  cancellationGeneration : UInt64
  acceptedPlannerTurnEventId : EventId
  plannerTurnId : PlannerTurnId
  resultingPlan : PlannerBasePlanBinding
  finishClaimsDigest : Sha256Digest
  receiptArtifact : ArtifactRef
  receiptDigest : Sha256Digest
  acceptedAt : RuntimeClockReading
  deriving DecidableEq

end Gate

end BirdCode.Store
