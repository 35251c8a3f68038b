import BirdCode.Store.ChildState

/-! The documents that root planning and planner turns retain, and what their rules take from the
prompt compiler, the plan critic and the plan model. -/
namespace BirdCode.Store

def cancellationBoundaryMediaType := "application/vnd.birdcode.cancellation-boundary+json"
def rootPlanningFailureMediaType := "application/vnd.birdcode.root-planning-failure+json"
def rootPlanningStageFailureMediaType :=
  "application/vnd.birdcode.root-planning-stage-failure+json"
def plannerV2FinalizationEvidenceMediaType :=
  "application/vnd.birdcode.planner-v2-finalization+json"
def plannerPromptOutputV2MediaType := "application/vnd.birdcode.planner-prompt-output.v2+json"
def plannerDurableEvidencePacketV2MediaType :=
  "application/vnd.birdcode.planner-durable-evidence-packet.v2+json"
def plannerDurableEvidenceDeltaV2MediaType :=
  "application/vnd.birdcode.planner-durable-evidence-delta.v2+json"

section Retained

structure RetainedCancellationBoundaryEvidence where
  reason : UnknownInferenceBoundary
  preparedEventId : EventId
  cancellationGeneration : UInt64
  deriving DecidableEq

inductive RetainedPlannerV2TerminalDisposition
  | failed | cancelled
  deriving DecidableEq

structure RetainedPlannerV2FinalizationEvidence where
  preparedEventId : EventId
  terminalEventId : EventId
  finalizedAt : RuntimeClockReading
  disposition : RetainedPlannerV2TerminalDisposition
  deriving DecidableEq

structure RetainedRootPlanningFailureEvidence where
  schemaVersion : UInt32
  runId : RunId
  claimEventId : EventId
  claimId : RunClaimId
  phase : RootPlanningFailurePhase
  reason : RootPlanningFailureReason
  modelSubject : Option RootPlanningModelSubject
  detail : String
  deriving DecidableEq

structure RetainedRootPlanningStageFailureEvidence where
  schemaVersion : UInt32
  runId : RunId
  failedStage : RootPlanningStage
  predecessorEventId : EventId
  executionPolicySha256 : Sha256Digest
  reason : RootPlanningStageFailureReason
  modelSubject : RootPlanningModelSubject
  detail : String
  deriving DecidableEq

end Retained

section RootPlanning

/-- What `classify_root_planner_rejection` tells apart. -/
inductive RootPlannerRejectionClass
  | invalidSchema | protectedAuthorityMutation | obligationCoverageIncomplete
  | dependencyCycle | policyLimitExceeded
  deriving DecidableEq

inductive PlanSemanticReviewValidatedVerdict
  | accept | revise | clarify | escalate | contractInvalid
  deriving DecidableEq

/-- The fields of `PlanSemanticReviewValidationReceipt` that a decision is read from. -/
structure PlanSemanticReviewValidationReceipt where
  verdict : PlanSemanticReviewValidatedVerdict
  findingIds : List String
  deriving DecidableEq

/-- The log's part of `expected_repair_invocation`. -/
structure RepairAssignment where
  candidate : PlanCandidateBinding
  triggeringReviewEventId : EventId
  requiredFindingIds : List String
  review : PlanSemanticReviewRejected
  reviewStage : PlannerStageContext
  deriving DecidableEq

/-- What the artifacts of a producer stage are checked against. -/
structure ProducerObservation where
  session : Session
  run : Run
  initial : PlannerInferencePrepared
  prepared : PlannerInferencePrepared
  repair : Option RepairAssignment
  observedEvent : EventEnvelope
  deriving DecidableEq

end RootPlanning

section Delegation

/-- The fields of a root plan's work order that a delegation is compared with. -/
structure RootPlanWorkOrder where
  localId : String
  objective : String
  deriving DecidableEq

inductive PlannerReplannerAccess
  | none | readOnly | workspaceWrite
  deriving DecidableEq

inductive PlannedWorkOrderState
  | pending | running | completed | failed | cancelled
  deriving DecidableEq

/-- The fields of `PlannerReplannerV2PlannedWorkOrder` that a delegation is compared with. -/
structure PlannedWorkOrder where
  id : String
  revision : UInt32
  objective : String
  dependencies : List String
  requiredAccess : PlannerReplannerAccess
  state : PlannedWorkOrderState
  deriving DecidableEq

end Delegation

section Turns

structure ProtectedObligation where
  id : String
  contentSha256 : String
  required : Bool
  deriving DecidableEq

/-- The obligations of `PlannerReplannerV2ProtectedObligationCatalog`, by their keys. -/
abbrev ProtectedObligationCatalog := List (String × ProtectedObligation)

/-- The fields of `PlannerReplannerV2PlanSnapshot` that base authority compares. -/
structure PlannerPlanSnapshot where
  schemaVersion : UInt32
  revision : UInt64
  parentPlanSha256 : Option String
  obligationSnapshotSha256 : String
  acceptancePolicySha256 : String
  strategySummary : String
  verificationTargets : List (String × Value)
  workOrders : List (String × Value)
  deriving DecidableEq

/-- The identity and the content hash of an entry of a prompt evidence packet. -/
structure PromptEvidenceBinding where
  evidenceId : String
  normalizedContentSha256 : String
  deriving DecidableEq

structure PromptEvidencePacket where
  purpose : PlannerTurnPurpose
  contextManifestSha256 : String
  entries : List (PromptEvidenceBinding × Value)
  packetSha256 : String
  deriving DecidableEq

structure PromptEvidenceDelta where
  purpose : PlannerTurnPurpose
  previousPacketSha256 : Option String
  previousEvidence : List PromptEvidenceBinding
  deltaSha256 : String
  deriving DecidableEq

end Turns

/-- The rules of retained planning documents. They read no event but the ones they are given. -/
structure PlanningDocuments where
  boundaryEvidence : Codec RetainedCancellationBoundaryEvidence
  finalizationEvidence : Codec RetainedPlannerV2FinalizationEvidence
  rootPlanningFailure : Codec RetainedRootPlanningFailureEvidence
  rootPlanningStageFailure : Codec RetainedRootPlanningStageFailureEvidence
  durablePacket : Codec PlannerEvidencePacket
  durableDelta : Codec PlannerEvidenceDelta
  /-- The documents of `validate_critic_policy_artifact`, with the first Prepared of the run. -/
  criticPolicy : Session → Run → PlannerInferencePrepared → PlannerInferencePrepared →
    PlannerStageContext → ArtifactRef → Except StoreError Unit
  /-- `validate_stage_execution_policy`. -/
  stageExecutionPolicy : PlannerInferencePrepared → PlannerStageContext → Option UInt64 →
    Except StoreError Unit
  /-- `expected_observation_from_evidence` of the retained evidence. -/
  inferenceObservation : PlannerInferencePrepared → ArtifactRef →
    Except StoreError PlannerInferenceObservation
  /-- The documents of `validate_semantic_plan_proposal_artifacts`. -/
  planProposal : ProducerObservation → PlanProposalAccepted → Except StoreError Unit
  /-- The documents of `validate_semantic_plan_rejection_artifacts`, and the class of the error
  that the output decodes to. -/
  planRejection : ProducerObservation → PlanProposalRejected →
    Except StoreError RootPlannerRejectionClass
  /-- `validate_semantic_review_artifacts`. -/
  semanticReview : PlannerInferencePrepared → EventEnvelope → PlannerStageContext →
    PlanCandidateBinding → Session → Run → ArtifactRef → ArtifactRef →
    Except StoreError PlanSemanticReviewValidationReceipt
  /-- `read_planner_base_snapshot`. -/
  baseSnapshot : PlannerBasePlanBinding → Except StoreError PlannerPlanSnapshot
  /-- `validate_planner_v2_retained_prompt`, with the obligations of the retained request. -/
  retainedPrompt : PlannerTurnPrepared → PlannerPlanSnapshot →
    Except StoreError ProtectedObligationCatalog
  /-- The prompt evidence packet at an artifact, with its own integrity. -/
  promptPacket : ArtifactRef → Except StoreError PromptEvidencePacket
  promptDelta : ArtifactRef → Except StoreError PromptEvidenceDelta
  /-- `PlannerReplannerV2EvidenceDelta::validate_against`. -/
  promptDeltaValid : PromptEvidenceDelta → PromptEvidencePacket → Bool
  /-- The text of an evidence identity. -/
  evidenceIdText : PlannerEvidenceEntryId → String
  /-- `planner_v2_observation_from_evidence` of the retained evidence. -/
  turnObservation : PlannerTurnPrepared → ArtifactRef →
    Except StoreError PlannerInferenceObservation
  /-- The documents of `validate_planner_turn_accepted_v1`, with the identity of its event. -/
  turnAcceptance : PlannerTurnPrepared → PlannerTurnObserved → PlannerTurnAccepted → EventId →
    Except StoreError Unit
  /-- The documents of `validate_planner_turn_rejected_v1`. -/
  turnRejection : PlannerTurnPrepared → PlannerTurnObserved → PlannerTurnRejected →
    Except StoreError Unit
  /-- What the completion gate reads again of a turn that finishes: its output, the response
  that the output came from and the plan that both leave unchanged. -/
  finishOutput : PlannerTurnPrepared → PlannerTurnObserved → PlannerTurnAccepted →
    Except StoreError Unit
  finishClaims : Codec (List PlannerPromptFinishClaim)
  gateReceipt : Codec ReconCompletionGateReceipt
  /-- The work orders of the accepted root plan at an artifact. -/
  rootPlan : ArtifactRef → Except StoreError (List RootPlanWorkOrder)
  /-- The planned work order at an artifact of `PLANNER_WORK_ORDER_V2_MEDIA_TYPE`. -/
  plannedWorkOrder : ArtifactRef → Except StoreError PlannedWorkOrder

end BirdCode.Store
