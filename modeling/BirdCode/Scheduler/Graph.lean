import BirdCode.Basic

/-! Work orders, the actor graph a planner proposes, and the trusted policy it is checked
against. -/
namespace BirdCode.Scheduler

abbrev WorkOrderId := UuidId .workOrder
abbrev ActorId := UuidId .actor
abbrev ExecutionId := UuidId .execution
abbrev AttemptId := UuidId .attempt
abbrev HandoffId := UuidId .handoff
abbrev SchedulerEventId := UuidId .schedulerEvent

abbrev CapabilityId := OpaqueId .capability
abbrev RoleId := OpaqueId .role
abbrev CandidateGroupId := OpaqueId .candidateGroup
abbrev WorkspaceLeaseId := OpaqueId .workspaceLease
abbrev ModelProfileId := OpaqueId .modelProfile

def actorGraphSchemaVersion : UInt32 := 2
def hardMaxWorkOrders : ℕ := 1024
def hardMaxPolicyLeases : ℕ := 2048
def hardMaxModelProfiles : ℕ := 1024
def hardMaxCapabilities : ℕ := 4096
def hardMaxTotalCapabilityReferences : ℕ := 32768
def hardMaxDependencies : ℕ := 256
def hardMaxReviews : ℕ := 256
def hardMaxGraphTextBytes : ℕ := 16 * 1024 * 1024
def maxObjectiveBytes : ℕ := 256 * 1024
def maxAcceptanceCriteria : ℕ := 256
def maxAcceptanceCriterionBytes : ℕ := 32 * 1024
def maxAssignmentIdBytes : ℕ := 512
def maxHandoffSummaryBytes : ℕ := 256 * 1024
def maxFailureMessageBytes : ℕ := 256 * 1024
def maxHandoffReferences : ℕ := 512
def maxEvidenceIdBytes : ℕ := 512

structure ModelLineage where
  backendId : String
  modelId : String
  deploymentId : String
  independenceDomainId : String
  deriving DecidableEq

structure AgentAssignment where
  roleId : RoleId
  modelProfileId : ModelProfileId
  lineage : ModelLineage
  deriving DecidableEq

structure PermissionGrant where
  capabilities : BTreeSet CapabilityId
  deriving DecidableEq

def PermissionGrant.isSubsetOf (grant parent : PermissionGrant) : Bool :=
  grant.capabilities.toList.all fun capability => parent.capabilities.contains capability

inductive WorkspaceAccess
  | readOnly | write
  deriving DecidableEq

def WorkspaceAccess.permits (access child : WorkspaceAccess) : Bool :=
  access = .write || child = .readOnly

/-- The source material behind a lease: a snapshot for reading, or a Git baseline. -/
inductive WorkspaceSourceBinding
  | brokeredRepositorySnapshotV1 (snapshotSha256 : String)
  | gitCleanCommittedHeadV1 (gitBaselineSha256 : String)
  deriving DecidableEq

def WorkspaceSourceBinding.digestSha256 : WorkspaceSourceBinding → String
  | brokeredRepositorySnapshotV1 snapshotSha256 => snapshotSha256
  | gitCleanCommittedHeadV1 gitBaselineSha256 => gitBaselineSha256

def WorkspaceSourceBinding.supportsWrite : WorkspaceSourceBinding → Bool
  | brokeredRepositorySnapshotV1 _ => false
  | gitCleanCommittedHeadV1 _ => true

structure WorkspaceGrant where
  leaseId : WorkspaceLeaseId
  source : WorkspaceSourceBinding
  access : WorkspaceAccess
  deriving DecidableEq

structure WorkspaceLeasePolicy where
  source : WorkspaceSourceBinding
  access : WorkspaceAccess
  deriving DecidableEq

/-- The ceiling of one attempt, and how many attempts there may be. -/
structure AgentBudget where
  maxOutputTokens : UInt64
  maxToolCalls : UInt64
  maxWallTimeMs : UInt64
  maxCleanupTimeMs : UInt64
  maxAttempts : UInt32
  deriving DecidableEq

structure ActorGraphLimits where
  maxWorkOrders : UInt32
  maxParallel : UInt32
  maxTotalAttempts : UInt64
  maxTotalOutputTokens : UInt64
  maxTotalToolCalls : UInt64
  maxTotalWallTimeMs : UInt64
  deriving DecidableEq

/-- The mechanical envelope supplied independently of the planner. -/
structure ActorGraphPolicy where
  policyVersion : String
  planInputSnapshotSha256 : String
  rootPermissions : PermissionGrant
  limits : ActorGraphLimits
  requireReportedTokenUsage : Bool
  workspaceLeases : BTreeMap WorkspaceLeaseId WorkspaceLeasePolicy
  modelProfiles : BTreeMap ModelProfileId ModelLineage
  deriving DecidableEq

structure WorkOrder where
  id : WorkOrderId
  objective : String
  acceptanceCriteria : List String
  dependencies : BTreeSet WorkOrderId
  candidateGroup : Option CandidateGroupId
  priority : Int32
  contextManifestSha256 : String
  assignment : AgentAssignment
  permissions : PermissionGrant
  workspace : WorkspaceGrant
  budget : AgentBudget
  reviews : BTreeSet WorkOrderId
  deriving DecidableEq

/-- A planner's proposal. It carries no authority. -/
structure ActorGraph where
  schemaVersion : UInt32
  planInputSnapshotSha256 : String
  workOrders : List WorkOrder
  deriving DecidableEq

inductive ActorGraphViolation
  | unsupportedSchemaVersion (actual : UInt32)
  | emptyPolicyVersion
  | policyVersionTooLarge (maximum actual : ℕ)
  | policyWorkspaceLeaseLimitExceeded (maximum actual : ℕ)
  | policyModelProfileLimitExceeded (maximum actual : ℕ)
  | rootCapabilityLimitExceeded (maximum actual : ℕ)
  | totalCapabilityReferenceLimitExceeded (maximum actual : ℕ)
  | invalidWorkspaceLeasePolicy (leaseId : WorkspaceLeaseId)
  | invalidModelProfilePolicy (modelProfileId : ModelProfileId)
  | invalidPolicySnapshotDigest
  | invalidSnapshotDigest
  | rootSnapshotMismatch
  | emptyGraph
  | workOrderLimitExceeded (maximum : UInt32) (actual : ℕ)
  | hardWorkOrderLimitExceeded (maximum actual : ℕ)
  | graphTextLimitExceeded (maximum actual : ℕ)
  | invalidParallelLimit
  | emptyObjective (workOrderId : WorkOrderId)
  | objectiveTooLarge (workOrderId : WorkOrderId) (maximum actual : ℕ)
  | emptyAcceptanceCriteria (workOrderId : WorkOrderId)
  | acceptanceCriteriaLimitExceeded (workOrderId : WorkOrderId) (maximum actual : ℕ)
  | acceptanceCriterionTooLarge (workOrderId : WorkOrderId) (index maximum actual : ℕ)
  | invalidAssignment (workOrderId : WorkOrderId) (field : String)
  | unknownModelProfile (workOrderId : WorkOrderId) (modelProfileId : ModelProfileId)
  | modelLineageMismatch (workOrderId : WorkOrderId) (modelProfileId : ModelProfileId)
  | invalidContextManifestDigest (workOrderId : WorkOrderId)
  | invalidBudget (workOrderId : WorkOrderId)
  | dependencyLimitExceeded (workOrderId : WorkOrderId) (maximum actual : ℕ)
  | reviewLimitExceeded (workOrderId : WorkOrderId) (maximum actual : ℕ)
  | capabilityLimitExceeded (workOrderId : WorkOrderId) (maximum actual : ℕ)
  | duplicateWorkOrder (workOrderId : WorkOrderId)
  | unknownDependency (workOrderId dependencyId : WorkOrderId)
  | selfDependency (workOrderId : WorkOrderId)
  | dependencyCycle (workOrderIds : List WorkOrderId)
  | authorityExpansion (workOrderId : WorkOrderId)
  | unknownWorkspaceLease (workOrderId : WorkOrderId) (leaseId : WorkspaceLeaseId)
  | workspaceLeaseMismatch (workOrderId : WorkOrderId) (leaseId : WorkspaceLeaseId)
  | invalidWorkspaceSourceDigest (workOrderId : WorkOrderId)
  | sharedWriterLease (leaseId : WorkspaceLeaseId)
  | workspaceExecutionProfileUnsupported (workOrderId : WorkOrderId)
      (source : WorkspaceSourceBinding) (access : WorkspaceAccess) (maxAttempts : UInt32)
  | candidateSnapshotMismatch (candidateGroupId : CandidateGroupId)
  | candidateGroupTooSmall (candidateGroupId : CandidateGroupId) (actual : ℕ)
  | candidateDependency (candidateGroupId : CandidateGroupId)
      (workOrderId dependencyId : WorkOrderId)
  | candidateContractMismatch (candidateGroupId : CandidateGroupId)
  | candidateSharedWorkspaceLease (candidateGroupId : CandidateGroupId)
      (leaseId : WorkspaceLeaseId)
  | unknownReviewTarget (reviewerId targetId : WorkOrderId)
  | reviewMissingDependency (reviewerId targetId : WorkOrderId)
  | reviewerHasWriteWorkspace (reviewerId : WorkOrderId)
  | reviewerLineageConflict (reviewerId targetId : WorkOrderId)
  | ungatedReviewDependency (downstreamId reviewerId : WorkOrderId)
  | ungatedReviewedTargetDependency (downstreamId targetId : WorkOrderId)
  | budgetOverflow
  | attemptBudgetExceeded (maximum actual : UInt64)
  | outputTokenBudgetExceeded (maximum actual : UInt64)
  | missingOutputTokenUsage
  | toolCallBudgetExceeded (maximum actual : UInt64)
  | wallTimeBudgetExceeded (maximumMs actualMs : UInt64)
  deriving DecidableEq

section Sample

/-- A well-formed digest for concrete graphs. -/
def sampleSha256 : String :=
  "0000000000000000000000000000000000000000000000000000000000000000"

def sampleProfile : ModelProfileId := ⟨"profile", by decide⟩

def sampleLease : WorkspaceLeaseId := ⟨"lease", by decide⟩

def sampleLineage : ModelLineage := ⟨"backend", "model", "deployment", "domain"⟩

/-- A read-only work order on a lease of its own, for concrete graphs. -/
def sampleOrder (id : WorkOrderId) (leaseId : WorkspaceLeaseId) (maxAttempts : UInt32)
    (dependencies : List WorkOrderId) : WorkOrder where
  id := id
  objective := "objective"
  acceptanceCriteria := ["criterion"]
  dependencies := toSet dependencies
  candidateGroup := none
  priority := 0
  contextManifestSha256 := sampleSha256
  assignment := ⟨⟨"role", by decide⟩, sampleProfile, sampleLineage⟩
  permissions := ⟨∅⟩
  workspace := ⟨leaseId, .brokeredRepositorySnapshotV1 sampleSha256, .readOnly⟩
  budget := ⟨100, 10, 1000, 1000, maxAttempts⟩
  reviews := ∅

end Sample

end BirdCode.Scheduler
