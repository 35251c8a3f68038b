import BirdCode.Basic

/-! The protocol records that the store's events and the retained documents are made of. -/
namespace BirdCode.Store

abbrev SessionId := UuidId .session
abbrev RunId := UuidId .run
abbrev EventId := UuidId .event
abbrev ActorId := UuidId .eventActor
abbrev RunClaimId := UuidId .runClaim
abbrev RuntimeInstanceId := UuidId .runtimeInstance
abbrev CancellationRequestId := UuidId .cancellationRequest
abbrev ChildWorkOrderId := UuidId .childWorkOrder
abbrev ChildExecutionId := UuidId .childExecution
abbrev ChildActorId := UuidId .childActor
abbrev ChildContextId := UuidId .childContext
abbrev ChildAttemptId := UuidId .childAttempt
abbrev ChildLocalPlanId := UuidId .childLocalPlan
abbrev ChildModelCallId := UuidId .childModelCall
abbrev ChildToolCallId := UuidId .childToolCall
abbrev ChildHandoffId := UuidId .childHandoff
abbrev ChildValidatedActionId := UuidId .childValidatedAction
abbrev ChildClaimAdoptionId := UuidId .childClaimAdoption
abbrev ChildDelegationAuthorizationId := UuidId .childDelegationAuthorization
abbrev TokenReservationId := UuidId .tokenReservation
abbrev RepositoryToolGrantId := UuidId .repositoryToolGrant
abbrev RepositoryBrokerInstanceId := UuidId .repositoryBroker
abbrev RepositorySnapshotLeaseId := UuidId .repositorySnapshotLease
abbrev PlannerTurnId := UuidId .plannerTurn

/-- `DateTime<Utc>`: nanoseconds since the epoch. -/
abbrev DateTime := ℤ

abbrev Bytes := List UInt8

/-- Exactly 64 lowercase hexadecimal digits. -/
structure Sha256Digest where
  value : String
  valid : validSha256 value = true

instance : DecidableEq Sha256Digest := fun first second =>
  decidable_of_iff (first.value = second.value) ⟨fun h => by
    cases first
    cases second
    subst h
    rfl, congrArg Sha256Digest.value⟩

structure ArtifactRef where
  sha256 : String
  sizeBytes : UInt64
  mediaType : String
  deriving DecidableEq

inductive BackendKind
  | model | agent
  deriving DecidableEq

structure BackendSelection where
  backendId : String
  kind : BackendKind
  model : Option String
  reasoningEffort : Option String
  deriving DecidableEq

structure BackendModelIdentity where
  backendId : String
  kind : BackendKind
  modelId : String
  deriving DecidableEq

inductive BackendTransportIdentity
  | httpOrigin (origin : String)
  deriving DecidableEq

structure BackendInstanceIdentity where
  schemaVersion : UInt32
  backendId : String
  transport : BackendTransportIdentity
  configuredDeploymentId : String
  identitySha256 : Sha256Digest
  deriving DecidableEq

structure ModelLineage where
  backendId : String
  modelId : String
  deploymentId : String
  independenceDomainId : String
  deriving DecidableEq

structure TokenReservation where
  id : TokenReservationId
  reservedTokens : UInt64
  maxOutputTokens : UInt64
  deriving DecidableEq

structure TokenUsage where
  inputTokens : UInt64
  outputTokens : UInt64
  totalTokens : UInt64
  cachedInputTokens : Option UInt64
  deriving DecidableEq

inductive RetryDisposition
  | never | requiresNewAttempt
  deriving DecidableEq

structure RuntimeClockReading where
  runtimeInstanceId : RuntimeInstanceId
  monotonicNanos : UInt64
  observedAt : DateTime
  deriving DecidableEq

structure RepositoryBrokerClock where
  brokerInstanceId : RepositoryBrokerInstanceId
  monotonicNanos : UInt64
  deriving DecidableEq

structure RunClaimed where
  claimId : RunClaimId
  runtimeInstanceId : RuntimeInstanceId
  claimGeneration : UInt64
  cancellationGeneration : UInt64
  leaseExpiresAt : DateTime
  deriving DecidableEq

structure CancellationRequested where
  cancellationRequestId : CancellationRequestId
  cancellationGeneration : UInt64
  deriving DecidableEq

structure ChildCancellationCause where
  requestEventId : EventId
  requestId : CancellationRequestId
  cancellationGeneration : UInt64
  deriving DecidableEq

inductive RunPurpose
  | planOnly | parallelRepositoryReconnaissanceV1 | execute
  deriving DecidableEq

inductive RunState
  | queued | running | waiting | completed | failed | cancelled
  deriving DecidableEq

structure RunLimits where
  maxOutputTokens : Option UInt64
  maxWallTimeSeconds : Option UInt64
  maxSubagents : UInt32
  deriving DecidableEq

inductive PlanAcceptanceContract
  | independentSemanticReviewV1 | legacyMechanicalOnlyV4 | notApplicable
  deriving DecidableEq

structure RunSpec where
  sessionId : SessionId
  purpose : RunPurpose
  planAcceptance : PlanAcceptanceContract
  backend : BackendSelection
  limits : RunLimits
  deriving DecidableEq

structure Run where
  id : RunId
  spec : RunSpec
  state : RunState
  createdAt : DateTime
  deriving DecidableEq

section Repository

inductive ChildToolKind
  | repositoryTree | repositoryFileRead | literalSearch
  deriving DecidableEq

inductive RepositoryRelativePath
  | unix (components : List Bytes)
  deriving DecidableEq

inductive ModelRepositoryPathComponent
  | utf8 (value : String)
  | unixBytes (value : Bytes)
  deriving DecidableEq

structure ModelRepositoryPath where
  components : List ModelRepositoryPathComponent
  deriving DecidableEq

def ModelRepositoryPathComponent.toUnixBytes : ModelRepositoryPathComponent → Bytes
  | .utf8 value => value.toUTF8.toList
  | .unixBytes value => value

def ModelRepositoryPath.toRepositoryPath (path : ModelRepositoryPath) : RepositoryRelativePath :=
  .unix (path.components.map ModelRepositoryPathComponent.toUnixBytes)

structure RepositoryFileIdentity where
  device : UInt64
  inode : UInt64
  byteLen : Int64
  modifiedSeconds : Int64
  modifiedNanoseconds : Int64
  changedSeconds : Int64
  changedNanoseconds : Int64
  deriving DecidableEq

structure RepositorySnapshotLeaseBinding where
  leaseId : RepositorySnapshotLeaseId
  leaseArtifact : ArtifactRef
  leaseDigest : Sha256Digest
  deriving DecidableEq

structure RepositorySnapshotBinding where
  snapshotId : String
  declaredSnapshotDigest : Sha256Digest
  immutabilityLease : RepositorySnapshotLeaseBinding
  deriving DecidableEq

structure RepositoryRootBinding where
  repositoryRootId : String
  descriptorIdentity : RepositoryFileIdentity
  deriving DecidableEq

structure RepositoryToolBounds where
  maxCallsPerBroker : UInt64
  maxRequestBytes : UInt64
  maxPathComponents : UInt32
  maxPathBytes : UInt64
  maxComponentBytes : UInt64
  maxReadBytes : UInt64
  maxTreeDepth : UInt32
  maxTreeEntries : UInt32
  maxDirectoryEntriesScanned : UInt32
  maxDirectoryNameBytesScanned : UInt64
  maxSearchPatternBytes : UInt64
  maxSearchDepth : UInt32
  maxSearchFiles : UInt32
  maxSearchMatches : UInt32
  maxSearchBytesPerFile : UInt64
  maxSearchTotalBytes : UInt64
  maxArtifactBytes : UInt64
  deriving DecidableEq

inductive RepositoryToolGrant
  | repositoryTree (toolGrantId : RepositoryToolGrantId) (maxPathComponents : UInt32)
      (maxPathBytes maxComponentBytes : UInt64) (maxDepth maxEntries : UInt32)
  | repositoryFileRead (toolGrantId : RepositoryToolGrantId) (maxPathComponents : UInt32)
      (maxPathBytes maxComponentBytes maxOffsetBytes maxBytes : UInt64)
  | literalSearch (toolGrantId : RepositoryToolGrantId) (maxPathComponents : UInt32)
      (maxPathBytes maxComponentBytes maxLiteralBytes : UInt64)
      (maxDepth maxFiles maxMatches : UInt32) (maxBytesPerFile maxTotalBytes : UInt64)
  deriving DecidableEq

def RepositoryToolGrant.toolGrantId : RepositoryToolGrant → RepositoryToolGrantId
  | .repositoryTree id .. => id
  | .repositoryFileRead id .. => id
  | .literalSearch id .. => id

structure ChildRepositoryAuthority where
  policyId : String
  policyArtifact : ArtifactRef
  policyDigest : Sha256Digest
  snapshot : RepositorySnapshotBinding
  root : RepositoryRootBinding
  brokerBounds : RepositoryToolBounds
  toolGrants : List RepositoryToolGrant
  deriving DecidableEq

structure RepositoryToolPolicyDocument where
  schemaVersion : UInt32
  policyId : String
  snapshot : RepositorySnapshotBinding
  root : RepositoryRootBinding
  brokerBounds : RepositoryToolBounds
  toolGrants : List RepositoryToolGrant
  deriving DecidableEq

inductive ChildToolOperation
  | repositoryTree (path : RepositoryRelativePath) (maxDepth maxEntries : UInt32)
  | repositoryFileRead (path : RepositoryRelativePath) (offsetBytes maxBytes : UInt64)
  | literalSearch (path : RepositoryRelativePath) (literalUtf8 : String)
      (maxDepth maxFiles maxMatches : UInt32) (maxBytesPerFile maxTotalBytes : UInt64)
  deriving DecidableEq

inductive RepositoryPathViolation
  | emptyComponent | currentDirectoryComponent | parentTraversal | embeddedSeparator
  | embeddedNul | emptyFilePath
  deriving DecidableEq

inductive RepositoryLimitKind
  | brokerCalls | requestBytes | pathComponents | pathBytes | componentBytes | readBytes
  | treeDepth | treeEntries | directoryEntriesScanned | directoryNameBytesScanned
  | searchPatternBytes | searchDepth | searchFiles | searchMatches | searchBytesPerFile
  | searchTotalBytes | artifactBytes
  deriving DecidableEq

inductive RepositoryLimitKindV2
  | brokerCalls | requestBytes | pathComponents | pathBytes | componentBytes | readOffsetBytes
  | readBytes | treeDepth | treeEntries | directoryEntriesScanned | directoryNameBytesScanned
  | searchPatternBytes | searchDepth | searchFiles | searchMatches | searchBytesPerFile
  | searchTotalBytes | artifactBytes
  deriving DecidableEq

inductive RepositoryToolPreparationDenial
  | toolNotGranted (tool : ChildToolKind)
  | grantIdentityMismatch
  | invalidPath (violation : RepositoryPathViolation) (componentIndex : Option UInt32)
  | limitExceeded (limit : RepositoryLimitKind) (requested maximum : UInt64)
  | limitMustBePositive (limit : RepositoryLimitKind)
  | emptyLiteralPattern
  | evidenceEncodingFailed
  deriving DecidableEq

inductive RepositoryToolAuthorizationDecision
  | authorized
  | denied (denial : RepositoryToolPreparationDenial)
  deriving DecidableEq

inductive RepositoryToolPreparationDenialV2
  | toolNotGranted (tool : ChildToolKind)
  | grantIdentityMismatch
  | invalidPath (violation : RepositoryPathViolation) (componentIndex : Option UInt32)
  | limitExceeded (limit : RepositoryLimitKindV2) (requested maximum : UInt64)
  | limitMustBePositive (limit : RepositoryLimitKindV2)
  | emptyLiteralPattern
  deriving DecidableEq

inductive RepositoryToolAuthorizationDecisionV2
  | authorized
  | denied (denial : RepositoryToolPreparationDenialV2)
  deriving DecidableEq

inductive RepositoryPreparedRecordViolation
  | wrongBroker | unissuedCall | issuedRecordMismatch | policyDigestMismatch
  | parametersArtifactMismatch | snapshotMismatch | authorizationMismatch
  deriving DecidableEq

inductive RepositoryIoOperation
  | duplicateRootDescriptor | openRoot | openDirectory | openFile | readDirectory
  | statDirectoryEntry | statDescriptor | seekFile | readFile
  deriving DecidableEq

inductive RepositoryIoFailureKind
  | notFound | permissionDenied | symlinkRejected | wrongFileType | interrupted | invalidInput
  | resourceExhausted | other
  deriving DecidableEq

inductive RepositoryExpectedNodeKind
  | directory | regularFile
  deriving DecidableEq

inductive RepositoryNodeKind
  | regularFile | directory | symlink | other
  deriving DecidableEq

inductive RepositoryToolFailure
  | toolNotGranted (tool : ChildToolKind)
  | invalidPath (violation : RepositoryPathViolation) (componentIndex : Option UInt32)
  | limitExceeded (limit : RepositoryLimitKind) (requested maximum : UInt64)
  | limitMustBePositive (limit : RepositoryLimitKind)
  | emptyLiteralPattern
  | preparedRecordInvalid (violation : RepositoryPreparedRecordViolation)
  | preparedCallAlreadyConsumed
  | snapshotIdentityChanged (expected observed : RepositoryFileIdentity)
  | crossDeviceBoundary (rootDevice observedDevice : UInt64)
  | nodeChangedDuringObservation (before after : RepositoryFileIdentity)
  | symlinkRejected
  | wrongFileType (expected : RepositoryExpectedNodeKind) (observed : RepositoryNodeKind)
  | invalidReadRange (offsetBytes fileByteLen : UInt64)
  | io (operation : RepositoryIoOperation) (kind : RepositoryIoFailureKind)
      (rawOsError : Option Int32)
  | evidenceEncodingFailed
  | brokerStateUnavailable
  | unsupportedPlatform
  deriving DecidableEq

inductive RepositoryFilesystemEffect
  | noFilesystemAccessAttempted | readOnlyFilesystemAccessAttempted | indeterminate
  deriving DecidableEq

inductive RepositoryCleanupDisposition
  | noPersistentResourcesCreated | transientDescriptorsClosedByOwnershipScope
  deriving DecidableEq

inductive RepositoryCleanupRecovery
  | brokerInstanceRestartRequired | runtimeReconciliationRequired | manualReconciliationRequired
  deriving DecidableEq

inductive RepositoryArtifactRetention
  | inline | digestOnly
  deriving DecidableEq

structure RepositoryEvidenceArtifact where
  mediaType : String
  retention : RepositoryArtifactRetention
  bytes : Option Bytes
  byteLen : UInt64
  sha256 : Sha256Digest
  deriving DecidableEq

/-- `RepositoryCleanupReportV1` and `RepositoryCleanupReportV2`, which differ in the type of the
recovery evidence. -/
inductive RepositoryCleanupReport (Evidence : Type)
  | completed (disposition : RepositoryCleanupDisposition)
      (persistentResourcesCreated temporaryResourcesCreated : UInt32)
  | indeterminate (recovery : RepositoryCleanupRecovery) (recoveryEvidence : Option Evidence)
  deriving DecidableEq

inductive RepositoryInterruptionBoundary
  | runtimeRestart | runtimeShutdown | deadline | cancellation | evidenceCommitIndeterminate
  deriving DecidableEq

end Repository

end BirdCode.Store
