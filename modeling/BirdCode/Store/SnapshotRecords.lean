import BirdCode.Store.Artifacts

/-! The events and retained documents of a repository snapshot: the writer revocation that opens
a capture, its claim adoptions, the lease and its release. -/
namespace BirdCode.Store

abbrev SnapshotCaptureClaimAdoptionId := UuidId .repositorySnapshotCaptureClaimAdoption

/-- `WorkspacePath`; only its Unix form has bytes. -/
inductive WorkspacePath
  | unixBytes (bytes : Bytes)
  | windowsUtf16 (codeUnits : List UInt16)
  deriving DecidableEq

def WorkspacePath.asUnixBytes : WorkspacePath → Option Bytes
  | .unixBytes bytes => some bytes
  | .windowsUtf16 _ => none

structure RepositorySnapshotCaptureIdentity where
  snapshotId : String
  leaseId : RepositorySnapshotLeaseId
  snapshotLeaseEventId : EventId
  deriving DecidableEq

structure RepositoryWriterLeaseRevoked where
  issuerActorId : ActorId
  claimEventId : EventId
  claimId : RunClaimId
  claimGeneration : UInt64
  claimRuntimeInstanceId : RuntimeInstanceId
  cancellationGeneration : UInt64
  capture : RepositorySnapshotCaptureIdentity
  evidenceArtifact : ArtifactRef
  evidenceDigest : Sha256Digest
  deriving DecidableEq

structure RepositorySnapshotCaptureClaimAdopted where
  adoptionId : SnapshotCaptureClaimAdoptionId
  issuerActorId : ActorId
  snapshotId : String
  leaseId : RepositorySnapshotLeaseId
  snapshotLeaseEventId : EventId
  workspaceWriterLeaseId : String
  writerLeaseGeneration : UInt64
  writerRevocationEventId : EventId
  priorClaimEventId : EventId
  priorClaimId : RunClaimId
  priorClaimGeneration : UInt64
  priorRuntimeInstanceId : RuntimeInstanceId
  newClaimEventId : EventId
  newClaimId : RunClaimId
  newClaimGeneration : UInt64
  newRuntimeInstanceId : RuntimeInstanceId
  cancellationGeneration : UInt64
  adoptedAt : RuntimeClockReading
  deriving DecidableEq

structure RepositorySnapshotLeaseIssued where
  issuerActorId : ActorId
  claimEventId : EventId
  claimId : RunClaimId
  claimGeneration : UInt64
  claimRuntimeInstanceId : RuntimeInstanceId
  cancellationGeneration : UInt64
  snapshot : RepositorySnapshotBinding
  root : RepositoryRootBinding
  deriving DecidableEq

structure RepositorySnapshotLeaseReleased where
  issuerActorId : ActorId
  claimEventId : EventId
  claimId : RunClaimId
  claimGeneration : UInt64
  claimRuntimeInstanceId : RuntimeInstanceId
  cancellationGeneration : UInt64
  leaseEventId : EventId
  releaseArtifact : ArtifactRef
  releaseDigest : Sha256Digest
  deriving DecidableEq

/-- The recovery vocabulary that no append path admits. -/
inductive SnapshotRecoveryKind
  | captureAbandonedV1 | releaseReconciledV1 | cleanupGrantedV1 | captureAbandonedV2
  | releaseReconciledV2 | workspaceRecoveryFinalizedV1
  deriving DecidableEq

structure RepositoryWriterLeaseEvidenceDocument where
  schemaVersion : UInt32
  writerLeaseId : String
  writerLeaseGeneration : UInt64
  sourcePath : WorkspacePath
  sourceRootIdentity : RepositoryFileIdentity
  exclusive : Bool
  activeWriterCount : UInt32
  revokedAt : RuntimeClockReading
  deriving DecidableEq

structure RepositorySourceQuiescence where
  workspaceWriterLeaseId : String
  writerLeaseGeneration : UInt64
  writerLeaseEventId : EventId
  writerLeaseEvidenceArtifact : ArtifactRef
  writerLeaseEvidenceDigest : Sha256Digest
  writersRevokedAt : RuntimeClockReading
  sourceIdentityBefore : RepositoryFileIdentity
  sourceIdentityAfter : RepositoryFileIdentity
  deriving DecidableEq

inductive RepositorySnapshotCleanupState
  | mountedDetachRequired | detached
  deriving DecidableEq

/-- The fields of `RepositoryMacOsReadOnlyMountEvidenceV1` that lease admission and release read;
`rest` stands for the receipts that only the document's own validation reads. -/
structure RepositoryReadOnlyMountEvidence where
  sourceQuiescence : RepositorySourceQuiescence
  sourcePath : WorkspacePath
  mountPath : WorkspacePath
  lifecycleOwnerActorId : ActorId
  lifecycleOwnerRuntimeInstanceId : RuntimeInstanceId
  cleanupState : RepositorySnapshotCleanupState
  rest : Value
  deriving DecidableEq

structure RepositorySnapshotLeaseDocument where
  schemaVersion : UInt32
  leaseId : RepositorySnapshotLeaseId
  snapshotId : String
  declaredSnapshotDigest : Sha256Digest
  root : RepositoryRootBinding
  readOnlyMount : RepositoryReadOnlyMountEvidence
  deriving DecidableEq

inductive RepositoryDiskImageOperation
  | createUdroFromQuiescedSource | attachReadOnly | detach
  deriving DecidableEq

inductive RepositoryCommandArgument
  | literal (value : String)
  | path (value : WorkspacePath)
  deriving DecidableEq

structure RepositoryCommandReceipt where
  operation : RepositoryDiskImageOperation
  executable : WorkspacePath
  argv : List RepositoryCommandArgument
  exitCode : Int32
  stdoutArtifact : ArtifactRef
  stderrArtifact : ArtifactRef
  completedAt : RuntimeClockReading
  deriving DecidableEq

structure RepositorySnapshotReleaseDocument where
  schemaVersion : UInt32
  leaseId : RepositorySnapshotLeaseId
  leaseEventId : EventId
  detachReceipt : RepositoryCommandReceipt
  unmountedVerified : Bool
  deriving DecidableEq

end BirdCode.Store
