import BirdCode.Store.ChildProjection
import BirdCode.Store.Snapshot

/-! What the store requires of a snapshot event before it is committed: the rules of every run,
and of a parallel reconnaissance run also that the replayed lifecycle takes the event. -/
namespace BirdCode.Store

def hdiutilExecutable : Bytes := "/usr/bin/hdiutil".toUTF8.toList

namespace EventPayload

def carriesIssuedLease (leaseId : RepositorySnapshotLeaseId) : EventPayload → Bool
  | .repositorySnapshotLeaseIssued issued => issued.snapshot.immutabilityLease.leaseId = leaseId
  | _ => false

def carriesCaptureEvent (eventId : EventId) : EventPayload → Bool
  | .repositoryWriterLeaseRevoked revoked => revoked.capture.snapshotLeaseEventId = eventId
  | _ => false

def isRevocationWithEvidence (sha256 : String) : EventPayload → Bool
  | .repositoryWriterLeaseRevoked revoked => revoked.evidenceArtifact.sha256 = sha256
  | _ => false

def isReleaseOf (leaseEventId : EventId) : EventPayload → Bool
  | .repositorySnapshotLeaseReleased released => released.leaseEventId = leaseEventId
  | _ => false

end EventPayload

def RepositorySnapshotLifecycleReplay.isNone : RepositorySnapshotLifecycleReplay → Bool
  | .none => true
  | _ => false

/-- `let RepositorySnapshotLifecycleReplay::Open(open) = .. else { return Err(..) }`. -/
def RepositorySnapshotLifecycleReplay.openReplay :
    RepositorySnapshotLifecycleReplay → Option RepositorySnapshotOpenReplay
  | .openCapture replay => some replay
  | _ => Option.none

/-- The lifecycle still holds the source: a capture is open or a lease is active. -/
def RepositorySnapshotLifecycleReplay.isHeld : RepositorySnapshotLifecycleReplay → Bool
  | .openCapture _ | .active .. => true
  | .none | .closedLease .. => false

def Run.isParallelRecon (run : Run) : Bool :=
  run.spec.purpose = .parallelRepositoryReconnaissanceV1

variable (env : Environment) (log : EventLog)

section Revocation

/-- The claim that an event of the snapshot repeats. -/
def claimRepeated (stored : StoredClaim) (claimEventId : EventId) (claimId : RunClaimId)
    (generation : UInt64) (runtimeInstanceId : RuntimeInstanceId)
    (cancellationGeneration : UInt64) : Prop :=
  stored.event.id = claimEventId ∧ stored.claim.claimId = claimId ∧
  stored.claim.claimGeneration = generation ∧
  stored.claim.runtimeInstanceId = runtimeInstanceId ∧
  stored.claim.cancellationGeneration = cancellationGeneration

instance (stored : StoredClaim) (claimEventId : EventId) (claimId : RunClaimId)
    (generation : UInt64) (runtimeInstanceId : RuntimeInstanceId)
    (cancellationGeneration : UInt64) :
    Decidable (claimRepeated stored claimEventId claimId generation runtimeInstanceId
      cancellationGeneration) := by
  unfold claimRepeated
  infer_instance

/-- `validate_repository_writer_lease_revoked`. -/
def validateRepositoryWriterLeaseRevoked (event : EventEnvelope)
    (revoked : RepositoryWriterLeaseRevoked) : Except StoreError Unit := do
  let runId ← plannerRunId event
  let run ← durableRunForClaimRefresh log runId
  requireRunningRun log event runId
  let stored ← requireCurrentClaimOwner log event runId revoked.cancellationGeneration
  ensure (event.actorId = revoked.issuerActorId ∧
    event.causalParent = some revoked.claimEventId ∧ event.provenance.backend = none ∧
    event.provenance.rawArtifact = some revoked.evidenceArtifact ∧
    claimRepeated stored revoked.claimEventId revoked.claimId revoked.claimGeneration
      revoked.claimRuntimeInstanceId revoked.cancellationGeneration ∧
    revoked.evidenceArtifact.mediaType = repositoryWriterLeaseEvidenceMediaType ∧
    digestMatchesArtifact revoked.evidenceDigest revoked.evidenceArtifact = true)
    .invalidStateEvent
  let retained ← readCanonicalJsonArtifact env.root env.wires.writerLease
    revoked.evidenceArtifact repositoryWriterLeaseEvidenceMediaType
  let workspaceRoot ← durableSessionWorkspaceRoot log event.sessionId
  let leaseEventId := revoked.capture.snapshotLeaseEventId
  ensure (retained.schemaVersion = childReconnaissanceContractVersion ∧
    retained.sourcePath = workspaceRoot ∧
    boundedNonemptyText retained.writerLeaseId childReconnaissanceMaxIdentifierBytes = true ∧
    retained.writerLeaseGeneration ≠ 0 ∧ retained.sourcePath.asUnixBytes.isSome = true ∧
    retained.exclusive = true ∧ retained.activeWriterCount = 0 ∧
    retained.revokedAt.runtimeInstanceId = revoked.claimRuntimeInstanceId ∧
    boundedNonemptyText revoked.capture.snapshotId childReconnaissanceMaxIdentifierBytes = true ∧
    revoked.capture.leaseId.uuid ≠ 0 ∧ leaseEventId.uuid ≠ 0 ∧
    revoked.capture.leaseId.uuid ≠ event.id.uuid ∧
    revoked.capture.leaseId.uuid ≠ revoked.claimEventId.uuid ∧
    leaseEventId ≠ event.id ∧ leaseEventId ≠ revoked.claimEventId ∧
    identityCount log (EventPayload.namesLease revoked.capture.leaseId) = 0 ∧
    (log.events.countP fun stored =>
      stored.id = leaseEventId || stored.payload.carriesCaptureEvent leaseEventId) = 0)
    .invalidStateEvent
  whenever (run.isParallelRecon = true) do
    let lifecycle ← replayRepositorySnapshotLifecycle env log run
    ensure (lifecycle.isNone = true) .invalidStateEvent
    let _ ← replaySnapshotWriterRevocation env log run event revoked
  ensure (((runEvents log event.sessionId runId).countP fun stored =>
    stored.payload.isRevocationWithEvidence revoked.evidenceArtifact.sha256) = 0)
    .invalidStateEvent

/-- `validate_repository_snapshot_capture_claim_adopted`. -/
def validateRepositorySnapshotCaptureClaimAdopted (event : EventEnvelope)
    (adopted : RepositorySnapshotCaptureClaimAdopted) : Except StoreError Unit := do
  let runId ← plannerRunId event
  let run ← durableRunForClaimRefresh log runId
  ensure (run.isParallelRecon = true) .invalidStateEvent
  let lifecycle ← replayRepositorySnapshotLifecycle env log run
  let capture ← expect .invalidStateEvent lifecycle.openReplay
  let _ ← validateSnapshotCaptureAdoptionTransition log run event adopted capture false

end Revocation

section Lease

/-- `validate_repository_snapshot_lease_issued`. -/
def validateRepositorySnapshotLeaseIssued (event : EventEnvelope)
    (issued : RepositorySnapshotLeaseIssued) : Except StoreError Unit := do
  let runId ← plannerRunId event
  let run ← durableRunForClaimRefresh log runId
  requireRunningRun log event runId
  let stored ← requireCurrentClaimOwner log event runId issued.cancellationGeneration
  let lease := issued.snapshot.immutabilityLease
  ensure (event.actorId = issued.issuerActorId ∧ event.causalParent = some issued.claimEventId ∧
    event.provenance.backend = none ∧
    event.provenance.rawArtifact = some lease.leaseArtifact ∧
    claimRepeated stored issued.claimEventId issued.claimId issued.claimGeneration
      issued.claimRuntimeInstanceId issued.cancellationGeneration ∧
    digestMatchesArtifact lease.leaseDigest lease.leaseArtifact = true) .invalidStateEvent
  let retained ← readCanonicalJsonArtifact env.root env.wires.snapshotLease
    lease.leaseArtifact repositorySnapshotLeaseMediaType
  whenever (run.isParallelRecon = true) do
    let lifecycle ← replayRepositorySnapshotLifecycle env log run
    let capture ← expect .invalidStateEvent lifecycle.openReplay
    validateSnapshotLeaseTransition env log run event issued capture
  let quiescence := retained.readOnlyMount.sourceQuiescence
  let writerEvent ← storedEventForRun log event.sessionId runId quiescence.writerLeaseEventId
  let .repositoryWriterLeaseRevoked revoked := writerEvent.payload | .error .invalidStateEvent
  let evidence ← readCanonicalJsonArtifact env.root env.wires.writerLease
    revoked.evidenceArtifact repositoryWriterLeaseEvidenceMediaType
  let workspaceRoot ← durableSessionWorkspaceRoot log event.sessionId
  ensure (retained.schemaVersion = childReconnaissanceContractVersion ∧
    retained.readOnlyMount.sourcePath = workspaceRoot ∧
    retained.leaseId = lease.leaseId ∧
    retained.snapshotId = issued.snapshot.snapshotId ∧
    retained.declaredSnapshotDigest = issued.snapshot.declaredSnapshotDigest ∧
    retained.root = issued.root ∧
    retained.readOnlyMount.lifecycleOwnerActorId = issued.issuerActorId ∧
    retained.readOnlyMount.lifecycleOwnerRuntimeInstanceId = issued.claimRuntimeInstanceId ∧
    retained.readOnlyMount.cleanupState = .mountedDetachRequired ∧
    writerEvent.sequence < event.sequence ∧
    revoked.evidenceArtifact = quiescence.writerLeaseEvidenceArtifact ∧
    revoked.evidenceDigest = quiescence.writerLeaseEvidenceDigest ∧
    evidence.writerLeaseId = quiescence.workspaceWriterLeaseId ∧
    evidence.writerLeaseGeneration = quiescence.writerLeaseGeneration ∧
    evidence.sourcePath = retained.readOnlyMount.sourcePath ∧
    evidence.revokedAt = quiescence.writersRevokedAt ∧
    evidence.sourceRootIdentity = quiescence.sourceIdentityBefore ∧
    evidence.sourceRootIdentity = quiescence.sourceIdentityAfter ∧
    evidence.exclusive = true ∧ evidence.activeWriterCount = 0 ∧
    identityCount log (EventPayload.carriesIssuedLease lease.leaseId) = 0) .invalidStateEvent
  ensure (env.snapshotLeaseDocumentValid retained = true) .invalidStateEvent

end Lease

section Release

variable (runId : RunId)

/-- The work orders of the run that were issued under a lease, in the order they were issued. -/
def workOrdersUnderLease (sessionId : SessionId) (leaseId : RepositorySnapshotLeaseId) :
    List ChildWorkOrderIssued :=
  ((runEvents log sessionId runId).filterMap fun event =>
    event.payload.issuedWorkOrder).filter fun issued =>
      issued.spec.repositoryAuthority.snapshot.immutabilityLease.leaseId = leaseId

/-- One child under the lease has ended; the release follows the latest of all terminals. -/
def releaseAfterChild (sessionId : SessionId) (parent : EventId × ℕ)
    (issued : ChildWorkOrderIssued) : Except StoreError (EventId × ℕ) := do
  let projection ← projectChildWorkOrder env log runId issued.spec.workOrderId
  let projection ← expect .invalidStateEvent projection
  ensure (projection.state ≠ .issued ∧ projection.state ≠ .running ∧
    projection.state ≠ .retryable) .invalidStateEvent
  let terminalId ← expect .invalidStateEvent <|
    projection.attempts.head?.bind ChildAttemptProjection.terminalEventId
  let terminal ← storedEventForRun log sessionId runId terminalId
  return if parent.2 < terminal.sequence then (terminal.id, terminal.sequence) else parent

/-- The detachment that a release document attests. -/
def detachReceiptValid (lease : RepositorySnapshotLeaseDocument)
    (release : RepositorySnapshotReleaseDocument) : Bool :=
  release.detachReceipt.operation = .detach &&
  release.detachReceipt.executable.asUnixBytes = some hdiutilExecutable &&
  release.detachReceipt.argv = [.literal "detach", .path lease.readOnlyMount.mountPath] &&
  release.detachReceipt.exitCode = 0 && release.unmountedVerified

/-- `validate_repository_snapshot_lease_released`. -/
def validateRepositorySnapshotLeaseReleased (event : EventEnvelope)
    (released : RepositorySnapshotLeaseReleased) : Except StoreError Unit := do
  let runId ← plannerRunId event
  let stored ← requireCurrentClaimOwner log event runId released.cancellationGeneration
  ensure (event.actorId = released.issuerActorId ∧ event.provenance.backend = none ∧
    event.provenance.rawArtifact = some released.releaseArtifact ∧
    claimRepeated stored released.claimEventId released.claimId released.claimGeneration
      released.claimRuntimeInstanceId released.cancellationGeneration ∧
    released.releaseArtifact.mediaType = repositorySnapshotReleaseMediaType ∧
    digestMatchesArtifact released.releaseDigest released.releaseArtifact = true)
    .invalidStateEvent
  let leaseEvent ← storedEventForRun log event.sessionId runId released.leaseEventId
  let .repositorySnapshotLeaseIssued issued := leaseEvent.payload | .error .invalidStateEvent
  let lease ← readCanonicalJsonArtifact env.root env.wires.snapshotLease
    issued.snapshot.immutabilityLease.leaseArtifact repositorySnapshotLeaseMediaType
  let release ← readCanonicalJsonArtifact env.root env.wires.snapshotRelease
    released.releaseArtifact repositorySnapshotReleaseMediaType
  let completedAt := release.detachReceipt.completedAt
  ensure (release.schemaVersion = childReconnaissanceContractVersion ∧
    release.leaseId = lease.leaseId ∧ release.leaseEventId = released.leaseEventId ∧
    detachReceiptValid lease release = true ∧
    completedAt.runtimeInstanceId = stored.claim.runtimeInstanceId ∧
    stored.event.occurredAt ≤ completedAt.observedAt ∧
    completedAt.observedAt ≤ event.occurredAt ∧
    completedAt.observedAt < stored.claim.leaseExpiresAt) .invalidStateEvent
  verifyArtifactAtRoot env.root release.detachReceipt.stdoutArtifact
  verifyArtifactAtRoot env.root release.detachReceipt.stderrArtifact
  let parent ← (workOrdersUnderLease log runId event.sessionId lease.leaseId).foldlM
    (releaseAfterChild env log runId event.sessionId) (released.leaseEventId, leaseEvent.sequence)
  ensure (((runEvents log event.sessionId runId).countP fun stored =>
      stored.payload.isReleaseOf released.leaseEventId) = 0 ∧
    event.causalParent = some parent.1) .invalidStateEvent

end Release

end BirdCode.Store
