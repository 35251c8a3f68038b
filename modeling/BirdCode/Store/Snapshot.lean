import BirdCode.Store.Tables
import BirdCode.Store.ChildDocuments

/-! The lifecycle of a run's repository snapshot, replayed from the run's snapshot events: the
writer revocation that opens a capture, the claims adopted for it, the lease and its release. -/
namespace BirdCode.Store

def parallelReconnaissanceV1MaxSnapshotClaimAdoptions : UInt32 := 256
def repositorySnapshotCleanupMaxGrantGenerations : UInt32 := 16

def parallelReconSnapshotLifecycleMaxEvents : ℕ :=
  parallelReconnaissanceV1MaxSnapshotClaimAdoptions.toNat +
    repositorySnapshotCleanupMaxGrantGenerations.toNat + 6

def childReconnaissanceMaxIdentifierBytes : ℕ := 128

def repositoryWriterLeaseEvidenceMediaType :=
  "application/vnd.birdcode.repository-writer-lease-evidence.v1+json"
def repositorySnapshotLeaseMediaType :=
  "application/vnd.birdcode.repository-snapshot-lease.v1+json"
def repositorySnapshotReleaseMediaType :=
  "application/vnd.birdcode.repository-snapshot-release.v1+json"

def parallelReconClaimRefreshProducer := "birdcode-store-parallel-recon-claim-refresh-v1"

namespace EventPayload

/-- The kinds the lifecycle is replayed from. -/
def isSnapshotLifecycle : EventPayload → Bool
  | .repositoryWriterLeaseRevoked _ | .repositorySnapshotCaptureClaimAdopted _
  | .repositorySnapshotLeaseIssued _ | .repositorySnapshotLeaseReleased _
  | .repositorySnapshotRecovery .. => true
  | _ => false

/-- `$.payload.data.capture.lease_id` or `$.payload.data.snapshot.immutability_lease.lease_id`. -/
def namesLease (leaseId : RepositorySnapshotLeaseId) : EventPayload → Bool
  | .repositoryWriterLeaseRevoked revoked => revoked.capture.leaseId = leaseId
  | .repositorySnapshotLeaseIssued issued => issued.snapshot.immutabilityLease.leaseId = leaseId
  | _ => false

def carriesCaptureAdoption (adoptionId : SnapshotCaptureClaimAdoptionId) : EventPayload → Bool
  | .repositorySnapshotCaptureClaimAdopted adopted => adopted.adoptionId = adoptionId
  | _ => false

end EventPayload

structure RepositorySnapshotOpenReplay where
  writerRevocationEvent : EventEnvelope
  writerRevocation : RepositoryWriterLeaseRevoked
  writerEvidence : RepositoryWriterLeaseEvidenceDocument
  latestCaptureEvent : EventEnvelope
  latestAdoptionPreviousClaimEvent : Option EventEnvelope
  activeClaimEvent : EventEnvelope
  activeClaim : RunClaimed
  identity : Option RepositorySnapshotCaptureIdentity
  adoptionCount : UInt32

/-- The states that admitted events lead to; a closed capture and a pending cleanup are reached
only by the recovery kinds. -/
inductive RepositorySnapshotLifecycleReplay
  | none
  | openCapture (replay : RepositorySnapshotOpenReplay)
  | active (replay : RepositorySnapshotOpenReplay) (leaseEvent : EventEnvelope)
  | closedLease (replay : RepositorySnapshotOpenReplay) (leaseEvent closureEvent : EventEnvelope)

variable (env : Environment) (log : EventLog) (run : Run)

/-- `snapshot_claim_event`. -/
def snapshotClaimEvent (eventId : EventId) : Except StoreError StoredClaim := do
  let event ← storedEventForRun log run.spec.sessionId run.id eventId
  readClaim event

def replaySnapshotWriterRevocation (event : EventEnvelope)
    (revoked : RepositoryWriterLeaseRevoked) : Except StoreError RepositorySnapshotOpenReplay := do
  let stored ← snapshotClaimEvent log run revoked.claimEventId
  let latestClaim ← expect .invalidStateEvent <|
    latestClaimForRunBefore log run.spec.sessionId run.id event.sequence
  let evidence ← readCanonicalJsonArtifact env.root env.wires.writerLease
    revoked.evidenceArtifact repositoryWriterLeaseEvidenceMediaType
  let workspaceRoot ← durableSessionWorkspaceRoot log run.spec.sessionId
  ensure (event.sessionId = run.spec.sessionId ∧ event.runId = some run.id ∧
    event.actorId = revoked.issuerActorId ∧ event.causalParent = some stored.event.id ∧
    event.provenance.backend = none ∧
    event.provenance.rawArtifact = some revoked.evidenceArtifact ∧
    latestClaim.id = stored.event.id ∧ stored.event.sequence < event.sequence ∧
    stored.event.actorId = event.actorId ∧
    stored.claim.claimId = revoked.claimId ∧
    stored.claim.claimGeneration = revoked.claimGeneration ∧
    stored.claim.runtimeInstanceId = revoked.claimRuntimeInstanceId ∧
    stored.claim.cancellationGeneration = revoked.cancellationGeneration ∧
    event.occurredAt < stored.claim.leaseExpiresAt ∧
    revoked.evidenceArtifact.mediaType = repositoryWriterLeaseEvidenceMediaType ∧
    digestMatchesArtifact revoked.evidenceDigest revoked.evidenceArtifact = true ∧
    evidence.schemaVersion = childReconnaissanceContractVersion ∧
    evidence.sourcePath = workspaceRoot ∧
    boundedNonemptyText evidence.writerLeaseId childReconnaissanceMaxIdentifierBytes = true ∧
    evidence.writerLeaseGeneration ≠ 0 ∧
    evidence.sourcePath.asUnixBytes.isSome = true ∧
    evidence.exclusive = true ∧ evidence.activeWriterCount = 0 ∧
    evidence.revokedAt.runtimeInstanceId = stored.claim.runtimeInstanceId ∧
    evidence.revokedAt.observedAt ≤ event.occurredAt ∧
    boundedNonemptyText revoked.capture.snapshotId childReconnaissanceMaxIdentifierBytes = true ∧
    revoked.capture.leaseId.uuid ≠ 0 ∧ revoked.capture.snapshotLeaseEventId.uuid ≠ 0 ∧
    revoked.capture.snapshotLeaseEventId ≠ event.id ∧
    revoked.capture.snapshotLeaseEventId ≠ stored.event.id) .invalidStateEvent
  return {
    writerRevocationEvent := event
    writerRevocation := revoked
    writerEvidence := evidence
    latestCaptureEvent := event
    latestAdoptionPreviousClaimEvent := none
    activeClaimEvent := stored.event
    activeClaim := stored.claim
    identity := some revoked.capture
    adoptionCount := 0 }

/-- The clock of the latest capture event: of the revocation, or of the latest adoption. -/
def priorCaptureClock (capture : RepositorySnapshotOpenReplay) :
    Except StoreError RuntimeClockReading :=
  match capture.latestCaptureEvent.payload with
  | .repositoryWriterLeaseRevoked _ => do
    ensure (capture.latestCaptureEvent.id = capture.writerRevocationEvent.id) .invalidStateEvent
    return capture.writerEvidence.revokedAt
  | .repositorySnapshotCaptureClaimAdopted prior => .ok prior.adoptedAt
  | _ => .error .invalidStateEvent

def captureClockWentBackwards (prior next : RuntimeClockReading) : Bool :=
  prior.runtimeInstanceId = next.runtimeInstanceId &&
    (next.monotonicNanos < prior.monotonicNanos || next.observedAt < prior.observedAt)

/-- `validate_snapshot_capture_adoption_transition`: `committed` tells whether the adoption is
already in the table. -/
def validateSnapshotCaptureAdoptionTransition (event : EventEnvelope)
    (adopted : RepositorySnapshotCaptureClaimAdopted) (capture : RepositorySnapshotOpenReplay)
    (committed : Bool) : Except StoreError RepositorySnapshotOpenReplay := do
  let prior ← snapshotClaimEvent log run adopted.priorClaimEventId
  let next ← snapshotClaimEvent log run adopted.newClaimEventId
  let latestClaim ← expect .invalidStateEvent <|
    latestClaimForRunBefore log run.spec.sessionId run.id event.sequence
  let expectedGeneration ← expect .invalidStateEvent (checkedAdd prior.claim.claimGeneration 1)
  let priorClock ← priorCaptureClock capture
  ensure (event.sessionId = run.spec.sessionId ∧ event.runId = some run.id ∧
    event.actorId = adopted.issuerActorId ∧ event.actorId = prior.event.actorId ∧
    event.actorId = next.event.actorId ∧
    event.causalParent = some capture.latestCaptureEvent.id ∧
    event.provenance.producer = parallelReconClaimRefreshProducer ∧
    event.provenance.backend = none ∧ event.provenance.rawArtifact = none ∧
    capture.activeClaimEvent.id = prior.event.id ∧ capture.activeClaim = prior.claim ∧
    latestClaim.id = next.event.id ∧ next.event.sequence + 1 = event.sequence ∧
    prior.event.sequence < next.event.sequence ∧
    prior.claim.claimId = adopted.priorClaimId ∧
    prior.claim.claimGeneration = adopted.priorClaimGeneration ∧
    prior.claim.runtimeInstanceId = adopted.priorRuntimeInstanceId ∧
    next.claim.claimId = adopted.newClaimId ∧
    next.claim.claimGeneration = adopted.newClaimGeneration ∧
    next.claim.runtimeInstanceId = adopted.newRuntimeInstanceId ∧
    next.claim.claimGeneration = expectedGeneration ∧
    next.claim.runtimeInstanceId = prior.claim.runtimeInstanceId ∧
    next.claim.cancellationGeneration = adopted.cancellationGeneration ∧
    prior.claim.cancellationGeneration = adopted.cancellationGeneration ∧
    next.event.occurredAt < prior.claim.leaseExpiresAt ∧
    event.occurredAt < prior.claim.leaseExpiresAt ∧
    event.occurredAt < next.claim.leaseExpiresAt ∧
    adopted.adoptedAt.runtimeInstanceId = next.claim.runtimeInstanceId ∧
    adopted.adoptedAt.monotonicNanos ≠ 0 ∧
    adopted.adoptedAt.observedAt ≤ next.event.occurredAt ∧
    adopted.adoptedAt.observedAt ≤ event.occurredAt ∧
    adopted.adoptedAt.observedAt < next.claim.leaseExpiresAt ∧
    captureClockWentBackwards priorClock adopted.adoptedAt = false ∧
    adopted.writerRevocationEventId = capture.writerRevocationEvent.id ∧
    adopted.workspaceWriterLeaseId = capture.writerEvidence.writerLeaseId ∧
    adopted.writerLeaseGeneration = capture.writerEvidence.writerLeaseGeneration ∧
    boundedNonemptyText adopted.snapshotId childReconnaissanceMaxIdentifierBytes = true)
    .invalidStateEvent
  ensure (identityCount log (EventPayload.carriesCaptureAdoption adopted.adoptionId) =
      (if committed then 1 else 0) ∧
    capture.adoptionCount < parallelReconnaissanceV1MaxSnapshotClaimAdoptions) .invalidStateEvent
  let identity : RepositorySnapshotCaptureIdentity :=
    ⟨adopted.snapshotId, adopted.leaseId, adopted.snapshotLeaseEventId⟩
  ensure (capture.identity.all (fun existing => existing = identity) = true) .invalidStateEvent
  let adoptionCount ← expect .invalidStateEvent (checkedSucc32 capture.adoptionCount)
  return { capture with
    latestCaptureEvent := event
    latestAdoptionPreviousClaimEvent := some prior.event
    activeClaimEvent := next.event
    activeClaim := next.claim
    identity := some identity
    adoptionCount }

/-- `validate_snapshot_lease_transition`: the lease's identity is named by the revocation, and by
the lease itself once it is in the table. -/
def validateSnapshotLeaseTransition (event : EventEnvelope)
    (issued : RepositorySnapshotLeaseIssued) (capture : RepositorySnapshotOpenReplay) :
    Except StoreError Unit := do
  let retained ← readCanonicalJsonArtifact env.root env.wires.snapshotLease
    issued.snapshot.immutabilityLease.leaseArtifact repositorySnapshotLeaseMediaType
  let quiescence := retained.readOnlyMount.sourceQuiescence
  let committedCount := log.events.countP fun stored => stored.id = event.id
  ensure (committedCount ≤ 1 ∧
    identityCount log (EventPayload.namesLease issued.snapshot.immutabilityLease.leaseId) =
      committedCount + 1) .invalidStateEvent
  ensure (event.sessionId = run.spec.sessionId ∧ event.runId = some run.id ∧
    event.actorId = issued.issuerActorId ∧
    event.causalParent = some capture.activeClaimEvent.id ∧
    event.provenance.backend = none ∧
    event.provenance.rawArtifact = some issued.snapshot.immutabilityLease.leaseArtifact ∧
    capture.activeClaimEvent.id = issued.claimEventId ∧
    capture.activeClaim.claimId = issued.claimId ∧
    capture.activeClaim.claimGeneration = issued.claimGeneration ∧
    capture.activeClaim.runtimeInstanceId = issued.claimRuntimeInstanceId ∧
    capture.activeClaim.cancellationGeneration = issued.cancellationGeneration ∧
    event.occurredAt < capture.activeClaim.leaseExpiresAt ∧
    (capture.identity.all fun identity =>
      identity.snapshotId = issued.snapshot.snapshotId ∧
      identity.leaseId = issued.snapshot.immutabilityLease.leaseId ∧
      identity.snapshotLeaseEventId = event.id) = true ∧
    retained.leaseId = issued.snapshot.immutabilityLease.leaseId ∧
    retained.snapshotId = issued.snapshot.snapshotId ∧ retained.root = issued.root ∧
    quiescence.writerLeaseEventId = capture.writerRevocationEvent.id ∧
    quiescence.workspaceWriterLeaseId = capture.writerEvidence.writerLeaseId ∧
    quiescence.writerLeaseGeneration = capture.writerEvidence.writerLeaseGeneration ∧
    quiescence.writerLeaseEvidenceArtifact = capture.writerRevocation.evidenceArtifact ∧
    quiescence.writerLeaseEvidenceDigest = capture.writerRevocation.evidenceDigest ∧
    quiescence.sourceIdentityBefore = capture.writerEvidence.sourceRootIdentity ∧
    quiescence.sourceIdentityAfter = capture.writerEvidence.sourceRootIdentity)
    .invalidStateEvent

/-- `validate_snapshot_release_transition`. -/
def validateSnapshotReleaseTransition (event : EventEnvelope)
    (released : RepositorySnapshotLeaseReleased) (leaseEvent : EventEnvelope) :
    Except StoreError Unit := do
  let .repositorySnapshotLeaseIssued issued := leaseEvent.payload | .error .invalidStateEvent
  let release ← readCanonicalJsonArtifact env.root env.wires.snapshotRelease
    released.releaseArtifact repositorySnapshotReleaseMediaType
  let stored ← snapshotClaimEvent log run released.claimEventId
  let latestClaim ← expect .invalidStateEvent <|
    latestClaimForRunBefore log run.spec.sessionId run.id event.sequence
  ensure (released.leaseEventId = leaseEvent.id ∧
    event.sessionId = run.spec.sessionId ∧ event.runId = some run.id ∧
    stored.event.sequence < event.sequence ∧ latestClaim.id = stored.event.id ∧
    event.actorId = released.issuerActorId ∧ event.actorId = stored.event.actorId ∧
    stored.claim.claimId = released.claimId ∧
    stored.claim.claimGeneration = released.claimGeneration ∧
    stored.claim.runtimeInstanceId = released.claimRuntimeInstanceId ∧
    stored.claim.cancellationGeneration = released.cancellationGeneration ∧
    latestCancellationGenerationBefore log run.spec.sessionId run.id event.sequence =
      stored.claim.cancellationGeneration ∧
    event.occurredAt < stored.claim.leaseExpiresAt ∧
    release.detachReceipt.completedAt.observedAt < stored.claim.leaseExpiresAt ∧
    release.leaseId = issued.snapshot.immutabilityLease.leaseId ∧
    release.leaseEventId = leaseEvent.id ∧ release.unmountedVerified = true ∧
    release.detachReceipt.completedAt.runtimeInstanceId = released.claimRuntimeInstanceId ∧
    stored.event.occurredAt ≤ release.detachReceipt.completedAt.observedAt ∧
    release.detachReceipt.completedAt.observedAt ≤ event.occurredAt ∧
    event.provenance.rawArtifact = some released.releaseArtifact ∧
    digestMatchesArtifact released.releaseDigest released.releaseArtifact = true)
    .invalidStateEvent

/-- One event of the lifecycle. -/
def replaySnapshotEvent (state : RepositorySnapshotLifecycleReplay) (event : EventEnvelope) :
    Except StoreError RepositorySnapshotLifecycleReplay :=
  match state, event.payload with
  | .none, .repositoryWriterLeaseRevoked revoked => do
    let capture ← replaySnapshotWriterRevocation env log run event revoked
    return .openCapture capture
  | .openCapture capture, .repositorySnapshotCaptureClaimAdopted adopted => do
    let capture ← validateSnapshotCaptureAdoptionTransition log run event adopted capture true
    return .openCapture capture
  | .openCapture capture, .repositorySnapshotLeaseIssued issued => do
    validateSnapshotLeaseTransition env log run event issued capture
    return .active capture event
  | .active capture leaseEvent, .repositorySnapshotLeaseReleased released => do
    validateSnapshotReleaseTransition env log run event released leaseEvent
    return .closedLease capture leaseEvent event
  | _, _ => .error .invalidStateEvent

/-- The snapshot events of a run. -/
def snapshotHistory : List EventEnvelope :=
  (runEvents log run.spec.sessionId run.id).filter fun event => event.payload.isSnapshotLifecycle

/-- `replay_repository_snapshot_lifecycle`. -/
def replayRepositorySnapshotLifecycle : Except StoreError RepositorySnapshotLifecycleReplay := do
  let events := snapshotHistory log run
  ensure (events.length ≤ parallelReconSnapshotLifecycleMaxEvents) .invalidStateEvent
  events.foldlM (replaySnapshotEvent env log run) .none

end BirdCode.Store
