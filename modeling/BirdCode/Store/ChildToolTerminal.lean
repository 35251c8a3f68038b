import BirdCode.Store.ChildTool

/-! What a tool call's terminal must prove: an observed outcome under the decision that Prepared
retained, or a boundary after which the outcome cannot be known. -/
namespace BirdCode.Store

variable (env : Environment) (log : EventLog)

section Shared

variable {Evidence : Type}

/-- `repository_completed_cleanup_matches_effect`, of both contracts. -/
def completedCleanupMatchesEffect :
    RepositoryFilesystemEffect → RepositoryCleanupReport Evidence → Bool
  | .noFilesystemAccessAttempted, .completed .noPersistentResourcesCreated 0 0 => true
  | .readOnlyFilesystemAccessAttempted,
    .completed .transientDescriptorsClosedByOwnershipScope 0 0 => true
  | _, _ => false

def RepositoryCleanupReport.isIndeterminate : RepositoryCleanupReport Evidence → Bool
  | .indeterminate .. => true
  | .completed .. => false

def RepositoryCleanupReport.recoveryEvidence : RepositoryCleanupReport Evidence → Option Evidence
  | .indeterminate _ evidence => evidence
  | .completed .. => none

def repositoryAuthorizedFailureEffect : RepositoryToolFailure → RepositoryFilesystemEffect
  | .toolNotGranted _ | .invalidPath .. | .limitExceeded .. | .limitMustBePositive _
  | .emptyLiteralPattern | .preparedRecordInvalid _ | .preparedCallAlreadyConsumed
  | .brokerStateUnavailable | .unsupportedPlatform => .noFilesystemAccessAttempted
  | .snapshotIdentityChanged .. | .crossDeviceBoundary .. | .nodeChangedDuringObservation ..
  | .symlinkRejected | .wrongFileType .. | .invalidReadRange .. | .io ..
  | .evidenceEncodingFailed => .readOnlyFilesystemAccessAttempted

/-- `preparation_denial_as_failure`. -/
def preparationDenialAsFailure :
    RepositoryToolPreparationDenial → Except StoreError RepositoryToolFailure
  | .toolNotGranted tool => .ok (.toolNotGranted tool)
  | .invalidPath violation index => .ok (.invalidPath violation index)
  | .limitExceeded limit requested maximum => .ok (.limitExceeded limit requested maximum)
  | .limitMustBePositive limit => .ok (.limitMustBePositive limit)
  | .emptyLiteralPattern => .ok .emptyLiteralPattern
  | .evidenceEncodingFailed => .ok .evidenceEncodingFailed
  | .grantIdentityMismatch => .error .invalidStateEvent

def validateRepositoryEvidenceArtifact (artifact : RepositoryEvidenceArtifact)
    (maxArtifactBytes : UInt64) : Except StoreError Unit := do
  ensure (boundedNonemptyText artifact.mediaType childReconnaissanceMaxTextBytes = true ∧
    artifact.byteLen ≤ maxArtifactBytes) .invalidStateEvent
  match artifact.retention, artifact.bytes with
  | .inline, some bytes =>
    ensure (bytes.length = artifact.byteLen.toNat ∧
      env.root.sha256Hex bytes = artifact.sha256.value) .invalidStateEvent
  | .digestOnly, none => .ok ()
  | _, _ => .error .invalidStateEvent

/-- A receipt's optional evidence artifacts. -/
def validateOptionalEvidence (artifact : Option RepositoryEvidenceArtifact)
    (maxArtifactBytes : UInt64) : Except StoreError Unit :=
  match artifact with
  | some artifact => validateRepositoryEvidenceArtifact env artifact maxArtifactBytes
  | none => .ok ()

def validateExactInlineRepositoryArtifact (artifact : RepositoryEvidenceArtifact)
    (expectedMediaType : String) (expectedBytes : Bytes) (maxArtifactBytes : UInt64) :
    Except StoreError Unit := do
  validateRepositoryEvidenceArtifact env artifact maxArtifactBytes
  ensure (artifact.retention = .inline ∧ artifact.mediaType = expectedMediaType ∧
    artifact.bytes = some expectedBytes) .invalidStateEvent

def repositoryArtifactRef (artifact : RepositoryEvidenceArtifact) : ArtifactRef :=
  ⟨artifact.sha256.value, artifact.byteLen, artifact.mediaType⟩

def validChildToolUnknownBoundary :
    ChildToolUnknownReason → ChildToolUnknownBoundary → Bool
  | .runtimeRestartedBeforeObservation, .restart => true
  | .runtimeRestartedBeforeObservation, .shutdown => true
  | .claimExpiredBeforeObservation, .claimRenewalFailed => true
  | .claimExpiredBeforeObservation, .deadline => true
  | .evidenceCommitIndeterminate, .shutdown => true
  | .evidenceCommitIndeterminate, .deadline => true
  | .executionCancelledBeforeObservation, .cancelled => true
  | _, _ => false

def repositoryInterruptionBoundary :
    ChildToolUnknownReason → ChildToolUnknownBoundary →
      Except StoreError RepositoryInterruptionBoundary
  | .runtimeRestartedBeforeObservation, .restart => .ok .runtimeRestart
  | .runtimeRestartedBeforeObservation, .shutdown => .ok .runtimeShutdown
  | .claimExpiredBeforeObservation, .claimRenewalFailed => .ok .deadline
  | .claimExpiredBeforeObservation, .deadline => .ok .deadline
  | .evidenceCommitIndeterminate, .shutdown => .ok .evidenceCommitIndeterminate
  | .evidenceCommitIndeterminate, .deadline => .ok .evidenceCommitIndeterminate
  | .executionCancelledBeforeObservation, .cancelled => .ok .cancellation
  | _, _ => .error .invalidStateEvent

/-- The evidence bytes of a broker-v1 terminal, by its observation. -/
def observationEvidence (callId : ChildToolCallId) (effect : RepositoryFilesystemEffect) :
    RepositoryToolTerminalObservation → Option (String × Bytes)
  | .succeeded result => env.encodeResult result
  | .failed failure => (env.wires.failureEvidence.toVec ⟨callId, failure, effect⟩).map fun bytes =>
      (repositoryToolFailureMediaType, bytes)

end Shared

section BrokerV1

/-- The projection of a broker-v1 observation, by the decision Prepared retained. -/
def projectToolObservation (receipt : RepositoryToolObservedReceipt) (pending : PendingChildTool)
    (authority : ChildRepositoryAuthority) :
    RepositoryToolAuthorizationDecision → Except StoreError ChildToolObservation
  | .denied denial =>
    match receipt.observation with
    | .failed failure => do
      let denied ← preparationDenialAsFailure denial
      ensure (failure = denied ∧ receipt.effect = .noFilesystemAccessAttempted ∧
        receipt.partialArtifact = none) .invalidStateEvent
      return .authorizationDenied denial
    | .succeeded _ => .error .invalidStateEvent
  | .authorized =>
    match receipt.observation with
    | .succeeded result => do
      ensure (receipt.effect = .readOnlyFilesystemAccessAttempted ∧
        receipt.partialArtifact = none) .invalidStateEvent
      let success ← expect .invalidStateEvent <|
        env.projectSuccess pending.operation result
          (repositoryArtifactRef receipt.normalizedEvidenceArtifact) authority
      return .succeeded success
    | .failed error => do
      ensure (receipt.effect = repositoryAuthorizedFailureEffect error ∧
        (receipt.effect = .noFilesystemAccessAttempted → receipt.partialArtifact = none))
        .invalidStateEvent
      return .failed error

/-- `validate_child_tool_observed_document`. -/
def validateChildToolObservedDocument (observed : ChildToolObserved ChildToolObservation)
    (pending : PendingChildTool) (authority : ChildRepositoryAuthority) :
    Except StoreError (Option ArtifactRef × RepositoryBrokerClock) := do
  ensure (observed.terminalReceiptArtifact.sizeBytes ≠ 0 ∧
    observed.terminalReceiptArtifact.sizeBytes.toNat ≤ maxArtifactBytes ∧
    observed.terminalReceiptArtifact.mediaType = childToolEvidenceMediaType ∧
    digestMatchesArtifact observed.terminalReceiptDigest observed.terminalReceiptArtifact = true ∧
    observed.toolCallId = pending.toolCallId ∧
    observed.preparedEventId = pending.preparedEventId ∧
    observed.actionBinding = pending.actionBinding ∧
    observed.preparedReceiptDigest = pending.preparedReceiptDigest ∧
    sameRuntimeNotBefore pending.preparedAt observed.finishedAt = true) .invalidStateEvent
  let receipt ← readCanonicalJsonArtifact env.root env.wires.toolObserved
    observed.terminalReceiptArtifact childToolEvidenceMediaType
  ensure (receipt.schemaVersion = childReconnaissanceContractVersion ∧
    receipt.binding = observed.binding ∧
    receipt.toolCallId = pending.toolCallId ∧
    receipt.preparedEventId = pending.preparedEventId ∧
    receipt.actionBinding = pending.actionBinding ∧
    receipt.preparedReceiptDigest = pending.preparedReceiptDigest ∧
    receipt.operation = pending.operation ∧
    receipt.brokerCompletedAt.brokerInstanceId = pending.brokerInstanceId ∧
    pending.brokerPreparedAt.monotonicNanos ≤ receipt.brokerCompletedAt.monotonicNanos ∧
    receipt.elapsedNanoseconds.toNat = receipt.brokerCompletedAt.monotonicNanos.toNat -
      pending.brokerPreparedAt.monotonicNanos.toNat ∧
    receipt.runtimeFinishedAt = observed.finishedAt ∧
    completedCleanupMatchesEffect receipt.effect receipt.cleanup = true) .invalidStateEvent
  validateRepositoryEvidenceArtifact env receipt.normalizedEvidenceArtifact
    authority.brokerBounds.maxArtifactBytes
  validateOptionalEvidence env receipt.partialArtifact authority.brokerBounds.maxArtifactBytes
  let .v1 authorization := pending.authorization | .error .invalidStateEvent
  let projection ← projectToolObservation env receipt pending authority authorization
  let (mediaType, bytes) ← expect .invalidStateEvent <|
    observationEvidence env receipt.toolCallId receipt.effect receipt.observation
  validateExactInlineRepositoryArtifact env receipt.normalizedEvidenceArtifact mediaType bytes
    authority.brokerBounds.maxArtifactBytes
  ensure (projection = observed.outcome) .invalidStateEvent
  match projection with
  | .succeeded result => do
    verifyArtifactAtRoot env.root result.resultArtifact
    return (some result.resultArtifact, receipt.brokerCompletedAt)
  | _ => return (none, receipt.brokerCompletedAt)

/-- `validate_child_tool_unknown_document`: whether the boundary is in another runtime than
Prepared, and the broker's clock there. -/
def validateChildToolUnknownDocument (unknown : ChildToolOutcomeUnknown)
    (pending : PendingChildTool) (authority : ChildRepositoryAuthority) :
    Except StoreError (Bool × RepositoryBrokerClock) := do
  ensure (pending.authorization = .v1 .authorized ∧
    unknown.terminalReceiptArtifact.sizeBytes ≠ 0 ∧
    unknown.terminalReceiptArtifact.sizeBytes.toNat ≤ maxArtifactBytes ∧
    unknown.terminalReceiptArtifact.mediaType = childToolUnknownMediaType ∧
    digestMatchesArtifact unknown.terminalReceiptDigest unknown.terminalReceiptArtifact = true ∧
    unknown.toolCallId = pending.toolCallId ∧
    unknown.preparedEventId = pending.preparedEventId ∧
    unknown.actionBinding = pending.actionBinding ∧
    unknown.preparedReceiptDigest = pending.preparedReceiptDigest ∧
    validChildToolUnknownBoundary unknown.reason unknown.boundary = true ∧
    (unknown.reason = .executionCancelledBeforeObservation ↔
      unknown.cancellation.isSome = true)) .invalidStateEvent
  let sameRuntime : Bool :=
    pending.preparedAt.runtimeInstanceId = unknown.boundaryAt.runtimeInstanceId
  ensure (sameRuntime = true → sameRuntimeNotBefore pending.preparedAt unknown.boundaryAt = true)
    .invalidStateEvent
  ensure (sameRuntime = false → unknown.boundary = .restart ∨ unknown.boundary = .shutdown ∨
    unknown.boundary = .claimRenewalFailed) .invalidStateEvent
  let receipt ← readCanonicalJsonArtifact env.root env.wires.toolUnknown
    unknown.terminalReceiptArtifact childToolUnknownMediaType
  let boundary ← repositoryInterruptionBoundary unknown.reason unknown.boundary
  ensure (receipt.schemaVersion = childReconnaissanceContractVersion ∧
    receipt.binding = unknown.binding ∧
    receipt.toolCallId = pending.toolCallId ∧
    receipt.preparedEventId = pending.preparedEventId ∧
    receipt.actionBinding = pending.actionBinding ∧
    receipt.preparedReceiptDigest = pending.preparedReceiptDigest ∧
    receipt.operation = pending.operation ∧ receipt.boundary = boundary ∧
    receipt.cancellation = unknown.cancellation ∧
    receipt.brokerRecordedAt.brokerInstanceId = pending.brokerInstanceId ∧
    pending.brokerPreparedAt.monotonicNanos ≤ receipt.brokerRecordedAt.monotonicNanos ∧
    receipt.elapsedNanoseconds.toNat = receipt.brokerRecordedAt.monotonicNanos.toNat -
      pending.brokerPreparedAt.monotonicNanos.toNat ∧
    receipt.runtimeBoundaryAt = unknown.boundaryAt ∧
    receipt.effect = .indeterminate ∧ receipt.cleanup.isIndeterminate = true) .invalidStateEvent
  validateRepositoryEvidenceArtifact env receipt.unknownEvidenceArtifact
    authority.brokerBounds.maxArtifactBytes
  validateOptionalEvidence env receipt.partialArtifact authority.brokerBounds.maxArtifactBytes
  validateOptionalEvidence env receipt.cleanup.recoveryEvidence
    authority.brokerBounds.maxArtifactBytes
  let bytes ← expect .invalidStateEvent <|
    env.wires.unknownEvidence.toVec ⟨receipt.toolCallId, receipt.boundary, receipt.effect⟩
  validateExactInlineRepositoryArtifact env receipt.unknownEvidenceArtifact
    repositoryToolUnknownMediaType bytes authority.brokerBounds.maxArtifactBytes
  return (!sameRuntime, receipt.brokerRecordedAt)

end BrokerV1

section BrokerV2

/-- The terminal of a broker-v2 receipt, by the decision Prepared retained: the result artifact of
a success, and evidence that names the call the terminal names. -/
def validateObservedTerminalV2 (receipt : RepositoryToolObservedReceiptV2)
    (toolCallId : ChildToolCallId) (pending : PendingChildTool)
    (authority : ChildRepositoryAuthority) :
    RepositoryToolAuthorizationDecisionV2 → Except StoreError (Option ArtifactRef)
  | .authorized =>
    match receipt.terminal with
    | .succeeded resultArtifact => do
      let _ ← validateRepositoryResultV2 env resultArtifact pending.operation authority
      ensure (receipt.effect = .readOnlyFilesystemAccessAttempted) .invalidStateEvent
      return some resultArtifact
    | .failed failure evidenceArtifact _ => do
      let evidence ← readRepositoryToolEvidenceV2 env.root env.wires.failureEvidence
        evidenceArtifact repositoryToolFailureEvidenceV2MediaType
      ensure (evidence.callId = toolCallId ∧ evidence.failure = failure ∧
        evidence.effect = receipt.effect) .invalidStateEvent
      ensure (receipt.effect = repositoryAuthorizedFailureEffect failure) .invalidStateEvent
      return none
    | .authorizationDenied .. => .error .invalidStateEvent
  | .denied denial =>
    match receipt.terminal with
    | .authorizationDenied observedDenial evidenceArtifact => do
      ensure (denial = observedDenial) .invalidStateEvent
      let evidence ← readRepositoryToolEvidenceV2 env.root env.wires.denialEvidence
        evidenceArtifact repositoryToolDenialEvidenceV2MediaType
      ensure (evidence.callId = toolCallId ∧ evidence.denial = observedDenial ∧
        evidence.effect = receipt.effect) .invalidStateEvent
      ensure (receipt.effect = .noFilesystemAccessAttempted) .invalidStateEvent
      return none
    | _ => .error .invalidStateEvent

/-- `validate_child_tool_observed_document_v2`. -/
def validateChildToolObservedDocumentV2
    (observed : ChildToolObserved RepositoryToolObservedTerminalV2) (pending : PendingChildTool)
    (authority : ChildRepositoryAuthority) :
    Except StoreError (Option ArtifactRef × RepositoryBrokerClock) := do
  let .v2 authorization := pending.authorization | .error .invalidStateEvent
  ensure (observed.terminalReceiptArtifact.sizeBytes ≠ 0 ∧
    observed.terminalReceiptArtifact.sizeBytes ≤ repositoryToolHardMaxTerminalReceiptBytes ∧
    observed.terminalReceiptArtifact.mediaType = repositoryToolObservedReceiptV2MediaType ∧
    digestMatchesArtifact observed.terminalReceiptDigest observed.terminalReceiptArtifact = true ∧
    observed.actionBinding = pending.actionBinding ∧
    observed.preparedReceiptDigest = pending.preparedReceiptDigest) .invalidStateEvent
  let receipt ← readCanonicalJsonArtifact env.root env.wires.toolObservedV2
    observed.terminalReceiptArtifact repositoryToolObservedReceiptV2MediaType
  ensure (receipt.schemaVersion = repositoryBrokerContractVersion ∧
    receipt.binding = observed.binding ∧
    receipt.toolCallId = observed.toolCallId ∧
    receipt.preparedEventId = observed.preparedEventId ∧
    receipt.preparedEventId = pending.preparedEventId ∧
    receipt.actionBinding = pending.actionBinding ∧
    receipt.preparedReceiptArtifact = pending.preparedReceiptArtifact ∧
    receipt.preparedReceiptDigest = pending.preparedReceiptDigest ∧
    receipt.terminal = observed.outcome ∧
    receipt.brokerCompletedAt.brokerInstanceId = pending.brokerInstanceId ∧
    pending.brokerPreparedAt.monotonicNanos ≤ receipt.brokerCompletedAt.monotonicNanos ∧
    receipt.elapsedNanoseconds.toNat = receipt.brokerCompletedAt.monotonicNanos.toNat -
      pending.brokerPreparedAt.monotonicNanos.toNat ∧
    receipt.runtimeFinishedAt = observed.finishedAt ∧
    completedCleanupMatchesEffect receipt.effect receipt.cleanup = true) .invalidStateEvent
  let resultArtifact ← validateObservedTerminalV2 env receipt observed.toolCallId pending
    authority authorization
  return (resultArtifact, receipt.brokerCompletedAt)

/-- The timing of an unknown outcome: recorded by the broker that prepared the call, within its
runtime, or reconciled by a later runtime after the broker's epoch was closed. -/
def validateUnknownTimingV2 (event : EventEnvelope) (unknown : ChildToolOutcomeUnknownV2)
    (pending : PendingChildTool) :
    RepositoryToolUnknownTimingV2 → Except StoreError (Bool × Option RepositoryBrokerClock)
  | .brokerRecorded recordedAt elapsedNanoseconds => do
    ensure (recordedAt.brokerInstanceId = pending.brokerInstanceId ∧
      pending.brokerPreparedAt.monotonicNanos ≤ recordedAt.monotonicNanos ∧
      elapsedNanoseconds.toNat = recordedAt.monotonicNanos.toNat -
        pending.brokerPreparedAt.monotonicNanos.toNat ∧
      sameRuntimeNotBefore pending.preparedAt unknown.boundaryAt = true) .invalidStateEvent
    return (false, some recordedAt)
  | .runtimeReconciled abandoned => do
    let runId ← expect .invalidStateEvent event.runId
    let epochEvent ← expect .invalidStateEvent <|
      latestBrokerEpochBefore log event.sessionId runId event.sequence
    let .repositoryBrokerEpochActivated epoch := epochEvent.payload | .error .invalidStateEvent
    ensure (abandoned = pending.brokerInstanceId ∧
      abandoned ∈ epoch.state.closedBrokerInstanceIds ∧
      epoch.state.activeBrokerInstanceId ≠ abandoned ∧
      unknown.boundaryAt.runtimeInstanceId ≠ pending.preparedAt.runtimeInstanceId)
      .invalidStateEvent
    return (true, none)

/-- `validate_child_tool_unknown_document_v2`. Nothing here compares the call that the terminal
names with the call that is pending. -/
def validateChildToolUnknownDocumentV2 (event : EventEnvelope)
    (unknown : ChildToolOutcomeUnknownV2) (pending : PendingChildTool) :
    Except StoreError (Bool × Option RepositoryBrokerClock) := do
  ensure (pending.authorization = .v2 .authorized ∧
    unknown.terminalReceiptArtifact.sizeBytes ≠ 0 ∧
    unknown.terminalReceiptArtifact.sizeBytes ≤ repositoryToolHardMaxTerminalReceiptBytes ∧
    unknown.terminalReceiptArtifact.mediaType = repositoryToolUnknownReceiptV2MediaType ∧
    digestMatchesArtifact unknown.terminalReceiptDigest unknown.terminalReceiptArtifact = true ∧
    unknown.actionBinding = pending.actionBinding ∧
    unknown.preparedReceiptDigest = pending.preparedReceiptDigest ∧
    validChildToolUnknownBoundary unknown.reason unknown.boundary = true ∧
    (unknown.cancellation.isSome = true ↔ unknown.boundary = .cancelled)) .invalidStateEvent
  let receipt ← readCanonicalJsonArtifact env.root env.wires.toolUnknownV2
    unknown.terminalReceiptArtifact repositoryToolUnknownReceiptV2MediaType
  let boundary ← repositoryInterruptionBoundary unknown.reason unknown.boundary
  ensure (receipt.schemaVersion = repositoryBrokerContractVersion ∧
    receipt.binding = unknown.binding ∧
    receipt.toolCallId = unknown.toolCallId ∧
    receipt.preparedEventId = unknown.preparedEventId ∧
    receipt.preparedEventId = pending.preparedEventId ∧
    receipt.actionBinding = pending.actionBinding ∧
    receipt.preparedReceiptArtifact = pending.preparedReceiptArtifact ∧
    receipt.preparedReceiptDigest = pending.preparedReceiptDigest ∧
    receipt.boundary = boundary ∧ receipt.cancellation = unknown.cancellation ∧
    receipt.timing = unknown.timing ∧ receipt.runtimeBoundaryAt = unknown.boundaryAt ∧
    receipt.effect = .indeterminate ∧ receipt.cleanup.isIndeterminate = true) .invalidStateEvent
  let evidence ← readRepositoryToolEvidenceV2 env.root env.wires.unknownEvidence
    receipt.unknownEvidenceArtifact repositoryToolUnknownEvidenceV2MediaType
  ensure (evidence.callId = unknown.toolCallId ∧ evidence.boundary = receipt.boundary ∧
    evidence.effect = receipt.effect) .invalidStateEvent
  match receipt.cleanup.recoveryEvidence with
  | some artifact => verifyArtifactAtRoot env.root artifact
  | none => .ok ()
  validateUnknownTimingV2 log event unknown pending receipt.timing

end BrokerV2

end BirdCode.Store
