import BirdCode.Tooling.Coherence

/-! The repository broker: what it opens with, the call it prepares, and the three ways it closes
one. Each function that takes the broker's lock is one definition over the locked state. -/
namespace BirdCode.Tooling

open Store

section Transport

structure RetainedArtifactV2 where
  artifact : ArtifactRef
  bytes : Bytes
  deriving DecidableEq

structure RepositoryToolPrepareInputV2 where
  parameters : RepositoryToolCanonicalParameters
  runtimePreparedAt : RuntimeClockReading

structure PreparedRepositoryToolCallV2 where
  receipt : RepositoryToolPreparedReceiptV2
  canonicalParameters : RetainedArtifactV2
  preparedReceipt : RetainedArtifactV2
  deriving DecidableEq

structure RepositoryToolExecuteInputV2 where
  prepared : PreparedRepositoryToolCallV2
  preparedEventId : EventId

/-- `RepositoryToolInterruptionInputV2` and `RepositoryToolRestartReconciliationInputV2`, which
have the same fields. -/
structure RepositoryToolInterruptionInputV2 where
  prepared : PreparedRepositoryToolCallV2
  preparedEventId : EventId
  boundary : RepositoryInterruptionBoundary
  cancellation : Option ChildCancellationCause
  runtimeBoundaryAt : RuntimeClockReading

structure ObservedRepositoryToolCallV2 where
  receipt : RepositoryToolObservedReceiptV2
  terminalReceipt : RetainedArtifactV2
  supportingArtifacts : List RetainedArtifactV2

structure UnknownRepositoryToolCallV2 where
  receipt : RepositoryToolUnknownReceiptV2
  terminalReceipt : RetainedArtifactV2
  supportingArtifacts : List RetainedArtifactV2

inductive RepositoryToolTerminalV2
  | observed (call : ObservedRepositoryToolCallV2)
  | unknown (call : UnknownRepositoryToolCallV2)

inductive RepositoryBrokerErrorV2
  | canonicalEncoding (artifact : String)
  | artifactBindingMismatch (artifact : String)
  | preparedSubstitution
  | wrongBrokerEpoch
  | unissuedPreparedCall
  | preparedCallAlreadyConsumed
  | duplicateToolCallId
  | brokerStateUnavailable
  | terminalReceiptTooLarge (actual maximum : UInt64)
  | preparedReceiptTooLarge (actual maximum : UInt64)
  | canonicalParametersTooLarge (actual maximum : UInt64)
  | brokerEpochNotClosed (brokerInstanceId : RepositoryBrokerInstanceId)
  | invalidInterruptionMetadata
  | invalidDurableProjection
  | unknownProjectionMismatch
  deriving DecidableEq

end Transport

section Open

inductive BrokerOpenError
  | invalidAuthorityBound (limit : RepositoryLimitKindV2) (value hardMaximum : UInt64)
  | policyArtifactMismatch
  | activeBrokerAlreadyClosed
  | duplicateClosedBrokerEpoch
  | rootIdentityMismatch (expected observed : RepositoryFileIdentity)
  deriving DecidableEq

def repositoryToolPolicyMediaType := "application/vnd.birdcode.repository-tool-policy.v1+json"

/-- The bounds with the hard maximum of each. -/
def boundLimits (bounds : RepositoryToolBounds) :
    List (RepositoryLimitKindV2 × UInt64 × UInt64) :=
  [(.brokerCalls, bounds.maxCallsPerBroker, repositoryToolHardMaxCallsPerBroker),
    (.requestBytes, bounds.maxRequestBytes, repositoryToolHardMaxRequestBytes),
    (.pathComponents, bounds.maxPathComponents.toUInt64,
      repositoryToolHardMaxPathComponents.toUInt64),
    (.pathBytes, bounds.maxPathBytes, repositoryToolHardMaxPathBytes),
    (.componentBytes, bounds.maxComponentBytes, repositoryToolHardMaxComponentBytes),
    (.readBytes, bounds.maxReadBytes, repositoryToolHardMaxReadBytes),
    (.treeDepth, bounds.maxTreeDepth.toUInt64, repositoryToolHardMaxTreeDepth.toUInt64),
    (.treeEntries, bounds.maxTreeEntries.toUInt64, repositoryToolHardMaxTreeEntries.toUInt64),
    (.directoryEntriesScanned, bounds.maxDirectoryEntriesScanned.toUInt64,
      repositoryToolHardMaxDirectoryEntriesScanned.toUInt64),
    (.directoryNameBytesScanned, bounds.maxDirectoryNameBytesScanned,
      repositoryToolHardMaxDirectoryNameBytesScanned),
    (.searchPatternBytes, bounds.maxSearchPatternBytes, repositoryToolHardMaxSearchPatternBytes),
    (.searchDepth, bounds.maxSearchDepth.toUInt64, repositoryToolHardMaxSearchDepth.toUInt64),
    (.searchFiles, bounds.maxSearchFiles.toUInt64, repositoryToolHardMaxSearchFiles.toUInt64),
    (.searchMatches, bounds.maxSearchMatches.toUInt64,
      repositoryToolHardMaxSearchMatches.toUInt64),
    (.searchBytesPerFile, bounds.maxSearchBytesPerFile, repositoryToolHardMaxSearchBytesPerFile),
    (.searchTotalBytes, bounds.maxSearchTotalBytes, repositoryToolHardMaxSearchTotalBytes),
    (.artifactBytes, bounds.maxArtifactBytes, repositoryToolHardMaxArtifactBytes)]

def validateBounds (bounds : RepositoryToolBounds) : Except BrokerOpenError Unit :=
  (boundLimits bounds).forM fun (limit, value, hardMaximum) =>
    ensure (value ≠ 0 ∧ value ≤ hardMaximum) (.invalidAuthorityBound limit value hardMaximum)

def validateAuthority (authority : RepositoryToolReceiptAuthorityV2) :
    Except BrokerOpenError Unit := do
  ensure (authority.policyArtifact.mediaType = repositoryToolPolicyMediaType ∧
    authority.policyArtifact.sha256 = authority.policyDigest.value) .policyArtifactMismatch
  validateBounds authority.brokerBounds

def validateClosed (active : RepositoryBrokerInstanceId) :
    List RepositoryBrokerInstanceId → List RepositoryBrokerInstanceId →
      Except BrokerOpenError Unit
  | _, [] => .ok ()
  | seen, broker :: rest => do
    ensure (broker ≠ active) .activeBrokerAlreadyClosed
    ensure (broker ∉ seen) .duplicateClosedBrokerEpoch
    validateClosed active (broker :: seen) rest

def validateEpoch (epoch : RepositoryBrokerEpochState) : Except BrokerOpenError Unit :=
  validateClosed epoch.activeBrokerInstanceId [] epoch.closedBrokerInstanceIds

/-- What a broker is opened with and never changes. -/
structure BrokerSetup where
  authority : RepositoryToolReceiptAuthorityV2
  epoch : RepositoryBrokerEpochState
  rootIdentity : RepositoryFileIdentity

/-- `RepositoryToolBroker::open` on a descriptor of the observed identity. -/
def openBroker (authority : RepositoryToolReceiptAuthorityV2) (epoch : RepositoryBrokerEpochState)
    (rootIdentity : RepositoryFileIdentity) : Except BrokerOpenError BrokerSetup := do
  validateAuthority authority
  validateEpoch epoch
  ensure (rootIdentity = authority.root.descriptorIdentity)
    (.rootIdentityMismatch authority.root.descriptorIdentity rootIdentity)
  return { authority, epoch, rootIdentity }

def BrokerSetup.brokerInstanceId (broker : BrokerSetup) : RepositoryBrokerInstanceId :=
  broker.epoch.activeBrokerInstanceId

def BrokerSetup.moment (broker : BrokerSetup) (monotonicNanos : UInt64) : RepositoryBrokerClock :=
  { brokerInstanceId := broker.brokerInstanceId, monotonicNanos }

end Open

section Locked

structure IssuedCall where
  preparedReceiptSha256 : Sha256Digest
  consumed : Bool
  deriving DecidableEq

structure BrokerPrepareState where
  lastPublishedSequence : UInt64
  issuedCalls : BTreeMap ChildToolCallId IssuedCall

def BrokerPrepareState.start : BrokerPrepareState := ⟨0, ∅⟩

def nextBrokerCallSequence (lastPublishedSequence : UInt64) : Option UInt64 :=
  checkedAdd lastPublishedSequence 1

end Locked

section Calls

variable (platform : Platform) (broker : BrokerSetup)

def RetainedArtifactV2.fromBytes (mediaType : String) (bytes : Bytes) : RetainedArtifactV2 :=
  { artifact := {
      sha256 := (platform.sha256 bytes).value
      sizeBytes := saturate64 bytes.length
      mediaType }
    bytes }

def RetainedArtifactV2.isExact (retained : RetainedArtifactV2) : Bool :=
  retained.artifact.sizeBytes = saturate64 retained.bytes.length &&
    retained.artifact.sha256 = (platform.sha256 retained.bytes).value

def checkPreparedReceiptSize (bytes : Bytes) : Except RepositoryBrokerErrorV2 Unit :=
  let actual := saturate64 bytes.length
  ensure (actual ≤ repositoryToolHardMaxTerminalReceiptBytes)
    (.preparedReceiptTooLarge actual repositoryToolHardMaxTerminalReceiptBytes)

/-- The receipt `prepare` issues for the next sequence. -/
def issuedReceipt (input : RepositoryToolPrepareInputV2)
    (brokerCallSequence monotonicNanos : UInt64) : RepositoryToolPreparedReceiptV2 :=
  let bytes := input.parameters.json
  { schemaVersion := repositoryBrokerContractVersion
    binding := input.parameters.binding
    toolCallId := input.parameters.toolCallId
    toolOrdinal := input.parameters.toolOrdinal
    actionBinding := input.parameters.actionBinding
    operation := input.parameters.operation
    authority := broker.authority
    canonicalParametersArtifact := (RetainedArtifactV2.fromBytes platform
      repositoryToolCanonicalParametersV2MediaType bytes).artifact
    canonicalParametersDigest := platform.sha256 bytes
    authorization := evaluateRepositoryToolAuthorizationV1 broker.authority.brokerBounds
      platform.base64 broker.authority.toolGrants input.parameters (saturate64 bytes.length)
      brokerCallSequence
    brokerCallSequence
    brokerPreparedAt := broker.moment monotonicNanos
    runtimePreparedAt := input.runtimePreparedAt }

/-- Everything from the lock on happens under it, and the state changes only at the end. -/
def prepare (state : BrokerPrepareState) (input : RepositoryToolPrepareInputV2)
    (monotonicNanos : UInt64) :
    Except RepositoryBrokerErrorV2 (PreparedRepositoryToolCallV2 × BrokerPrepareState) := do
  let parameterBytes := input.parameters.json
  let parameterSize := saturate64 parameterBytes.length
  ensure (parameterSize ≤ repositoryToolHardMaxRequestBytes)
    (.canonicalParametersTooLarge parameterSize repositoryToolHardMaxRequestBytes)
  ensure (input.parameters.toolCallId ∉ state.issuedCalls) .duplicateToolCallId
  let brokerCallSequence ← expect .brokerStateUnavailable
    (nextBrokerCallSequence state.lastPublishedSequence)
  let receipt := issuedReceipt platform broker input brokerCallSequence monotonicNanos
  let receiptBytes := receipt.json platform.rfc3339
  checkPreparedReceiptSize receiptBytes
  let issued : IssuedCall := ⟨platform.sha256 receiptBytes, false⟩
  return ({
    receipt
    canonicalParameters := .fromBytes platform repositoryToolCanonicalParametersV2MediaType
      parameterBytes
    preparedReceipt := .fromBytes platform repositoryToolPreparedReceiptV2MediaType receiptBytes },
    { lastPublishedSequence := brokerCallSequence
      issuedCalls := state.issuedCalls.insert receipt.toolCallId issued })

section Validation

/-- The receipt repeats the parameters and is the exact receipt of the bytes. -/
def receiptRepeats (prepared : PreparedRepositoryToolCallV2)
    (parameters : RepositoryToolCanonicalParameters) : Bool :=
  let receipt := prepared.receipt
  parameters.json = prepared.canonicalParameters.bytes &&
    parameters.schemaVersion = repositoryBrokerContractVersion &&
    receipt.schemaVersion = repositoryBrokerContractVersion &&
    receipt.binding = parameters.binding && receipt.toolCallId = parameters.toolCallId &&
    receipt.toolOrdinal = parameters.toolOrdinal &&
    receipt.actionBinding = parameters.actionBinding &&
    receipt.operation = parameters.operation &&
    receipt.canonicalParametersArtifact = prepared.canonicalParameters.artifact &&
    receipt.canonicalParametersDigest = platform.sha256 prepared.canonicalParameters.bytes &&
    receipt.authorization = evaluateRepositoryToolAuthorizationV1 receipt.authority.brokerBounds
      platform.base64 receipt.authority.toolGrants parameters
      prepared.canonicalParameters.artifact.sizeBytes receipt.brokerCallSequence &&
    receipt.json platform.rfc3339 = prepared.preparedReceipt.bytes

def decodeExactPreparedParameters (prepared : PreparedRepositoryToolCallV2) :
    Except RepositoryBrokerErrorV2 RepositoryToolCanonicalParameters := do
  ensure (prepared.canonicalParameters.isExact platform ∧
    prepared.canonicalParameters.artifact.mediaType =
      repositoryToolCanonicalParametersV2MediaType)
    (.artifactBindingMismatch "canonical parameters")
  ensure (prepared.canonicalParameters.artifact.sizeBytes ≤ repositoryToolHardMaxRequestBytes)
    (.canonicalParametersTooLarge prepared.canonicalParameters.artifact.sizeBytes
      repositoryToolHardMaxRequestBytes)
  ensure (prepared.preparedReceipt.isExact platform ∧
    prepared.preparedReceipt.artifact.mediaType = repositoryToolPreparedReceiptV2MediaType)
    (.artifactBindingMismatch "prepared receipt")
  checkPreparedReceiptSize prepared.preparedReceipt.bytes
  let parameters ← expect .preparedSubstitution
    (platform.readParameters prepared.canonicalParameters.bytes)
  ensure (receiptRepeats platform prepared parameters) .preparedSubstitution
  return parameters

def validatePreparedBundle (prepared : PreparedRepositoryToolCallV2) :
    Except RepositoryBrokerErrorV2 Unit := do
  let _ ← decodeExactPreparedParameters platform prepared
  ensure (prepared.receipt.authority = broker.authority) .preparedSubstitution

/-- The part of `validate_active_prepared` before the lock. -/
def validateActiveBundle (prepared : PreparedRepositoryToolCallV2) :
    Except RepositoryBrokerErrorV2 Unit := do
  validatePreparedBundle platform broker prepared
  ensure (prepared.receipt.brokerPreparedAt.brokerInstanceId = broker.brokerInstanceId)
    .wrongBrokerEpoch

/-- The part of `validate_active_prepared` under the lock. -/
def validateIssued (state : BrokerPrepareState) (prepared : PreparedRepositoryToolCallV2) :
    Except RepositoryBrokerErrorV2 Unit := do
  let record ← expect .unissuedPreparedCall state.issuedCalls[prepared.receipt.toolCallId]?
  ensure (record.preparedReceiptSha256 = platform.sha256 prepared.preparedReceipt.bytes)
    .preparedSubstitution

def consume (state : BrokerPrepareState) (prepared : PreparedRepositoryToolCallV2) :
    Except RepositoryBrokerErrorV2 BrokerPrepareState := do
  let record ← expect .unissuedPreparedCall state.issuedCalls[prepared.receipt.toolCallId]?
  ensure (record.consumed = false) .preparedCallAlreadyConsumed
  return { state with
    issuedCalls := state.issuedCalls.insert prepared.receipt.toolCallId
      { record with consumed := true } }

def validateInterruptionMetadata (boundary : RepositoryInterruptionBoundary)
    (cancellation : Option ChildCancellationCause) : Except RepositoryBrokerErrorV2 Unit :=
  ensure (decide (boundary = .cancellation) = cancellation.isSome) .invalidInterruptionMetadata

end Validation

section Terminals

def cleanupForEffect : RepositoryFilesystemEffect → RepositoryCleanupReport ArtifactRef
  | .noFilesystemAccessAttempted => .completed .noPersistentResourcesCreated 0 0
  | .readOnlyFilesystemAccessAttempted => .completed .transientDescriptorsClosedByOwnershipScope 0 0
  | .indeterminate => .indeterminate .runtimeReconciliationRequired none

def retainedProtocolEvidence (mediaType : String) (encoded : Except ArtifactCodecError Bytes)
    (artifact : String) : Except RepositoryBrokerErrorV2 RetainedArtifactV2 :=
  match encoded with
  | .ok bytes => .ok (.fromBytes platform mediaType bytes)
  | .error (.artifactTooLarge actual maximum) => .error (.terminalReceiptTooLarge actual maximum)
  | .error _ => .error (.canonicalEncoding artifact)

def retainedTerminal (mediaType : String) (bytes : Bytes) :
    Except RepositoryBrokerErrorV2 RetainedArtifactV2 := do
  let actual := saturate64 bytes.length
  ensure (actual ≤ repositoryToolHardMaxTerminalReceiptBytes)
    (.terminalReceiptTooLarge actual repositoryToolHardMaxTerminalReceiptBytes)
  return .fromBytes platform mediaType bytes

/-- What a terminal is recorded with: its Prepared, the event that stores it, and the two clocks. -/
structure Completion where
  prepared : PreparedRepositoryToolCallV2
  preparedEventId : EventId
  runtimeFinishedAt : RuntimeClockReading
  monotonicNanos : UInt64

def observedReceipt (completion : Completion) (terminal : RepositoryToolObservedTerminalV2)
    (effect : RepositoryFilesystemEffect) : RepositoryToolObservedReceiptV2 :=
  let prepared := completion.prepared
  { schemaVersion := repositoryBrokerContractVersion
    binding := prepared.receipt.binding
    toolCallId := prepared.receipt.toolCallId
    preparedEventId := completion.preparedEventId
    actionBinding := prepared.receipt.actionBinding
    preparedReceiptArtifact := prepared.preparedReceipt.artifact
    preparedReceiptDigest := platform.sha256 prepared.preparedReceipt.bytes
    terminal
    brokerCompletedAt := broker.moment completion.monotonicNanos
    elapsedNanoseconds := saturatingSub64 completion.monotonicNanos
      prepared.receipt.brokerPreparedAt.monotonicNanos
    effect
    cleanup := cleanupForEffect effect
    runtimeFinishedAt := completion.runtimeFinishedAt }

def observed (completion : Completion) (terminal : RepositoryToolObservedTerminalV2)
    (effect : RepositoryFilesystemEffect) (supportingArtifacts : List RetainedArtifactV2) :
    Except RepositoryBrokerErrorV2 RepositoryToolTerminalV2 := do
  let receipt := observedReceipt platform broker completion terminal effect
  let terminalReceipt ← retainedTerminal platform repositoryToolObservedReceiptV2MediaType
    (receipt.json platform.rfc3339)
  return .observed { receipt, terminalReceipt, supportingArtifacts }

def observedFailure (completion : Completion) (failure : RepositoryToolFailure)
    (unretainedPartial : Option RepositoryUnretainedEvidenceDigest) :
    Except RepositoryBrokerErrorV2 RepositoryToolTerminalV2 := do
  let effect : RepositoryFilesystemEffect := .readOnlyFilesystemAccessAttempted
  let evidence ← retainedProtocolEvidence platform repositoryToolFailureEvidenceV2MediaType
    (encodeRepositoryToolEvidenceV2 (RepositoryToolFailureEvidence.json
      { callId := completion.prepared.receipt.toolCallId, failure, effect })) "failure evidence"
  observed platform broker completion (.failed failure evidence.artifact unretainedPartial) effect
    [evidence]

/-- The bytes of a result that were not retained. -/
def unretained (bytes : Bytes) : RepositoryUnretainedEvidenceDigest :=
  { mediaType := repositoryToolResultV2MediaType
    byteLen := saturate64 bytes.length
    sha256 := platform.sha256 bytes }

def observedSuccess (completion : Completion) (result : RepositoryToolResultV2 Bytes) :
    Except RepositoryBrokerErrorV2 RepositoryToolTerminalV2 :=
  let receipt := completion.prepared.receipt
  if resultIsCoherent receipt.operation result receipt.authority.brokerBounds = false then
    observedFailure platform broker completion .brokerStateUnavailable none
  else
    match encodeRepositoryToolResultV2 platform result with
    | .error (.artifactTooLarge actual _) =>
      observedFailure platform broker completion
        (.limitExceeded .artifactBytes actual repositoryToolHardMaxArtifactBytes)
        (some (unretained platform (resultBytes platform result)))
    | .error _ => observedFailure platform broker completion .evidenceEncodingFailed none
    | .ok bytes =>
      let size := saturate64 bytes.length
      let maximum := receipt.authority.brokerBounds.maxArtifactBytes
      if size > maximum then
        observedFailure platform broker completion (.limitExceeded .artifactBytes size maximum)
          (some (unretained platform bytes))
      else
        let result := RetainedArtifactV2.fromBytes platform repositoryToolResultV2MediaType bytes
        observed platform broker completion (.succeeded result.artifact)
          .readOnlyFilesystemAccessAttempted [result]

/-- The terminal of a call that was denied before the filesystem was touched. -/
def observedDenial (completion : Completion) (denial : RepositoryToolPreparationDenialV2) :
    Except RepositoryBrokerErrorV2 RepositoryToolTerminalV2 := do
  let effect : RepositoryFilesystemEffect := .noFilesystemAccessAttempted
  let evidence ← retainedProtocolEvidence platform repositoryToolDenialEvidenceV2MediaType
    (encodeRepositoryToolEvidenceV2 (RepositoryToolDenialEvidence.json
      { callId := completion.prepared.receipt.toolCallId, denial, effect }))
    "authorization denial evidence"
  observed platform broker completion (.authorizationDenied denial evidence.artifact) effect
    [evidence]

/-- What `execute_classified` returns once the call is consumed: a denied call needs no result of
the filesystem. -/
def executedTerminal (completion : Completion)
    (result : Except RepositoryToolFailure (RepositoryToolResultV2 Bytes)) :
    Except RepositoryBrokerErrorV2 RepositoryToolTerminalV2 :=
  match completion.prepared.receipt.authorization with
  | .denied denial => observedDenial platform broker completion denial
  | .authorized =>
    match result with
    | .ok result => observedSuccess platform broker completion result
    | .error failure => observedFailure platform broker completion failure none

def unknownReceipt (input : RepositoryToolInterruptionInputV2) (evidence : ArtifactRef)
    (timing : RepositoryToolUnknownTimingV2) (effect : RepositoryFilesystemEffect) :
    RepositoryToolUnknownReceiptV2 :=
  let prepared := input.prepared
  { schemaVersion := repositoryBrokerContractVersion
    binding := prepared.receipt.binding
    toolCallId := prepared.receipt.toolCallId
    preparedEventId := input.preparedEventId
    actionBinding := prepared.receipt.actionBinding
    preparedReceiptArtifact := prepared.preparedReceipt.artifact
    preparedReceiptDigest := platform.sha256 prepared.preparedReceipt.bytes
    boundary := input.boundary
    cancellation := input.cancellation
    unknownEvidenceArtifact := evidence
    timing
    effect
    cleanup := cleanupForEffect effect
    runtimeBoundaryAt := input.runtimeBoundaryAt }

def unknown (input : RepositoryToolInterruptionInputV2) (timing : RepositoryToolUnknownTimingV2)
    (effect : RepositoryFilesystemEffect) :
    Except RepositoryBrokerErrorV2 RepositoryToolTerminalV2 := do
  let evidence ← retainedProtocolEvidence platform repositoryToolUnknownEvidenceV2MediaType
    (encodeRepositoryToolEvidenceV2 (RepositoryToolUnknownEvidence.json
      { callId := input.prepared.receipt.toolCallId, boundary := input.boundary, effect }))
    "unknown evidence"
  let receipt := unknownReceipt platform input evidence.artifact timing effect
  let terminalReceipt ← retainedTerminal platform repositoryToolUnknownReceiptV2MediaType
    (receipt.json platform.rfc3339)
  return .unknown { receipt, terminalReceipt, supportingArtifacts := [evidence] }

/-- The terminal `record_interruption` builds before it consumes the call. -/
def interruptionTerminal (input : RepositoryToolInterruptionInputV2) (monotonicNanos : UInt64) :
    Except RepositoryBrokerErrorV2 RepositoryToolTerminalV2 :=
  unknown platform input (.brokerRecorded (broker.moment monotonicNanos)
    (saturatingSub64 monotonicNanos input.prepared.receipt.brokerPreparedAt.monotonicNanos))
    .noFilesystemAccessAttempted

/-- What a broker of a later epoch remembers of a call it reconciled. -/
abbrev ReconciliationKey := RepositoryBrokerInstanceId × ChildToolCallId × Sha256Digest

def reconciliationKey (prepared : PreparedRepositoryToolCallV2) : ReconciliationKey :=
  (prepared.receipt.brokerPreparedAt.brokerInstanceId, prepared.receipt.toolCallId,
    platform.sha256 prepared.preparedReceipt.bytes)

/-- The part of `reconcile_abandoned_prepared` before the lock. -/
def validateAbandoned (input : RepositoryToolInterruptionInputV2) :
    Except RepositoryBrokerErrorV2 Unit := do
  validateInterruptionMetadata input.boundary input.cancellation
  validatePreparedBundle platform broker input.prepared
  let abandoned := input.prepared.receipt.brokerPreparedAt.brokerInstanceId
  ensure (abandoned ≠ broker.brokerInstanceId ∧ abandoned ∈ broker.epoch.closedBrokerInstanceIds)
    (.brokerEpochNotClosed abandoned)

/-- The part of `reconcile_abandoned_prepared` under the lock. -/
def markReconciled (reconciled : List ReconciliationKey)
    (prepared : PreparedRepositoryToolCallV2) :
    Except RepositoryBrokerErrorV2 (List ReconciliationKey) := do
  ensure (reconciliationKey platform prepared ∉ reconciled) .preparedCallAlreadyConsumed
  return reconciliationKey platform prepared :: reconciled

/-- The part of `reconcile_abandoned_prepared` after the lock. -/
def reconciliationTerminal (input : RepositoryToolInterruptionInputV2) :
    Except RepositoryBrokerErrorV2 RepositoryToolTerminalV2 :=
  unknown platform input
    (.runtimeReconciled input.prepared.receipt.brokerPreparedAt.brokerInstanceId) .indeterminate

end Terminals

end Calls

end BirdCode.Tooling
