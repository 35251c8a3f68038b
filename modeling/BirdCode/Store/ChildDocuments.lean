import BirdCode.Store.Events

/-! The canonical documents a child's events retain, and what the store takes from outside its
log to read them. -/
namespace BirdCode.Store

section ModelDocuments

/-- The parts of the compiled prompt that Prepared repeats, and the rest of it. -/
structure ChildModelPromptDocument where
  contractVersion : UInt32
  promptContract : ChildModelPromptContract
  promptContractDigest : Sha256Digest
  outputContract : ChildModelOutputContractKind
  outputContractDigest : Sha256Digest
  rest : Value
  deriving DecidableEq

structure ChildModelRequestDocument where
  contractVersion : UInt32
  backendModel : BackendModelIdentity
  backendInstance : Option BackendInstanceIdentity
  modelLineage : ModelLineage
  backendRequest : Value
  deriving DecidableEq

structure ChildModelPromptManifest where
  contractVersion : UInt32
  promptContract : ChildModelPromptContract
  promptContractDigest : Sha256Digest
  outputContract : ChildModelOutputContractKind
  outputContractDigest : Sha256Digest
  binding : ChildExecutionBinding
  modelCallId : ChildModelCallId
  modelCallOrdinal : UInt32
  backendModel : BackendModelIdentity
  backendInstance : Option BackendInstanceIdentity
  modelLineage : ModelLineage
  localPlanId : ChildLocalPlanId
  contextInventory : ChildModelContextInventory
  promptArtifact : ArtifactRef
  promptDigest : Sha256Digest
  requestArtifact : ArtifactRef
  requestDigest : Sha256Digest
  tokenReservation : TokenReservation
  preparedAt : RuntimeClockReading
  deriving DecidableEq

structure ChildModelStructuredResponse where
  contractVersion : UInt32
  plan : ChildLocalPlanSnapshot
  action : ChildAction
  deriving DecidableEq

inductive ChildModelCompleteEvidence
  | succeeded (reportedBackendModel : BackendModelIdentity) (tokenUsage : TokenUsage)
      (rawAssistantText : String) (providerResponseValue : Value)
      (normalizedResponse : ChildModelStructuredResponse) (providerEvidence : Value)
  | failed (error : ChildModelInferenceError) (normalizedError : Value)
  deriving DecidableEq

structure ChildModelEvidenceRecord where
  contractVersion : UInt32
  binding : ChildExecutionBinding
  modelCallId : ChildModelCallId
  modelCallOrdinal : UInt32
  preparedEventId : EventId
  backendModel : BackendModelIdentity
  backendInstance : Option BackendInstanceIdentity
  modelLineage : ModelLineage
  promptManifestDigest : Sha256Digest
  promptDigest : Sha256Digest
  requestDigest : Sha256Digest
  tokenReservationId : TokenReservationId
  preparedAt : RuntimeClockReading
  finishedAt : RuntimeClockReading
  outcome : ChildModelCompleteEvidence
  deriving DecidableEq

structure ChildModelUnknownRecord where
  contractVersion : UInt32
  binding : ChildExecutionBinding
  modelCallId : ChildModelCallId
  modelCallOrdinal : UInt32
  preparedEventId : EventId
  backendModel : BackendModelIdentity
  backendInstance : Option BackendInstanceIdentity
  modelLineage : ModelLineage
  promptManifestDigest : Sha256Digest
  promptDigest : Sha256Digest
  requestDigest : Sha256Digest
  tokenReservationId : TokenReservationId
  preparedAt : RuntimeClockReading
  boundaryAt : RuntimeClockReading
  reason : UnknownInferenceOutcomeReason
  boundary : UnknownInferenceBoundary
  cancellation : Option ChildCancellationCause
  retry : RetryDisposition
  deriving DecidableEq

end ModelDocuments

section ToolDocuments

structure RepositoryToolCanonicalParameters where
  schemaVersion : UInt32
  binding : ChildExecutionBinding
  toolCallId : ChildToolCallId
  toolOrdinal : UInt32
  actionBinding : ChildValidatedActionBinding
  toolGrantId : RepositoryToolGrantId
  operation : ChildToolOperation
  deriving DecidableEq

/-- `RepositoryToolReceiptAuthorityV1` and `V2`: the one grant used, or all the grants. -/
structure RepositoryToolReceiptAuthority (Grants : Type) where
  policyId : String
  policyArtifact : ArtifactRef
  policyDigest : Sha256Digest
  snapshot : RepositorySnapshotBinding
  root : RepositoryRootBinding
  brokerBounds : RepositoryToolBounds
  toolGrants : Grants
  deriving DecidableEq

structure RepositoryToolPreparedReceipt (Grants Decision : Type) where
  schemaVersion : UInt32
  binding : ChildExecutionBinding
  toolCallId : ChildToolCallId
  toolOrdinal : UInt32
  actionBinding : ChildValidatedActionBinding
  operation : ChildToolOperation
  authority : RepositoryToolReceiptAuthority Grants
  canonicalParametersArtifact : ArtifactRef
  canonicalParametersDigest : Sha256Digest
  authorization : Decision
  brokerCallSequence : UInt64
  brokerPreparedAt : RepositoryBrokerClock
  runtimePreparedAt : RuntimeClockReading
  deriving DecidableEq

abbrev RepositoryToolPreparedReceiptV1 :=
  RepositoryToolPreparedReceipt RepositoryToolGrant RepositoryToolAuthorizationDecision
abbrev RepositoryToolPreparedReceiptV2 :=
  RepositoryToolPreparedReceipt (List RepositoryToolGrant) RepositoryToolAuthorizationDecisionV2

/-- A repository tool result, by its canonical JSON. -/
structure RepositoryToolResult where
  data : Value
  deriving DecidableEq

inductive RepositoryToolTerminalObservation
  | succeeded (result : RepositoryToolResult)
  | failed (failure : RepositoryToolFailure)
  deriving DecidableEq

structure RepositoryToolFailureEvidence where
  callId : ChildToolCallId
  failure : RepositoryToolFailure
  effect : RepositoryFilesystemEffect
  deriving DecidableEq

structure RepositoryToolDenialEvidence where
  callId : ChildToolCallId
  denial : RepositoryToolPreparationDenialV2
  effect : RepositoryFilesystemEffect
  deriving DecidableEq

structure RepositoryToolUnknownEvidence where
  callId : ChildToolCallId
  boundary : RepositoryInterruptionBoundary
  effect : RepositoryFilesystemEffect
  deriving DecidableEq

structure RepositoryToolObservedReceipt where
  schemaVersion : UInt32
  binding : ChildExecutionBinding
  toolCallId : ChildToolCallId
  preparedEventId : EventId
  actionBinding : ChildValidatedActionBinding
  preparedReceiptDigest : Sha256Digest
  operation : ChildToolOperation
  observation : RepositoryToolTerminalObservation
  normalizedEvidenceArtifact : RepositoryEvidenceArtifact
  partialArtifact : Option RepositoryEvidenceArtifact
  brokerCompletedAt : RepositoryBrokerClock
  elapsedNanoseconds : UInt64
  effect : RepositoryFilesystemEffect
  cleanup : RepositoryCleanupReport RepositoryEvidenceArtifact
  runtimeFinishedAt : RuntimeClockReading
  deriving DecidableEq

structure RepositoryToolUnknownReceipt where
  schemaVersion : UInt32
  binding : ChildExecutionBinding
  toolCallId : ChildToolCallId
  preparedEventId : EventId
  actionBinding : ChildValidatedActionBinding
  preparedReceiptDigest : Sha256Digest
  operation : ChildToolOperation
  boundary : RepositoryInterruptionBoundary
  cancellation : Option ChildCancellationCause
  unknownEvidenceArtifact : RepositoryEvidenceArtifact
  partialArtifact : Option RepositoryEvidenceArtifact
  brokerRecordedAt : RepositoryBrokerClock
  elapsedNanoseconds : UInt64
  effect : RepositoryFilesystemEffect
  cleanup : RepositoryCleanupReport RepositoryEvidenceArtifact
  runtimeBoundaryAt : RuntimeClockReading
  deriving DecidableEq

structure RepositoryToolObservedReceiptV2 where
  schemaVersion : UInt32
  binding : ChildExecutionBinding
  toolCallId : ChildToolCallId
  preparedEventId : EventId
  actionBinding : ChildValidatedActionBinding
  preparedReceiptArtifact : ArtifactRef
  preparedReceiptDigest : Sha256Digest
  terminal : RepositoryToolObservedTerminalV2
  brokerCompletedAt : RepositoryBrokerClock
  elapsedNanoseconds : UInt64
  effect : RepositoryFilesystemEffect
  cleanup : RepositoryCleanupReport ArtifactRef
  runtimeFinishedAt : RuntimeClockReading
  deriving DecidableEq

structure RepositoryToolUnknownReceiptV2 where
  schemaVersion : UInt32
  binding : ChildExecutionBinding
  toolCallId : ChildToolCallId
  preparedEventId : EventId
  actionBinding : ChildValidatedActionBinding
  preparedReceiptArtifact : ArtifactRef
  preparedReceiptDigest : Sha256Digest
  boundary : RepositoryInterruptionBoundary
  cancellation : Option ChildCancellationCause
  unknownEvidenceArtifact : ArtifactRef
  timing : RepositoryToolUnknownTimingV2
  effect : RepositoryFilesystemEffect
  cleanup : RepositoryCleanupReport ArtifactRef
  runtimeBoundaryAt : RuntimeClockReading
  deriving DecidableEq

end ToolDocuments

section TurnInput

structure ChildRepositoryExplorerContextSource where
  binding : ChildContextSource
  sourceEventJson : Bytes
  artifactBytes : Option Bytes

structure ChildRepositoryExplorerPriorPlan where
  binding : ChildPriorPlanContext
  snapshot : ChildLocalPlanSnapshot
  sourceModelEvidenceJson : Bytes

structure ChildRepositoryExplorerObservedToolEvidence where
  toolCallId : ChildToolCallId
  observedEventId : EventId
  suppliedOnModelCallOrdinal : UInt32
  resultArtifact : ArtifactRef
  result : RepositoryToolResult

inductive ChildRepositoryExplorerObservedToolResult
  | supplied (evidence : ChildRepositoryExplorerObservedToolEvidence)
  | previouslySupplied (resultArtifact : ArtifactRef) (suppliedOnModelCallOrdinal : UInt32)
      (suppliedOnPreparedEventId : EventId) (suppliedOnPreparedEventJson : Bytes)

inductive ChildRepositoryExplorerPreviousTool
  | observed (binding : ChildPreviousToolContext)
      (terminalEventJson terminalReceiptJson : Bytes)
  | unknown (binding : ChildPreviousToolContext)
      (terminalEventJson terminalReceiptJson : Bytes)
  | observedV2 (binding : ChildPreviousToolContext)
      (preparedReceiptJson terminalEventJson terminalReceiptJson : Bytes)
      (verifiedResult : Option ChildRepositoryExplorerObservedToolResult)
  | unknownV2 (binding : ChildPreviousToolContext)
      (preparedReceiptJson terminalEventJson terminalReceiptJson : Bytes)

structure ChildRepositoryExplorerTurnInput where
  contractVersion : UInt32
  binding : ChildExecutionBinding
  modelCallId : ChildModelCallId
  modelCallOrdinal : UInt32
  localPlanId : ChildLocalPlanId
  workOrderEventId : EventId
  workOrderArtifact : ArtifactRef
  workOrderDigest : Sha256Digest
  workOrder : ChildWorkOrderSpec
  workOrderJson : Bytes
  contextManifestArtifact : ArtifactRef
  contextManifestDigest : Sha256Digest
  contextManifest : ChildContextManifest
  contextManifestJson : Bytes
  contextSources : List ChildRepositoryExplorerContextSource
  priorPlan : Option ChildRepositoryExplorerPriorPlan
  previousTools : List ChildRepositoryExplorerPreviousTool
  tokenReservation : TokenReservation
  preparedAt : RuntimeClockReading

end TurnInput

/-- The JSON wires of the retained documents, for every type the store reads. -/
structure Wires where
  workOrder : Codec ChildWorkOrderSpec
  contextManifest : Codec ChildContextManifest
  modelPrompt : Codec ChildModelPromptDocument
  modelRequest : Codec ChildModelRequestDocument
  modelPromptManifest : Codec ChildModelPromptManifest
  modelEvidence : Codec ChildModelEvidenceRecord
  modelUnknown : Codec ChildModelUnknownRecord
  validatedAction : Codec ChildValidatedActionDocument
  toolParameters : Codec RepositoryToolCanonicalParameters
  toolPrepared : Codec RepositoryToolPreparedReceiptV1
  toolPreparedV2 : Codec RepositoryToolPreparedReceiptV2
  toolObserved : Codec RepositoryToolObservedReceipt
  toolUnknown : Codec RepositoryToolUnknownReceipt
  toolObservedV2 : Codec RepositoryToolObservedReceiptV2
  toolUnknownV2 : Codec RepositoryToolUnknownReceiptV2
  failureEvidence : Codec RepositoryToolFailureEvidence
  denialEvidence : Codec RepositoryToolDenialEvidence
  unknownEvidence : Codec RepositoryToolUnknownEvidence
  handoff : Codec ChildHandoffDocument
  executionFailure : Codec ChildExecutionFailureEvidence
  writerLease : Codec RepositoryWriterLeaseEvidenceDocument
  snapshotLease : Codec RepositorySnapshotLeaseDocument
  snapshotRelease : Codec RepositorySnapshotReleaseDocument
  event : Codec EventEnvelope
  localPlan : Codec ChildLocalPlanSnapshot
  value : Codec Value
  structuredResponse : Codec ChildModelStructuredResponse

/-- What replay and admission take from outside the log: the artifacts, the wires, and the
functions of a document alone whose rules concern neither the log nor the replayed state. -/
structure Environment where
  root : ArtifactRoot
  wires : Wires
  /-- `BackendInstanceIdentityV1::validate_integrity`. -/
  identityIntegrity : BackendInstanceIdentity → Bool
  /-- `validate_child_repository_authority`. -/
  repositoryAuthorityValid : ChildRepositoryAuthority → Bool
  /-- `child_event_references_artifact`. -/
  referencesArtifact : EventEnvelope → ArtifactRef → Bool
  /-- `validate_typed_artifact_refs`. -/
  typedArtifactRefs : Provenance → EventPayload → Except StoreError Unit
  /-- `compile_child_repository_explorer_v1`. -/
  compile : ChildRepositoryExplorerTurnInput → BackendModelIdentity → ModelLineage →
    Option (ChildModelPromptDocument × ChildModelRequestDocument)
  /-- The byte length of the request that `child_backend_request_from_document` rebuilds. -/
  backendRequestLength : ChildModelRequestDocument → Option ℕ
  /-- `evaluate_repository_tool_authorization_v1`. -/
  authorize : RepositoryToolBounds → List RepositoryToolGrant →
    RepositoryToolCanonicalParameters → UInt64 → UInt64 → RepositoryToolAuthorizationDecisionV2
  /-- `validate_and_project_repository_success`. -/
  projectSuccess : ChildToolOperation → RepositoryToolResult → ArtifactRef →
    ChildRepositoryAuthority → Option ChildToolSuccess
  /-- `encode_repository_tool_result`. -/
  encodeResult : RepositoryToolResult → Option (String × Bytes)
  /-- The decoding and the checks `validate_repository_result_v2` makes of verified bytes. -/
  resultV2 : Bytes → ArtifactRef → ChildToolOperation → ChildRepositoryAuthority →
    Option RepositoryToolResult
  /-- `validate_macos_snapshot_lease_document`. -/
  snapshotLeaseDocumentValid : RepositorySnapshotLeaseDocument → Bool

end BirdCode.Store
