import BirdCode.Store.ChildToolTerminal

/-! The issue of a work order, the handoff that closes an attempt and the outcome that ends it. -/
namespace BirdCode.Store

variable (env : Environment) (log : EventLog)

section WorkOrder

/-- `validate_child_model_contract`. -/
def validateChildModelContract (spec : ChildWorkOrderSpec) : Except StoreError Unit := do
  ensure (spec.contractVersion = childReconnaissanceContractVersion ∧
    boundedText spec.objective = true ∧ boundedText spec.completionContract = true ∧
    boundedIdentifier spec.plannerWorkOrderLocalId = true ∧
    spec.maxAttempts ≠ 0 ∧ spec.maxAttempts ≤ childReconnaissanceMaxAttempts ∧
    spec.maxModelCallsPerAttempt ≠ 0 ∧
    spec.maxModelCallsPerAttempt ≤ childReconnaissanceMaxModelCallsPerAttempt ∧
    2 ≤ spec.minPlanRevisions ∧ spec.minPlanRevisions ≤ spec.maxModelCallsPerAttempt ∧
    spec.maxToolCallsPerAttempt ≠ 0 ∧
    spec.maxToolCallsPerAttempt ≤ childReconnaissanceMaxToolCallsPerAttempt ∧
    spec.maxModelEvidenceBytes ≠ 0 ∧ spec.maxModelVisibleInputBytes ≠ 0 ∧
    spec.maxModelEvidenceBytes ≤ spec.maxModelVisibleInputBytes ∧
    spec.maxModelVisibleInputBytes ≤ childRepositoryExplorerV1MaxRawInputBytes ∧
    boundedIdentifier spec.backend.backendId = true ∧
    boundedIdentifier spec.resolvedModel.modelId = true ∧
    spec.backend.reasoningEffort.all boundedIdentifier = true ∧
    spec.backend.model = some spec.resolvedModel.modelId ∧
    spec.backend.backendId = spec.resolvedModel.backendId ∧
    spec.backend.kind = spec.resolvedModel.kind ∧
    validBackendInstance env spec.backendInstance spec.resolvedModel spec.modelLineage = true ∧
    spec.modelLineage.backendId = spec.resolvedModel.backendId ∧
    spec.modelLineage.modelId = spec.resolvedModel.modelId ∧
    boundedIdentifier spec.modelLineage.deploymentId = true ∧
    boundedIdentifier spec.modelLineage.independenceDomainId = true) .invalidStateEvent
  ensure (env.repositoryAuthorityValid spec.repositoryAuthority = true) .invalidStateEvent

/-- The largest result one call under a grant can bring. -/
def grantResultBytes : RepositoryToolGrant → ℕ
  | .repositoryFileRead _ _ _ _ _ maxBytes => maxBytes.toNat
  | .repositoryTree _ _ maxPathBytes _ _ maxEntries =>
    maxEntries.toNat * min (maxPathBytes.toNat + 128) (2 ^ 64 - 1)
  | .literalSearch _ _ maxPathBytes _ _ _ maxFiles maxMatches _ maxTotalBytes =>
    max maxTotalBytes.toNat <|
      min (maxFiles.toNat + maxMatches.toNat) (2 ^ 32 - 1) *
        min (maxPathBytes.toNat + 128) (2 ^ 64 - 1)

/-- `conservative_child_tool_transcript_bytes`; a product or sum past `u64` is an error. -/
def conservativeChildToolTranscriptBytes (spec : ChildWorkOrderSpec) : Option ℕ :=
  let largest := (spec.repositoryAuthority.toolGrants.map fun grant =>
    grantResultBytes grant + 16 * 1024).foldl max 0
  let total := largest * spec.maxToolCallsPerAttempt.toNat
  if largest < 2 ^ 64 ∧ total < 2 ^ 64 then some total else none

/-- One context source: an event of the run before the work order, and the artifact it
references. The sum of what the model sees is returned with the cost of the artifacts. -/
def validateContextSource (event : EventEnvelope) (runId : RunId)
    (state : ArtifactValidationCost × ℕ) (source : ChildContextSource) :
    Except StoreError (ArtifactValidationCost × ℕ) := do
  let sourceEvent ← storedEventForRun log event.sessionId runId source.sourceEventId
  ensure (sourceEvent.sequence < event.sequence) .invalidStateEvent
  let json ← expect .invalidStateEvent (env.wires.event.toVec sourceEvent)
  ensure (state.2 + json.length < 2 ^ 64) .invalidStateEvent
  match source.artifact with
  | none => return (state.1, state.2 + json.length)
  | some artifact => do
    ensure (env.referencesArtifact sourceEvent artifact = true) .invalidStateEvent
    let cost ← state.1.add artifact
    verifyArtifactAtRoot env.root artifact
    ensure (state.2 + json.length + artifact.sizeBytes.toNat < 2 ^ 64) .invalidStateEvent
    return (cost, state.2 + json.length + artifact.sizeBytes.toNat)

def validateChildContextManifest (event : EventEnvelope) (spec : ChildWorkOrderSpec)
    (contextArtifact : ArtifactRef) (requiredEventId : Option EventId) :
    Except StoreError ChildContextManifest := do
  let runId ← expect .invalidStateEvent event.runId
  let context ← readCanonicalJsonArtifact env.root env.wires.contextManifest contextArtifact
    childContextManifestMediaType
  ensure (context.contractVersion = childReconnaissanceContractVersion ∧
    context.workOrderId = spec.workOrderId ∧ context.contextId = spec.contextId ∧
    context.sources ≠ [] ∧ context.sources.length ≤ childReconnaissanceMaxContextEvents ∧
    (context.sources.countP fun source => source.artifact.isSome) ≤
      childReconnaissanceMaxContextArtifacts ∧
    (requiredEventId.all fun required =>
      context.sources.any fun source => source.sourceEventId = required) = true)
    .invalidStateEvent
  let specBytes ← expect .invalidStateEvent (env.wires.workOrder.toVec spec)
  let transcriptBytes ← expect .invalidStateEvent (conservativeChildToolTranscriptBytes spec)
  let baseBytes := specBytes.length + contextArtifact.sizeBytes.toNat +
    spec.maxModelEvidenceBytes.toNat + transcriptBytes
  ensure (baseBytes < 2 ^ 64) .invalidStateEvent
  ensure context.sources.Nodup .invalidStateEvent
  let (cost, modelVisibleBytes) ← context.sources.foldlM
    (validateContextSource env log event runId) (({} : ArtifactValidationCost), baseBytes)
  cost.enforceEventLimit
  ensure (modelVisibleBytes ≤ spec.maxModelVisibleInputBytes.toNat) .invalidStateEvent
  return context

/-- The authorization that `ChildWorkOrderIssued` repeats. -/
def authorizationMatches (authorized : ChildDelegation)
    (issued : ChildWorkOrderIssued) : Prop :=
  authorized.issuerActorId = issued.issuerActorId ∧
  authorized.claimEventId = issued.authorizationClaimEventId ∧
  authorized.claimId = issued.authorizationClaimId ∧
  authorized.claimGeneration = issued.authorizationClaimGeneration ∧
  authorized.claimRuntimeInstanceId = issued.authorizationRuntimeInstanceId ∧
  authorized.cancellationGeneration = issued.cancellationGeneration ∧
  authorized.spec = issued.spec ∧
  authorized.workOrderArtifact = issued.workOrderArtifact ∧
  authorized.workOrderDigest = issued.workOrderDigest ∧
  authorized.contextManifestArtifact = issued.contextManifestArtifact ∧
  authorized.contextManifestDigest = issued.contextManifestDigest

instance (authorized : ChildDelegation) (issued : ChildWorkOrderIssued) :
    Decidable (authorizationMatches authorized issued) := by
  unfold authorizationMatches
  infer_instance

/-- The delegation, under either version of its event. -/
def EventPayload.delegation : EventPayload → Option ChildDelegation
  | .childDelegationAuthorized authorized => some authorized.toChildDelegation
  | .childDelegationAuthorizedV2 authorized => some authorized.toChildDelegation
  | _ => none

/-- `validate_child_work_order_documents`. -/
def validateChildWorkOrderDocuments (event : EventEnvelope) (issued : ChildWorkOrderIssued) :
    Except StoreError Unit := do
  let runId ← expect .invalidStateEvent event.runId
  ensure (event.actorId = issued.issuerActorId ∧
    event.causalParent = some issued.authorizationEventId ∧
    event.provenance.backend = none ∧
    event.provenance.rawArtifact = some issued.workOrderArtifact ∧
    digestMatchesArtifact issued.workOrderDigest issued.workOrderArtifact = true ∧
    digestMatchesArtifact issued.contextManifestDigest issued.contextManifestArtifact = true)
    .invalidStateEvent
  validateChildModelContract env issued.spec
  let authorization ←
    storedEventForRun log event.sessionId runId issued.authorizationEventId
  let authorized ← expect .invalidStateEvent authorization.payload.delegation
  ensure (authorizationMatches authorized issued) .invalidStateEvent
  ensure (authorization.sequence < event.sequence ∧
    authorization.actorId = issued.issuerActorId) .invalidStateEvent
  let claimEvent ←
    storedEventForRun log event.sessionId runId issued.authorizationClaimEventId
  let .runClaimed claim := claimEvent.payload | .error .invalidStateEvent
  ensure (claimEvent.sequence < authorization.sequence ∧
    claimEvent.actorId = issued.issuerActorId ∧
    claim.claimId = issued.authorizationClaimId ∧
    claim.claimGeneration = issued.authorizationClaimGeneration ∧
    claim.runtimeInstanceId = issued.authorizationRuntimeInstanceId ∧
    claim.cancellationGeneration = issued.cancellationGeneration) .invalidStateEvent
  let persisted ← readCanonicalJsonArtifact env.root env.wires.workOrder
    issued.workOrderArtifact childWorkOrderMediaType
  ensure (persisted = issued.spec) .invalidStateEvent
  let _ ← validateChildContextManifest env log event issued.spec issued.contextManifestArtifact
    (some authorized.acceptedEventId)

end WorkOrder

section Handoff

/-- One evidence binding of a finding names an observed result of the attempt. -/
def validateHandoffEvidence (attempt : ReplayedChildAttempt) (cost : ArtifactValidationCost)
    (evidence : ChildHandoffEvidenceBinding) : Except StoreError ArtifactValidationCost := do
  let (observedEventId, resultArtifact) ←
    expect .invalidStateEvent attempt.observedResults[evidence.toolCallId]?
  ensure (observedEventId = evidence.observedEventId ∧
    resultArtifact = evidence.resultArtifact) .invalidStateEvent
  let cost ← cost.add evidence.resultArtifact
  verifyArtifactAtRoot env.root evidence.resultArtifact
  return cost

def validateHandoffFinding (attempt : ReplayedChildAttempt) (cost : ArtifactValidationCost)
    (finding : ChildHandoffFinding) : Except StoreError ArtifactValidationCost := do
  ensure (finding.evidence ≠ [] ∧ (finding.evidence.map fun evidence =>
    (evidence.toolCallId, evidence.observedEventId, evidence.resultArtifact.sha256)).Nodup)
    .invalidStateEvent
  finding.evidence.foldlM (validateHandoffEvidence env attempt) cost

/-- `validate_child_handoff_document`. -/
def validateChildHandoffDocument (handoff : ChildHandoffCommitted)
    (attempt : ReplayedChildAttempt) : Except StoreError ChildHandoffStatus := do
  let actionDocument ← validateChildActionBinding env handoff.binding handoff.actionBinding attempt
  let .finish content := actionDocument.action | .error .invalidStateEvent
  ensure (actionDocument.completionHandoffId = some handoff.handoffId ∧
    digestMatchesArtifact handoff.handoffDigest handoff.handoffArtifact = true) .invalidStateEvent
  let document ← readCanonicalJsonArtifact env.root env.wires.handoff handoff.handoffArtifact
    childHandoffMediaType
  ensure (document.contractVersion = childReconnaissanceContractVersion ∧
    document.binding = handoff.binding ∧ document.handoffId = handoff.handoffId ∧
    document.content = content ∧ boundedText document.content.summary = true ∧
    document.content.findings.length ≤ childReconnaissanceMaxFindings ∧
    document.content.unknowns.length ≤ childReconnaissanceMaxUnresolvedQuestions ∧
    document.content.recommendedFollowups.length ≤
      childReconnaissanceMaxRecommendedFollowups ∧
    (document.content.status = .complete →
      document.content.findings ≠ [] ∧ attempt.observedResults.isEmpty = false))
    .invalidStateEvent
  validateIdentifiedTexts (document.content.findings.map fun f => (f.findingId, f.statement))
  ensure ((document.content.findings.map fun f => f.evidence.length).sum ≤
    childReconnaissanceMaxEvidenceBindings) .invalidStateEvent
  let cost ← document.content.findings.foldlM (validateHandoffFinding env attempt)
    ({} : ArtifactValidationCost)
  cost.enforceEventLimit
  validateIdentifiedTexts (document.content.unknowns.map fun u => (u.unknownId, u.question))
  validateIdentifiedTexts
    (document.content.recommendedFollowups.map fun f => (f.followupId, f.text))
  return document.content.status

end Handoff

section Outcome

/-- The failure kinds that runtime evidence can attest. -/
def ChildExecutionFailureKind.runtimeAttested : ChildExecutionFailureKind → Bool
  | .context | .budget | .protocol | .durableState => true
  | .model | .tool => false

/-- `validate_child_execution_terminal_outcome`. -/
def validateChildExecutionTerminalOutcome (event : EventEnvelope) (issued : ChildWorkOrderIssued)
    (attempt : ReplayedChildAttempt) (finished : ChildExecutionFinished) :
    Except StoreError Unit :=
  match finished.outcome with
  | .succeeded handoffStatus => do
    ensure (finished.handoffEventId.isSome = true ∧
      finished.handoffEventId = attempt.projection.handoffEventId ∧
      attempt.handoffStatus = some handoffStatus ∧ attempt.modelTurnRequired = false)
      .invalidStateEvent
    requireChildEventProvenance event issued none
  | .failed kind retry cause => do
    ensure (finished.handoffEventId = none ∧ attempt.projection.handoffEventId = none)
      .invalidStateEvent
    match kind, cause with
    | .model, .modelTerminal terminalEventId modelCallId => do
      ensure (attempt.modelFailureTerminal = some (terminalEventId, modelCallId, retry))
        .invalidStateEvent
      requireChildEventProvenance event issued none
    | .tool, .toolTerminal terminalEventId toolCallId => do
      ensure (attempt.toolFailureTerminal = some (terminalEventId, toolCallId))
        .invalidStateEvent
      requireChildEventProvenance event issued none
    | kind, .runtimeEvidence evidenceArtifact evidenceDigest => do
      ensure (kind.runtimeAttested = true ∧
        evidenceArtifact.mediaType = childExecutionFailureMediaType ∧
        evidenceArtifact.sizeBytes ≠ 0 ∧
        evidenceArtifact.sizeBytes ≤ childReconnaissanceMaxModelArtifactBytes ∧
        digestMatchesArtifact evidenceDigest evidenceArtifact = true) .invalidStateEvent
      let retained ← readCanonicalJsonArtifact env.root env.wires.executionFailure
        evidenceArtifact childExecutionFailureMediaType
      ensure (retained.contractVersion = childReconnaissanceContractVersion ∧
        retained.binding = finished.binding ∧ retained.kind = kind ∧ retained.retry = retry ∧
        retained.diagnostic.isNull = false) .invalidStateEvent
      requireChildEventProvenance event issued (some evidenceArtifact)
    | _, _ => .error .invalidStateEvent
  | .cancelled cause => do
    ensure (finished.handoffEventId = none ∧ attempt.projection.handoffEventId = none)
      .invalidStateEvent
    validateChildCancellationCause log event cause
    requireChildEventProvenance event issued none

end Outcome

end BirdCode.Store
