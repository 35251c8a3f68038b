import BirdCode.Store.ChildState

/-! Model calls of a child: the turn input that Prepared is compiled from, the plan revision that
an observation carries, and the records of both terminals. -/
namespace BirdCode.Store

variable (env : Environment) (log : EventLog)

section TurnInput

/-- `ChildModelVisibleJsonV1::from_serializable`, compared with the bytes the artifact holds. -/
def visibleJson {T : Type} (codec : Codec T) (value : T) (bytes : Bytes) :
    Except StoreError Bytes := do
  let json ← expect .invalidStateEvent (codec.toVec value)
  ensure (json = bytes) .invalidStateEvent
  return json

def readVisibleJson {T : Type} (codec : Codec T) (artifact : ArtifactRef) (mediaType : String) :
    Except StoreError (T × Bytes) := do
  let read ← readCanonicalJsonArtifactWithBytes env.root codec artifact mediaType
  let json ← visibleJson codec read.1 read.2
  return (read.1, json)

structure ChildModelTurnEventHorizon where
  sessionId : SessionId
  runId : RunId
  sequence : ℕ

def resolveContextSource (horizon : ChildModelTurnEventHorizon) (binding : ChildContextSource) :
    Except StoreError ChildRepositoryExplorerContextSource := do
  let sourceEvent ←
    storedEventForRun log horizon.sessionId horizon.runId binding.sourceEventId
  ensure (sourceEvent.sequence < horizon.sequence) .invalidStateEvent
  let artifactBytes ← binding.artifact.mapM fun artifact => readVerifiedArtifact env.root artifact
  let sourceEventJson ← expect .invalidStateEvent (env.wires.event.toVec sourceEvent)
  return ⟨binding, sourceEventJson, artifactBytes⟩

def priorPlanContext (plan : RetainedChildPlan) : ChildPriorPlanContext :=
  ⟨plan.binding, plan.sourceModelObservedEventId, plan.sourceModelEvidenceArtifact,
    plan.sourceModelEvidenceDigest⟩

def resolvePriorPlan (plan : RetainedChildPlan) :
    Except StoreError ChildRepositoryExplorerPriorPlan := do
  let read ← readVisibleJson env env.wires.modelEvidence plan.sourceModelEvidenceArtifact
    childModelEvidenceMediaType
  return ⟨priorPlanContext plan, plan.snapshot, read.2⟩

/-- `validate_repository_result_v2`. -/
def validateRepositoryResultV2 (resultArtifact : ArtifactRef) (operation : ChildToolOperation)
    (authority : ChildRepositoryAuthority) : Except StoreError RepositoryToolResult := do
  requireArtifactMediaType resultArtifact repositoryToolResultV2MediaType
  let bytes ← readVerifiedArtifact env.root resultArtifact
  expect .invalidStateEvent (env.resultV2 bytes resultArtifact operation authority)

/-- The result of an observed broker-v2 call: already supplied to an earlier model call, or
supplied to this one. -/
def resolveVerifiedResult (horizon : ChildModelTurnEventHorizon) (modelCallOrdinal : UInt32)
    (replay : ChildReplay) (attempt : ReplayedChildAttempt) (terminalEventId : EventId)
    (observed : ChildToolObserved RepositoryToolObservedTerminalV2)
    (operation : ChildToolOperation) :
    Except StoreError (Option ChildRepositoryExplorerObservedToolResult) :=
  match observed.outcome with
  | .succeeded resultArtifact =>
    match attempt.suppliedToolResults[observed.toolCallId]? with
    | some (ordinal, suppliedEventId, suppliedArtifact) => do
      ensure (suppliedArtifact = resultArtifact ∧ ordinal < modelCallOrdinal) .invalidStateEvent
      let suppliedEvent ← storedEventForRun log horizon.sessionId horizon.runId suppliedEventId
      let .childModelInferencePreparedV2 suppliedPrepared := suppliedEvent.payload
        | .error .invalidStateEvent
      ensure (suppliedEvent.sequence < horizon.sequence ∧
        suppliedPrepared.prepared.modelCallOrdinal = ordinal ∧
        ⟨observed.toolCallId, terminalEventId, resultArtifact⟩ ∈
          suppliedPrepared.suppliedToolResults) .invalidStateEvent
      let json ← expect .invalidStateEvent (env.wires.event.toVec suppliedEvent)
      return some (.previouslySupplied resultArtifact ordinal suppliedEventId json)
    | none => do
      let result ← validateRepositoryResultV2 env resultArtifact operation
        replay.issued.spec.repositoryAuthority
      return some (.supplied
        ⟨observed.toolCallId, terminalEventId, modelCallOrdinal, resultArtifact, result⟩)
  | .failed .. => .ok none
  | .authorizationDenied .. => .ok none

def resolvePreparedReceiptV2 (horizon : ChildModelTurnEventHorizon) (preparedEventId : EventId) :
    Except StoreError (ChildToolPrepared RepositoryToolAuthorizationDecisionV2 × Bytes) := do
  let preparedEvent ← storedEventForRun log horizon.sessionId horizon.runId preparedEventId
  let .childToolPreparedV2 toolPrepared := preparedEvent.payload | .error .invalidStateEvent
  let receipt ← readVisibleJson env env.wires.toolPreparedV2
    toolPrepared.preparedReceiptArtifact repositoryToolPreparedReceiptV2MediaType
  return (toolPrepared, receipt.2)

def resolvePreviousTool (horizon : ChildModelTurnEventHorizon) (modelCallOrdinal : UInt32)
    (replay : ChildReplay) (attempt : ReplayedChildAttempt) (allowBrokerV2 : Bool)
    (binding : ChildPreviousToolContext) :
    Except StoreError ChildRepositoryExplorerPreviousTool :=
  match binding with
  | .observed _ terminalEventId terminalReceiptArtifact _ => do
    let terminalEvent ← storedEventForRun log horizon.sessionId horizon.runId terminalEventId
    match terminalEvent.payload with
    | .childToolObserved _ => do
      let receipt ← readVisibleJson env env.wires.toolObserved terminalReceiptArtifact
        childToolEvidenceMediaType
      let json ← expect .invalidStateEvent (env.wires.event.toVec terminalEvent)
      return .observed binding json receipt.2
    | .childToolObservedV2 observed => do
      ensure (allowBrokerV2 = true) .invalidStateEvent
      let prepared ← resolvePreparedReceiptV2 env log horizon observed.preparedEventId
      let receipt ← readVisibleJson env env.wires.toolObservedV2 terminalReceiptArtifact
        repositoryToolObservedReceiptV2MediaType
      let verified ← resolveVerifiedResult env log horizon modelCallOrdinal replay attempt
        terminalEventId observed prepared.1.operation
      let json ← expect .invalidStateEvent (env.wires.event.toVec terminalEvent)
      return .observedV2 binding prepared.2 json receipt.2 verified
    | _ => .error .invalidStateEvent
  | .unknown _ terminalEventId terminalReceiptArtifact _ => do
    let terminalEvent ← storedEventForRun log horizon.sessionId horizon.runId terminalEventId
    match terminalEvent.payload with
    | .childToolOutcomeUnknown _ => do
      let receipt ← readVisibleJson env env.wires.toolUnknown terminalReceiptArtifact
        childToolUnknownMediaType
      let json ← expect .invalidStateEvent (env.wires.event.toVec terminalEvent)
      return .unknown binding json receipt.2
    | .childToolOutcomeUnknownV2 unknown => do
      ensure (allowBrokerV2 = true) .invalidStateEvent
      let prepared ← resolvePreparedReceiptV2 env log horizon unknown.preparedEventId
      let receipt ← readVisibleJson env env.wires.toolUnknownV2 terminalReceiptArtifact
        repositoryToolUnknownReceiptV2MediaType
      let json ← expect .invalidStateEvent (env.wires.event.toVec terminalEvent)
      return .unknownV2 binding prepared.2 json receipt.2
    | _ => .error .invalidStateEvent

/-- `resolve_child_repository_explorer_turn_input`: every source of one model turn, taken from
the retained artifacts and from events before the horizon. -/
def resolveTurnInput (horizon : ChildModelTurnEventHorizon)
    (prepared : ChildModelInferencePrepared) (replay : ChildReplay)
    (attempt : ReplayedChildAttempt) (allowBrokerV2 : Bool) :
    Except StoreError ChildRepositoryExplorerTurnInput := do
  let workOrder ← readVisibleJson env env.wires.workOrder replay.issued.workOrderArtifact
    childWorkOrderMediaType
  let manifest ← readVisibleJson env env.wires.contextManifest
    replay.issued.contextManifestArtifact childContextManifestMediaType
  let contextSources ← manifest.1.sources.mapM fun source =>
    resolveContextSource env log horizon source
  let priorPlan ← attempt.latestPlan.mapM fun plan => resolvePriorPlan env plan
  let previousTools ← attempt.modelVisibleToolTranscript.mapM fun binding =>
    resolvePreviousTool env log horizon prepared.modelCallOrdinal replay attempt allowBrokerV2
      binding
  return {
    contractVersion := childReconnaissanceContractVersion
    binding := prepared.binding
    modelCallId := prepared.modelCallId
    modelCallOrdinal := prepared.modelCallOrdinal
    localPlanId := attempt.projection.localPlanId
    workOrderEventId := replay.workOrderEventId
    workOrderArtifact := replay.issued.workOrderArtifact
    workOrderDigest := replay.issued.workOrderDigest
    workOrder := workOrder.1
    workOrderJson := workOrder.2
    contextManifestArtifact := replay.issued.contextManifestArtifact
    contextManifestDigest := replay.issued.contextManifestDigest
    contextManifest := manifest.1
    contextManifestJson := manifest.2
    contextSources
    priorPlan
    previousTools
    tokenReservation := prepared.tokenReservation
    preparedAt := prepared.preparedAt }

/-- `expected_child_model_supplied_tool_results`. -/
def expectedSuppliedToolResults (input : ChildRepositoryExplorerTurnInput) :
    List ChildModelSuppliedToolResult :=
  input.previousTools.filterMap fun tool =>
    match tool with
    | .observedV2 _ _ _ _ (some (.supplied evidence)) =>
      some ⟨evidence.toolCallId, evidence.observedEventId, evidence.resultArtifact⟩
    | _ => none

/-- `expected_child_model_context_inventory`. -/
def expectedContextInventory (replay : ChildReplay) (attempt : ReplayedChildAttempt) :
    ChildModelContextInventory where
  workOrderEventId := replay.workOrderEventId
  workOrderArtifact := replay.issued.workOrderArtifact
  workOrderDigest := replay.issued.workOrderDigest
  contextManifestArtifact := replay.issued.contextManifestArtifact
  contextManifestDigest := replay.issued.contextManifestDigest
  priorPlan := attempt.latestPlan.map priorPlanContext
  previousTool := attempt.previousToolContext

end TurnInput

section Prepared

/-- One of the three artifacts a Prepared event names with its digest. -/
def validModelArtifact (artifact : ArtifactRef) (digest : Sha256Digest) : Bool :=
  artifact.sizeBytes ≠ 0 && artifact.sizeBytes ≤ childReconnaissanceMaxModelArtifactBytes &&
    digestMatchesArtifact digest artifact

def validBackendInstance (instance? : Option BackendInstanceIdentity)
    (model : BackendModelIdentity) (lineage : ModelLineage) : Bool :=
  instance?.all fun identity => env.identityIntegrity identity &&
    identity.backendId = model.backendId &&
    identity.configuredDeploymentId = lineage.deploymentId

def expectedPromptManifest (prepared : ChildModelInferencePrepared) :
    ChildModelPromptManifest where
  contractVersion := childReconnaissanceContractVersion
  promptContract := prepared.promptContract
  promptContractDigest := prepared.promptContractDigest
  outputContract := prepared.outputContract
  outputContractDigest := prepared.outputContractDigest
  binding := prepared.binding
  modelCallId := prepared.modelCallId
  modelCallOrdinal := prepared.modelCallOrdinal
  backendModel := prepared.backendModel
  backendInstance := prepared.backendInstance
  modelLineage := prepared.modelLineage
  localPlanId := prepared.localPlanId
  contextInventory := prepared.contextInventory
  promptArtifact := prepared.promptArtifact
  promptDigest := prepared.promptDigest
  requestArtifact := prepared.requestArtifact
  requestDigest := prepared.requestDigest
  tokenReservation := prepared.tokenReservation
  preparedAt := prepared.preparedAt

def validateChildModelPreparedDocuments (prepared : ChildModelInferencePrepared)
    (expectedLocalPlanId : ChildLocalPlanId) (inventory : ChildModelContextInventory)
    (input : ChildRepositoryExplorerTurnInput) : Except StoreError Unit := do
  ensure (validChildTokenReservation prepared.tokenReservation = true ∧
    prepared.tokenReservation.maxOutputTokens ≤
      childReconnaissanceMaxOutputTokensPerModelCall ∧
    prepared.backendInstance = input.workOrder.backendInstance ∧
    validBackendInstance env prepared.backendInstance prepared.backendModel
      prepared.modelLineage = true ∧
    prepared.localPlanId = expectedLocalPlanId ∧
    prepared.contextInventory = inventory ∧
    validModelArtifact prepared.promptManifestArtifact prepared.promptManifestDigest = true ∧
    validModelArtifact prepared.promptArtifact prepared.promptDigest = true ∧
    validModelArtifact prepared.requestArtifact prepared.requestDigest = true)
    .invalidStateEvent
  let compilation ← expect .invalidStateEvent <|
    env.compile input prepared.backendModel prepared.modelLineage
  ensure (prepared.promptContract = .repositoryExplorerV1 ∧
    prepared.promptContract = compilation.1.promptContract ∧
    prepared.promptContractDigest = compilation.1.promptContractDigest ∧
    prepared.outputContract = .repositoryExplorerV1 ∧
    prepared.outputContract = compilation.1.outputContract ∧
    prepared.outputContractDigest = compilation.1.outputContractDigest) .invalidStateEvent
  let prompt ← readCanonicalJsonArtifact env.root env.wires.modelPrompt prepared.promptArtifact
    childModelPromptMediaType
  ensure (prompt = compilation.1) .invalidStateEvent
  let request ← readCanonicalJsonArtifact env.root env.wires.modelRequest
    prepared.requestArtifact childModelRequestMediaType
  ensure (request = compilation.2) .invalidStateEvent
  let length ← expect .invalidStateEvent (env.backendRequestLength request)
  ensure (length + prepared.tokenReservation.maxOutputTokens.toNat < 2 ^ 64 ∧
    length + prepared.tokenReservation.maxOutputTokens.toNat ≤
      prepared.tokenReservation.reservedTokens.toNat) .invalidStateEvent
  let manifest ← readCanonicalJsonArtifact env.root env.wires.modelPromptManifest
    prepared.promptManifestArtifact childModelPromptManifestMediaType
  ensure (manifest = expectedPromptManifest prepared) .invalidStateEvent

end Prepared

section LocalPlan

def validChildPlanStepTransition : ChildLocalPlanStepStatus → ChildLocalPlanStepStatus → Bool
  | .pending, .pending | .pending, .inProgress | .pending, .blocked | .pending, .cancelled => true
  | .inProgress, .inProgress | .inProgress, .completed | .inProgress, .blocked
  | .inProgress, .cancelled => true
  | .blocked, .blocked | .blocked, .inProgress | .blocked, .cancelled => true
  | .completed, .completed => true
  | .cancelled, .cancelled => true
  | _, _ => false

def validateChildFinishPlanState (plan : ChildLocalPlanSnapshot)
    (handoffStatus : ChildHandoffStatus) (handoffUnknownsEmpty : Bool) : Bool :=
  (plan.steps.all fun step => step.status ≠ .pending && step.status ≠ .inProgress) &&
  match handoffStatus with
  | .complete => handoffUnknownsEmpty && plan.steps.all fun step => step.status = .completed
  | .partially => (plan.steps.any fun step => step.status = .cancelled) || !handoffUnknownsEmpty
  | .blocked => plan.steps.any fun step => step.status = .blocked

/-- The revision follows the retained plan: the first is 1 with no predecessor, a later one is
the next number, of the same plan, and names the digest before it. -/
def validPlanRevision (prior : Option RetainedChildPlan) (plan : ChildLocalPlanSnapshot) : Bool :=
  match prior with
  | none => plan.revision = 1 && plan.previousPlanDigest.isNone
  | some previous =>
    plan.planId = previous.binding.planId &&
    plan.revision.toNat = min (previous.binding.revision.toNat + 1) (2 ^ 64 - 1) &&
    plan.previousPlanDigest = some previous.binding.planDigest

/-- Every step of the retained plan is still there, unchanged but for an allowed status. -/
def keepsPriorSteps (prior : Option RetainedChildPlan) (plan : ChildLocalPlanSnapshot) : Bool :=
  prior.all fun previous => previous.snapshot.steps.all fun old =>
    (plan.steps.find? fun step => step.stepId = old.stepId).any fun new =>
      new.objective = old.objective && validChildPlanStepTransition old.status new.status

/-- The action a plan may carry: a tool call with a step in progress, or a finish that leaves no
step open. -/
def validPlanAction (spec : ChildWorkOrderSpec) (plan : ChildLocalPlanSnapshot) :
    ChildAction → Bool
  | .finish handoff => spec.minPlanRevisions.toNat ≤ plan.revision.toNat &&
      plan.activeStepId.isNone &&
      validateChildFinishPlanState plan handoff.status handoff.unknowns.isEmpty
  | _ => plan.activeStepId.isSome

/-- `validate_child_local_plan`. -/
def validateChildLocalPlan (spec : ChildWorkOrderSpec) (binding : ChildExecutionBinding)
    (localPlanId : ChildLocalPlanId) (prior : Option RetainedChildPlan)
    (plan : ChildLocalPlanSnapshot) (action : ChildAction) :
    Except StoreError ChildLocalPlanBinding := do
  ensure (plan.contractVersion = childReconnaissanceContractVersion ∧ plan.binding = binding ∧
    plan.planId = localPlanId ∧ plan.objective = spec.objective ∧ plan.steps ≠ [] ∧
    plan.steps.length ≤ childReconnaissanceMaxPlanSteps ∧
    plan.assumptions.length ≤ childReconnaissanceMaxPlanAssumptions ∧
    plan.unknowns.length ≤ childReconnaissanceMaxPlanUnknowns) .invalidStateEvent
  ensure (validPlanRevision prior plan = true) .invalidStateEvent
  validateIdentifiedTexts (plan.steps.map fun step => (step.stepId, step.objective))
  ensure (keepsPriorSteps prior plan = true) .invalidStateEvent
  ensure ((plan.steps.filter fun step => step.status = .inProgress).map
    ChildLocalPlanStep.stepId = plan.activeStepId.toList) .invalidStateEvent
  validateIdentifiedTexts (plan.assumptions.map fun a => (a.assumptionId, a.statement))
  validateIdentifiedTexts (plan.unknowns.map fun u => (u.unknownId, u.question))
  ensure (validPlanAction spec plan action = true) .invalidStateEvent
  let canonical ← expect .invalidStateEvent (env.wires.localPlan.toVec plan)
  let digest ← digestOf env.root canonical
  return ⟨plan.planId, plan.revision, digest⟩

end LocalPlan

section Terminal

structure ValidatedChildModelSuccess where
  action : ChildAction
  plan : ChildLocalPlanSnapshot
  planBinding : ChildLocalPlanBinding

/-- `child_model_observation_from_evidence`. -/
def ChildModelCompleteEvidence.observation :
    ChildModelCompleteEvidence → ChildModelInferenceObservation
  | .succeeded reported usage .. => .succeeded reported usage
  | .failed error _ => .failed error

/-- The evidence of one terminal repeats what Prepared fixed. -/
def evidenceMatchesPending (retained : ChildModelEvidenceRecord) (pending : PendingChildModel) :
    Prop :=
  retained.modelCallId = pending.modelCallId ∧
  retained.modelCallOrdinal = pending.modelCallOrdinal ∧
  retained.preparedEventId = pending.preparedEventId ∧
  retained.backendModel = pending.backendModel ∧
  retained.backendInstance = pending.backendInstance ∧
  retained.modelLineage = pending.modelLineage ∧
  retained.promptManifestDigest = pending.promptManifestDigest ∧
  retained.promptDigest = pending.promptDigest ∧
  retained.requestDigest = pending.requestDigest ∧
  retained.tokenReservationId = pending.tokenReservation.id ∧
  retained.preparedAt = pending.preparedAt

instance (retained : ChildModelEvidenceRecord) (pending : PendingChildModel) :
    Decidable (evidenceMatchesPending retained pending) := by
  unfold evidenceMatchesPending
  infer_instance

/-- The outcome that complete evidence proves: the plan and action of a success, nothing of a
failure. -/
def validateChildModelEvidence (observed : ChildModelInferenceObserved)
    (pending : PendingChildModel) (spec : ChildWorkOrderSpec)
    (priorPlan : Option RetainedChildPlan) :
    ChildModelCompleteEvidence → Except StoreError (Option ValidatedChildModelSuccess)
  | .succeeded reported usage rawText providerValue response providerEvidence => do
    let parsed ← expect .invalidStateEvent (env.wires.value.fromSlice rawText.toUTF8.toList)
    let typed ← expect .invalidStateEvent <|
      (env.wires.value.toVec parsed).bind env.wires.structuredResponse.fromSlice
    ensure (reported = pending.backendModel ∧ rawText.isEmpty = false ∧
      rawText.utf8ByteSize ≤ childReconnaissanceMaxModelArtifactBytes.toNat ∧
      parsed = providerValue ∧ typed = response ∧
      response.contractVersion = childReconnaissanceContractVersion ∧
      providerEvidence.isNull = false ∧
      validChildTokenUsage usage pending.tokenReservation = true) .invalidStateEvent
    let planBinding ← validateChildLocalPlan env spec observed.binding pending.localPlanId
      priorPlan response.plan response.action
    return some ⟨response.action, response.plan, planBinding⟩
  | .failed error normalizedError => do
    ensure (normalizedError.isNull = false ∧
      (error.kind = .cancelled ↔ error.cancellation.isSome = true)) .invalidStateEvent
    return none

def validateChildModelObservedDocument (observed : ChildModelInferenceObserved)
    (pending : PendingChildModel) (spec : ChildWorkOrderSpec)
    (priorPlan : Option RetainedChildPlan) :
    Except StoreError (Option ValidatedChildModelSuccess) := do
  ensure (observed.normalizedCompleteEvidenceArtifact.sizeBytes ≠ 0 ∧
    observed.normalizedCompleteEvidenceArtifact.sizeBytes ≤ spec.maxModelEvidenceBytes ∧
    digestMatchesArtifact observed.evidenceDigest
      observed.normalizedCompleteEvidenceArtifact = true ∧
    observed.modelCallId = pending.modelCallId ∧
    observed.modelCallOrdinal = pending.modelCallOrdinal ∧
    observed.preparedEventId = pending.preparedEventId ∧
    observed.backendModel = pending.backendModel ∧
    observed.backendInstance = pending.backendInstance ∧
    observed.modelLineage = pending.modelLineage ∧
    observed.tokenReservationId = pending.tokenReservation.id ∧
    sameRuntimeNotBefore pending.preparedAt observed.finishedAt = true) .invalidStateEvent
  let retained ← readCanonicalJsonArtifact env.root env.wires.modelEvidence
    observed.normalizedCompleteEvidenceArtifact childModelEvidenceMediaType
  ensure (retained.contractVersion = childReconnaissanceContractVersion ∧
    retained.binding = observed.binding ∧ evidenceMatchesPending retained pending ∧
    retained.finishedAt = observed.finishedAt ∧
    retained.outcome.observation = observed.outcome) .invalidStateEvent
  validateChildModelEvidence env observed pending spec priorPlan retained.outcome

def validChildModelUnknownBoundary :
    UnknownInferenceOutcomeReason → UnknownInferenceBoundary → Bool
  | .runtimeRestartedBeforeObservation, .restart => true
  | .runtimeRestartedBeforeObservation, .shutdown => true
  | .claimExpiredBeforeObservation, .claimRenewalFailed => true
  | .evidenceCommitIndeterminate, .deadline => true
  | .evidenceCommitIndeterminate, .cancelled => true
  | _, _ => false

def expectedUnknownRecord (unknown : ChildModelInferenceOutcomeUnknown)
    (pending : PendingChildModel) : ChildModelUnknownRecord where
  contractVersion := childReconnaissanceContractVersion
  binding := unknown.binding
  modelCallId := pending.modelCallId
  modelCallOrdinal := pending.modelCallOrdinal
  preparedEventId := pending.preparedEventId
  backendModel := pending.backendModel
  backendInstance := pending.backendInstance
  modelLineage := pending.modelLineage
  promptManifestDigest := pending.promptManifestDigest
  promptDigest := pending.promptDigest
  requestDigest := pending.requestDigest
  tokenReservationId := pending.tokenReservation.id
  preparedAt := pending.preparedAt
  boundaryAt := unknown.boundaryAt
  reason := unknown.reason
  boundary := unknown.boundary
  cancellation := unknown.cancellation
  retry := unknown.retry

/-- Whether the boundary is in another runtime than Prepared. -/
def validateChildModelUnknownDocument (unknown : ChildModelInferenceOutcomeUnknown)
    (pending : PendingChildModel) : Except StoreError Bool := do
  ensure (unknown.boundaryArtifact.sizeBytes ≠ 0 ∧
    unknown.boundaryArtifact.sizeBytes ≤ childReconnaissanceMaxModelArtifactBytes ∧
    digestMatchesArtifact unknown.boundaryDigest unknown.boundaryArtifact = true ∧
    unknown.modelCallId = pending.modelCallId ∧
    unknown.modelCallOrdinal = pending.modelCallOrdinal ∧
    unknown.preparedEventId = pending.preparedEventId ∧
    unknown.backendModel = pending.backendModel ∧
    unknown.backendInstance = pending.backendInstance ∧
    unknown.modelLineage = pending.modelLineage ∧
    unknown.tokenReservationId = pending.tokenReservation.id ∧
    validChildModelUnknownBoundary unknown.reason unknown.boundary = true ∧
    (unknown.boundary = .cancelled ↔ unknown.cancellation.isSome = true)) .invalidStateEvent
  let sameRuntime : Bool :=
    pending.preparedAt.runtimeInstanceId = unknown.boundaryAt.runtimeInstanceId
  ensure (sameRuntime = true → sameRuntimeNotBefore pending.preparedAt unknown.boundaryAt = true)
    .invalidStateEvent
  ensure (sameRuntime = false → unknown.boundary = .restart ∨ unknown.boundary = .shutdown ∨
    unknown.boundary = .claimRenewalFailed) .invalidStateEvent
  let retained ← readCanonicalJsonArtifact env.root env.wires.modelUnknown
    unknown.boundaryArtifact childModelUnknownMediaType
  ensure (retained = expectedUnknownRecord unknown pending) .invalidStateEvent
  return !sameRuntime

end Terminal

end BirdCode.Store
