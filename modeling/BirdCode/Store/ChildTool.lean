import BirdCode.Store.ChildModel

/-! Tool calls of a child: the validated action that authorises one, the receipts of both broker
contracts, and the order of broker calls. -/
namespace BirdCode.Store

variable (env : Environment) (log : EventLog)

section Action

/-- `validate_repository_path`. -/
def validRepositoryPath (path : RepositoryRelativePath) (requireFile : Bool)
    (maxComponents : UInt32) (maxPathBytes maxComponentBytes : UInt64) : Bool :=
  match path with
  | .unix components =>
    (!requireFile || !components.isEmpty) && components.length ≤ maxComponents.toNat &&
    (components.all fun component =>
      !component.isEmpty && component ≠ [46] && component ≠ [46, 46] &&
      !component.contains 47 && !component.contains 0 &&
      component.length ≤ maxComponentBytes.toNat) &&
    (components.map fun component => component.length + 1).sum ≤ maxPathBytes.toNat

def repositoryGrantById (authority : ChildRepositoryAuthority)
    (toolGrantId : RepositoryToolGrantId) : Except StoreError RepositoryToolGrant :=
  expect .invalidStateEvent (authority.toolGrants.find? fun grant => grant.toolGrantId = toolGrantId)

/-- The parameters of a repository action are within those of its grant. -/
def actionWithinGrant : ChildAction → RepositoryToolGrant → Bool
  | .repositoryTree _ path maxDepth maxEntries,
    .repositoryTree _ maxPathComponents maxPathBytes maxComponentBytes grantedDepth grantedEntries =>
    maxDepth ≤ grantedDepth && 1 ≤ maxEntries && maxEntries ≤ grantedEntries &&
    validRepositoryPath path.toRepositoryPath false maxPathComponents maxPathBytes
      maxComponentBytes
  | .repositoryFileRead _ path offsetBytes maxBytes,
    .repositoryFileRead _ maxPathComponents maxPathBytes maxComponentBytes maxOffsetBytes
      grantedBytes =>
    offsetBytes ≤ maxOffsetBytes && 1 ≤ maxBytes && maxBytes ≤ grantedBytes &&
    validRepositoryPath path.toRepositoryPath true maxPathComponents maxPathBytes
      maxComponentBytes
  | .literalSearch _ path literal maxDepth maxFiles maxMatches maxBytesPerFile maxTotalBytes,
    .literalSearch _ maxPathComponents maxPathBytes maxComponentBytes maxLiteralBytes
      grantedDepth grantedFiles grantedMatches grantedBytesPerFile grantedTotalBytes =>
    boundedNonemptyText literal childReconnaissanceMaxLiteralBytes &&
    literal.utf8ByteSize ≤ maxLiteralBytes.toNat && maxDepth ≤ grantedDepth &&
    1 ≤ maxFiles && maxFiles ≤ grantedFiles && 1 ≤ maxMatches && maxMatches ≤ grantedMatches &&
    1 ≤ maxBytesPerFile && maxBytesPerFile ≤ grantedBytesPerFile &&
    1 ≤ maxTotalBytes && maxTotalBytes ≤ grantedTotalBytes &&
    validRepositoryPath path.toRepositoryPath false maxPathComponents maxPathBytes
      maxComponentBytes
  | _, _ => false

/-- `validate_child_action_against_authority`: a tool action's grant and operation; a finish has
neither. -/
def validateChildActionAgainstAuthority (action : ChildAction)
    (authority : ChildRepositoryAuthority) :
    Except StoreError (Option (RepositoryToolGrant × ChildToolOperation)) :=
  match action.toolGrantId with
  | none => .ok none
  | some toolGrantId => do
    let grant ← repositoryGrantById authority toolGrantId
    let operation ← expect .invalidStateEvent action.toolOperation
    ensure (actionWithinGrant action grant = true) .invalidStateEvent
    return some (grant, operation)

def ChildAction.isFinish : ChildAction → Bool
  | .finish _ => true
  | _ => false

/-- `validate_child_action_binding`: the action document repeats, field by field, the model
observation that proposed the action. -/
def validateChildActionBinding (binding : ChildExecutionBinding)
    (actionBinding : ChildValidatedActionBinding) (attempt : ReplayedChildAttempt) :
    Except StoreError ChildValidatedActionDocument := do
  let source ← expect .invalidStateEvent attempt.lastSuccessfulModel
  ensure (actionBinding.validatedActionArtifact.sizeBytes ≠ 0 ∧
    actionBinding.validatedActionArtifact.sizeBytes ≤ childReconnaissanceMaxModelArtifactBytes ∧
    actionBinding.validatedActionArtifact.mediaType = childValidatedActionMediaType ∧
    digestMatchesArtifact actionBinding.validatedActionDigest
      actionBinding.validatedActionArtifact = true ∧
    actionBinding.sourceModelCallId = source.modelCallId ∧
    actionBinding.sourceModelCallOrdinal = source.modelCallOrdinal ∧
    actionBinding.sourceModelObservedEventId = source.observedEventId ∧
    actionBinding.sourceModelEvidenceDigest = source.evidenceDigest ∧
    actionBinding.sourcePlan = source.planBinding ∧
    actionBinding.activePlanStepId = source.plan.activeStepId) .invalidStateEvent
  let document ← readCanonicalJsonArtifact env.root env.wires.validatedAction
    actionBinding.validatedActionArtifact childValidatedActionMediaType
  ensure (document.action.isFinish = document.completionHandoffId.isSome ∧
    document.contractVersion = childReconnaissanceContractVersion ∧
    document.binding = binding ∧
    document.actionId = actionBinding.actionId ∧
    document.sourceModelCallId = source.modelCallId ∧
    document.sourceModelCallOrdinal = source.modelCallOrdinal ∧
    document.sourceModelObservedEventId = source.observedEventId ∧
    document.sourceModelEvidenceDigest = source.evidenceDigest ∧
    document.sourcePlan = source.planBinding ∧
    document.sourcePlan = actionBinding.sourcePlan ∧
    document.activePlanStepId = source.plan.activeStepId ∧
    document.activePlanStepId = actionBinding.activePlanStepId ∧
    document.completionHandoffId = actionBinding.completionHandoffId ∧
    document.action = source.proposedAction) .invalidStateEvent
  return document

end Action

section Prepared

variable {Grants Decision : Type}

/-- The policy, snapshot, root and bounds of the issued authority, with the grants a receipt
names. -/
def receiptAuthority (authority : ChildRepositoryAuthority) (grants : Grants) :
    RepositoryToolReceiptAuthority Grants where
  policyId := authority.policyId
  policyArtifact := authority.policyArtifact
  policyDigest := authority.policyDigest
  snapshot := authority.snapshot
  root := authority.root
  brokerBounds := authority.brokerBounds
  toolGrants := grants

/-- The bindings that the prepared receipts of both contracts repeat from the event. -/
def preparedReceiptMatches [DecidableEq Grants] [DecidableEq Decision] (schemaVersion : UInt32)
    (receipt : RepositoryToolPreparedReceipt Grants Decision)
    (prepared : ChildToolPrepared Decision) (authority : RepositoryToolReceiptAuthority Grants) :
    Bool :=
  receipt.schemaVersion = schemaVersion && receipt.binding = prepared.binding &&
  receipt.toolCallId = prepared.toolCallId && receipt.toolOrdinal = prepared.toolOrdinal &&
  receipt.actionBinding = prepared.actionBinding && receipt.operation = prepared.operation &&
  receipt.authority = authority && receipt.authorization = prepared.authorization &&
  receipt.brokerCallSequence ≠ 0 &&
  receipt.brokerCallSequence = prepared.brokerCallSequence &&
  receipt.brokerPreparedAt.brokerInstanceId = prepared.brokerInstanceId &&
  receipt.runtimePreparedAt = prepared.preparedAt

def expectedParameters (schemaVersion : UInt32) (prepared : ChildToolPrepared Decision)
    (toolGrantId : RepositoryToolGrantId) : RepositoryToolCanonicalParameters where
  schemaVersion := schemaVersion
  binding := prepared.binding
  toolCallId := prepared.toolCallId
  toolOrdinal := prepared.toolOrdinal
  actionBinding := prepared.actionBinding
  toolGrantId := toolGrantId
  operation := prepared.operation

def preparedToolCall (preparedEventId : EventId) (prepared : ChildToolPrepared Decision)
    (authorization : PendingChildToolAuthorization) (brokerPreparedAt : RepositoryBrokerClock) :
    PendingChildTool where
  preparedEventId := preparedEventId
  toolCallId := prepared.toolCallId
  actionBinding := prepared.actionBinding
  operation := prepared.operation
  authorization := authorization
  preparedReceiptArtifact := prepared.preparedReceiptArtifact
  brokerInstanceId := prepared.brokerInstanceId
  brokerPreparedAt := brokerPreparedAt
  preparedReceiptDigest := prepared.preparedReceiptDigest
  preparedAt := prepared.preparedAt
  brokerEpochActivationEventId := none
  startedEventId := none
  dispatchStartRequired := false

def expectedRepositoryAuthorization (receipt : RepositoryToolPreparedReceiptV1) :
    RepositoryToolAuthorizationDecision :=
  let bounds := receipt.authority.brokerBounds
  if bounds.maxCallsPerBroker < receipt.brokerCallSequence then
    .denied (.limitExceeded .brokerCalls receipt.brokerCallSequence bounds.maxCallsPerBroker)
  else if bounds.maxRequestBytes < receipt.canonicalParametersArtifact.sizeBytes then
    .denied (.limitExceeded .requestBytes receipt.canonicalParametersArtifact.sizeBytes
      bounds.maxRequestBytes)
  else .authorized

def validateChildToolPreparedDocument (preparedEventId : EventId)
    (prepared : ChildToolPrepared RepositoryToolAuthorizationDecision)
    (issued : ChildWorkOrderIssued) (attempt : ReplayedChildAttempt) :
    Except StoreError PendingChildTool := do
  let document ← validateChildActionBinding env prepared.binding prepared.actionBinding attempt
  let granted ← validateChildActionAgainstAuthority document.action
    issued.spec.repositoryAuthority
  let (grant, operation) ← expect .invalidStateEvent granted
  ensure (operation = prepared.operation ∧
    prepared.preparedReceiptArtifact.sizeBytes ≠ 0 ∧
    prepared.preparedReceiptArtifact.sizeBytes.toNat ≤ maxArtifactBytes ∧
    prepared.preparedReceiptArtifact.mediaType = repositoryToolPreparedReceiptMediaType ∧
    digestMatchesArtifact prepared.preparedReceiptDigest prepared.preparedReceiptArtifact = true)
    .invalidStateEvent
  let receipt ← readCanonicalJsonArtifact env.root env.wires.toolPrepared
    prepared.preparedReceiptArtifact repositoryToolPreparedReceiptMediaType
  ensure (preparedReceiptMatches childReconnaissanceContractVersion receipt prepared
      (receiptAuthority issued.spec.repositoryAuthority grant) = true ∧
    expectedRepositoryAuthorization receipt = receipt.authorization ∧
    receipt.canonicalParametersArtifact.sizeBytes ≠ 0 ∧
    receipt.canonicalParametersArtifact.sizeBytes.toNat ≤ maxArtifactBytes ∧
    receipt.canonicalParametersArtifact.mediaType =
      repositoryToolCanonicalParametersMediaType ∧
    digestMatchesArtifact receipt.canonicalParametersDigest
      receipt.canonicalParametersArtifact = true) .invalidStateEvent
  let parameters ← readCanonicalJsonArtifact env.root env.wires.toolParameters
    receipt.canonicalParametersArtifact repositoryToolCanonicalParametersMediaType
  let toolGrantId ← expect .invalidStateEvent document.action.toolGrantId
  ensure (parameters = expectedParameters childReconnaissanceContractVersion prepared toolGrantId)
    .invalidStateEvent
  return preparedToolCall preparedEventId prepared (.v1 prepared.authorization)
    receipt.brokerPreparedAt

def validateChildToolPreparedDocumentV2 (event : EventEnvelope)
    (prepared : ChildToolPrepared RepositoryToolAuthorizationDecisionV2)
    (issued : ChildWorkOrderIssued) (attempt : ReplayedChildAttempt) :
    Except StoreError PendingChildTool := do
  let document ← validateChildActionBinding env prepared.binding prepared.actionBinding attempt
  let granted ← validateChildActionAgainstAuthority document.action
    issued.spec.repositoryAuthority
  let (_, operation) ← expect .invalidStateEvent granted
  ensure (operation = prepared.operation ∧
    prepared.preparedReceiptArtifact.sizeBytes ≠ 0 ∧
    prepared.preparedReceiptArtifact.sizeBytes ≤ repositoryToolHardMaxTerminalReceiptBytes ∧
    prepared.preparedReceiptArtifact.mediaType = repositoryToolPreparedReceiptV2MediaType ∧
    digestMatchesArtifact prepared.preparedReceiptDigest prepared.preparedReceiptArtifact = true)
    .invalidStateEvent
  let receipt ← readCanonicalJsonArtifact env.root env.wires.toolPreparedV2
    prepared.preparedReceiptArtifact repositoryToolPreparedReceiptV2MediaType
  ensure (preparedReceiptMatches repositoryBrokerContractVersion receipt prepared
      (receiptAuthority issued.spec.repositoryAuthority
        issued.spec.repositoryAuthority.toolGrants) = true ∧
    receipt.canonicalParametersArtifact.sizeBytes ≠ 0 ∧
    receipt.canonicalParametersArtifact.sizeBytes ≤
      min receipt.authority.brokerBounds.maxRequestBytes repositoryToolHardMaxRequestBytes ∧
    receipt.canonicalParametersArtifact.mediaType =
      repositoryToolCanonicalParametersV2MediaType ∧
    digestMatchesArtifact receipt.canonicalParametersDigest
      receipt.canonicalParametersArtifact = true) .invalidStateEvent
  let (parameters, bytes) ← readCanonicalJsonArtifactWithBytes env.root env.wires.toolParameters
    receipt.canonicalParametersArtifact repositoryToolCanonicalParametersV2MediaType
  let toolGrantId ← expect .invalidStateEvent document.action.toolGrantId
  ensure (parameters = expectedParameters repositoryBrokerContractVersion prepared toolGrantId ∧
    env.authorize receipt.authority.brokerBounds receipt.authority.toolGrants parameters
      (UInt64.ofNat bytes.length) receipt.brokerCallSequence = receipt.authorization)
    .invalidStateEvent
  let runId ← expect .invalidStateEvent event.runId
  let epochEvent ← expect .invalidStateEvent <|
    latestBrokerEpochBefore log event.sessionId runId event.sequence
  let .repositoryBrokerEpochActivated epoch := epochEvent.payload | .error .invalidStateEvent
  ensure (epoch.state.activeBrokerInstanceId = prepared.brokerInstanceId ∧
    prepared.brokerInstanceId ∉ epoch.state.closedBrokerInstanceIds) .invalidStateEvent
  return preparedToolCall event.id prepared (.v2 prepared.authorization) receipt.brokerPreparedAt

/-- `validate_child_broker_sequence`: V1 calls of one attempt count one broker upwards. -/
def validateChildBrokerSequence (attempt : ReplayedChildAttempt)
    (prepared : ChildToolPrepared Decision) : Except StoreError Unit := do
  let expected ← expect .invalidStateEvent (checkedAdd attempt.lastBrokerCallSequence 1)
  ensure (prepared.brokerCallSequence = expected ∧
    attempt.repositoryBrokerInstanceId.all (· = prepared.brokerInstanceId) = true)
    .invalidStateEvent

/-- `validate_child_broker_sequence_v2`: a broker is the first of the attempt, the same as
before, or the successor of one whose reset an Unknown outcome authorised. -/
def validateChildBrokerSequenceV2 (attempt : ReplayedChildAttempt)
    (prepared : ChildToolPrepared Decision) (activeEpoch : RepositoryBrokerEpochState) :
    Except StoreError Unit := do
  ensure (activeEpoch.activeBrokerInstanceId = prepared.brokerInstanceId ∧
    prepared.brokerInstanceId ∉ activeEpoch.closedBrokerInstanceIds) .invalidStateEvent
  match attempt.repositoryBrokerInstanceId with
  | none =>
    ensure (prepared.brokerCallSequence ≠ 0 ∧ attempt.lastBrokerCallSequence = 0 ∧
      attempt.lastBrokerTerminalClock = none ∧ attempt.brokerResetAuthorizedFrom = none)
      .invalidStateEvent
  | some previous =>
    if previous = prepared.brokerInstanceId then
      ensure (attempt.lastBrokerCallSequence < prepared.brokerCallSequence ∧
        attempt.brokerResetAuthorizedFrom = none) .invalidStateEvent
    else
      ensure (prepared.brokerCallSequence ≠ 0 ∧
        attempt.brokerResetAuthorizedFrom = some previous ∧
        previous ∈ activeEpoch.closedBrokerInstanceIds ∧
        attempt.lastBrokerTerminalClock = none) .invalidStateEvent

end Prepared

end BirdCode.Store
