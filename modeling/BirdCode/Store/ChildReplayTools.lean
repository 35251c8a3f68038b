import BirdCode.Store.ChildReplay

/-! The tool, handoff and terminal events of the fold, the dispatch over all kinds and the
recovery state of the latest attempt. -/
namespace BirdCode.Store

variable (env : Environment) (log : EventLog)

section Prepared

variable {Decision : Type}

/-- What a tool Prepared of either version requires of the attempt: nothing is in flight and the
model's proposal is still to be carried out. -/
def validateToolPreparable (replay : ChildReplay) (attempt : ReplayedChildAttempt)
    (event : EventEnvelope) (prepared : ChildToolPrepared Decision) : Except StoreError Unit := do
  ensure (replay.childToolCallSeen prepared.toolCallId = false) .invalidStateEvent
  ensure (bindingMatchesOrder prepared.binding replay.issued ∧
    prepared.preparedAt.runtimeInstanceId = replay.activeClaim.runtimeInstanceId ∧
    withinDeadline replay.issued.spec event prepared.preparedAt = true) .invalidStateEvent
  requireChildEventProvenance event replay.issued (some prepared.preparedReceiptArtifact)
  let ordinal ← expect .invalidStateEvent (checkedSucc32 attempt.projection.completedToolCalls)
  ensure (prepared.binding.attemptId = attempt.projection.attemptId ∧
    attempt.projection.outcome.isNone = true ∧ attempt.pendingModel.isNone = true ∧
    attempt.pendingTool.isNone = true ∧ attempt.projection.handoffEventId.isNone = true ∧
    attempt.modelTurnRequired = false ∧ attempt.requiredModelTerminalRetry.isNone = true ∧
    event.causalParent = some attempt.tailEventId ∧
    prepared.toolOrdinal = ordinal ∧
    prepared.toolOrdinal ≤ replay.issued.spec.maxToolCallsPerAttempt ∧
    childAttemptClockAccepts attempt prepared.preparedAt = true) .invalidStateEvent

/-- The broker's clock does not run backwards between two calls of one attempt. -/
def brokerClockAdvances (attempt : ReplayedChildAttempt) (pending : PendingChildTool) : Bool :=
  attempt.lastBrokerTerminalClock.all fun last =>
    last.brokerInstanceId = pending.brokerPreparedAt.brokerInstanceId &&
      last.monotonicNanos ≤ pending.brokerPreparedAt.monotonicNanos

/-- The attempt with the tool call in flight. -/
def ReplayedChildAttempt.prepareTool (attempt : ReplayedChildAttempt) (eventId : EventId)
    (prepared : ChildToolPrepared Decision) (pending : PendingChildTool)
    (brokerResetAuthorizedFrom : Option RepositoryBrokerInstanceId) : ReplayedChildAttempt :=
  { attempt with
    repositoryBrokerInstanceId := some prepared.brokerInstanceId
    lastBrokerCallSequence := prepared.brokerCallSequence
    brokerResetAuthorizedFrom
    projection := { attempt.projection with
      repositoryBrokerInstanceId := some prepared.brokerInstanceId
      lastBrokerCallSequence := prepared.brokerCallSequence }
    pendingTool := some pending
    tailEventId := eventId
    tailClock := prepared.preparedAt }

def replayToolPrepared (replay : ChildReplay) (event : EventEnvelope)
    (prepared : ChildToolPrepared RepositoryToolAuthorizationDecision) :
    Except StoreError ChildReplay := do
  let attempt ← expect .invalidStateEvent replay.last
  validateToolPreparable replay attempt event prepared
  validateChildBrokerSequence attempt prepared
  let pending ← validateChildToolPreparedDocument env event.id prepared replay.issued attempt
  ensure (brokerClockAdvances attempt pending = true) .invalidStateEvent
  return replay.setLast
    (attempt.prepareTool event.id prepared pending attempt.brokerResetAuthorizedFrom)

/-- `replay_child_tool_prepared_v2`. -/
def replayToolPreparedV2 (replay : ChildReplay) (event : EventEnvelope)
    (prepared : ChildToolPrepared RepositoryToolAuthorizationDecisionV2) :
    Except StoreError ChildReplay := do
  let attempt ← expect .invalidStateEvent replay.last
  validateToolPreparable replay attempt event prepared
  let pending ← validateChildToolPreparedDocumentV2 env log event prepared replay.issued attempt
  let runId ← expect .invalidStateEvent event.runId
  let epochEvent ← expect .invalidStateEvent <|
    latestBrokerEpochBefore log event.sessionId runId event.sequence
  let .repositoryBrokerEpochActivated epoch := epochEvent.payload | .error .invalidStateEvent
  let pending := { pending with
    dispatchStartRequired :=
      event.provenance.producer = childRepositoryToolPreparationProducer
    brokerEpochActivationEventId := some epochEvent.id }
  validateChildBrokerSequenceV2 attempt prepared epoch.state
  ensure (brokerClockAdvances attempt pending = true) .invalidStateEvent
  return replay.setLast (attempt.prepareTool event.id prepared pending none)

end Prepared

section DispatchStarted

/-- A store-owned call starts under the claim and the broker epoch it was prepared in, while both
are current. -/
def replayToolDispatchStartedV2 (replay : ChildReplay) (event : EventEnvelope)
    (started : ChildToolDispatchStartedV2) : Except StoreError ChildReplay := do
  ensure (bindingMatchesOrder started.binding replay.issued ∧
    event.provenance.producer = childToolDispatchStartProducer ∧
    started.runtimeInstanceId = replay.activeClaim.runtimeInstanceId ∧
    started.startedAt.runtimeInstanceId = started.runtimeInstanceId ∧
    started.startedAt.observedAt ≤ event.occurredAt ∧
    withinDeadline replay.issued.spec event started.startedAt = true) .invalidStateEvent
  requireChildEventProvenance event replay.issued none
  let runId ← expect .invalidStateEvent event.runId
  let claimEvent ← expect .invalidStateEvent <|
    latestClaimForRunBefore log event.sessionId runId event.sequence
  let .runClaimed claim := claimEvent.payload | .error .invalidStateEvent
  let epochEvent ← expect .invalidStateEvent <|
    latestBrokerEpochBefore log event.sessionId runId event.sequence
  let .repositoryBrokerEpochActivated epoch := epochEvent.payload | .error .invalidStateEvent
  let attempt ← expect .invalidStateEvent replay.last
  let pending ← expect .invalidStateEvent attempt.pendingTool
  ensure (started.binding.attemptId = attempt.projection.attemptId ∧
    attempt.projection.outcome.isNone = true ∧ attempt.pendingEffectRequiresUnknown = false ∧
    pending.dispatchStartRequired = true ∧ pending.startedEventId.isNone = true ∧
    event.causalParent = some attempt.tailEventId ∧
    started.toolCallId = pending.toolCallId ∧
    started.preparedEventId = pending.preparedEventId ∧
    started.actionBinding = pending.actionBinding ∧
    started.preparedReceiptDigest = pending.preparedReceiptDigest ∧
    started.claimEventId = replay.activeClaim.eventId ∧
    started.claimId = replay.activeClaim.claimId ∧
    started.claimGeneration = replay.activeClaim.generation ∧
    started.cancellationGeneration = replay.activeClaim.cancellationGeneration ∧
    claimEvent.id = started.claimEventId ∧ claim.claimId = started.claimId ∧
    claim.claimGeneration = started.claimGeneration ∧
    claim.runtimeInstanceId = started.runtimeInstanceId ∧
    claim.cancellationGeneration = started.cancellationGeneration ∧
    event.occurredAt < claim.leaseExpiresAt ∧
    started.startedAt.observedAt < claim.leaseExpiresAt ∧
    latestCancellationGenerationBefore log event.sessionId runId event.sequence =
      started.cancellationGeneration ∧
    pending.brokerEpochActivationEventId = some started.brokerEpochActivationEventId ∧
    epochEvent.id = started.brokerEpochActivationEventId ∧
    epoch.state.activeBrokerInstanceId = started.brokerInstanceId ∧
    pending.brokerInstanceId = started.brokerInstanceId ∧
    started.brokerInstanceId ∉ epoch.state.closedBrokerInstanceIds ∧
    epoch.activatedAt.runtimeInstanceId = started.runtimeInstanceId ∧
    childAttemptClockAccepts attempt started.startedAt = true) .invalidStateEvent
  return replay.setLast { attempt with
    pendingTool := some { pending with startedEventId := some event.id }
    tailEventId := event.id
    tailClock := started.startedAt }

end DispatchStarted

section ToolTerminal

/-- What a terminal of a tool call does to the attempt, whatever its outcome; the call it records
as completed is the one the terminal names. -/
def ReplayedChildAttempt.closeTool (attempt : ReplayedChildAttempt)
    (context : ChildPreviousToolContext) (toolCallId : ChildToolCallId) (completed : UInt32)
    (eventId : EventId) (clock : RuntimeClockReading) : ReplayedChildAttempt :=
  { attempt with
    projection := { attempt.projection with completedToolCalls := completed }
    pendingTool := none
    pendingEffectRequiresUnknown := false
    latestEffectEventId := some eventId
    completedToolCallIds := attempt.completedToolCallIds.insert toolCallId
    modelVisibleToolTranscript := attempt.modelVisibleToolTranscript ++ [context]
    previousToolContext := some context
    lastSuccessfulModel := none
    tailEventId := eventId
    tailClock := clock
    modelTurnRequired := true }

/-- The result of an observed call, when it has one, and its failure, when it failed. -/
def ReplayedChildAttempt.observeTool (attempt : ReplayedChildAttempt)
    (brokerTerminalClock : RepositoryBrokerClock) (toolCallId : ChildToolCallId)
    (eventId : EventId) (resultArtifact : Option ArtifactRef) (succeeded : Bool) :
    ReplayedChildAttempt :=
  { attempt with
    lastBrokerTerminalClock := some brokerTerminalClock
    observedResults := match resultArtifact with
      | some artifact => attempt.observedResults.insert toolCallId (eventId, artifact)
      | none => attempt.observedResults
    toolFailureTerminal := if succeeded then none else some (eventId, toolCallId) }

def ChildToolObservation.isSucceeded : ChildToolObservation → Bool
  | .succeeded _ => true
  | _ => false

def RepositoryToolObservedTerminalV2.isSucceeded : RepositoryToolObservedTerminalV2 → Bool
  | .succeeded _ => true
  | _ => false

def observedContext {Outcome : Type} (eventId : EventId) (observed : ChildToolObserved Outcome) :
    ChildPreviousToolContext :=
  .observed observed.toolCallId eventId observed.terminalReceiptArtifact
    observed.terminalReceiptDigest

def unknownContext (eventId : EventId) (unknown : ChildToolOutcomeUnknown) :
    ChildPreviousToolContext :=
  .unknown unknown.toolCallId eventId unknown.terminalReceiptArtifact
    unknown.terminalReceiptDigest

def replayToolObserved (replay : ChildReplay) (event : EventEnvelope)
    (observed : ChildToolObserved ChildToolObservation) : Except StoreError ChildReplay := do
  ensure (bindingMatchesOrder observed.binding replay.issued ∧
    observed.finishedAt.runtimeInstanceId = replay.activeClaim.runtimeInstanceId)
    .invalidStateEvent
  requireChildEventProvenance event replay.issued (some observed.terminalReceiptArtifact)
  let attempt ← expect .invalidStateEvent replay.last
  let pending ← expect .invalidStateEvent attempt.pendingTool
  ensure (observed.binding.attemptId = attempt.projection.attemptId ∧
    attempt.projection.outcome.isNone = true ∧ attempt.pendingEffectRequiresUnknown = false ∧
    event.causalParent = some attempt.tailEventId) .invalidStateEvent
  let (resultArtifact, brokerTerminalClock) ← validateChildToolObservedDocument env observed
    pending replay.issued.spec.repositoryAuthority
  let completed ← expect .invalidStateEvent (checkedSucc32 attempt.projection.completedToolCalls)
  return replay.setLast
    ((attempt.observeTool brokerTerminalClock observed.toolCallId event.id resultArtifact
      observed.outcome.isSucceeded).closeTool (observedContext event.id observed)
      observed.toolCallId completed event.id observed.finishedAt)

/-- A store-owned call is observed after its start, and by the store's own clock. -/
def storeClockValid (attempt : ReplayedChildAttempt) (pending : PendingChildTool)
    (event : EventEnvelope) (finishedAt : RuntimeClockReading) : Bool :=
  !pending.dispatchStartRequired ||
    (event.provenance.producer = childToolObservedProducer &&
      finishedAt.observedAt ≤ event.occurredAt && childAttemptClockAccepts attempt finishedAt)

/-- `replay_child_tool_observed_v2`. -/
def replayToolObservedV2 (replay : ChildReplay) (event : EventEnvelope)
    (observed : ChildToolObserved RepositoryToolObservedTerminalV2) :
    Except StoreError ChildReplay := do
  ensure (bindingMatchesOrder observed.binding replay.issued ∧
    observed.finishedAt.runtimeInstanceId = replay.activeClaim.runtimeInstanceId)
    .invalidStateEvent
  requireChildEventProvenance event replay.issued (some observed.terminalReceiptArtifact)
  let attempt ← expect .invalidStateEvent replay.last
  let pending ← expect .invalidStateEvent attempt.pendingTool
  let expectedParent ← expect .invalidStateEvent <|
    if pending.dispatchStartRequired then pending.startedEventId else some attempt.tailEventId
  ensure (observed.binding.attemptId = attempt.projection.attemptId ∧
    attempt.projection.outcome.isNone = true ∧ attempt.pendingEffectRequiresUnknown = false ∧
    observed.toolCallId = pending.toolCallId ∧
    event.causalParent = some expectedParent ∧
    storeClockValid attempt pending event observed.finishedAt = true) .invalidStateEvent
  let (resultArtifact, brokerTerminalClock) ← validateChildToolObservedDocumentV2 env observed
    pending replay.issued.spec.repositoryAuthority
  let completed ← expect .invalidStateEvent (checkedSucc32 attempt.projection.completedToolCalls)
  return replay.setLast
    ((attempt.observeTool brokerTerminalClock observed.toolCallId event.id resultArtifact
      observed.outcome.isSucceeded).closeTool (observedContext event.id observed)
      observed.toolCallId completed event.id observed.finishedAt)

/-- The shared requirements of both unknown terminals of a tool call. -/
def pendingUnknownTool (replay : ChildReplay) (event : EventEnvelope)
    (unknown : ChildToolOutcomeUnknown) :
    Except StoreError (ReplayedChildAttempt × PendingChildTool) := do
  ensure (bindingMatchesOrder unknown.binding replay.issued ∧
    unknown.boundaryAt.runtimeInstanceId = replay.activeClaim.runtimeInstanceId)
    .invalidStateEvent
  validateOptionalCancellation log event unknown.cancellation
  requireChildEventProvenance event replay.issued (some unknown.terminalReceiptArtifact)
  let attempt ← expect .invalidStateEvent replay.last
  let pending ← expect .invalidStateEvent attempt.pendingTool
  ensure (unknown.binding.attemptId = attempt.projection.attemptId ∧
    attempt.projection.outcome.isNone = true ∧
    event.causalParent = some attempt.tailEventId) .invalidStateEvent
  return (attempt, pending)

/-- What an unknown outcome leaves: no result, a failure, and an open broker clock. -/
def ReplayedChildAttempt.unknownTool (attempt : ReplayedChildAttempt)
    (brokerTerminalClock : Option RepositoryBrokerClock) (becameIncomparable : Bool)
    (toolCallId : ChildToolCallId) (eventId : EventId) : ReplayedChildAttempt :=
  { attempt.crossBoundary becameIncomparable with
    lastBrokerTerminalClock := brokerTerminalClock
    toolFailureTerminal := some (eventId, toolCallId) }

def replayToolUnknown (replay : ChildReplay) (event : EventEnvelope)
    (unknown : ChildToolOutcomeUnknown) : Except StoreError ChildReplay := do
  let (attempt, pending) ← pendingUnknownTool log replay event unknown
  let (becameIncomparable, brokerTerminalClock) ← validateChildToolUnknownDocument env unknown
    pending replay.issued.spec.repositoryAuthority
  let completed ← expect .invalidStateEvent (checkedSucc32 attempt.projection.completedToolCalls)
  return replay.setLast
    ((attempt.unknownTool (some brokerTerminalClock) becameIncomparable unknown.toolCallId
      event.id).closeTool (unknownContext event.id unknown) unknown.toolCallId completed event.id
      unknown.boundaryAt)

/-- `replay_child_tool_unknown_v2`: a reconciled broker may be replaced by its successor. -/
def replayToolUnknownV2 (replay : ChildReplay) (event : EventEnvelope)
    (unknown : ChildToolOutcomeUnknownV2) : Except StoreError ChildReplay := do
  let (attempt, pending) ← pendingUnknownTool log replay event unknown.toChildToolOutcomeUnknown
  let (becameIncomparable, brokerTerminalClock) ←
    validateChildToolUnknownDocumentV2 env log event unknown pending
  let completed ← expect .invalidStateEvent (checkedSucc32 attempt.projection.completedToolCalls)
  let reset := if becameIncomparable then some pending.brokerInstanceId
    else attempt.brokerResetAuthorizedFrom
  return replay.setLast
    (({ attempt with brokerResetAuthorizedFrom := reset }.unknownTool brokerTerminalClock
      becameIncomparable unknown.toolCallId event.id).closeTool
      (unknownContext event.id unknown.toChildToolOutcomeUnknown) unknown.toolCallId completed
      event.id unknown.boundaryAt)

end ToolTerminal

section Closing

def replayHandoffCommitted (replay : ChildReplay) (event : EventEnvelope)
    (handoff : ChildHandoffCommitted) : Except StoreError ChildReplay := do
  ensure (bindingMatchesOrder handoff.binding replay.issued) .invalidStateEvent
  requireChildEventProvenance event replay.issued (some handoff.handoffArtifact)
  let attempt ← expect .invalidStateEvent replay.last
  ensure (handoff.binding.attemptId = attempt.projection.attemptId ∧
    attempt.projection.outcome.isNone = true ∧ attempt.pendingModel.isNone = true ∧
    attempt.pendingTool.isNone = true ∧ attempt.projection.handoffEventId.isNone = true ∧
    attempt.modelTurnRequired = false ∧ attempt.requiredModelTerminalRetry.isNone = true ∧
    event.causalParent = some attempt.tailEventId) .invalidStateEvent
  let status ← validateChildHandoffDocument env handoff attempt
  return replay.setLast { attempt with
    projection := { attempt.projection with handoffEventId := some event.id }
    handoffStatus := some status
    lastSuccessfulModel := none
    tailEventId := event.id }

def replayExecutionFinished (replay : ChildReplay) (event : EventEnvelope)
    (finished : ChildExecutionFinished) : Except StoreError ChildReplay := do
  ensure (bindingMatchesOrder finished.binding replay.issued) .invalidStateEvent
  let attempt ← expect .invalidStateEvent replay.last
  ensure (finished.binding.attemptId = attempt.projection.attemptId ∧
    attempt.projection.outcome.isNone = true ∧ attempt.pendingModel.isNone = true ∧
    attempt.pendingTool.isNone = true ∧ event.causalParent = some attempt.tailEventId ∧
    finished.completedModelCalls = attempt.projection.completedModelCalls ∧
    finished.completedToolCalls = attempt.projection.completedToolCalls ∧
    finished.handoffEventId = attempt.projection.handoffEventId ∧
    finished.finishedAt.runtimeInstanceId = replay.activeClaim.runtimeInstanceId ∧
    childAttemptClockAccepts attempt finished.finishedAt = true) .invalidStateEvent
  validateChildExecutionTerminalOutcome env log event replay.issued attempt finished
  return replay.setLast { attempt with
    projection := { attempt.projection with
      terminalEventId := some event.id
      finishedAt := some finished.finishedAt
      outcome := some finished.outcome }
    tailEventId := event.id
    tailClock := finished.finishedAt }

end Closing

section Dispatch

/-- Every event but the issue needs an issued work order. -/
def replayIssuedChildEvent (replay : ChildReplay) (event : EventEnvelope) :
    Except StoreError ChildReplay :=
  match event.payload with
  | .childExecutionClaimAdopted adopted => replayClaimAdopted log replay event adopted
  | .childExecutionStarted started => replayExecutionStarted replay event started
  | .childModelInferencePrepared prepared => replayModelPrepared env log replay event prepared
  | .childModelInferencePreparedV2 prepared =>
    replayModelPreparedV2 env log replay event prepared
  | .childModelInferenceObserved observed => replayModelObserved env log replay event observed
  | .childModelInferenceOutcomeUnknown unknown => replayModelUnknown env log replay event unknown
  | .childToolPrepared prepared => replayToolPrepared env replay event prepared
  | .childToolPreparedV2 prepared => replayToolPreparedV2 env log replay event prepared
  | .childToolDispatchStartedV2 started => replayToolDispatchStartedV2 log replay event started
  | .childToolObserved observed => replayToolObserved env replay event observed
  | .childToolObservedV2 observed => replayToolObservedV2 env replay event observed
  | .childToolOutcomeUnknown unknown => replayToolUnknown env log replay event unknown
  | .childToolOutcomeUnknownV2 unknown => replayToolUnknownV2 env log replay event unknown
  | .childHandoffCommitted handoff => replayHandoffCommitted env replay event handoff
  | .childExecutionFinished finished => replayExecutionFinished env log replay event finished
  | _ => .error .invalidStateEvent

/-- `replay_child_event`. -/
def replayChildEvent (replay : Option ChildReplay) (event : EventEnvelope) :
    Except StoreError (Option ChildReplay) :=
  match event.payload with
  | .childWorkOrderIssued issued => do
    ensure (replay.isNone = true) .invalidStateEvent
    let replay ← replayWorkOrderIssued env log event issued
    return some replay
  | _ => do
    let replay ← expect .invalidStateEvent replay
    let replay ← replayIssuedChildEvent env log replay event
    return some replay

/-- The loop of `load_child_replay` over a history. -/
def replayChildHistory (history : List EventEnvelope) : Except StoreError (Option ChildReplay) :=
  history.foldlM (replayChildEvent env log) none

end Dispatch

section Recovery

inductive ChildPendingEffectProjection
  | model (preparedEvent : EventEnvelope)
  | tool (preparedEvent : EventEnvelope) (startedEvent : Option EventEnvelope)

inductive ChildRecoveryState
  | awaitingAttempt | readyForModel | readyForTool | readyForHandoff | readyToFinishAttempt
  | pendingEffect (effect : ChildPendingEffectProjection)
  | retryable (terminalEvent : EventEnvelope) (outcome : ChildExecutionOutcome)
  | terminal (terminalEvent : EventEnvelope) (outcome : ChildExecutionOutcome)

variable (sessionId : SessionId) (runId : RunId)

/-- The model call a Prepared event of either version prepared, in which attempt. -/
def EventPayload.preparedModel : EventPayload → Option (ChildAttemptId × ChildModelCallId)
  | .childModelInferencePrepared prepared =>
    some (prepared.binding.attemptId, prepared.modelCallId)
  | .childModelInferencePreparedV2 prepared =>
    some (prepared.prepared.binding.attemptId, prepared.prepared.modelCallId)
  | _ => none

/-- The tool call a Prepared event of either version prepared, in which attempt. -/
def EventPayload.preparedTool : EventPayload → Option (ChildAttemptId × ChildToolCallId)
  | .childToolPrepared prepared => some (prepared.binding.attemptId, prepared.toolCallId)
  | .childToolPreparedV2 prepared => some (prepared.binding.attemptId, prepared.toolCallId)
  | _ => none

def pendingToolRecoveryState (attempt : ReplayedChildAttempt) (pending : PendingChildTool) :
    Except StoreError ChildRecoveryState := do
  let preparedEvent ← storedEventForRun log sessionId runId pending.preparedEventId
  ensure (preparedEvent.payload.preparedTool =
    some (attempt.projection.attemptId, pending.toolCallId)) .invalidStateEvent
  match pending.startedEventId with
  | none => return .pendingEffect (.tool preparedEvent none)
  | some startedEventId => do
    let startedEvent ← storedEventForRun log sessionId runId startedEventId
    let .childToolDispatchStartedV2 started := startedEvent.payload | .error .invalidStateEvent
    ensure (started.binding.attemptId = attempt.projection.attemptId ∧
      started.toolCallId = pending.toolCallId ∧
      started.preparedEventId = pending.preparedEventId) .invalidStateEvent
    return .pendingEffect (.tool preparedEvent (some startedEvent))

/-- `child_recovery_state`. -/
def childRecoveryState (attempt : ReplayedChildAttempt) (terminalEvent : Option EventEnvelope)
    (retryCapacity : Bool) : Except StoreError ChildRecoveryState :=
  match attempt.projection.outcome with
  | some outcome => do
    let terminalEvent ← expect .invalidStateEvent terminalEvent
    let .childExecutionFinished finished := terminalEvent.payload | .error .invalidStateEvent
    ensure (finished.binding.attemptId = attempt.projection.attemptId ∧
      finished.outcome = outcome) .invalidStateEvent
    if retryCapacity && outcome.requiresNewAttempt then return .retryable terminalEvent outcome
    else return .terminal terminalEvent outcome
  | none => do
    ensure (terminalEvent.isNone = true) .invalidStateEvent
    match attempt.pendingModel with
    | some pending => do
      let event ← storedEventForRun log sessionId runId pending.preparedEventId
      ensure (event.payload.preparedModel =
        some (attempt.projection.attemptId, pending.modelCallId) ∧
        attempt.pendingTool.isNone = true) .invalidStateEvent
      return .pendingEffect (.model event)
    | none =>
      match attempt.pendingTool with
      | some pending => pendingToolRecoveryState log sessionId runId attempt pending
      | none =>
        if attempt.projection.handoffEventId.isSome || attempt.requiredModelTerminalRetry.isSome
        then .ok .readyToFinishAttempt
        else if attempt.modelTurnRequired then .ok .readyForModel
        else do
          let successful ← expect .invalidStateEvent attempt.lastSuccessfulModel
          if successful.proposedAction.toolOperation.isSome then return .readyForTool
          else if successful.proposedAction.isFinish then return .readyForHandoff
          else .error .invalidStateEvent

/-- The recovery state that `into_projection` reports: of the latest attempt, with the terminal
event it names. -/
def ChildReplay.recovery (replay : ChildReplay) : Except StoreError ChildRecoveryState :=
  match replay.last with
  | none => .ok .awaitingAttempt
  | some attempt => do
    let terminalEvent ← attempt.projection.terminalEventId.mapM fun eventId =>
      storedEventForRun log sessionId runId eventId
    childRecoveryState log sessionId runId attempt terminalEvent
      (replay.attempts.length < replay.issued.spec.maxAttempts.toNat)

end Recovery

end BirdCode.Store
