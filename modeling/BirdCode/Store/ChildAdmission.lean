import BirdCode.Store.RunAdmission

/-! What the store requires of a delegation and of a child's own events. -/
namespace BirdCode.Store

namespace EventPayload

/-- `reservation.max_output_tokens` of a child's model call, when the event prepares one. -/
def childModelReservation : EventPayload → Option TokenReservation
  | .childModelInferencePrepared prepared => some prepared.tokenReservation
  | .childModelInferencePreparedV2 prepared => some prepared.prepared.tokenReservation
  | _ => none

def preparedModelCallId : EventPayload → Option ChildModelCallId
  | .childModelInferencePrepared prepared => some prepared.modelCallId
  | .childModelInferencePreparedV2 prepared => some prepared.prepared.modelCallId
  | _ => none

/-- The broker call of a tool Prepared of either version, under its broker. -/
def brokerCall : EventPayload → Option (RepositoryBrokerInstanceId × UInt64)
  | .childToolPrepared prepared => some (prepared.brokerInstanceId, prepared.brokerCallSequence)
  | .childToolPreparedV2 prepared => some (prepared.brokerInstanceId, prepared.brokerCallSequence)
  | _ => none

/-- `is_child_terminal_reconciliation`. -/
def isChildTerminalReconciliation : EventPayload → Bool
  | .childModelInferenceObserved observed =>
    match observed.outcome with
    | .failed error => error.kind = .cancelled && error.cancellation.isSome
    | .succeeded .. => false
  | .childModelInferenceOutcomeUnknown unknown => unknown.cancellation.isSome
  | .childToolObserved _ | .childToolObservedV2 _ => true
  | .childToolOutcomeUnknown unknown => unknown.cancellation.isSome
  | .childToolOutcomeUnknownV2 unknown => unknown.cancellation.isSome
  | .childExecutionFinished finished =>
    match finished.outcome with
    | .cancelled _ => true
    | _ => false
  | _ => false

/-- The identities that must be new to the table, each with the events that carry it already. -/
def newIdentities : EventPayload → List (EventPayload → Bool)
  | .childExecutionStarted started =>
    [fun stored => match stored with
      | .childExecutionStarted held => held.localPlanId = started.localPlanId ||
          held.binding.attemptId = started.binding.attemptId
      | _ => false]
  | .childExecutionClaimAdopted adopted =>
    [fun stored => match stored with
      | .childExecutionClaimAdopted held => held.adoptionId = adopted.adoptionId
      | _ => false]
  | .childModelInferencePrepared prepared =>
    [fun stored => stored.preparedModelCallId = some prepared.modelCallId]
  | .childModelInferencePreparedV2 prepared =>
    [fun stored => stored.preparedModelCallId = some prepared.prepared.modelCallId]
  | .childToolPrepared prepared =>
    [fun stored => match stored with
      | .childToolPrepared held => held.toolCallId = prepared.toolCallId
      | _ => false]
  | .childToolPreparedV2 prepared =>
    [fun stored => match stored with
      | .childToolPreparedV2 held => held.toolCallId = prepared.toolCallId
      | _ => false]
  | .childHandoffCommitted handoff =>
    [fun stored => match stored with
      | .childHandoffCommitted held => held.handoffId = handoff.handoffId
      | _ => false]
  | _ => []

/-- A delegation of either version, or a work order, with one of the five identities. -/
def carriesIdentityOf (specOf : EventPayload → Option ChildWorkOrderSpec)
    (spec : ChildWorkOrderSpec) (stored : EventPayload) : Bool :=
  (specOf stored).any fun held =>
    held.workOrderId = spec.workOrderId || held.executionId = spec.executionId ||
    held.childActorId = spec.childActorId || held.childEventActorId = spec.childEventActorId ||
    held.contextId = spec.contextId

def issuedSpec (payload : EventPayload) : Option ChildWorkOrderSpec :=
  payload.issuedWorkOrder.map ChildWorkOrderIssued.spec

def delegatedSpecV1 : EventPayload → Option ChildWorkOrderSpec
  | .childDelegationAuthorized authorized => some authorized.spec
  | _ => none

/-- A V2 delegation also excludes the identities of V1 delegations. -/
def delegatedSpec (payload : EventPayload) : Option ChildWorkOrderSpec :=
  payload.delegation.map ChildDelegation.spec

/-- A delegation of the same work order of the same accepted plan. -/
def delegatesPlanWorkOrder (authorized : ChildDelegationAuthorized) : EventPayload → Bool
  | .childDelegationAuthorized held =>
    held.acceptedEventId = authorized.acceptedEventId &&
      held.plannerWorkOrderLocalId = authorized.plannerWorkOrderLocalId
  | _ => false

/-- A delegation of the same work order under the same directive. -/
def delegatesDirectiveWorkOrder (authorized : ChildDelegationAuthorizedV2) :
    EventPayload → Bool
  | .childDelegationAuthorizedV2 held =>
    held.acceptedEventId = authorized.acceptedEventId &&
      held.delegateDirectiveId = authorized.delegateDirectiveId &&
      held.plannerWorkOrder.workOrderId = authorized.plannerWorkOrder.workOrderId
  | _ => false

def carriesAuthorization (authorizationId : ChildDelegationAuthorizationId) :
    EventPayload → Bool
  | .childDelegationAuthorized authorized => authorized.authorizationId = authorizationId
  | _ => false

def carriesAuthorizationV2 (authorizationId : ChildDelegationAuthorizationId) :
    EventPayload → Bool
  | .childDelegationAuthorizedV2 authorized => authorized.authorizationId = authorizationId
  | _ => false

end EventPayload

variable (documents : PlanningDocuments) (env : Environment) (log : EventLog)

section Delegation

/-- `expected_run_deadline`. -/
def expectedRunDeadline (run : Run) : Except StoreError (Option DateTime) :=
  match run.spec.limits.maxWallTimeSeconds with
  | none => .ok none
  | some seconds => do
    ensure (seconds.toNat < 2 ^ 63) .invalidStateEvent
    return some (run.createdAt + seconds.toNat * 1000000000)

/-- What both versions require of the claim, the deadline, the digests and the documents. -/
def validateDelegationCommon (event : EventEnvelope) (authorized : ChildDelegation) :
    Except StoreError Run := do
  let runId ← plannerRunId event
  requireRunningRun log event runId
  let stored ← requireCurrentClaimOwner log event runId authorized.cancellationGeneration
  let run ← durableRunForEvent log event.sessionId runId
  let deadline ← expectedRunDeadline run
  ensure (event.actorId = authorized.issuerActorId ∧ event.provenance.backend = none ∧
    event.provenance.rawArtifact = some authorized.workOrderArtifact ∧
    claimRepeated stored authorized.claimEventId authorized.claimId authorized.claimGeneration
      authorized.claimRuntimeInstanceId authorized.cancellationGeneration ∧
    authorized.spec.childEventActorId ≠ authorized.issuerActorId ∧
    authorized.spec.runDeadline = deadline ∧
    (authorized.spec.runDeadline.all fun deadline => event.occurredAt ≤ deadline) = true ∧
    digestMatchesArtifact authorized.acceptedDigest authorized.acceptedArtifact = true ∧
    digestMatchesArtifact authorized.workOrderDigest authorized.workOrderArtifact = true ∧
    digestMatchesArtifact authorized.contextManifestDigest
      authorized.contextManifestArtifact = true) .invalidStateEvent
  validateChildModelContract env authorized.spec
  let persisted ← readCanonicalJsonArtifact env.root env.wires.workOrder
    authorized.workOrderArtifact childWorkOrderMediaType
  ensure (persisted = authorized.spec) .invalidStateEvent
  let context ← validateChildContextManifest env log event authorized.spec
    authorized.contextManifestArtifact (some authorized.acceptedEventId)
  ensure (([authorized.claimEventId, authorized.acceptedEventId,
    authorized.snapshotLeaseEventId].all fun required =>
      context.sources.any fun source => source.sourceEventId = required) = true)
    .invalidStateEvent
  ensure (run.spec.limits.maxSubagents ≠ 0) .invalidStateEvent
  return run

/-- The accepted plan has one work order of this name, with the objective of the child. -/
def validatePlanWorkOrder (event : EventEnvelope) (runId : RunId)
    (authorized : ChildDelegationAuthorized) : Except StoreError EventEnvelope := do
  let acceptedEvent ← storedEventForRun log event.sessionId runId authorized.acceptedEventId
  let .planSemanticReviewAccepted accepted := acceptedEvent.payload | .error .invalidStateEvent
  ensure (acceptedEvent.sequence < event.sequence ∧
    accepted.candidate.planArtifact = authorized.acceptedArtifact ∧
    accepted.candidate.planDigest = authorized.acceptedDigest) .invalidStateEvent
  let workOrders ← documents.rootPlan authorized.acceptedArtifact
  let matching := workOrders.filter fun workOrder =>
    workOrder.localId = authorized.plannerWorkOrderLocalId
  ensure (matching.map RootPlanWorkOrder.objective = [authorized.spec.objective])
    .invalidStateEvent
  return acceptedEvent

/-- `validate_child_delegation_authorized`. -/
def validateChildDelegationAuthorized (event : EventEnvelope)
    (authorized : ChildDelegationAuthorized) : Except StoreError Unit := do
  let run ← validateDelegationCommon env log event authorized.toChildDelegation
  ensure (event.causalParent = some authorized.acceptedEventId ∧
    authorized.spec.plannerWorkOrderLocalId = authorized.plannerWorkOrderLocalId)
    .invalidStateEvent
  let accepted ← validatePlanWorkOrder documents log event run.id authorized
  let leaseEvent ← storedEventForRun log event.sessionId run.id authorized.snapshotLeaseEventId
  let .repositorySnapshotLeaseIssued lease := leaseEvent.payload | .error .invalidStateEvent
  ensure (leaseEvent.sequence < accepted.sequence ∧
    ((runEvents log event.sessionId run.id).countP fun stored =>
      stored.payload.isReleaseOf authorized.snapshotLeaseEventId) = 0 ∧
    lease.snapshot = authorized.spec.repositoryAuthority.snapshot ∧
    lease.root = authorized.spec.repositoryAuthority.root ∧
    lease.claimEventId = authorized.claimEventId ∧ lease.claimId = authorized.claimId ∧
    lease.claimGeneration = authorized.claimGeneration ∧
    lease.claimRuntimeInstanceId = authorized.claimRuntimeInstanceId ∧
    lease.cancellationGeneration = authorized.cancellationGeneration) .invalidStateEvent
  ensure (((runEvents log event.sessionId run.id).countP fun stored =>
      stored.payload.delegatedSpecV1.isSome) < run.spec.limits.maxSubagents.toNat ∧
    ((runEvents log event.sessionId run.id).countP fun stored =>
      stored.payload.delegatesPlanWorkOrder authorized) = 0 ∧
    identityCount log (EventPayload.carriesAuthorization authorized.authorizationId) = 0 ∧
    identityCount log (EventPayload.carriesIdentityOf EventPayload.delegatedSpecV1
      authorized.spec) = 0) .invalidStateEvent

/-- `validate_child_planned_work_order_authority`. -/
def validateChildPlannedWorkOrderAuthority (binding : PlannerDelegatedWorkOrderBinding)
    (spec : ChildWorkOrderSpec) : Except StoreError Unit := do
  let planned ← documents.plannedWorkOrder binding.workOrderArtifact
  ensure (planned.id = binding.workOrderId ∧ planned.revision = binding.revision ∧
    planned.objective = spec.objective ∧ planned.requiredAccess = .readOnly ∧
    planned.state = .pending ∧ planned.dependencies = []) .invalidStateEvent

/-- The one directive of the accepted turn that delegates the work order. -/
def validateDelegateDirective (event : EventEnvelope) (runId : RunId)
    (authorized : ChildDelegationAuthorizedV2) : Except StoreError EventEnvelope := do
  let acceptedEvent ← storedEventForRun log event.sessionId runId authorized.acceptedEventId
  let accepted ← expect .invalidStateEvent acceptedEvent.payload.turnAccepted
  let .delegate delegations := accepted.resolvedDirective | .error .invalidStateEvent
  ensure (acceptedEvent.sequence < event.sequence ∧
    accepted.turnId = authorized.plannerTurnId ∧
    accepted.acceptedPromptOutputArtifact = authorized.acceptedArtifact ∧
    accepted.acceptedPromptOutputDigest = authorized.acceptedDigest) .invalidStateEvent
  let matching := delegations.filter fun delegation =>
    delegation.directiveId = authorized.delegateDirectiveId
  ensure (matching.length = 1 ∧ (matching.all fun delegation =>
    authorized.plannerWorkOrder ∈ delegation.workOrders) = true) .invalidStateEvent
  return acceptedEvent

/-- `validate_child_delegation_authorized_v2`. -/
def validateChildDelegationAuthorizedV2 (event : EventEnvelope)
    (authorized : ChildDelegationAuthorizedV2) : Except StoreError Unit := do
  let run ← validateDelegationCommon env log event authorized.toChildDelegation
  ensure (run.isParallelRecon = true ∧ authorized.spec.backendInstance.isSome = true ∧
    authorized.spec.plannerWorkOrderLocalId = authorized.plannerWorkOrder.workOrderId ∧
    digestMatchesArtifact authorized.plannerWorkOrder.workOrderDigest
      authorized.plannerWorkOrder.workOrderArtifact = true) .invalidStateEvent
  let accepted ← validateDelegateDirective log event run.id authorized
  validateChildPlannedWorkOrderAuthority documents authorized.plannerWorkOrder authorized.spec
  let leaseEvent ← storedEventForRun log event.sessionId run.id authorized.snapshotLeaseEventId
  let .repositorySnapshotLeaseIssued lease := leaseEvent.payload | .error .invalidStateEvent
  let .active _ activeLease ← replayRepositorySnapshotLifecycle env log run
    | .error .invalidStateEvent
  ensure (activeLease.id = leaseEvent.id ∧ accepted.sequence < leaseEvent.sequence ∧
    leaseEvent.sequence < event.sequence ∧ event.causalParent = some leaseEvent.id ∧
    lease.snapshot = authorized.spec.repositoryAuthority.snapshot ∧
    lease.root = authorized.spec.repositoryAuthority.root) .invalidStateEvent
  ensure (((runEvents log event.sessionId run.id).countP fun stored =>
      stored.payload.delegatedSpec.isSome) < run.spec.limits.maxSubagents.toNat ∧
    ((runEvents log event.sessionId run.id).countP fun stored =>
      stored.payload.delegatesDirectiveWorkOrder authorized) = 0 ∧
    identityCount log (EventPayload.carriesAuthorizationV2 authorized.authorizationId) = 0 ∧
    identityCount log (EventPayload.carriesIdentityOf EventPayload.delegatedSpec
      authorized.spec) = 0) .invalidStateEvent

end Delegation

section ChildEvents

variable (runId : RunId)

/-- The claim a child is bound to is the latest of the run, unexpired and uncancelled. -/
def requireLiveClaimForChild (event : EventEnvelope) (active : ActiveChildClaim) :
    Except StoreError Unit := do
  let claimEvent ← expect .invalidStateEvent (latestClaimForRun log event.sessionId runId)
  let stored ← readClaim claimEvent
  ensure (claimEvent.id = active.eventId ∧ stored.claim.claimId = active.claimId ∧
    stored.claim.claimGeneration = active.generation ∧
    stored.claim.runtimeInstanceId = active.runtimeInstanceId ∧
    event.occurredAt < stored.claim.leaseExpiresAt ∧
    stored.claim.cancellationGeneration = active.cancellationGeneration ∧
    latestCancellationGeneration log event.sessionId runId = active.cancellationGeneration)
    .invalidStateEvent

/-- `validate_new_child_work_order_identity`. -/
def validateNewChildWorkOrderIdentity (event : EventEnvelope) (run : Run)
    (issued : ChildWorkOrderIssued) : Except StoreError Unit := do
  ensure (run.spec.limits.maxSubagents ≠ 0 ∧
    (log.events.countP fun stored =>
      stored.runId = some run.id && stored.payload.issuedWorkOrder.isSome) <
        run.spec.limits.maxSubagents.toNat ∧
    identityCount log (EventPayload.carriesIdentityOf EventPayload.issuedSpec issued.spec) = 0)
    .invalidStateEvent
  let stored ← requireCurrentClaimOwner log event run.id issued.cancellationGeneration
  ensure (claimRepeated stored issued.authorizationClaimEventId issued.authorizationClaimId
    issued.authorizationClaimGeneration issued.authorizationRuntimeInstanceId
    issued.cancellationGeneration) .invalidStateEvent

/-- `ORDER BY sequence ASC` over the calls of a broker in the whole table. -/
def brokerCallEvents (kind : EventPayload → Bool)
    (brokerInstanceId : RepositoryBrokerInstanceId) : List EventEnvelope :=
  (log.events.filter fun stored => kind stored.payload &&
    stored.payload.brokerCall.any fun call => call.1 = brokerInstanceId).insertionSort
      fun a b => a.sequence ≤ b.sequence

/-- `validate_global_child_broker_scope_v2`: the calls of a broker count upwards over the whole
table, in the order of their sequences. -/
def validateGlobalChildBrokerScope (kind : EventPayload → Bool)
    (brokerInstanceId : RepositoryBrokerInstanceId) (sequence maxCalls : UInt64) :
    Except StoreError Unit := do
  let calls := (brokerCallEvents log kind brokerInstanceId).filterMap fun stored =>
    stored.payload.brokerCall.map Prod.snd
  ensure (calls.map UInt64.toNat = List.range' 1 calls.length ∧
    sequence.toNat = calls.length + 1 ∧ sequence ≤ maxCalls) .invalidStateEvent

/-- The V1 scope also binds a broker to one attempt. -/
def brokerScope (event : EventEnvelope) (issued : ChildWorkOrderIssued) :
    Except StoreError Unit :=
  let maxCalls := issued.spec.repositoryAuthority.brokerBounds.maxCallsPerBroker
  match event.payload with
  | .childToolPrepared prepared => do
    ensure ((log.events.all fun stored =>
      match stored.payload with
      | .childToolPrepared held => held.brokerInstanceId ≠ prepared.brokerInstanceId ||
          held.binding.attemptId = prepared.binding.attemptId
      | _ => true) = true) .invalidStateEvent
    validateGlobalChildBrokerScope log (fun stored => match stored with
      | .childToolPrepared _ => true
      | _ => false) prepared.brokerInstanceId prepared.brokerCallSequence maxCalls
  | .childToolPreparedV2 prepared =>
    validateGlobalChildBrokerScope log (fun _ => true) prepared.brokerInstanceId
      prepared.brokerCallSequence maxCalls
  | _ => .ok ()

/-- What every event but an adoption needs: the live claim, or after a cancellation that the
event reconciles the child's terminal. -/
def requireChildAuthority (event : EventEnvelope) (replay : ChildReplay) :
    Except StoreError Unit := do
  let cancellation := latestCancellationGeneration log event.sessionId runId
  if cancellation = replay.activeClaim.cancellationGeneration then
    requireLiveClaimForChild log runId event replay.activeClaim
  else
    ensure (replay.activeClaim.cancellationGeneration < cancellation ∧
      event.payload.isChildTerminalReconciliation = true) .invalidStateEvent

/-- The budgets of `validate_child_replay_admission`. -/
def validateChildReplayAdmission (loaded : LoadedChildReplay)
    (adoptionKind : Option ChildClaimAdoptionKind) : Except StoreError Unit :=
  ensure (loaded.eventCount < maxChildReplayEvents ∧
    (adoptionKind.isSome = true → loaded.adoptionCount <
      parallelReconnaissanceV1MaxClaimAdoptionsPerChild.toNat) ∧
    (adoptionKind = some .takeover → loaded.takeoverCount <
      parallelReconnaissanceV1MaxClaimTakeoversPerChild.toNat)) .invalidStateEvent

/-- A model call reserves output tokens within the limit of the run. -/
def validateModelReservation (event : EventEnvelope) (run : Run) : Except StoreError Unit :=
  match event.payload.childModelReservation with
  | some reservation =>
    ensure (fitsRunLimit log event.sessionId run reservation) .invalidStateEvent
  | none => .ok ()

/-- `validate_new_child_identity`. -/
def validateNewChildIdentity (payload : EventPayload) : Except StoreError Unit :=
  ensure ((payload.childModelReservation.all fun reservation =>
      modelTokenReservationIdentityCount log reservation.id = 0) = true ∧
    (payload.newIdentities.all fun carries => identityCount log carries = 0) = true)
    .invalidStateEvent

/-- A work order is issued once; every other event needs the child's replay. -/
def validateAgainstReplay (event : EventEnvelope) (run : Run) (replay : Option ChildReplay) :
    Except StoreError Unit :=
  match event.payload.issuedWorkOrder with
  | some issued => do
    ensure (replay.isNone = true) .invalidStateEvent
    validateNewChildWorkOrderIdentity log event run issued
  | none => do
    let replay ← expect .invalidStateEvent replay
    brokerScope log event replay.issued
    whenever (event.payload.adoptionKind.isNone = true)
      (requireChildAuthority log runId event replay)
    validateNewChildIdentity log event.payload

/-- `validate_child_reconnaissance_event`. -/
def validateChildReconnaissanceEvent (event : EventEnvelope) : Except StoreError Unit := do
  let runId ← plannerRunId event
  requireRunningRun log event runId
  let workOrderId ← expect .invalidStateEvent event.payload.childWorkOrderId
  let run ← durableRunForEvent log event.sessionId runId
  validateModelReservation log event run
  let loaded ← loadChildReplay env log runId workOrderId
  validateChildReplayAdmission loaded event.payload.adoptionKind
  validateAgainstReplay log runId event run loaded.replay
  let _ ← replayChildEvent env log loaded.replay event

end ChildEvents

end BirdCode.Store
