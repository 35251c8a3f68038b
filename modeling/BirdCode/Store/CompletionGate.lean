import BirdCode.Store.ChildProjection
import BirdCode.Store.PlannerTurns
import BirdCode.Store.SnapshotAdmission

/-! The gate between a planner turn that finishes and the completion of its run: the two children
it delegated, the overlap of their executions, what the turn claims of them and the snapshot they
read, all read back from the log. -/
namespace BirdCode.Store

def reconCompletionGateContractVersion : UInt32 := 1
def reconCompletionGateReceiptMaxBytes : UInt64 := 4 * 1024 * 1024
def reconCompletionGateReceiptMediaType :=
  "application/vnd.birdcode.recon-completion-gate-receipt.v1+json"
def reconCompletionGateProducer := "birdcode-store-recon-completion-gate-v1"
def parallelReconCompletionPostReleaseMaxClaimTransitions : ℕ := 256

/-- `MAX_SQLITE_INTEGER_U64`. -/
def maxSqliteInteger : ℕ := 2 ^ 63 - 1

namespace EventPayload

def executionStarted : EventPayload → Option ChildExecutionStarted
  | .childExecutionStarted started => some started
  | _ => none

def executionFinished : EventPayload → Option ChildExecutionFinished
  | .childExecutionFinished finished => some finished
  | _ => none

def handoffCommitted : EventPayload → Option ChildHandoffCommitted
  | .childHandoffCommitted handoff => some handoff
  | _ => none

def delegationV2 : EventPayload → Option ChildDelegationAuthorizedV2
  | .childDelegationAuthorizedV2 authorized => some authorized
  | _ => none

def turnObserved : EventPayload → Option PlannerTurnObserved
  | .plannerTurnObserved observed => some observed
  | _ => none

def leaseIssued : EventPayload → Option RepositorySnapshotLeaseIssued
  | .repositorySnapshotLeaseIssued issued => some issued
  | _ => none

def leaseReleased : EventPayload → Option RepositorySnapshotLeaseReleased
  | .repositorySnapshotLeaseReleased released => some released
  | _ => none

def isTurnDecision : EventPayload → Bool
  | .plannerTurnAccepted _ | .plannerTurnRejected _ => true
  | _ => false

def isGateAccepted : EventPayload → Bool
  | .reconCompletionGateAccepted _ => true
  | _ => false

def carriesGate (gateId : ReconCompletionGateId) : EventPayload → Bool
  | .reconCompletionGateAccepted gate => gate.gateId = gateId
  | _ => false

end EventPayload

variable (documents : PlanningDocuments) (env : Environment) (log : EventLog)

section Children

structure ReconCompletionChildMaterial where
  projection : ChildWorkOrderProjection
  issuedEvent : EventEnvelope
  authorizationEvent : EventEnvelope
  authorization : ChildDelegationAuthorizedV2
  terminalEvent : EventEnvelope
  terminal : ReconCompletionChildTerminalBinding

variable (sessionId : SessionId) (runId : RunId)

/-- The last attempt of a work order, from its started event to its terminal. -/
structure FinishedAttempt where
  attempt : ChildAttemptProjection
  terminalEvent : EventEnvelope
  terminal : ReconCompletionChildTerminalBinding

/-- What the events of the last attempt must say of each other. -/
def finishedAttempt (projection : ChildWorkOrderProjection) :
    Except StoreError FinishedAttempt := do
  let attempt ← expect .invalidStateEvent projection.attempts.head?
  let terminalEventId ← expect .invalidStateEvent attempt.terminalEventId
  let finishedAt ← expect .invalidStateEvent attempt.finishedAt
  let outcome ← expect .invalidStateEvent attempt.outcome
  let startedEvent ← storedEventForRun log sessionId runId attempt.startedEventId
  let terminalEvent ← storedEventForRun log sessionId runId terminalEventId
  let started ← expect .invalidStateEvent startedEvent.payload.executionStarted
  let finished ← expect .invalidStateEvent terminalEvent.payload.executionFinished
  let handoffEventId ← expect .invalidStateEvent finished.handoffEventId
  let handoffEvent ← storedEventForRun log sessionId runId handoffEventId
  let handoff ← expect .invalidStateEvent handoffEvent.payload.handoffCommitted
  ensure (startedEvent.sequence < terminalEvent.sequence ∧
    startedEvent.sequence < handoffEvent.sequence ∧
    handoffEvent.sequence < terminalEvent.sequence ∧
    started.binding = finished.binding ∧ handoff.binding = finished.binding ∧
    started.binding.workOrderId = projection.spec.workOrderId ∧
    started.binding.executionId = projection.spec.executionId ∧
    started.binding.attemptId = attempt.attemptId ∧ started.startedAt = attempt.startedAt ∧
    finished.finishedAt = finishedAt ∧ finished.outcome = outcome ∧
    finished.outcome.isSucceeded = true ∧ attempt.handoffEventId = some handoffEventId ∧
    attempt.monotonicClockContiguous = true) .invalidStateEvent
  return ⟨attempt, terminalEvent, finished.binding, startedEvent.id, terminalEventId,
    started.startedAt, finishedAt, outcome⟩

/-- One child of `recon_completion_children`. -/
def reconCompletionChild (issuedEvent : EventEnvelope) :
    Except StoreError ReconCompletionChildMaterial := do
  let issued ← expect .invalidStateEvent issuedEvent.payload.issuedWorkOrder
  let projected ← projectChildWorkOrder env log runId issued.spec.workOrderId
  let projection ← expect .invalidStateEvent projected
  ensure (projection.issuedEvent = issuedEvent ∧ projection.state = .succeeded)
    .invalidStateEvent
  let finished ← finishedAttempt log sessionId runId projection
  let authorizationEvent ← storedEventForRun log sessionId runId issued.authorizationEventId
  let authorization ← expect .invalidStateEvent authorizationEvent.payload.delegationV2
  ensure (authorization.spec = projection.spec ∧
    authorizationEvent.sequence < issuedEvent.sequence ∧
    authorization.plannerWorkOrder.workOrderId = projection.spec.plannerWorkOrderLocalId)
    .invalidStateEvent
  return ⟨projection, issuedEvent, authorizationEvent, authorization, finished.terminalEvent,
    finished.terminal⟩

/-- The order of work orders, then of executions. -/
def ReconCompletionChildMaterial.before (left right : ReconCompletionChildMaterial) : Bool :=
  toLex (left.terminal.binding.workOrderId.uuid, left.terminal.binding.executionId.uuid) ≤
    toLex (right.terminal.binding.workOrderId.uuid, right.terminal.binding.executionId.uuid)

def sortChildren (left right : ReconCompletionChildMaterial) :
    ReconCompletionChildMaterial × ReconCompletionChildMaterial :=
  if left.before right then (left, right) else (right, left)

/-- `recon_completion_children`: the run issued exactly two work orders. -/
def reconCompletionChildren :
    Except StoreError (ReconCompletionChildMaterial × ReconCompletionChildMaterial) := do
  let [left, right] := (runEvents log sessionId runId).filter fun event =>
    event.payload.isChildWorkOrderIssued = true | .error .invalidStateEvent
  let left ← reconCompletionChild env log sessionId runId left
  let right ← reconCompletionChild env log sessionId runId right
  let (left, right) := sortChildren left right
  ensure (left.terminal.binding.workOrderId ≠ right.terminal.binding.workOrderId ∧
    left.terminal.binding.executionId ≠ right.terminal.binding.executionId ∧
    left.terminal.binding.attemptId ≠ right.terminal.binding.attemptId ∧
    left.authorization.acceptedEventId = right.authorization.acceptedEventId ∧
    left.authorization.snapshotLeaseEventId = right.authorization.snapshotLeaseEventId ∧
    left.authorization.spec.repositoryAuthority.snapshot =
      right.authorization.spec.repositoryAuthority.snapshot ∧
    left.authorization.spec.repositoryAuthority.root =
      right.authorization.spec.repositoryAuthority.root) .invalidStateEvent
  return (left, right)

end Children

section Overlap

structure ChildExecutionInterval where
  executionId : ChildExecutionId
  attemptId : ChildAttemptId
  startedAt : RuntimeClockReading
  finishedAt : RuntimeClockReading
  deriving DecidableEq

inductive ChildOverlapUnknownReason
  | attemptNotTerminal | incomparableRuntimeClock
  deriving DecidableEq

inductive ChildExecutionOverlap
  | overlapped (runtimeInstanceId : RuntimeInstanceId) (left right : ChildExecutionInterval)
      (overlapStartNanos overlapEndNanos overlapDurationNanos : UInt64)
  | didNotOverlap (runtimeInstanceId : RuntimeInstanceId) (left right : ChildExecutionInterval)
  | unknown (leftExecutionId : ChildExecutionId) (leftAttemptId : ChildAttemptId)
      (rightExecutionId : ChildExecutionId) (rightAttemptId : ChildAttemptId)
      (reason : ChildOverlapUnknownReason)
  deriving DecidableEq

/-- How two intervals overlap on the clock of one runtime. -/
def intervalOverlap (left right : ChildExecutionInterval) : ChildExecutionOverlap :=
  let runtimeInstanceId := left.startedAt.runtimeInstanceId
  let start := max left.startedAt.monotonicNanos right.startedAt.monotonicNanos
  let finish := min left.finishedAt.monotonicNanos right.finishedAt.monotonicNanos
  if left.finishedAt.runtimeInstanceId ≠ runtimeInstanceId ∨
      right.startedAt.runtimeInstanceId ≠ runtimeInstanceId ∨
      right.finishedAt.runtimeInstanceId ≠ runtimeInstanceId then
    .unknown left.executionId left.attemptId right.executionId right.attemptId
      .incomparableRuntimeClock
  else if start < finish then
    .overlapped runtimeInstanceId left right start finish (finish - start)
  else .didNotOverlap runtimeInstanceId left right

/-- `derive_child_overlap`. -/
def deriveChildOverlap (left : ChildWorkOrderProjection) (leftExecutionId : ChildExecutionId)
    (leftAttemptId : ChildAttemptId) (right : ChildWorkOrderProjection)
    (rightExecutionId : ChildExecutionId) (rightAttemptId : ChildAttemptId) :
    Except StoreError ChildExecutionOverlap := do
  ensure (left.spec.executionId = leftExecutionId ∧ right.spec.executionId = rightExecutionId)
    .invalidStateEvent
  let leftAttempt ← expect .invalidStateEvent <| left.attempts.reverse.find? fun attempt =>
    attempt.attemptId = leftAttemptId
  let rightAttempt ← expect .invalidStateEvent <| right.attempts.reverse.find? fun attempt =>
    attempt.attemptId = rightAttemptId
  return match leftAttempt.finishedAt, rightAttempt.finishedAt with
  | some leftFinished, some rightFinished =>
    if leftAttempt.monotonicClockContiguous && rightAttempt.monotonicClockContiguous then
      intervalOverlap ⟨leftExecutionId, leftAttemptId, leftAttempt.startedAt, leftFinished⟩
        ⟨rightExecutionId, rightAttemptId, rightAttempt.startedAt, rightFinished⟩
    else
      .unknown leftExecutionId leftAttemptId rightExecutionId rightAttemptId
        .incomparableRuntimeClock
  | _, _ =>
    .unknown leftExecutionId leftAttemptId rightExecutionId rightAttemptId .attemptNotTerminal

/-- The overlap that a receipt records: a positive one, of the two terminals. -/
def gateOverlap (left right : ReconCompletionChildMaterial) :
    Except StoreError ReconCompletionParallelOverlap := do
  let overlap ← deriveChildOverlap left.projection left.terminal.binding.executionId
    left.terminal.binding.attemptId right.projection right.terminal.binding.executionId
    right.terminal.binding.attemptId
  match overlap with
  | .overlapped runtimeInstanceId leftInterval rightInterval start finish duration => do
    ensure (leftInterval.startedAt = left.terminal.startedAt ∧
      leftInterval.finishedAt = left.terminal.finishedAt ∧
      rightInterval.startedAt = right.terminal.startedAt ∧
      rightInterval.finishedAt = right.terminal.finishedAt ∧ duration ≠ 0) .invalidStateEvent
    return ⟨runtimeInstanceId, left.terminal.binding.attemptId,
      right.terminal.binding.attemptId, start, finish, duration⟩
  | _ => .error .invalidStateEvent

end Overlap

section Turn

variable (sessionId : SessionId) (runId : RunId)

/-- An accepted turn that finishes, with the turn and the observation it decides. -/
structure FinishingTurn where
  decision : EventEnvelope
  accepted : PlannerTurnAccepted
  claims : List PlannerPromptFinishClaim
  turn : StoredTurn
  observedEvent : EventEnvelope
  observed : PlannerTurnObserved

/-- `completion_gate_clock_follows_planner_acceptance`. -/
def completionGateClockFollowsPlannerAcceptance (plannerAcceptedAt : RuntimeClockReading)
    (plannerDecisionOccurredAt : DateTime) (gateAcceptedAt : RuntimeClockReading) : Bool :=
  plannerAcceptedAt.observedAt ≤ plannerDecisionOccurredAt &&
    plannerDecisionOccurredAt ≤ gateAcceptedAt.observedAt &&
    (plannerAcceptedAt.runtimeInstanceId ≠ gateAcceptedAt.runtimeInstanceId ||
      sameRuntimeNotBefore plannerAcceptedAt gateAcceptedAt)

/-- `latest_planner_decision_before`. -/
def latestPlannerDecisionBefore (upperSequenceExclusive : ℕ) : Option EventEnvelope :=
  latestBefore log sessionId runId EventPayload.isTurnDecision upperSequenceExclusive

def finishClaimsOf : PlannerAcceptedDirective → Option (List PlannerPromptFinishClaim)
  | .finishPendingGate claims => some claims
  | _ => none

/-- The latest decision of the run finishes the latest turn of the run. -/
def finishingTurn (acceptedAt : RuntimeClockReading) : Except StoreError FinishingTurn := do
  let decision ← expect .invalidStateEvent <|
    latestPlannerDecisionBefore log sessionId runId maxSqliteInteger
  let accepted ← expect .invalidStateEvent decision.payload.turnAccepted
  let claims ← expect .invalidStateEvent (finishClaimsOf accepted.resolvedDirective)
  let preparedEvent ← storedEventForRun log sessionId runId accepted.preparedEventId
  let observedEvent ← storedEventForRun log sessionId runId accepted.observedEventId
  let prepared ← expect .invalidStateEvent preparedEvent.payload.turnPrepared
  let observed ← expect .invalidStateEvent observedEvent.payload.turnObserved
  let latestPrepared ← expect .invalidStateEvent <| latestBefore log sessionId runId
    (fun payload => payload.turnPrepared.isSome) maxSqliteInteger
  ensure (latestPrepared.id = preparedEvent.id ∧
    preparedEvent.sequence < observedEvent.sequence ∧
    observedEvent.sequence < decision.sequence ∧
    decision.causalParent = some observedEvent.id ∧ accepted.purpose = .evidenceReplan ∧
    prepared.purpose = .evidenceReplan ∧ accepted.turnId = prepared.turnId ∧
    observed.turnId = prepared.turnId ∧ observed.preparedEventId = preparedEvent.id ∧
    accepted.preparedEventId = preparedEvent.id ∧
    accepted.observedEventId = observedEvent.id ∧ accepted.basePlan = accepted.resultingPlan ∧
    observed.outcome.isSucceeded = true ∧
    completionGateClockFollowsPlannerAcceptance accepted.acceptedAt decision.occurredAt
      acceptedAt = true ∧
    digestMatchesArtifact accepted.acceptedPromptOutputDigest
      accepted.acceptedPromptOutputArtifact = true) .invalidStateEvent
  return ⟨decision, accepted, claims, ⟨preparedEvent, prepared⟩, observedEvent, observed⟩

/-- One finish claim: a retained obligation that no claim before it names, by evidence of the
packet. -/
def validFinishClaim (catalog : ProtectedObligationCatalog) (packetEvidenceIds : List String)
    (claim : PlannerPromptFinishClaim) : Bool :=
  ((catalog.find? fun entry => entry.1 = claim.obligation.id).any fun entry =>
    entry.2.id = claim.obligation.id &&
      entry.2.contentSha256 = claim.obligation.contentSha256.value) &&
    !claim.evidenceIds.isEmpty && claim.evidenceIds.all fun id => id ∈ packetEvidenceIds

/-- The finish claims cover every required obligation once. -/
def validateFinishClaims (catalog : ProtectedObligationCatalog)
    (packet : PlannerEvidencePacket) (claims : List PlannerPromptFinishClaim) :
    Except StoreError Unit :=
  let packetEvidenceIds := packet.entries.map fun entry =>
    documents.evidenceIdText entry.evidenceId
  let claimed := claims.map fun claim => claim.obligation.id
  ensure ((claims.all (validFinishClaim catalog packetEvidenceIds)) = true ∧ claimed.Nodup ∧
    (catalog.all fun entry => !entry.2.required || decide (entry.2.id ∈ claimed)) = true)
    .invalidStateEvent

/-- `recon_completion_packet_has_terminal`: exactly one entry of the packet is the terminal. -/
def reconCompletionPacketHasTerminal (packet : PlannerEvidencePacket)
    (terminal : ReconCompletionChildTerminalBinding) : Bool :=
  (packet.entries.countP fun entry =>
    entry.evidenceId = ⟨terminal.finishedEventId.uuid⟩ &&
      match entry.material, terminal.outcome with
      | .childHandoff material, .succeeded _ =>
        material.binding = terminal.binding &&
          material.finishedEventId = terminal.finishedEventId
      | .childFailed material, .failed kind retry cause =>
        material.binding = terminal.binding &&
          material.finishedEventId = terminal.finishedEventId && material.kind = kind &&
          material.retry = retry && material.cause = cause
      | .childCancelled material, .cancelled cause =>
        material.binding = terminal.binding &&
          material.finishedEventId = terminal.finishedEventId && material.cause = cause
      | _, _ => false) = 1

/-- The terminal of a child was there when the turn was prepared, and the turn cites it. -/
def citesTerminal (finishing : FinishingTurn) (child : ReconCompletionChildMaterial) : Bool :=
  child.terminalEvent.sequence < finishing.turn.event.sequence &&
    reconCompletionPacketHasTerminal finishing.turn.prepared.durableEvidencePacket
      child.terminal &&
    finishing.claims.any fun claim =>
      documents.evidenceIdText ⟨child.terminal.finishedEventId.uuid⟩ ∈ claim.evidenceIds

/-- The work orders of a delegation, each with its directive. -/
def delegatedWorkOrders (delegations : List PlannerAcceptedDelegation) :
    List (PlannerDelegateDirectiveId × PlannerDelegatedWorkOrderBinding) :=
  delegations.flatMap fun delegation => delegation.workOrders.map (delegation.directiveId, ·)

def delegationsOf : PlannerAcceptedDirective → Option (List PlannerAcceptedDelegation)
  | .delegate delegations => some delegations
  | _ => none

/-- An accepted initial delegation of two work orders authorized both children. -/
def validateInitialDelegate (finishing : FinishingTurn)
    (left right : ReconCompletionChildMaterial) : Except StoreError Unit := do
  ensure (left.authorizationEvent.id ≠ right.authorizationEvent.id ∧
    left.authorization.acceptedEventId ≠ finishing.decision.id) .invalidStateEvent
  let delegateEvent ← storedEventForRun log sessionId runId left.authorization.acceptedEventId
  let delegate ← expect .invalidStateEvent delegateEvent.payload.turnAccepted
  let delegations ← expect .invalidStateEvent (delegationsOf delegate.resolvedDirective)
  let workOrders := delegatedWorkOrders delegations
  let matching := fun child : ReconCompletionChildMaterial => workOrders.countP fun delegated =>
    delegated = (child.authorization.delegateDirectiveId, child.authorization.plannerWorkOrder)
  ensure (delegate.purpose = .initialDelegation ∧
    delegateEvent.sequence < left.authorizationEvent.sequence ∧
    delegateEvent.sequence < right.authorizationEvent.sequence ∧ workOrders.length = 2 ∧
    (workOrders.map fun delegated => delegated.2.workOrderId).Nodup ∧ matching left = 1 ∧
    matching right = 1 ∧
    left.authorization.plannerWorkOrder ≠ right.authorization.plannerWorkOrder)
    .invalidStateEvent

end Turn

section Boundary

structure ReconCompletionSnapshotBoundary where
  releaseEvent : EventEnvelope
  released : RepositorySnapshotLeaseReleased
  release : RepositorySnapshotReleaseDocument
  gateParentEventId : EventId

variable (run : Run)

/-- One event after the release: a claim of the event before it, with the claim before it. -/
def postReleaseClaim (state : StoredClaim × EventId) (next : EventEnvelope) :
    Except StoreError (StoredClaim × EventId) := do
  let (prior, expectedParent) := state
  let claimed ← readClaim next
  let generation ← expect .invalidStateEvent (checkedAdd prior.claim.claimGeneration 1)
  ensure (next.causalParent = some expectedParent ∧
    claimed.claim.claimGeneration = generation ∧
    claimed.claim.cancellationGeneration = prior.claim.cancellationGeneration ∧
    next.occurredAt < claimed.claim.leaseExpiresAt ∧
    prior.event.sequence < next.sequence ∧
    (next.occurredAt < prior.claim.leaseExpiresAt → prior.event.actorId = next.actorId ∧
      prior.claim.runtimeInstanceId = claimed.claim.runtimeInstanceId)) .invalidStateEvent
  return (claimed, next.id)

/-- `recon_completion_snapshot_boundary`: after the release there are claims only. -/
def reconCompletionSnapshotBoundary (leaseEventId currentClaimEventId : EventId) :
    Except StoreError ReconCompletionSnapshotBoundary := do
  let .closedLease _ leaseEvent releaseEvent ← replayRepositorySnapshotLifecycle env log run
    | .error .invalidStateEvent
  ensure (leaseEvent.id = leaseEventId) .invalidStateEvent
  let released ← expect .invalidStateEvent releaseEvent.payload.leaseReleased
  let release ← readCanonicalJsonArtifact env.root env.wires.snapshotRelease
    released.releaseArtifact repositorySnapshotReleaseMediaType
  let gateParent ← latestRunEvent log run.spec.sessionId run.id
  ensure (gateParent.id = releaseEvent.id ∨ gateParent.id = currentClaimEventId)
    .invalidStateEvent
  let releaseClaim ← snapshotClaimEvent log run released.claimEventId
  ensure (releaseClaim.event.sequence < releaseEvent.sequence) .invalidStateEvent
  let later := (runEvents log run.spec.sessionId run.id).filter fun event =>
    releaseEvent.sequence < event.sequence
  ensure (later.length ≤ parallelReconCompletionPostReleaseMaxClaimTransitions)
    .invalidStateEvent
  let _ ← later.foldlM postReleaseClaim (releaseClaim, releaseEvent.id)
  ensure ((later = [] → gateParent.id = releaseEvent.id) ∧
    (later.getLast?.all fun last =>
      last = gateParent ∧ gateParent.id = currentClaimEventId) = true) .invalidStateEvent
  return ⟨releaseEvent, released, release, gateParent.id⟩

/-- The lease of the children was released after both and after the decision. -/
def validateSnapshotBoundary (finishing : FinishingTurn)
    (left right : ReconCompletionChildMaterial) (boundary : ReconCompletionSnapshotBoundary)
    (acceptedAt : RuntimeClockReading) : Except StoreError Unit := do
  let leaseEventId := left.authorization.snapshotLeaseEventId
  let authority := left.authorization.spec.repositoryAuthority
  let leaseEvent ← storedEventForRun log run.spec.sessionId run.id leaseEventId
  let lease ← expect .invalidStateEvent leaseEvent.payload.leaseIssued
  ensure (lease.snapshot = authority.snapshot ∧ lease.root = authority.root ∧
    boundary.released.leaseEventId = leaseEventId ∧
    boundary.release.leaseEventId = leaseEventId ∧
    boundary.release.leaseId = authority.snapshot.immutabilityLease.leaseId ∧
    boundary.release.unmountedVerified = true ∧
    left.terminalEvent.sequence < boundary.releaseEvent.sequence ∧
    right.terminalEvent.sequence < boundary.releaseEvent.sequence ∧
    finishing.decision.sequence < boundary.releaseEvent.sequence ∧
    boundary.releaseEvent.occurredAt ≤ acceptedAt.observedAt) .invalidStateEvent

end Boundary

section Gate

/-- `Uuid::get_version_num`. -/
def uuidVersion (id : Fin (2 ^ 128)) : ℕ := id.val / 2 ^ 76 % 16

structure DerivedReconCompletionGateMaterial where
  sessionId : SessionId
  actorId : ActorId
  gateParentEventId : EventId
  claim : StoredClaim
  plannerTurn : FinishingTurn
  finishClaimsDigest : Sha256Digest
  receipt : ReconCompletionGateReceipt

/-- `completion_gate_clock_is_live_under_current_claim`. -/
def completionGateClockIsLive (stored : StoredClaim) (acceptedAt : RuntimeClockReading) : Bool :=
  acceptedAt.runtimeInstanceId = stored.claim.runtimeInstanceId &&
    stored.event.occurredAt ≤ acceptedAt.observedAt &&
    acceptedAt.observedAt < stored.claim.leaseExpiresAt

/-- The claim that a gate is accepted under, in a run that has no gate yet. -/
def gateClaim (run : Run) (gateId : ReconCompletionGateId) (acceptedAt : RuntimeClockReading) :
    Except StoreError StoredClaim := do
  let state ← currentRunState log run.spec.sessionId run.id
  ensure (state = .running) .invalidStateEvent
  let claimEvent ← expect .invalidStateEvent (latestClaimForRun log run.spec.sessionId run.id)
  let stored ← readClaim claimEvent
  ensure (run.isParallelRecon = true ∧ uuidVersion gateId.uuid = 7 ∧
    stored.claim.cancellationGeneration = 0 ∧
    latestCancellationGeneration log run.spec.sessionId run.id = 0 ∧
    completionGateClockIsLive stored acceptedAt = true ∧
    identityCount log (EventPayload.carriesGate gateId) = 0 ∧
    ((runEvents log run.spec.sessionId run.id).countP fun event =>
      event.payload.isGateAccepted) = 0) .invalidStateEvent
  return stored

/-- `derive_recon_completion_gate_material`. -/
def deriveReconCompletionGateMaterial (runId : RunId) (gateId : ReconCompletionGateId)
    (acceptedAt : RuntimeClockReading) :
    Except StoreError DerivedReconCompletionGateMaterial := do
  let run ← expect .database (storedRun log runId)
  let sessionId := run.spec.sessionId
  let claim ← gateClaim log run gateId acceptedAt
  let finishing ← finishingTurn log sessionId runId acceptedAt
  documents.finishOutput finishing.turn.prepared finishing.observed finishing.accepted
  let snapshot ← documents.baseSnapshot finishing.turn.prepared.basePlan
  let catalog ← documents.retainedPrompt finishing.turn.prepared snapshot
  let claimBytes ← expect .invalidStateEvent (documents.finishClaims.toVec finishing.claims)
  let finishClaimsDigest ← digestOf env.root claimBytes
  validateFinishClaims documents catalog finishing.turn.prepared.durableEvidencePacket
    finishing.claims
  let (left, right) ← reconCompletionChildren env log sessionId runId
  validateInitialDelegate log sessionId runId finishing left right
  ensure (citesTerminal documents finishing left = true ∧
    citesTerminal documents finishing right = true) .invalidStateEvent
  let overlap ← gateOverlap left right
  let boundary ← reconCompletionSnapshotBoundary env log run
    left.authorization.snapshotLeaseEventId claim.event.id
  validateSnapshotBoundary log run finishing left right boundary acceptedAt
  let prepared := finishing.turn.prepared
  return {
    sessionId
    actorId := claim.event.actorId
    gateParentEventId := boundary.gateParentEventId
    claim
    plannerTurn := finishing
    finishClaimsDigest
    receipt := {
      schemaVersion := reconCompletionGateContractVersion
      gateId
      sessionId
      runId
      acceptedPlannerTurnEventId := finishing.decision.id
      plannerTurnId := finishing.accepted.turnId
      preparedEventId := finishing.turn.event.id
      observedEventId := finishing.observedEvent.id
      resultingPlan := finishing.accepted.resultingPlan
      obligationSnapshotDigest := prepared.obligationSnapshotDigest
      acceptancePolicyDigest := prepared.acceptancePolicyDigest
      contextManifestDigest := prepared.contextManifestDigest
      durableEvidencePacketDigest := prepared.durableEvidencePacketDigest
      finishClaims := finishing.claims
      childTerminals := (left.terminal, right.terminal)
      parallelOverlap := overlap
      snapshotLeaseEventId := left.authorization.snapshotLeaseEventId
      snapshotReleaseEventId := boundary.releaseEvent.id
      validatedAt := acceptedAt } }

/-- `accepted_payload`. -/
def DerivedReconCompletionGateMaterial.acceptedPayload
    (material : DerivedReconCompletionGateMaterial) (receiptArtifact : ArtifactRef)
    (receiptDigest : Sha256Digest) : ReconCompletionGateAccepted where
  schemaVersion := reconCompletionGateContractVersion
  gateId := material.receipt.gateId
  claimEventId := material.claim.event.id
  claimId := material.claim.claim.claimId
  claimGeneration := material.claim.claim.claimGeneration
  claimRuntimeInstanceId := material.claim.claim.runtimeInstanceId
  cancellationGeneration := 0
  acceptedPlannerTurnEventId := material.plannerTurn.decision.id
  plannerTurnId := material.plannerTurn.accepted.turnId
  resultingPlan := material.plannerTurn.accepted.resultingPlan
  finishClaimsDigest := material.finishClaimsDigest
  receiptArtifact
  receiptDigest
  acceptedAt := material.receipt.validatedAt

/-- `validate_recon_completion_gate_accepted_v1`. -/
def validateReconCompletionGateAccepted (event : EventEnvelope)
    (gate : ReconCompletionGateAccepted) : Except StoreError Unit := do
  let runId ← plannerRunId event
  requireRunningRun log event runId
  requireLatestRunParent log event runId
  let stored ← requireCurrentClaimOwner log event runId 0
  let material ← deriveReconCompletionGateMaterial documents env log runId gate.gateId
    gate.acceptedAt
  ensure (event.sessionId = material.sessionId ∧ event.actorId = material.actorId ∧
    stored.event.id = material.claim.event.id ∧
    gate.acceptedAt.observedAt ≤ event.occurredAt ∧
    event.causalParent = some material.gateParentEventId ∧
    event.provenance.producer = reconCompletionGateProducer ∧
    event.provenance.backend = none ∧
    event.provenance.rawArtifact = some gate.receiptArtifact ∧
    gate.receiptArtifact.sizeBytes ≠ 0 ∧
    gate.receiptArtifact.sizeBytes ≤ reconCompletionGateReceiptMaxBytes ∧
    gate.receiptArtifact.mediaType = reconCompletionGateReceiptMediaType ∧
    digestMatchesArtifact gate.receiptDigest gate.receiptArtifact = true ∧
    gate = material.acceptedPayload gate.receiptArtifact gate.receiptDigest) .invalidStateEvent
  let (receipt, receiptBytes) ← readCanonicalJsonArtifactWithBytes env.root
    documents.gateReceipt gate.receiptArtifact reconCompletionGateReceiptMediaType
  let digest ← digestOf env.root receiptBytes
  ensure (gate.receiptDigest = digest ∧ receipt = material.receipt) .invalidStateEvent

end Gate

end BirdCode.Store
