import BirdCode.Store.CompletionGate
import BirdCode.Store.SnapshotAdmission

/-! What the store requires of the events of the run itself: claims, the cancellation request,
broker epochs and changes of state. -/
namespace BirdCode.Store

def maxInlineEventBytes : ℕ := 256 * 1024

/-- The append path an event arrives by. -/
inductive EventAdmission
  | publicAppend | parallelReconBootstrap | parallelReconClaimRefresh | childToolPreparation
  | childToolDispatchStart | childToolObserved
  deriving DecidableEq

namespace EventPayload

def carriesClaim (claimId : RunClaimId) : EventPayload → Bool
  | .runClaimed claim => claim.claimId = claimId
  | _ => false

def claimsRuntime (runtimeInstanceId : RuntimeInstanceId) : EventPayload → Bool
  | .runClaimed claim => claim.runtimeInstanceId = runtimeInstanceId
  | _ => false

def carriesCancellation (requestId : CancellationRequestId) : EventPayload → Bool
  | .cancellationRequested request => request.cancellationRequestId = requestId
  | _ => false

/-- A tool Prepared of either version under a broker, or an epoch that activated it. -/
def usesBroker (brokerInstanceId : RepositoryBrokerInstanceId) : EventPayload → Bool
  | .childToolPrepared prepared => prepared.brokerInstanceId = brokerInstanceId
  | .childToolPreparedV2 prepared => prepared.brokerInstanceId = brokerInstanceId
  | .repositoryBrokerEpochActivated epoch =>
    epoch.state.activeBrokerInstanceId = brokerInstanceId
  | _ => false

end EventPayload

variable (documents : PlanningDocuments) (env : Environment) (log : EventLog)

section Children

/-- `child_replay_is_nonterminal`. -/
def childReplayIsNonterminal (replay : ChildReplay) : Bool :=
  match replay.last.bind fun attempt => attempt.projection.outcome with
  | none => true
  | some (.failed _ .requiresNewAttempt _) =>
    replay.attempts.length < replay.issued.spec.maxAttempts.toNat
  | some _ => false

structure NonterminalChildClaimReplay where
  workOrderId : ChildWorkOrderId
  replay : ChildReplay
  priorAdoptionCount : ℕ

/-- One work order of `nonterminal_child_replays_for_claim_refresh`. -/
def nonterminalChild (run : Run) (workOrderId : ChildWorkOrderId) :
    Except StoreError (Option NonterminalChildClaimReplay) := do
  let loaded ← loadChildReplay env log run.id workOrderId
  let replay ← expect .invalidStateEvent loaded.replay
  let owner ← workOrderForExecution log run.id replay.issued.spec.executionId
  ensure (replay.issued.spec.workOrderId = workOrderId ∧ owner = workOrderId) .invalidStateEvent
  return if childReplayIsNonterminal replay then
    some ⟨workOrderId, replay, loaded.adoptionCount⟩ else none

/-- `nonterminal_child_replays_for_claim_refresh`. Sorting identities by their text is sorting
them by their bytes. -/
def nonterminalChildReplaysForClaimRefresh (run : Run) :
    Except StoreError (List NonterminalChildClaimReplay) := do
  let workOrders := (runEvents log run.spec.sessionId run.id).filterMap fun event =>
    event.payload.issuedWorkOrder.map fun issued => issued.spec.workOrderId
  ensure (workOrders.length ≤ run.spec.limits.maxSubagents.toNat ∧ workOrders.Nodup)
    .invalidStateEvent
  let sorted := workOrders.mergeSort fun a b => a.uuid ≤ b.uuid
  let children ← sorted.mapM (nonterminalChild env log run)
  return children.filterMap id

end Children

section Claims

/-- A public renewal would leave an open capture or a child behind on the claim before it. -/
def refusePublicRenewal (runId : RunId) : Except StoreError Unit := do
  let run ← durableRunForClaimRefresh log runId
  whenever (run.isParallelRecon = true) do
    let lifecycle ← replayRepositorySnapshotLifecycle env log run
    let children ← nonterminalChildReplaysForClaimRefresh env log run
    ensure (lifecycle.openReplay.isNone = true ∧ children.isEmpty = true) .invalidStateEvent

/-- What a claim requires of the one before it. -/
def validateClaimSuccession (event : EventEnvelope) (runId : RunId) (claim : RunClaimed)
    (admission : EventAdmission) : Option EventEnvelope → Except StoreError Unit
  | none => ensure (claim.claimGeneration = 1) .invalidStateEvent
  | some previousEvent => do
    let previous ← readClaim previousEvent
    ensure (claim.claimGeneration =
      (checkedAdd previous.claim.claimGeneration 1).getD 1) .invalidStateEvent
    let sameOwner : Bool := previous.claim.runtimeInstanceId = claim.runtimeInstanceId &&
      previousEvent.actorId = event.actorId
    ensure (event.occurredAt < previous.claim.leaseExpiresAt → sameOwner = true)
      .invalidStateEvent
    whenever (admission = .publicAppend ∧ sameOwner = true) (refusePublicRenewal env log runId)

/-- `validate_run_claim`. -/
def validateRunClaim (event : EventEnvelope) (claim : RunClaimed) (admission : EventAdmission) :
    Except StoreError Unit := do
  let runId ← plannerRunId event
  let state ← requireNonterminalRun log event runId
  requireLatestRunParent log event runId
  let cancellation := latestCancellationGeneration log event.sessionId runId
  ensure (claim.claimGeneration ≠ 0 ∧ event.occurredAt < claim.leaseExpiresAt ∧
    identityCount log (EventPayload.carriesClaim claim.claimId) = 0) .invalidStateEvent
  ensure (claim.cancellationGeneration = cancellation) .invalidStateEvent
  ensure (¬(0 < cancellation ∧ (state = .queued ∨ state = .waiting))) .invalidStateEvent
  validateClaimSuccession env log event runId claim admission
    (latestClaimForRun log event.sessionId runId)
  ensure ((log.events.countP fun stored =>
    stored.payload.claimsRuntime claim.runtimeInstanceId && stored.actorId ≠ event.actorId) = 0)
    .invalidStateEvent

/-- `validate_cancellation`. -/
def validateCancellation (event : EventEnvelope) (request : CancellationRequested) :
    Except StoreError Unit := do
  let runId ← plannerRunId event
  let _ ← requireNonterminalRun log event runId
  requireLatestRunParent log event runId
  ensure (request.cancellationGeneration = 1 ∧
    latestCancellationGeneration log event.sessionId runId = 0 ∧
    identityCount log (EventPayload.carriesCancellation request.cancellationRequestId) = 0)
    .invalidStateEvent

end Claims

section BrokerEpoch

/-- The brokers an epoch closes: those closed before it and the one that was active. -/
def closedByNextEpoch (previous : RepositoryBrokerEpochState) : List RepositoryBrokerInstanceId :=
  ((previous.closedBrokerInstanceIds ++ [previous.activeBrokerInstanceId]).mergeSort
    fun a b => a.uuid ≤ b.uuid).dedup

/-- The epoch follows the latest one of the run. -/
def validateEpochSuccession (activated : RepositoryBrokerEpochActivated) :
    Option RepositoryBrokerEpochActivated → Except StoreError Unit
  | none =>
    ensure (activated.previousActiveBrokerInstanceId = none ∧
      activated.state.closedBrokerInstanceIds = []) .invalidStateEvent
  | some previous =>
    ensure (activated.previousActiveBrokerInstanceId =
        some previous.state.activeBrokerInstanceId ∧
      activated.state.closedBrokerInstanceIds = closedByNextEpoch previous.state ∧
      (previous.activatedAt.runtimeInstanceId = activated.activatedAt.runtimeInstanceId →
        sameRuntimeNotBefore previous.activatedAt activated.activatedAt = true))
      .invalidStateEvent

def EventPayload.activatedEpoch : EventPayload → Option RepositoryBrokerEpochActivated
  | .repositoryBrokerEpochActivated epoch => some epoch
  | _ => none

/-- `validate_repository_broker_epoch_activated_v1`. -/
def validateRepositoryBrokerEpochActivated (event : EventEnvelope)
    (activated : RepositoryBrokerEpochActivated) : Except StoreError Unit := do
  let runId ← plannerRunId event
  requireRunningRun log event runId
  requireLatestRunParent log event runId
  let stored ← requireLatestClaimOwner log event runId
  let closed := activated.state.closedBrokerInstanceIds
  ensure (event.provenance.backend = none ∧ event.provenance.rawArtifact = none ∧
    activated.activatedAt.runtimeInstanceId = stored.claim.runtimeInstanceId ∧
    (closed.map UuidId.uuid).SortedLT ∧
    activated.state.activeBrokerInstanceId ∉ closed) .invalidStateEvent
  validateEpochSuccession activated <|
    (latestBrokerEpochBefore log event.sessionId runId event.sequence).bind fun previous =>
      previous.payload.activatedEpoch
  ensure (identityCount log
    (EventPayload.usesBroker activated.state.activeBrokerInstanceId) = 0) .invalidStateEvent

end BrokerEpoch

section RunState

/-- A run whose root planning failed durably may only fail, or be cancelled. -/
def validateRootPlanningTermination (event : EventEnvelope) (runId : RunId) (after : RunState) :
    Except StoreError Unit :=
  whenever ((runEvents log event.sessionId runId).any (fun stored =>
      stored.payload.isRootPlanningFailure) = true) do
    let latest ← latestNonClaimEvent log event.sessionId runId
    ensure ((latest.payload.isRootPlanningFailure = true ∧ after = .failed) ∨
      (latest.payload.isCancellationRequested = true ∧ after = .cancelled)) .invalidStateEvent

/-- `validate_parallel_recon_snapshot_terminal_fence`. -/
def validateParallelReconSnapshotTerminalFence (run : Run) (after : RunState) :
    Except StoreError Unit :=
  whenever (run.isParallelRecon = true ∧ after.isTerminal = true) do
    let lifecycle ← replayRepositorySnapshotLifecycle env log run
    ensure (lifecycle.isHeld = false) .invalidStateEvent

/-- What a run is completed by, as its last event but claims. -/
def completesRun (run : Run) (latest : EventPayload) : Bool :=
  match run.spec.purpose, run.spec.planAcceptance, latest with
  | .planOnly, .legacyMechanicalOnlyV4, .planProposalAccepted _
  | .planOnly, .independentSemanticReviewV1, .planSemanticReviewAccepted _
  | .parallelRepositoryReconnaissanceV1, .independentSemanticReviewV1,
      .reconCompletionGateAccepted _ => true
  | _, _, _ => false

/-- What a run fails by, as its last event but claims. -/
def failsRun (run : Run) : EventPayload → Bool
  | .planProposalRejected _ | .plannerInferenceOutcomeUnknown _ | .rootPlanningFailed _
  | .rootPlanningStageFailed _ => true
  | .planSemanticReviewRejected rejected =>
    run.spec.planAcceptance = .independentSemanticReviewV1 &&
      rejected.disposition ≠ .repairOnceAuthorized
  | .plannerInferenceObserved observed => !observed.outcome.isSucceeded
  | .plannerTurnObserved observed => run.isParallelRecon && !observed.outcome.isSucceeded
  | .plannerTurnUnknown _ => run.isParallelRecon
  | _ => false

/-- When a turn's terminal was reached, if it ends the run. -/
def turnTerminalClock (turn : StoredTurn) : EventPayload → Option RuntimeClockReading
  | .plannerTurnObserved observed =>
    if observed.turnId = turn.prepared.turnId ∧ observed.preparedEventId = turn.event.id ∧
      observed.outcome.isSucceeded = false then some observed.observedAt else none
  | .plannerTurnUnknown unknown =>
    if unknown.turnId = turn.prepared.turnId ∧ unknown.preparedEventId = turn.event.id then
      some unknown.boundaryAt else none
  | _ => none

def terminalDisposition : RunState → Option RetainedPlannerV2TerminalDisposition
  | .failed => some .failed
  | .cancelled => some .cancelled
  | _ => none

/-- `validate_planner_v2_run_terminal_finalization`. -/
def validatePlannerV2RunTerminalFinalization (event : EventEnvelope) (runId : RunId)
    (after : RunState) (latestNonClaim : EventEnvelope) : Except StoreError Unit := do
  let artifact ← expect .invalidStateEvent event.provenance.rawArtifact
  ensure (event.provenance.producer = plannerV2FinalizationProducer ∧
    event.provenance.backend = none) .invalidStateEvent
  let retained ← readCanonicalJsonArtifact env.root documents.finalizationEvidence artifact
    plannerV2FinalizationEvidenceMediaType
  let turn ← storedTurn log event runId retained.preparedEventId
  let terminalEvent ← storedEventForRun log event.sessionId runId retained.terminalEventId
  let terminalAt ← expect .invalidStateEvent (turnTerminalClock turn terminalEvent.payload)
  let claimEvent ← expect .invalidStateEvent (latestClaimForRun log event.sessionId runId)
  let stored ← readClaim claimEvent
  ensure (some retained.disposition = terminalDisposition after ∧
    turn.event.sequence < terminalEvent.sequence ∧ terminalEvent.sequence < event.sequence ∧
    retained.finalizedAt.runtimeInstanceId = stored.claim.runtimeInstanceId ∧
    (terminalAt.runtimeInstanceId = retained.finalizedAt.runtimeInstanceId →
      sameRuntimeNotBefore terminalAt retained.finalizedAt = true) ∧
    (after = .failed → latestNonClaim.id = terminalEvent.id)) .invalidStateEvent

/-- The last event but claims is a turn's Observed or Unknown. -/
def EventPayload.isTurnTerminal : EventPayload → Bool
  | .plannerTurnObserved _ | .plannerTurnUnknown _ => true
  | _ => false

/-- A completed or failed run needs its cause, and a turn's terminal its finalization. -/
def validateTerminalCause (event : EventEnvelope) (runId : RunId) (after : RunState) :
    Except StoreError Unit := do
  let run ← durableRunForEvent log event.sessionId runId
  let latest ← latestNonClaimEvent log event.sessionId runId
  ensure ((after = .completed ∧ completesRun run latest.payload = true) ∨
    (after = .failed ∧ failsRun run latest.payload = true)) .invalidStateEvent
  whenever (latest.payload.isTurnTerminal = true)
    (validatePlannerV2RunTerminalFinalization documents env log event runId after latest)

/-- A cancellation that finalizes a planner turn. -/
def validateCancelledTurn (event : EventEnvelope) (runId : RunId) : Except StoreError Unit :=
  whenever (event.provenance.producer = plannerV2FinalizationProducer) do
    let latest ← latestNonClaimEvent log event.sessionId runId
    validatePlannerV2RunTerminalFinalization documents env log event runId .cancelled latest

/-- The authority of a transition: the latest claim, or the cancellation request itself. -/
def requireTransitionAuthority (event : EventEnvelope) (runId : RunId) (before after : RunState) :
    Except StoreError Unit := do
  let latest ← latestRunEvent log event.sessionId runId
  match before, after with
  | .queued, .cancelled | .waiting, .cancelled =>
    ensure (latest.payload.isCancellationRequested = true) .invalidStateEvent
  | .queued, .running | .waiting, .running =>
    ensure (latest.payload.isRunClaimed = true) .invalidStateEvent
    let _ ← requireLatestClaimOwner log event runId
  | .running, .cancelled =>
    ensure (latestCancellationGeneration log event.sessionId runId ≠ 0) .invalidStateEvent
    let _ ← requireActiveClaimOwner log event runId
  | _, _ =>
    let _ ← requireLatestClaimOwner log event runId

/-- `validate_run_state_change`. -/
def validateRunStateChange (event : EventEnvelope) (before after : RunState) :
    Except StoreError Unit := do
  let runId ← plannerRunId event
  let state ← currentRunState log event.sessionId runId
  ensure (state = before ∧ validRunTransition before after = true) .invalidStateEvent
  requireLatestRunParent log event runId
  ensure (0 < latestCancellationGeneration log event.sessionId runId → after = .cancelled)
    .invalidStateEvent
  whenever (after.isTerminal = true) do
    let run ← durableRunForEvent log event.sessionId runId
    validateParallelReconSnapshotTerminalFence env log run after
  validateRootPlanningTermination log event runId after
  whenever (after = .completed ∨ after = .failed)
    (validateTerminalCause documents env log event runId after)
  whenever (after = .cancelled) (validateCancelledTurn documents env log event runId)
  requireTransitionAuthority log event runId before after

end RunState

end BirdCode.Store
