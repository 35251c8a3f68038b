import BirdCode.Store.Tables
import BirdCode.Store.ChildReplayTools

/-! A child's history as it is loaded from the table, and what the work order's projection reports
of its replay. -/
namespace BirdCode.Store

def parallelReconnaissanceV1MaxClaimAdoptionsPerChild : UInt32 := 256
def parallelReconnaissanceV1MaxClaimTakeoversPerChild : UInt32 := 2

def maxChildReplayEvents : ℕ :=
  1 + parallelReconnaissanceV1MaxClaimAdoptionsPerChild.toNat +
    childReconnaissanceMaxAttempts.toNat *
      (3 + 2 * childReconnaissanceMaxModelCallsPerAttempt.toNat +
        3 * childReconnaissanceMaxToolCallsPerAttempt.toNat)

namespace EventPayload

def issuedWorkOrder : EventPayload → Option ChildWorkOrderIssued
  | .childWorkOrderIssued issued => some issued
  | _ => none

def adoptionKind : EventPayload → Option ChildClaimAdoptionKind
  | .childExecutionClaimAdopted adopted => some adopted.kind
  | _ => none

end EventPayload

variable (env : Environment) (log : EventLog) (runId : RunId)

/-- `child_history`: the work order's events in the session of its run. -/
def childHistory (workOrderId : ChildWorkOrderId) : Except StoreError (List EventEnvelope) := do
  let run ← expect .invalidStateEvent (storedRun log runId)
  let events := (runEvents log run.spec.sessionId runId).filter fun event =>
    event.payload.childWorkOrderId = some workOrderId
  ensure (events.length ≤ maxChildReplayEvents) .invalidStateEvent
  return events

structure LoadedChildReplay where
  replay : Option ChildReplay
  eventCount : ℕ
  adoptionCount : ℕ
  takeoverCount : ℕ

/-- One turn of the loop of `load_child_replay`. -/
def loadChildEvent (replay : Option ChildReplay) (event : EventEnvelope) :
    Except StoreError (Option ChildReplay) := do
  env.typedArtifactRefs event.provenance event.payload
  replayChildEvent env log replay event

/-- `load_child_replay`. -/
def loadChildReplay (workOrderId : ChildWorkOrderId) : Except StoreError LoadedChildReplay := do
  let events ← childHistory log runId workOrderId
  let replay ← events.foldlM (loadChildEvent env log) none
  return {
    replay
    eventCount := events.length
    adoptionCount := events.countP fun event => event.payload.adoptionKind.isSome
    takeoverCount := events.countP fun event => event.payload.adoptionKind = some .takeover }

/-- `work_order_for_execution`: the one work order of the run with this execution. -/
def workOrderForExecution (executionId : ChildExecutionId) :
    Except StoreError ChildWorkOrderId :=
  match log.events.filterMap (fun event =>
      event.payload.issuedWorkOrder.filter fun issued =>
        event.runId = some runId ∧ issued.spec.executionId = executionId) with
  | [issued] => .ok issued.spec.workOrderId
  | _ => .error .invalidStateEvent

inductive ChildWorkOrderState
  | issued | running | retryable | succeeded | failed | cancelled
  deriving DecidableEq

def ChildReplay.state (replay : ChildReplay) : ChildWorkOrderState :=
  match replay.last with
  | none => .issued
  | some attempt =>
    match attempt.projection.outcome with
    | none => .running
    | some (.succeeded _) => .succeeded
    | some (.cancelled _) => .cancelled
    | some (.failed _ .requiresNewAttempt _) =>
      if replay.attempts.length < replay.issued.spec.maxAttempts.toNat then .retryable
      else .failed
    | some (.failed _ .never _) => .failed

/-- A claim is the one a child is bound to. -/
def ActiveChildClaim.isClaim (active : ActiveChildClaim) (claim : RunClaimed) : Prop :=
  claim.claimId = active.claimId ∧ claim.claimGeneration = active.generation ∧
  claim.runtimeInstanceId = active.runtimeInstanceId ∧
  claim.cancellationGeneration = active.cancellationGeneration ∧
  claim.leaseExpiresAt = active.leaseExpiresAt

instance (active : ActiveChildClaim) (claim : RunClaimed) : Decidable (active.isClaim claim) := by
  unfold ActiveChildClaim.isClaim
  infer_instance

/-- The fields of `ChildWorkOrderProjection` that the store itself reads. -/
structure ChildWorkOrderProjection where
  spec : ChildWorkOrderSpec
  issuedEvent : EventEnvelope
  state : ChildWorkOrderState
  attempts : List ChildAttemptProjection
  activeClaim : StoredClaim
  recovery : ChildRecoveryState

/-- `into_projection`. -/
def ChildReplay.intoProjection (replay : ChildReplay) :
    Except StoreError ChildWorkOrderProjection := do
  let run ← expect .invalidStateEvent (storedRun log runId)
  let sessionId := run.spec.sessionId
  let issuedEvent ← storedEventForRun log sessionId runId replay.workOrderEventId
  ensure (issuedEvent.payload.issuedWorkOrder = some replay.issued) .invalidStateEvent
  let claimEvent ← storedEventForRun log sessionId runId replay.activeClaim.eventId
  let activeClaim ← readClaim claimEvent
  ensure (replay.activeClaim.isClaim activeClaim.claim) .invalidStateEvent
  let recovery ← replay.recovery log sessionId runId
  let _ ← (replay.last.bind ReplayedChildAttempt.latestEffectEventId).mapM fun eventId =>
    storedEventForRun log sessionId runId eventId
  return {
    spec := replay.issued.spec
    issuedEvent
    state := replay.state
    attempts := replay.attempts.map ReplayedChildAttempt.projection
    activeClaim
    recovery }

/-- `project_child_work_order`. -/
def projectChildWorkOrder (workOrderId : ChildWorkOrderId) :
    Except StoreError (Option ChildWorkOrderProjection) := do
  let loaded ← loadChildReplay env log runId workOrderId
  match loaded.replay with
  | none => return none
  | some replay =>
    let owner ← workOrderForExecution log runId replay.issued.spec.executionId
    ensure (owner = workOrderId) .invalidStateEvent
    let projection ← replay.intoProjection log runId
    return some projection

end BirdCode.Store
