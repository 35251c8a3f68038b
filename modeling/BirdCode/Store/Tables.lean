import BirdCode.Store.Events

/-! The rows that admission reads besides the events themselves. The `sessions` and `runs` rows
are written together with the events that create them and are never updated, so they are read
here from those events; the run states are projected by triggers. -/
namespace BirdCode.Store

namespace EventPayload

def createdSession : EventPayload → Option Session
  | .sessionCreated session => some session
  | _ => none

def createdRun : EventPayload → Option Run
  | .runCreated run => some run
  | _ => none

/-- The two durable failures of root planning. -/
def isRootPlanningFailure : EventPayload → Bool
  | .rootPlanningFailed _ | .rootPlanningStageFailed _ => true
  | _ => false

end EventPayload

def RunState.isTerminal : RunState → Bool
  | .completed | .failed | .cancelled => true
  | .queued | .running | .waiting => false

/-- `valid_run_transition`. -/
def validRunTransition : RunState → RunState → Bool
  | .queued, .running | .queued, .failed | .queued, .cancelled => true
  | .waiting, .running | .waiting, .failed | .waiting, .cancelled => true
  | .running, .waiting | .running, .completed | .running, .failed | .running, .cancelled => true
  | _, _ => false

/-- `if condition { check()?; }`. -/
def whenever (condition : Prop) [Decidable condition] (check : Except StoreError Unit) :
    Except StoreError Unit :=
  if condition then check else .ok ()

@[simp] theorem whenever_eq_ok {condition : Prop} [Decidable condition]
    {check : Except StoreError Unit} {value : Unit} :
    whenever condition check = .ok value ↔ (condition → check = .ok ()) := by
  unfold whenever
  split
  case isTrue h => simp [h]
  case isFalse h => simp [h]

section Rows

variable (log : EventLog)

/-- `SELECT value_json FROM sessions WHERE id = ?1`. -/
def storedSession (sessionId : SessionId) : Option Session :=
  (log.events.filterMap fun event => event.payload.createdSession).find? fun session =>
    session.id = sessionId

/-- `SELECT value_json FROM runs WHERE id = ?1`. -/
def storedRun (runId : RunId) : Option Run :=
  (log.events.filterMap fun event => event.payload.createdRun).find? fun run => run.id = runId

def durableRunForClaimRefresh (runId : RunId) : Except StoreError Run :=
  expect .invalidStateEvent (storedRun log runId)

/-- The row of a run that belongs to the session. -/
def durableRunForEvent (sessionId : SessionId) (runId : RunId) : Except StoreError Run :=
  expect .invalidStateEvent <| (storedRun log runId).filter fun run =>
    run.spec.sessionId = sessionId

def durableSessionWorkspaceRoot (sessionId : SessionId) : Except StoreError WorkspacePath := do
  let session ← expect .invalidStateEvent (storedSession log sessionId)
  return session.workspaceRoot

variable (sessionId : SessionId) (runId : RunId)

/-- `WHERE run_id = ?1 AND session_id = ?2 ORDER BY sequence ASC`. -/
def runEvents : List EventEnvelope :=
  log.events.filter fun event => event.sessionId = sessionId ∧ event.runId = some runId

/-- `SELECT state FROM run_state_projection WHERE run_id = ?1 AND session_id = ?2`. -/
def currentRunState : Except StoreError RunState :=
  expect .invalidStateEvent <| (log.runStates.find? fun row =>
    row.runId = runId ∧ row.sessionId = sessionId).map RunStateRow.state

def latestRunEvent : Except StoreError EventEnvelope :=
  expect .invalidStateEvent (runEvents log sessionId runId).getLast?

def latestNonClaimEvent : Except StoreError EventEnvelope :=
  expect .invalidStateEvent (latest log sessionId runId fun payload => !payload.isRunClaimed)

/-- How many events of the whole table carry an identity. -/
def identityCount (carries : EventPayload → Bool) : ℕ :=
  log.events.countP fun event => carries event.payload

end Rows

section Reservations

variable (log : EventLog)

/-- The reservation an event makes, of a planner call or of a child's model call. -/
def EventPayload.modelReservation : EventPayload → Option TokenReservation
  | .plannerInferencePrepared prepared => some prepared.tokenReservation
  | .plannerTurnPrepared prepared => some prepared.tokenReservation
  | .childModelInferencePrepared prepared => some prepared.tokenReservation
  | .childModelInferencePreparedV2 prepared => some prepared.prepared.tokenReservation
  | _ => none

/-- `model_token_reservation_identity_count`. -/
def modelTokenReservationIdentityCount (id : TokenReservationId) : ℕ :=
  identityCount log fun stored => stored.modelReservation.any fun held => held.id = id

/-- `all_model_reserved_output_tokens_for_run`. A sum that overflows is above every limit. -/
def allModelReservedOutputTokensForRun (sessionId : SessionId) (runId : RunId) : ℕ :=
  (((runEvents log sessionId runId).filterMap fun event => event.payload.modelReservation).map
    fun reservation => reservation.maxOutputTokens.toNat).sum

/-- The reservation fits what the run has left, when the run is limited at all. -/
def fitsRunLimit (sessionId : SessionId) (run : Run) (reservation : TokenReservation) : Prop :=
  ∀ limit ∈ run.spec.limits.maxOutputTokens, reservation.maxOutputTokens ≤ limit ∧
    allModelReservedOutputTokensForRun log sessionId run.id +
      reservation.maxOutputTokens.toNat ≤ limit.toNat

instance (sessionId : SessionId) (run : Run) (reservation : TokenReservation) :
    Decidable (fitsRunLimit log sessionId run reservation) :=
  Option.decidableForallMem run.spec.limits.maxOutputTokens

end Reservations

section Projection

variable (rows : List RunStateRow) (event : EventEnvelope)

/-- `events_project_run_creation_after_insert`, with the primary key of the table. -/
def projectRunCreation (run : Run) : Except StoreError (List RunStateRow) := do
  ensure (run.state = .queued) .database
  let runId ← expect .database event.runId
  ensure ((rows.all fun row => row.runId ≠ runId) = true) .database
  return rows ++ [⟨runId, event.sessionId, run.state, event.sequence⟩]

/-- The row that `events_project_run_state_after_insert` updates. -/
def RunStateRow.projects (row : RunStateRow) (before after : RunState) : Bool :=
  some row.runId = event.runId && row.sessionId = event.sessionId && row.state = before &&
    row.stateSequence < event.sequence && validRunTransition before after

/-- `events_project_run_state_after_insert`: exactly one row changes. -/
def projectRunStateChange (before after : RunState) : Except StoreError (List RunStateRow) := do
  ensure ((rows.countP fun row => row.projects event before after) = 1) .database
  return rows.map fun row =>
    if row.projects event before after then
      { row with state := after, stateSequence := event.sequence }
    else row

/-- The triggers that an insert into `events` fires on `run_state_projection`. -/
def projectRunStates : Except StoreError (List RunStateRow) :=
  match event.payload with
  | .runCreated run => projectRunCreation rows event run
  | .runStateChanged before after => projectRunStateChange rows event before after
  | _ => .ok rows

end Projection

section Requirements

variable (log : EventLog) (event : EventEnvelope)

/-- `planner_run_id`. -/
def plannerRunId : Except StoreError RunId := expect .invalidStateEvent event.runId

variable (runId : RunId)

def requireNonterminalRun : Except StoreError RunState := do
  let state ← currentRunState log event.sessionId runId
  ensure (state.isTerminal = false) .invalidStateEvent
  return state

def requireRunningRun : Except StoreError Unit := do
  let state ← currentRunState log event.sessionId runId
  ensure (state = .running) .invalidStateEvent

def requireLatestRunParent : Except StoreError Unit := do
  let latest ← latestRunEvent log event.sessionId runId
  ensure (event.causalParent = some latest.id) .invalidStateEvent

/-- A claim as it was committed. -/
structure StoredClaim where
  event : EventEnvelope
  claim : RunClaimed
  deriving DecidableEq

/-- `let EventPayload::RunClaimed(claim) = &claim_event.payload else { return Err(..) }`. -/
def readClaim (claimEvent : EventEnvelope) : Except StoreError StoredClaim :=
  match claimEvent.payload with
  | .runClaimed claim => .ok ⟨claimEvent, claim⟩
  | _ => .error .invalidStateEvent

/-- The latest claim of the run, unexpired and held by the actor of the event. -/
def requireActiveClaimOwner : Except StoreError StoredClaim := do
  let claimEvent ← expect .invalidStateEvent (latestClaimForRun log event.sessionId runId)
  let stored ← readClaim claimEvent
  ensure (claimEvent.actorId = event.actorId ∧
    event.occurredAt < stored.claim.leaseExpiresAt) .invalidStateEvent
  return stored

def requireCurrentClaimOwner (cancellationGeneration : UInt64) : Except StoreError StoredClaim := do
  let stored ← requireActiveClaimOwner log event runId
  ensure (stored.claim.cancellationGeneration = cancellationGeneration ∧
    latestCancellationGeneration log event.sessionId runId = cancellationGeneration)
    .invalidStateEvent
  return stored

def requireLatestClaimOwner : Except StoreError StoredClaim := do
  let stored ← requireActiveClaimOwner log event runId
  ensure (stored.claim.cancellationGeneration =
    latestCancellationGeneration log event.sessionId runId) .invalidStateEvent
  return stored

def durableSessionAndRun (sessionId : SessionId) : Except StoreError (Session × Run) := do
  let session ← expect .invalidStateEvent (storedSession log sessionId)
  let run ← durableRunForEvent log sessionId runId
  return (session, run)

/-- `expected_backend_selection`. -/
def expectedBackendSelection (run : Run) (backendModel : BackendModelIdentity) :
    BackendSelection where
  backendId := backendModel.backendId
  kind := backendModel.kind
  model := some backendModel.modelId
  reasoningEffort := run.spec.backend.reasoningEffort

def requireExactModelProvenance (expectedBackend : BackendSelection)
    (expectedRawArtifact : Option ArtifactRef) : Except StoreError Unit :=
  ensure (event.provenance.backend = some expectedBackend ∧
    event.provenance.rawArtifact = expectedRawArtifact) .invalidStateEvent

end Requirements

end BirdCode.Store
