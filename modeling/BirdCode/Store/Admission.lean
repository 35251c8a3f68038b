import BirdCode.Store.ChildAdmission

/-! The append of one event: what admission requires of every event, the dispatch over the kinds,
and the logs that appends lead to. -/
namespace BirdCode.Store

variable (documents : PlanningDocuments) (env : Environment) (log : EventLog)

section Kinds

/-- The gate of the kinds that a parallel reconnaissance run takes from one append path only. -/
def rejectParallelReconUnless (event : EventEnvelope) (admission owner : EventAdmission) :
    Except StoreError Unit := do
  let runId ← plannerRunId event
  let run ← durableRunForClaimRefresh log runId
  ensure (run.isParallelRecon = true → admission = owner) .invalidStateEvent

/-- `validate_root_planning_failure_fence`. -/
def validateRootPlanningFailureFence (event : EventEnvelope) : Except StoreError Unit :=
  match event.runId with
  | none => .ok ()
  | some runId =>
    whenever ((runEvents log event.sessionId runId).any (fun stored =>
        stored.payload.isRootPlanningFailure) = true) <|
      match event.payload with
      | .runClaimed _ | .cancellationRequested _ | .runStateChanged .. => .ok ()
      | _ => .error .invalidStateEvent

/-- `pending_cleanup_blocks_payload`. -/
def pendingCleanupBlocksPayload : EventPayload → Bool
  | .runStateChanged _ after => after.isTerminal
  | .sessionCreated _ | .userInput _ | .runCreated _ | .cancellationRequested _
  | .rootPlanningFailed _ | .rootPlanningStageFailed _ | .plannerInferencePrepared _
  | .plannerInferenceObserved _ | .plannerInferenceOutcomeUnknown _ | .readOperationPrepared _
  | .readOperationObserved _ | .planProposalRejected _ | .planProposalAccepted _
  | .planSemanticReviewAccepted _ | .planSemanticReviewRejected _ | .plannerTurnPrepared _
  | .plannerTurnObserved _ | .plannerTurnUnknown _ | .plannerTurnAccepted _
  | .plannerTurnRejected _ | .reconCompletionGateAccepted _ | .backendEvent ..
  | .artifactStored _ => false
  | _ => true

/-- `validate_pending_cleanup_authority_fence`. No state of the replay is a pending cleanup, so
what is left of the fence is that the lifecycle replays. -/
def validatePendingCleanupAuthorityFence (event : EventEnvelope) : Except StoreError Unit :=
  match event.runId with
  | none => .ok ()
  | some runId =>
    whenever (pendingCleanupBlocksPayload event.payload = true) do
      let run ← durableRunForClaimRefresh log runId
      whenever (run.isParallelRecon = true) do
        let _ ← replayRepositorySnapshotLifecycle env log run

/-- `validate_generic_event`. -/
def validateGenericEvent (event : EventEnvelope) (admission : EventAdmission) :
    Except StoreError Unit := do
  validatePendingCleanupAuthorityFence env log event
  validateRootPlanningFailureFence log event
  match event.payload with
  | .sessionCreated _ | .runCreated _ | .repositorySnapshotRecovery .. =>
    .error .invalidStateEvent
  | .runStateChanged before after => validateRunStateChange documents env log event before after
  | .runClaimed claim => validateRunClaim env log event claim admission
  | .cancellationRequested request => validateCancellation log event request
  | .rootPlanningFailed failure =>
    validateRootPlanningFailed documents env log event failure
  | .rootPlanningStageFailed failure =>
    validateRootPlanningStageFailed documents env log event failure
  | .plannerInferencePrepared prepared =>
    validatePlannerInferencePrepared documents env log event prepared
  | .plannerInferenceObserved observed =>
    validatePlannerInferenceObserved documents log event observed
  | .plannerInferenceOutcomeUnknown unknown =>
    validatePlannerInferenceUnknown documents env log event unknown
  | .readOperationPrepared prepared => validateReadOperationPrepared log event prepared
  | .readOperationObserved observed => validateReadOperationObserved log event observed
  | .planProposalRejected rejected =>
    validatePlanProposalRejected documents log event rejected
  | .planProposalAccepted accepted =>
    validatePlanProposalAccepted documents log event accepted
  | .planSemanticReviewAccepted accepted =>
    validatePlanSemanticReviewAccepted documents log event accepted
  | .planSemanticReviewRejected rejected =>
    validatePlanSemanticReviewRejected documents log event rejected
  | .plannerTurnPrepared prepared =>
    validatePlannerTurnPrepared documents env log event prepared
  | .plannerTurnObserved observed =>
    validatePlannerTurnObserved documents log event observed
  | .plannerTurnUnknown unknown =>
    validatePlannerTurnUnknown documents env log event unknown
  | .plannerTurnAccepted accepted =>
    validatePlannerTurnAccepted documents log event accepted
  | .plannerTurnRejected rejected =>
    validatePlannerTurnRejected documents log event rejected
  | .reconCompletionGateAccepted accepted => validateReconCompletionGateAccepted documents env log event accepted
  | .repositoryWriterLeaseRevoked revoked =>
    validateRepositoryWriterLeaseRevoked env log event revoked
  | .repositorySnapshotCaptureClaimAdopted adopted => do
    ensure (admission = .parallelReconClaimRefresh) .invalidStateEvent
    validateRepositorySnapshotCaptureClaimAdopted env log event adopted
  | .repositorySnapshotLeaseIssued issued =>
    validateRepositorySnapshotLeaseIssued env log event issued
  | .repositorySnapshotLeaseReleased released =>
    validateRepositorySnapshotLeaseReleased env log event released
  | .repositoryBrokerEpochActivated activated =>
    validateRepositoryBrokerEpochActivated log event activated
  | .childDelegationAuthorized authorized => do
    rejectParallelReconUnless log event admission .parallelReconBootstrap
    validateChildDelegationAuthorized documents env log event authorized
  | .childDelegationAuthorizedV2 authorized => do
    rejectParallelReconUnless log event admission .parallelReconBootstrap
    validateChildDelegationAuthorizedV2 documents env log event authorized
  | .childWorkOrderIssued _ | .childExecutionStarted _ => do
    rejectParallelReconUnless log event admission .parallelReconBootstrap
    validateChildReconnaissanceEvent env log event
  | .childExecutionClaimAdopted _ => do
    rejectParallelReconUnless log event admission .parallelReconClaimRefresh
    validateChildReconnaissanceEvent env log event
  | .childToolPreparedV2 _ => do
    ensure (event.provenance.producer = childRepositoryToolPreparationProducer ↔
      admission = .childToolPreparation) .invalidStateEvent
    validateChildReconnaissanceEvent env log event
  | .childToolDispatchStartedV2 _ => do
    ensure (admission = .childToolDispatchStart) .invalidStateEvent
    validateChildReconnaissanceEvent env log event
  | .childToolObservedV2 _ => do
    ensure (event.provenance.producer = childToolObservedProducer ↔
      admission = .childToolObserved) .invalidStateEvent
    validateChildReconnaissanceEvent env log event
  | .childModelInferencePrepared _ | .childModelInferencePreparedV2 _
  | .childModelInferenceObserved _ | .childModelInferenceOutcomeUnknown _
  | .childToolPrepared _ | .childToolObserved _ | .childToolOutcomeUnknown _
  | .childToolOutcomeUnknownV2 _ | .childHandoffCommitted _ | .childExecutionFinished _ =>
    validateChildReconnaissanceEvent env log event
  | .backendEvent .. => ensure (event.runId.isSome = true) .invalidStateEvent
  | .userInput _ | .artifactStored _ => .ok ()

end Kinds

section Append

/-- `COALESCE(MAX(sequence), 0)` of a session. -/
def currentSequence (sessionId : SessionId) : ℕ :=
  ((log.events.filter fun event => event.sessionId = sessionId).map
    EventEnvelope.sequence).foldl max 0

/-- `validate_exact_event_admission`. -/
def validateExactEventAdmission (event : EventEnvelope) : Except StoreError Unit := do
  ensure ((log.events.all fun stored => stored.id ≠ event.id) = true) .invalidStateEvent
  ensure (event.sequence = currentSequence log event.sessionId + 1) .invalidStateEvent
  ensure (event.payload.createdRun.isNone = true → event.runId.all (fun runId =>
    (storedRun log runId).any fun run => run.spec.sessionId = event.sessionId) = true)
    .invalidStateEvent
  ensure (event.causalParent.all (fun parent => log.events.any fun stored =>
    stored.id = parent ∧ stored.sessionId = event.sessionId) = true) .invalidStateEvent

/-- An insert into the `events` table: the integers of the database, the primary key, the
sequence that only grows, and the triggers that project run states, which abort the insert when
they fail. -/
def EventLog.insert (event : EventEnvelope) : Except StoreError EventLog := do
  ensure (event.sequence ≤ maxSqliteInteger) .database
  let runStates ← projectRunStates log.runStates event
  if h : event.id ∉ log.events.map EventEnvelope.id ∧
      ∀ stored ∈ log.events, stored.sessionId = event.sessionId → stored.sequence < event.sequence
  then return {
    events := log.events ++ [event]
    runStates := runStates
    idsDistinct := by
      rw [List.map_append, List.map_singleton]
      exact List.nodup_append.mpr ⟨log.idsDistinct, List.nodup_singleton _, fun a ha b hb hab =>
        h.1 (List.mem_singleton.mp hb ▸ hab ▸ ha)⟩
    ordered := List.pairwise_append.mpr ⟨log.ordered, List.pairwise_singleton _ _,
      fun a ha b hb => List.mem_singleton.mp hb ▸ h.2 a ha⟩ }
  else .error .database

/-- `new_run_acceptance_contract_is_valid`. -/
def newRunAcceptanceContractIsValid (run : Run) : Bool :=
  match run.spec.purpose, run.spec.planAcceptance with
  | .planOnly, .independentSemanticReviewV1
  | .parallelRepositoryReconnaissanceV1, .independentSemanticReviewV1
  | .execute, .notApplicable => true
  | _, _ => false

/-- The rows of `sessions` and `runs` are inserted with the event that creates them. -/
def validateEventKind (event : EventEnvelope) (admission : EventAdmission) :
    Except StoreError Unit :=
  match event.payload with
  | .sessionCreated session =>
    ensure (event.sessionId = session.id ∧ event.runId = none ∧
      (storedSession log session.id).isNone = true) .invalidStateEvent
  | .runCreated run =>
    ensure (event.sessionId = run.spec.sessionId ∧ event.runId = some run.id ∧
      run.state = .queued ∧ newRunAcceptanceContractIsValid run = true ∧
      (storedRun log run.id).isNone = true ∧
      (storedSession log run.spec.sessionId).isSome = true) .invalidStateEvent
  | _ => do
    ensure ((storedSession log event.sessionId).isSome = true) .invalidStateEvent
    validateGenericEvent documents env log event admission

/-- `apply_exact_event_envelope_with_admission`. -/
def applyExactEventEnvelope (event : EventEnvelope) (admission : EventAdmission) :
    Except StoreError EventLog := do
  validateExactEventAdmission log event
  env.typedArtifactRefs event.provenance event.payload
  validateEventKind documents env log event admission
  let json ← expect .json (env.wires.event.toVec event)
  ensure (json.length ≤ maxInlineEventBytes) .eventTooLarge
  log.insert event

/-- An event to append, by the path it arrives on. -/
structure AppendRequest where
  event : EventEnvelope
  admission : EventAdmission

/-- The transaction of one append: it is rolled back when a check fails. -/
def EventLog.attempt (request : AppendRequest) : EventLog :=
  match applyExactEventEnvelope documents env log request.event request.admission with
  | .ok appended => appended
  | .error _ => log

/-- Appends one after another, whether they succeed or not. -/
def EventLog.attempts (requests : List AppendRequest) : EventLog :=
  requests.foldl (EventLog.attempt documents env) log

/-- The logs that appends lead to from the empty table. -/
inductive Admitted : EventLog → Prop
  | empty : Admitted ⟨[], [], List.nodup_nil, List.Pairwise.nil⟩
  | append {log log' : EventLog} {event : EventEnvelope} {admission : EventAdmission}
      (h : Admitted log) (happly : applyExactEventEnvelope documents env log event admission =
        .ok log') : Admitted log'

/-- What appends lead to from a log. -/
inductive Continues (log : EventLog) : EventLog → Prop
  | refl : Continues log log
  | append {log' log'' : EventLog} {event : EventEnvelope} {admission : EventAdmission}
      (h : Continues log log') (happly : applyExactEventEnvelope documents env log' event admission =
        .ok log'') : Continues log log''

end Append

end BirdCode.Store
