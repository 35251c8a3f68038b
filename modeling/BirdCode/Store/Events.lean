import BirdCode.Store.PlanningRecords
import BirdCode.Store.SnapshotRecords

/-! The event log and the queries that replay and admission make of it. A query that replay makes
is either by event identity or bounded by the sequence of the event being replayed. -/
namespace BirdCode.Store

structure Session where
  id : SessionId
  workspaceRoot : WorkspacePath
  deriving DecidableEq

/-- The kinds of events. The recovery of a repository snapshot is one kind here: appends refuse
all of it. -/
inductive EventPayload
  | sessionCreated (session : Session)
  | userInput (items : Value)
  | runCreated (run : Run)
  | runStateChanged (before after : RunState)
  | runClaimed (claim : RunClaimed)
  | cancellationRequested (cancellation : CancellationRequested)
  | rootPlanningFailed (failure : RootPlanningFailed)
  | rootPlanningStageFailed (failure : RootPlanningStageFailed)
  | plannerInferencePrepared (prepared : PlannerInferencePrepared)
  | plannerInferenceObserved (observed : PlannerInferenceObserved)
  | plannerInferenceOutcomeUnknown (unknown : PlannerInferenceOutcomeUnknown)
  | readOperationPrepared (prepared : ReadOperationPrepared)
  | readOperationObserved (observed : ReadOperationObserved)
  | planProposalRejected (rejected : PlanProposalRejected)
  | planProposalAccepted (accepted : PlanProposalAccepted)
  | planSemanticReviewAccepted (accepted : PlanSemanticReviewAccepted)
  | planSemanticReviewRejected (rejected : PlanSemanticReviewRejected)
  | plannerTurnPrepared (prepared : PlannerTurnPrepared)
  | plannerTurnObserved (observed : PlannerTurnObserved)
  | plannerTurnUnknown (unknown : PlannerTurnUnknown)
  | plannerTurnAccepted (accepted : PlannerTurnAccepted)
  | plannerTurnRejected (rejected : PlannerTurnRejected)
  | reconCompletionGateAccepted (gate : ReconCompletionGateAccepted)
  | repositoryWriterLeaseRevoked (revoked : RepositoryWriterLeaseRevoked)
  | repositorySnapshotCaptureClaimAdopted (adopted : RepositorySnapshotCaptureClaimAdopted)
  | repositorySnapshotLeaseIssued (issued : RepositorySnapshotLeaseIssued)
  | repositorySnapshotLeaseReleased (released : RepositorySnapshotLeaseReleased)
  | repositorySnapshotRecovery (kind : SnapshotRecoveryKind) (data : Value)
  | repositoryBrokerEpochActivated (activated : RepositoryBrokerEpochActivated)
  | childDelegationAuthorized (authorized : ChildDelegationAuthorized)
  | childDelegationAuthorizedV2 (authorized : ChildDelegationAuthorizedV2)
  | childWorkOrderIssued (issued : ChildWorkOrderIssued)
  | childExecutionClaimAdopted (adopted : ChildExecutionClaimAdopted)
  | childExecutionStarted (started : ChildExecutionStarted)
  | childModelInferencePrepared (prepared : ChildModelInferencePrepared)
  | childModelInferencePreparedV2 (prepared : ChildModelInferencePreparedV2)
  | childModelInferenceObserved (observed : ChildModelInferenceObserved)
  | childModelInferenceOutcomeUnknown (unknown : ChildModelInferenceOutcomeUnknown)
  | childToolPrepared (prepared : ChildToolPrepared RepositoryToolAuthorizationDecision)
  | childToolPreparedV2 (prepared : ChildToolPrepared RepositoryToolAuthorizationDecisionV2)
  | childToolDispatchStartedV2 (started : ChildToolDispatchStartedV2)
  | childToolObserved (observed : ChildToolObserved ChildToolObservation)
  | childToolObservedV2 (observed : ChildToolObserved RepositoryToolObservedTerminalV2)
  | childToolOutcomeUnknown (unknown : ChildToolOutcomeUnknown)
  | childToolOutcomeUnknownV2 (unknown : ChildToolOutcomeUnknownV2)
  | childHandoffCommitted (handoff : ChildHandoffCommitted)
  | childExecutionFinished (finished : ChildExecutionFinished)
  | backendEvent (eventType : String) (data : Value)
  | artifactStored (artifact : ArtifactRef)
  deriving DecidableEq

structure Provenance where
  producer : String
  backend : Option BackendSelection
  rawArtifact : Option ArtifactRef
  deriving DecidableEq

structure EventEnvelope where
  id : EventId
  sequence : ℕ
  sessionId : SessionId
  runId : Option RunId
  actorId : ActorId
  causalParent : Option EventId
  occurredAt : DateTime
  provenance : Provenance
  payload : EventPayload
  deriving DecidableEq

namespace EventPayload

def isRunClaimed : EventPayload → Bool
  | .runClaimed _ => true
  | _ => false

def isCancellationRequested : EventPayload → Bool
  | .cancellationRequested _ => true
  | _ => false

def isBrokerEpochActivated : EventPayload → Bool
  | .repositoryBrokerEpochActivated _ => true
  | _ => false

def isChildWorkOrderIssued : EventPayload → Bool
  | .childWorkOrderIssued _ => true
  | _ => false

/-- `child_work_order_id`. -/
def childWorkOrderId : EventPayload → Option ChildWorkOrderId
  | .childWorkOrderIssued issued => some issued.spec.workOrderId
  | .childExecutionClaimAdopted adopted => some adopted.workOrderId
  | .childExecutionStarted started => some started.binding.workOrderId
  | .childModelInferencePrepared prepared => some prepared.binding.workOrderId
  | .childModelInferencePreparedV2 prepared => some prepared.prepared.binding.workOrderId
  | .childModelInferenceObserved observed => some observed.binding.workOrderId
  | .childModelInferenceOutcomeUnknown unknown => some unknown.binding.workOrderId
  | .childToolPrepared prepared => some prepared.binding.workOrderId
  | .childToolObserved observed => some observed.binding.workOrderId
  | .childToolOutcomeUnknown unknown => some unknown.binding.workOrderId
  | .childToolPreparedV2 prepared => some prepared.binding.workOrderId
  | .childToolDispatchStartedV2 started => some started.binding.workOrderId
  | .childToolObservedV2 observed => some observed.binding.workOrderId
  | .childToolOutcomeUnknownV2 unknown => some unknown.binding.workOrderId
  | .childHandoffCommitted handoff => some handoff.binding.workOrderId
  | .childExecutionFinished finished => some finished.binding.workOrderId
  | _ => none

end EventPayload

/-- A row of `run_state_projection`. -/
structure RunStateRow where
  runId : RunId
  sessionId : SessionId
  state : RunState
  stateSequence : ℕ
  deriving DecidableEq

/-- The rows of the `events` table in the order they were committed, and the run states projected
beside them: identities are a primary key and each session counts its own sequence upwards. -/
structure EventLog where
  events : List EventEnvelope
  runStates : List RunStateRow
  idsDistinct : (events.map EventEnvelope.id).Nodup
  ordered : events.Pairwise fun a b => a.sessionId = b.sessionId → a.sequence < b.sequence

section Queries

variable (log : EventLog) (sessionId : SessionId) (runId : RunId)

def storedEventForRun (eventId : EventId) : Except StoreError EventEnvelope :=
  expect .invalidStateEvent <| log.events.find? fun event =>
    event.id = eventId ∧ event.runId = some runId ∧ event.sessionId = sessionId

/-- `ORDER BY sequence DESC LIMIT 1` over one run's events of one kind before a sequence. -/
def latestBefore (kind : EventPayload → Bool) (upperSequenceExclusive : ℕ) :
    Option EventEnvelope :=
  (log.events.filter fun event =>
    event.sessionId = sessionId ∧ event.runId = some runId ∧
      event.sequence < upperSequenceExclusive ∧ kind event.payload = true).getLast?

/-- The same without an upper bound. -/
def latest (kind : EventPayload → Bool) : Option EventEnvelope :=
  (log.events.filter fun event =>
    event.sessionId = sessionId ∧ event.runId = some runId ∧ kind event.payload = true).getLast?

def latestClaimForRunBefore (upperSequenceExclusive : ℕ) : Option EventEnvelope :=
  latestBefore log sessionId runId EventPayload.isRunClaimed upperSequenceExclusive

def latestCancellationForRunBefore (upperSequenceExclusive : ℕ) : Option EventEnvelope :=
  latestBefore log sessionId runId EventPayload.isCancellationRequested upperSequenceExclusive

def latestBrokerEpochBefore (upperSequenceExclusive : ℕ) : Option EventEnvelope :=
  latestBefore log sessionId runId EventPayload.isBrokerEpochActivated upperSequenceExclusive

def latestClaimForRun : Option EventEnvelope :=
  latest log sessionId runId EventPayload.isRunClaimed

/-- `COALESCE(MAX(cancellation_generation), 0)` over the events the predicate selects. -/
def maxCancellationGeneration (events : List EventEnvelope) : UInt64 :=
  events.foldl (fun generation event =>
    match event.payload with
    | .cancellationRequested cancellation => max generation cancellation.cancellationGeneration
    | _ => generation) 0

def latestCancellationGenerationBefore (upperSequenceExclusive : ℕ) : UInt64 :=
  maxCancellationGeneration <| log.events.filter fun event =>
    event.sessionId = sessionId ∧ event.runId = some runId ∧
      event.sequence < upperSequenceExclusive

def latestCancellationGeneration : UInt64 :=
  maxCancellationGeneration <| log.events.filter fun event =>
    event.sessionId = sessionId ∧ event.runId = some runId

end Queries

end BirdCode.Store
