import BirdCode.Lib.Run
import BirdCode.Scheduler.Accepted

/-! The executor of a validated graph as a step function. One step retains at most one record, so
that every order in which the in-flight work orders are polled is a run. -/
namespace BirdCode.Scheduler

/-- What the records of a run say about its work orders; the four maps of `apply_terminal`. -/
structure Projection where
  handoffs : BTreeMap WorkOrderId Handoff
  failures : BTreeMap WorkOrderId WorkOrderFailure
  terminalEventIds : BTreeMap WorkOrderId SchedulerEventId
  cleanupUnproven : BTreeSet WorkOrderId
  deriving DecidableEq

def Projection.empty : Projection := ⟨∅, ∅, ∅, ∅⟩

inductive WorkOrderTerminal
  | handoff (handoff : Handoff)
  | failed (workOrderId : WorkOrderId) (failure : WorkOrderFailure)
      (terminalEventId : SchedulerEventId)

def applyTerminal (projection : Projection) : WorkOrderTerminal → Projection
  | .handoff handoff =>
    { projection with
      terminalEventIds :=
        projection.terminalEventIds.insert handoff.workOrderId handoff.retainedEventId
      failures :=
        if handoff.outcome = .completed then projection.failures
        else projection.failures.insert handoff.workOrderId (.incompleteHandoff handoff.outcome)
      handoffs := projection.handoffs.insert handoff.workOrderId handoff }
  | .failed workOrderId failure terminalEventId =>
    { projection with
      cleanupUnproven :=
        if failure.isCleanupUnproven then projection.cleanupUnproven.insert workOrderId
        else projection.cleanupUnproven
      failures := projection.failures.insert workOrderId failure
      terminalEventIds := projection.terminalEventIds.insert workOrderId terminalEventId }

/-- The two identities a work order keeps over its attempts. -/
structure WorkOrderIdentity where
  actorId : ActorId
  executionId : ExecutionId
  deriving DecidableEq

/-- Where a `run_work_order` future stands between two polls. `retrying` is left in the poll that
enters it. -/
inductive Phase
  | created
  | retrying (identity : WorkOrderIdentity) (attemptNumber : ℕ) (parentAttemptId : AttemptId)
      (causalParent : SchedulerEventId)
  | executing (identity : WorkOrderIdentity) (attemptNumber : ℕ) (attemptId : AttemptId)
      (dispatched : SchedulerEventId)
  | cleaning (identity : WorkOrderIdentity) (attemptNumber : ℕ) (attemptId : AttemptId)
      (dispatched : SchedulerEventId)
  deriving DecidableEq

structure WorkOrderFuture where
  order : WorkOrder
  dependencyHandoffs : BTreeMap WorkOrderId Handoff
  phase : Phase
  deriving DecidableEq

def WorkOrderFuture.dependencyHandoffEventIds (future : WorkOrderFuture) :
    BTreeMap WorkOrderId SchedulerEventId :=
  toMap (future.dependencyHandoffs.toList.map fun entry => (entry.1, entry.2.retainedEventId))

structure ActorGraphRun where
  graphSha256 : String
  acceptedEventId : SchedulerEventId
  finishedEventId : SchedulerEventId
  terminalEventIds : BTreeMap WorkOrderId SchedulerEventId
  outcome : ActorGraphOutcome
  handoffs : BTreeMap WorkOrderId Handoff
  failures : BTreeMap WorkOrderId WorkOrderFailure
  maximumInFlight : ℕ
  deriving DecidableEq

inductive ActorGraphExecutionError
  | journal (error : SchedulerJournalError)
  | cleanupUnproven (workOrderIds : List WorkOrderId) (suspendedEventId : SchedulerEventId)
  | schedulerInvariant (pending : List WorkOrderId)
  deriving DecidableEq

/-- Where `execute` itself stands. -/
inductive Control
  | begin
  | looping
  | blocking (blocked : List (WorkOrderId × List WorkOrderId)) (madeProgress : Bool)
  | launching (madeProgress : Bool)
  | awaiting
  | redispatching (index : ℕ)
  | finishing
  | returned (result : Except ActorGraphExecutionError ActorGraphRun)
  deriving DecidableEq

/-- The local state of `execute`, the records this run has retained, the dispatches it has handed
to workers, and how many identifiers it has drawn. -/
structure SchedulerState where
  control : Control
  root : SchedulerEventId
  pending : BTreeSet WorkOrderId
  projection : Projection
  active : List WorkOrderFuture
  maximumInFlight : ℕ
  records : List SchedulerRecord
  calls : List AgentDispatch
  drawn : ℕ
  deriving DecidableEq

/-- Before the root is retained. `pending` is filled at once, as nothing reads it before; `root` is
set when the root is retained. -/
def SchedulerState.start {digest : CanonicalDigest} (graph : ValidatedActorGraph digest) :
    SchedulerState :=
  ⟨.begin, ⟨0⟩, toSet graph.orders.keys, .empty, [], 0, [], [], 0⟩

/-- What a poll of a future finds: its first poll, the end of the worker or its deadline (`none`),
and the end of the cleanup or its deadline (`none`). -/
inductive PollEvent
  | first
  | worker (result : Option (Except AgentFailure AgentCompletion))
  | cleanup (result : Option (Option CleanupReceipt))

inductive Choice
  | run
  | poll (index : ℕ) (event : PollEvent)

/-- A choice of the environment and the journal's answer to the record it leads to, if any. -/
structure Input where
  choice : Choice
  rejection : Option SchedulerJournalError

inductive Effect
  | silent (next : SchedulerState)
  | offer (record : SchedulerRecord) (next : SchedulerState)

inductive Verdict
  | handoff (completion : AgentCompletion)
  | failed (failure : WorkOrderFailure)
  | retry (failure : WorkOrderFailure)

section Judgement

variable (digest : CanonicalDigest)

def judgeCompletion (requireReportedTokenUsage : Bool) (order : WorkOrder)
    (completion : AgentCompletion) : Verdict :=
  if handoffViolations completion ≠ [] then
    .failed (.invalidHandoff (handoffViolations completion)
      (usageViolation completion.usage order.budget requireReportedTokenUsage)
      (completionObservation digest completion))
  else
    match usageViolation completion.usage order.budget requireReportedTokenUsage with
    | some violation => .failed (.usageViolation violation)
    | none => .handoff completion

def judgeFailure (order : WorkOrder) (attemptNumber : ℕ) (failure : AgentFailure) : Verdict :=
  if workerFailureViolations failure ≠ [] then
    .failed (.invalidWorkerFailure (workerFailureViolations failure)
      (usageViolation failure.usage order.budget false) (failureObservation digest failure))
  else
    match usageViolation failure.usage order.budget false with
    | some violation => .failed (.usageViolation violation)
    | none =>
      if failure.isRetryable ∧ attemptNumber + 1 < order.budget.maxAttempts.toNat then
        .retry (.worker failure)
      else .failed (.worker failure)

def judgeCleanup (order : WorkOrder) (result : Option (Option CleanupReceipt)) :
    WorkOrderFailure :=
  match result.join.bind fun receipt => boundedReceipt receipt.cleanupReceiptId with
  | some cleanupReceiptId => .deadlineExceeded order.budget.maxWallTimeMs cleanupReceiptId
  | none => .cleanupUnproven order.budget.maxWallTimeMs order.budget.maxCleanupTimeMs

end Judgement

section Execute

variable {digest : CanonicalDigest} (graph : ValidatedActorGraph digest) (draw : ℕ → Uuid)

def failedDependencies (failures : BTreeMap WorkOrderId WorkOrderFailure) (order : WorkOrder) :
    List WorkOrderId :=
  order.dependencies.toList.filter fun dependency => failures.contains dependency

/-- The pending orders with a failed dependency, each with those dependencies. -/
def blockedOrders (pending : BTreeSet WorkOrderId) (failures : BTreeMap WorkOrderId WorkOrderFailure) :
    List (WorkOrderId × List WorkOrderId) :=
  pending.toList.filterMap fun id =>
    graph.orders[id]?.bind fun order =>
      if failedDependencies failures order ≠ [] then some (id, failedDependencies failures order)
      else none

/-- Higher priority first, then the smaller id. -/
def dispatchesBefore (left right : WorkOrder) : Prop :=
  right.priority < left.priority ∨
    left.priority = right.priority ∧ left.id.uuid ≤ right.id.uuid

instance : DecidableRel dispatchesBefore := fun _ _ => inferInstanceAs (Decidable (_ ∨ _))

/-- The pending orders all of whose dependencies have a handoff, in dispatch order. -/
def readyOrders (pending : BTreeSet WorkOrderId) (handoffs : BTreeMap WorkOrderId Handoff) :
    List WorkOrder :=
  ((pending.toList.filterMap (graph.orders[·]?)).filter fun order =>
    order.dependencies.toList.all fun dependency => handoffs.contains dependency).insertionSort
    dispatchesBefore

def slots (s : SchedulerState) : ℕ := graph.policy.limits.maxParallel.toNat - s.active.length

def createFuture (handoffs : BTreeMap WorkOrderId Handoff) (order : WorkOrder) : WorkOrderFuture where
  order := order
  dependencyHandoffs := toMap (order.dependencies.toList.filterMap fun dependency =>
    handoffs[dependency]?.map fun handoff => (dependency, handoff))
  phase := .created

def launched (s : SchedulerState) : List WorkOrder :=
  (readyOrders graph s.pending s.projection.handoffs).take (slots graph s)

/-- Moves the launched orders from pending to in flight. -/
def launch (s : SchedulerState) : SchedulerState :=
  if slots graph s > 0 then
    let active := s.active ++ (launched graph s).map (createFuture s.projection.handoffs)
    { s with
      pending := (launched graph s).foldl (fun pending order => pending.erase order.id) s.pending
      active := active
      maximumInFlight := max s.maximumInFlight (min active.length (2 ^ 32 - 1)) }
  else s

/-- What `execute` does after the launch. -/
def afterLaunch (s : SchedulerState) (madeProgress : Bool) : Control :=
  if s.active ≠ [] then .awaiting
  else if s.pending.isEmpty then .finishing
  else if madeProgress then .looping
  else .returned (.error (.schedulerInvariant s.pending.toList))

def blockRecord (s : SchedulerState) (id : WorkOrderId) (dependencyIds : List WorkOrderId) :
    SchedulerRecord :=
  let dependencyTerminalEventIds : BTreeMap WorkOrderId SchedulerEventId :=
    toMap (dependencyIds.filterMap fun dependencyId =>
      s.projection.terminalEventIds[dependencyId]?.map fun eventId => (dependencyId, eventId))
  { id := ⟨draw s.drawn⟩
    causalParent := some ((firstValue dependencyTerminalEventIds).getD s.root)
    event := .workOrderBlocked id dependencyIds dependencyTerminalEventIds }

def block (s : SchedulerState) (id : WorkOrderId) (dependencyIds : List WorkOrderId)
    (rest : List (WorkOrderId × List WorkOrderId)) : SchedulerState :=
  { s with
    control := .blocking rest true
    pending := s.pending.erase id
    projection := { s.projection with
      failures := s.projection.failures.insert id (.dependencyFailed dependencyIds)
      terminalEventIds := s.projection.terminalEventIds.insert id ⟨draw s.drawn⟩ }
    drawn := s.drawn + 1 }

def suspendRecord (s : SchedulerState) : SchedulerRecord :=
  let workOrderIds := s.projection.cleanupUnproven.toList
  { id := ⟨draw s.drawn⟩
    causalParent := some
      ((workOrderIds.findSome? (s.projection.terminalEventIds[·]?)).getD s.root)
    event := .graphSuspended workOrderIds s.pending.toList s.projection.terminalEventIds }

def runOutcome (s : SchedulerState) : ActorGraphOutcome :=
  if s.projection.failures.isEmpty ∧ s.projection.handoffs.size = graph.orders.size then .completed
  else .failed

def finishRecord (s : SchedulerState) : SchedulerRecord where
  id := ⟨draw s.drawn⟩
  causalParent := some ((firstValue s.projection.terminalEventIds).getD s.root)
  event := .graphFinished (runOutcome graph s) s.projection.terminalEventIds

def finishedRun (s : SchedulerState) : ActorGraphRun where
  graphSha256 := graph.digestSha256
  acceptedEventId := s.root
  finishedEventId := ⟨draw s.drawn⟩
  terminalEventIds := s.projection.terminalEventIds
  outcome := runOutcome graph s
  handoffs := s.projection.handoffs
  failures := s.projection.failures
  maximumInFlight := s.maximumInFlight

/-- What an attempt of a future starts from. -/
structure AttemptStart where
  identity : WorkOrderIdentity
  attemptNumber : ℕ
  parentAttemptId : Option AttemptId
  causalParent : SchedulerEventId
  drawn : ℕ

/-- A first attempt draws the identities and follows the first dependency handoff or the root; a
retry follows the failed attempt. -/
def attemptStart (s : SchedulerState) (future : WorkOrderFuture) : Option AttemptStart :=
  match future.phase with
  | .created => some {
      identity := ⟨⟨draw s.drawn⟩, ⟨draw (s.drawn + 1)⟩⟩
      attemptNumber := 0
      parentAttemptId := none
      causalParent := (firstValue future.dependencyHandoffEventIds).getD s.root
      drawn := s.drawn + 2 }
  | .retrying identity attemptNumber parentAttemptId causalParent =>
    some ⟨identity, attemptNumber, some parentAttemptId, causalParent, s.drawn⟩
  | _ => none

def dispatchRecord (s : SchedulerState) (future : WorkOrderFuture) (start : AttemptStart) :
    SchedulerRecord where
  id := ⟨draw (start.drawn + 1)⟩
  causalParent := some start.causalParent
  event := .attemptDispatched {
    workOrderId := future.order.id
    actorId := start.identity.actorId
    executionId := start.identity.executionId
    attemptId := ⟨draw start.drawn⟩
    parentAttemptId := start.parentAttemptId
    graphAcceptedEventId := s.root
    attestation := dispatchAttestation digest graph.digestSha256 future.order
    dependencyHandoffEventIds := future.dependencyHandoffEventIds }

def agentDispatch (s : SchedulerState) (future : WorkOrderFuture) (start : AttemptStart) :
    AgentDispatch where
  actorId := start.identity.actorId
  executionId := start.identity.executionId
  attemptId := ⟨draw start.drawn⟩
  parentAttemptId := start.parentAttemptId
  graphAcceptedEventId := s.root
  graphSha256 := graph.digestSha256
  attestation := dispatchAttestation digest graph.digestSha256 future.order
  workOrder := future.order
  dependencyHandoffs := future.dependencyHandoffs
  dependencyHandoffEventIds := future.dependencyHandoffEventIds

/-- Retains the dispatch and hands it to the worker. -/
def dispatchEffect (s : SchedulerState) (index : ℕ) (future : WorkOrderFuture) : Option Effect :=
  (attemptStart draw s future).map fun start =>
    .offer (dispatchRecord graph draw s future start)
      { s with
        control := .awaiting
        active := s.active.set index { future with
          phase := .executing start.identity start.attemptNumber ⟨draw start.drawn⟩
            ⟨draw (start.drawn + 1)⟩ }
        calls := s.calls ++ [agentDispatch graph draw s future start]
        drawn := start.drawn + 2 }

def failRecord (s : SchedulerState) (future : WorkOrderFuture) (identity : WorkOrderIdentity)
    (attemptId : AttemptId) (dispatched : SchedulerEventId) (failure : WorkOrderFailure)
    (willRetry : Bool) : SchedulerRecord where
  id := ⟨draw s.drawn⟩
  causalParent := some dispatched
  event := .attemptFailed ⟨future.order.id, identity.executionId, attemptId, failure, willRetry⟩

/-- A future that returns leaves the in-flight set and its terminal is applied. -/
def settle (s : SchedulerState) (index : ℕ) (terminal : WorkOrderTerminal) (drawn : ℕ) :
    SchedulerState :=
  { s with
    control := .looping
    active := s.active.eraseIdx index
    projection := applyTerminal s.projection terminal
    drawn := drawn }

def failEffect (s : SchedulerState) (index : ℕ) (future : WorkOrderFuture)
    (identity : WorkOrderIdentity) (attemptId : AttemptId) (dispatched : SchedulerEventId)
    (failure : WorkOrderFailure) : Effect :=
  .offer (failRecord draw s future identity attemptId dispatched failure false)
    (settle s index (.failed future.order.id failure ⟨draw s.drawn⟩) (s.drawn + 1))

def retryEffect (s : SchedulerState) (index : ℕ) (future : WorkOrderFuture)
    (identity : WorkOrderIdentity) (attemptNumber : ℕ) (attemptId : AttemptId)
    (dispatched : SchedulerEventId) (failure : WorkOrderFailure) : Effect :=
  .offer (failRecord draw s future identity attemptId dispatched failure true)
    { s with
      control := .redispatching index
      active := s.active.set index { future with
        phase := .retrying identity (attemptNumber + 1) attemptId ⟨draw s.drawn⟩ }
      drawn := s.drawn + 1 }

def retainedHandoff (s : SchedulerState) (future : WorkOrderFuture) (identity : WorkOrderIdentity)
    (attemptId : AttemptId) (completion : AgentCompletion) : Handoff where
  id := ⟨draw (s.drawn + 1)⟩
  retainedEventId := ⟨draw s.drawn⟩
  workOrderId := future.order.id
  actorId := identity.actorId
  executionId := identity.executionId
  attemptId := attemptId
  outcome := completion.outcome
  summary := completion.summary
  executionReceiptId := completion.executionReceiptId
  artifactSha256 := completion.artifactSha256
  evidenceIds := completion.evidenceIds
  usage := completion.usage

def handoffEffect (s : SchedulerState) (index : ℕ) (future : WorkOrderFuture)
    (identity : WorkOrderIdentity) (attemptId : AttemptId) (dispatched : SchedulerEventId)
    (completion : AgentCompletion) : Effect :=
  let handoff := retainedHandoff draw s future identity attemptId completion
  .offer ⟨handoff.retainedEventId, some dispatched, .handoffRetained handoff⟩
    (settle s index (.handoff handoff) (s.drawn + 2))

def verdictEffect (s : SchedulerState) (index : ℕ) (future : WorkOrderFuture)
    (identity : WorkOrderIdentity) (attemptNumber : ℕ) (attemptId : AttemptId)
    (dispatched : SchedulerEventId) : Verdict → Effect
  | .handoff completion =>
    handoffEffect draw s index future identity attemptId dispatched completion
  | .failed failure => failEffect draw s index future identity attemptId dispatched failure
  | .retry failure =>
    retryEffect draw s index future identity attemptNumber attemptId dispatched failure

/-- What one poll of a future does. -/
def pollEffect (s : SchedulerState) (index : ℕ) (future : WorkOrderFuture) (event : PollEvent) :
    Option Effect :=
  match future.phase, event with
  | .created, .first => dispatchEffect graph draw s index future
  | .executing identity attemptNumber attemptId dispatched, .worker (some (.ok completion)) =>
    some (verdictEffect draw s index future identity attemptNumber attemptId dispatched
      (judgeCompletion digest graph.policy.requireReportedTokenUsage future.order completion))
  | .executing identity attemptNumber attemptId dispatched, .worker (some (.error failure)) =>
    some (verdictEffect draw s index future identity attemptNumber attemptId dispatched
      (judgeFailure digest future.order attemptNumber failure))
  | .executing identity attemptNumber attemptId dispatched, .worker none =>
    some (.silent { s with
      active := s.active.set index { future with
        phase := .cleaning identity attemptNumber attemptId dispatched } })
  | .cleaning identity _ attemptId dispatched, .cleanup result =>
    some (failEffect draw s index future identity attemptId dispatched
      (judgeCleanup future.order result))
  | _, _ => none

/-- What a choice of the environment leads to, before the journal has answered. -/
def plan (s : SchedulerState) : Choice → Option Effect
  | .run =>
    match s.control with
    | .begin => some (.offer
        ⟨⟨draw s.drawn⟩, none, .graphAccepted graph.digestSha256 graph.policy.policyVersion
          graph.policy.planInputSnapshotSha256⟩
        { s with
          control := .looping
          root := ⟨draw s.drawn⟩
          drawn := s.drawn + 1 })
    | .looping =>
      if s.projection.cleanupUnproven.isEmpty then
        some (.silent { s with
          control := .blocking (blockedOrders graph s.pending s.projection.failures) false })
      else if s.active = [] then
        some (.offer (suspendRecord draw s) { s with
          control := .returned (.error (.cleanupUnproven s.projection.cleanupUnproven.toList
            ⟨draw s.drawn⟩))
          drawn := s.drawn + 1 })
      else some (.silent { s with control := .awaiting })
    | .blocking [] madeProgress => some (.silent { s with control := .launching madeProgress })
    | .blocking ((id, dependencyIds) :: rest) _ =>
      some (.offer (blockRecord draw s id dependencyIds) (block draw s id dependencyIds rest))
    | .launching madeProgress =>
      let next := launch graph s
      some (.silent { next with
        control := afterLaunch next (madeProgress || launched graph s ≠ []) })
    | .awaiting =>
      if s.active = [] then
        some (.silent { s with
          control := .returned (.error (.schedulerInvariant s.pending.toList)) })
      else none
    | .redispatching index =>
      s.active[index]?.bind fun future =>
        match future.phase with
        | .retrying .. => dispatchEffect graph draw s index future
        | _ => none
    | .finishing => some (.offer (finishRecord graph draw s) { s with
        control := .returned (.ok (finishedRun graph draw s))
        drawn := s.drawn + 1 })
    | .returned _ => none
  | .poll index event =>
    match s.control with
    | .awaiting => s.active[index]?.bind fun future => pollEffect graph draw s index future event
    | _ => none

/-- One step: a silent effect, a record the journal acknowledges, or a rejected record, which
ends the run. -/
def step (s : SchedulerState) (input : Input) : Option SchedulerState :=
  match plan graph draw s input.choice, input.rejection with
  | some (.silent next), none => some next
  | some (.offer record next), none => some { next with records := s.records ++ [record] }
  | some (.offer _ _), some error =>
    some { s with control := .returned (.error (.journal error)) }
  | _, _ => none

end Execute

end BirdCode.Scheduler
