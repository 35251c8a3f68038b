import BirdCode.Lib.Run
import BirdCode.Tooling.Broker

/-! Clients of one broker. A call of a client is a few steps, each with at most one section under a
lock, and the steps of different clients interleave in any order. -/
namespace BirdCode.Tooling

open Store Lib

section Machine

/-- Where a client is inside a call. Between two steps it holds no lock. -/
inductive Task
  | executing (input : RepositoryToolExecuteInputV2)
  | consumed (input : RepositoryToolExecuteInputV2)
  | interrupting (input : RepositoryToolInterruptionInputV2) (terminal : RepositoryToolTerminalV2)
  | reconciling (input : RepositoryToolInterruptionInputV2)

/-- What the calls did and returned. -/
inductive Outcome
  | prepared (input : RepositoryToolPrepareInputV2) (call : PreparedRepositoryToolCallV2)
  | prepareFailed (error : RepositoryBrokerErrorV2)
  | notStarted (call : PreparedRepositoryToolCallV2) (error : RepositoryBrokerErrorV2)
  | accessed (call : PreparedRepositoryToolCallV2)
  | executed (call : PreparedRepositoryToolCallV2) (terminal : RepositoryToolTerminalV2)
  | indeterminate (call : PreparedRepositoryToolCallV2) (error : RepositoryBrokerErrorV2)
  | interrupted (call : PreparedRepositoryToolCallV2) (terminal : RepositoryToolTerminalV2)
  | interruptionFailed (call : PreparedRepositoryToolCallV2) (error : RepositoryBrokerErrorV2)
  | reconciled (call : PreparedRepositoryToolCallV2) (terminal : RepositoryToolTerminalV2)
  | reconciliationFailed (call : PreparedRepositoryToolCallV2) (error : RepositoryBrokerErrorV2)

variable {Client : Type} [DecidableEq Client]

structure System (Client : Type) where
  state : BrokerPrepareState
  reconciled : List ReconciliationKey
  tasks : Client → Option Task
  history : List Outcome

def System.start : System Client := ⟨.start, [], fun _ => none, []⟩

/-- The next section of a client's call, with what its clocks and the filesystem report. -/
inductive Action (Client : Type)
  | prepare (client : Client) (input : RepositoryToolPrepareInputV2) (monotonicNanos : UInt64)
  | execute (client : Client) (input : RepositoryToolExecuteInputV2)
  | consume (client : Client)
  | finish (client : Client) (runtimeFinishedAt : RuntimeClockReading) (monotonicNanos : UInt64)
      (result : Except RepositoryToolFailure (RepositoryToolResultV2 Bytes))
  | interrupt (client : Client) (input : RepositoryToolInterruptionInputV2)
      (monotonicNanos : UInt64)
  | close (client : Client)
  | reconcile (client : Client) (input : RepositoryToolInterruptionInputV2)
  | settle (client : Client)

def System.record (system : System Client) (outcomes : List Outcome) : System Client :=
  { system with history := system.history ++ outcomes }

def System.setTask (system : System Client) (client : Client) (task : Option Task) :
    System Client :=
  { system with tasks := Function.update system.tasks client task }

variable (platform : Platform) (broker : BrokerSetup)

/-- `validate_active_prepared`. -/
def validateActivePrepared (state : BrokerPrepareState) (prepared : PreparedRepositoryToolCallV2) :
    Except RepositoryBrokerErrorV2 Unit := do
  validateActiveBundle platform broker prepared
  validateIssued platform state prepared

/-- `record_interruption` up to the point where it consumes the call. -/
def prepareInterruption (state : BrokerPrepareState) (input : RepositoryToolInterruptionInputV2)
    (monotonicNanos : UInt64) : Except RepositoryBrokerErrorV2 RepositoryToolTerminalV2 := do
  validateInterruptionMetadata input.boundary input.cancellation
  validateActivePrepared platform broker state input.prepared
  interruptionTerminal platform broker input monotonicNanos

/-- `record_interruption` without another client between its sections. -/
def recordInterruption (state : BrokerPrepareState) (input : RepositoryToolInterruptionInputV2)
    (monotonicNanos : UInt64) :
    Except RepositoryBrokerErrorV2 (RepositoryToolTerminalV2 × BrokerPrepareState) := do
  let terminal ← prepareInterruption platform broker state input monotonicNanos
  let next ← consume state input.prepared
  return (terminal, next)

/-- `reconcile_abandoned_prepared` up to the point where it releases the lock. -/
def beginReconciliation (reconciled : List ReconciliationKey)
    (input : RepositoryToolInterruptionInputV2) :
    Except RepositoryBrokerErrorV2 (List ReconciliationKey) := do
  validateAbandoned platform broker input
  markReconciled platform reconciled input.prepared

/-- `reconcile_abandoned_prepared` without another client between its sections. -/
def reconcileAbandonedPrepared (reconciled : List ReconciliationKey)
    (input : RepositoryToolInterruptionInputV2) :
    Except RepositoryBrokerErrorV2 (RepositoryToolTerminalV2 × List ReconciliationKey) := do
  let next ← beginReconciliation platform broker reconciled input
  let terminal ← reconciliationTerminal platform input
  return (terminal, next)

/-- The filesystem is entered for an authorized call, right after it is consumed. -/
def accesses (call : PreparedRepositoryToolCallV2) : List Outcome :=
  if call.receipt.authorization = .authorized then [.accessed call] else []

def step (system : System Client) : Action Client → Option (System Client)
  | .prepare client input monotonicNanos =>
    if (system.tasks client).isSome then none
    else match prepare platform broker system.state input monotonicNanos with
      | .ok (call, state) => some ({ system with state }.record [.prepared input call])
      | .error error => some (system.record [.prepareFailed error])
  | .execute client input =>
    if (system.tasks client).isSome then none
    else match validateActivePrepared platform broker system.state input.prepared with
      | .ok () => some (system.setTask client (some (.executing input)))
      | .error error => some (system.record [.notStarted input.prepared error])
  | .consume client =>
    match system.tasks client with
    | some (.executing input) =>
      match consume system.state input.prepared with
      | .ok state => some (({ system with state }.setTask client (some (.consumed input))).record
          (accesses input.prepared))
      | .error error =>
        some ((system.setTask client none).record [.notStarted input.prepared error])
    | _ => none
  | .finish client runtimeFinishedAt monotonicNanos result =>
    match system.tasks client with
    | some (.consumed input) =>
      match executedTerminal platform broker
          { prepared := input.prepared, preparedEventId := input.preparedEventId,
            runtimeFinishedAt, monotonicNanos } result with
      | .ok terminal =>
        some ((system.setTask client none).record [.executed input.prepared terminal])
      | .error error =>
        some ((system.setTask client none).record [.indeterminate input.prepared error])
    | _ => none
  | .interrupt client input monotonicNanos =>
    if (system.tasks client).isSome then none
    else match prepareInterruption platform broker system.state input monotonicNanos with
      | .ok terminal => some (system.setTask client (some (.interrupting input terminal)))
      | .error error => some (system.record [.interruptionFailed input.prepared error])
  | .close client =>
    match system.tasks client with
    | some (.interrupting input terminal) =>
      match consume system.state input.prepared with
      | .ok state => some (({ system with state }.setTask client none).record
          [.interrupted input.prepared terminal])
      | .error error =>
        some ((system.setTask client none).record [.interruptionFailed input.prepared error])
    | _ => none
  | .reconcile client input =>
    if (system.tasks client).isSome then none
    else match beginReconciliation platform broker system.reconciled input with
      | .ok reconciled => some ({ system with reconciled }.setTask client (some (.reconciling input)))
      | .error error => some (system.record [.reconciliationFailed input.prepared error])
  | .settle client =>
    match system.tasks client with
    | some (.reconciling input) =>
      match reconciliationTerminal platform input with
      | .ok terminal =>
        some ((system.setTask client none).record [.reconciled input.prepared terminal])
      | .error error =>
        some ((system.setTask client none).record [.reconciliationFailed input.prepared error])
    | _ => none

end Machine

end BirdCode.Tooling
