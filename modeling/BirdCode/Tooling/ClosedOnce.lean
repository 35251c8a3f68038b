import BirdCode.Lib.OneShot
import BirdCode.Tooling.BrokerSections

/-! Whatever the order in which the clients of a broker take their steps, a prepared call is closed
at most once and no failure takes its closing away. -/
namespace BirdCode.Tooling

open Store Lib

section Outcomes

def Outcome.published : Outcome → Option PreparedRepositoryToolCallV2
  | .prepared _ call => some call
  | _ => none

/-- The call that got its terminal here, or whose execution ended without one. -/
def Outcome.closed : Outcome → Option ChildToolCallId
  | .executed call _ | .interrupted call _ | .indeterminate call _ =>
    some call.receipt.toolCallId
  | _ => none

/-- The call the filesystem was entered for. -/
def Outcome.entered : Outcome → Option ChildToolCallId
  | .accessed call => some call.receipt.toolCallId
  | _ => none

def Outcome.settled (platform : Platform) : Outcome → Option ReconciliationKey
  | .reconciled call _ => some (reconciliationKey platform call)
  | _ => none

def Outcome.failure : Outcome → Bool
  | .prepareFailed _ | .notStarted .. | .interruptionFailed .. | .reconciliationFailed .. => true
  | _ => false

/-- The call a client has consumed and not yet closed. -/
def Task.spending : Task → Option ChildToolCallId
  | .consumed input => some input.prepared.receipt.toolCallId
  | _ => none

/-- The abandoned call a client has marked and not yet closed. -/
def Task.marking (platform : Platform) : Task → Option ReconciliationKey
  | .reconciling input => some (reconciliationKey platform input.prepared)
  | _ => none

end Outcomes

variable {Client : Type}

section Histories

def System.published (system : System Client) : List PreparedRepositoryToolCallV2 :=
  system.history.filterMap Outcome.published

def System.closed (system : System Client) : List ChildToolCallId :=
  system.history.filterMap Outcome.closed

def System.entered (system : System Client) : List ChildToolCallId :=
  system.history.filterMap Outcome.entered

def System.settled (platform : Platform) (system : System Client) : List ReconciliationKey :=
  system.history.filterMap (Outcome.settled platform)

def System.holder {T : Type} (token : Task → Option T) (system : System Client)
    (client : Client) : Option T :=
  (system.tasks client).bind token

/-- No client has consumed the call. -/
def System.isOpen (system : System Client) (id : ChildToolCallId) : Prop :=
  id ∉ system.closed ∧ ∀ client, system.holder Task.spending client ≠ some id

end Histories

section Closing

/-- The metadata `validate_interruption_metadata` accepts. -/
def RepositoryToolInterruptionInputV2.matched (input : RepositoryToolInterruptionInputV2) : Prop :=
  decide (input.boundary = .cancellation) = input.cancellation.isSome

def Closable (platform : Platform) (broker : BrokerSetup) (state : BrokerPrepareState)
    (call : PreparedRepositoryToolCallV2) : Prop :=
  ∀ input : RepositoryToolInterruptionInputV2, input.prepared = call → input.matched →
    ∀ nanos, ∃ closing, recordInterruption platform broker state input nanos = .ok closing

def Reconcilable (platform : Platform) (broker : BrokerSetup) (reconciled : List ReconciliationKey)
    (call : PreparedRepositoryToolCallV2) : Prop :=
  ∀ input : RepositoryToolInterruptionInputV2, input.prepared = call → input.matched →
    ∃ closing, reconcileAbandonedPrepared platform broker reconciled input = .ok closing

/-- Neither of the three ways closes the call in this broker. -/
structure Unclosable (platform : Platform) (broker : BrokerSetup) (system : System Client)
    (call : PreparedRepositoryToolCallV2) : Prop where
  execute : ∃ error, consume system.state call = .error error
  interrupt : ∀ input : RepositoryToolInterruptionInputV2, input.prepared = call →
    ∀ nanos, ∃ error, recordInterruption platform broker system.state input nanos = .error error
  reconcile : ∀ input : RepositoryToolInterruptionInputV2, input.prepared = call →
    ∃ error, reconcileAbandonedPrepared platform broker system.reconciled input = .error error

/-- What holds of the calls of a broker in one state. -/
structure ClosedOnce (platform : Platform) (broker : BrokerSetup) (system : System Client) :
    Prop where
  sequences : system.published.map (·.receipt.brokerCallSequence.toNat) =
    List.range' 1 system.published.length
  distinct : (system.published.map (·.receipt.toolCallId)).Nodup
  closed : system.closed.Nodup
  entered : system.entered.Nodup
  settled : (system.settled platform).Nodup
  closable : ∀ call ∈ system.published, system.isOpen call.receipt.toolCallId →
    Closable platform broker system.state call
  unclosable : ∀ call ∈ system.published, ¬system.isOpen call.receipt.toolCallId →
    Unclosable platform broker system call
  abandoned : ∀ call ∈ system.published, ∀ later : BrokerSetup,
    later.authority = broker.authority → broker.brokerInstanceId ≠ later.brokerInstanceId →
    broker.brokerInstanceId ∈ later.epoch.closedBrokerInstanceIds →
    ∀ reconciled, reconciliationKey platform call ∉ reconciled →
      Reconcilable platform later reconciled call

/-- What one more step leaves as it was. -/
structure LosesNothing (platform : Platform) (system : System Client) (action : Action Client)
    (next : System Client) : Prop where
  failedPrepare : ∀ error, next.history = system.history ++ [.prepareFailed error] →
    next = system.record [.prepareFailed error]
  failure : ∀ outcome, outcome.failure → next.history = system.history ++ [outcome] →
    next.state = system.state ∧ next.reconciled = system.reconciled
  validation : ∀ client input interruption nanos,
    action = .execute client input ∨ action = .interrupt client interruption nanos →
    next.state = system.state ∧ next.reconciled = system.reconciled
  reconciliation : ∀ client input, system.tasks client = some (.reconciling input) →
    action = .settle client → ∃ terminal,
      next.history = system.history ++ [.reconciled input.prepared terminal]

end Closing

end BirdCode.Tooling
