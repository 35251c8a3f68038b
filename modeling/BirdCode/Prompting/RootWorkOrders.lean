import BirdCode.Lib.DepthFirst
import BirdCode.Prompting.Material
import BirdCode.Review.Contract

/-! The work orders a root planner proposes, and the checks of their ids and dependencies. -/
namespace BirdCode.Prompting

open Std Lib Review

structure ProposedVerificationTarget where
  kind : VerificationKind
  selector : String
  question : String
  obligationRefs : List ProtectedObligationRef
  deriving DecidableEq

structure RootPlannerWorkOrder where
  localId : String
  objective : String
  obligationRefs : List ProtectedObligationRef
  dependsOn : List String
  proposedVerificationTargets : List ProposedVerificationTarget
  deriving DecidableEq

/-- Those of the violations of a root plan that its ids and dependencies can have. -/
inductive RootPlannerInvariantViolation
  | duplicateLocalId (localId : String) (occurrences : UInt32)
  | selfDependency (localId : String)
  | unknownDependency (localId dependency : String)
  | dependencyCycle
  deriving DecidableEq

section Dependencies

/-- The first work order of each local id. -/
def workOrdersById (workOrders : List RootPlannerWorkOrder) :
    BTreeMap String RootPlannerWorkOrder :=
  workOrders.foldl (fun byId workOrder =>
    if byId.contains workOrder.localId then byId else byId.insert workOrder.localId workOrder) ∅

/-- The dependencies of a work order that are work orders. -/
def workOrderDependencies (workOrders : BTreeMap String RootPlannerWorkOrder) (localId : String) :
    List String :=
  match workOrders[localId]? with
  | none => []
  | some workOrder => workOrder.dependsOn.filter workOrders.contains

theorem workOrderDependencies_closed (workOrders : BTreeMap String RootPlannerWorkOrder) :
    ∀ localId ∈ workOrders.keys, ∀ dependency ∈ workOrderDependencies workOrders localId,
      dependency ∈ workOrders.keys := by
  intro localId _ dependency hdependency
  unfold workOrderDependencies at hdependency
  split at hdependency
  · cases hdependency
  · exact ExtTreeMap.mem_keys.mpr
      (ExtTreeMap.contains_iff_mem.mp (List.mem_filter.mp hdependency).2)

/-- `dependency_graph_has_cycle`. -/
def workOrderGraphHasCycle (workOrders : BTreeMap String RootPlannerWorkOrder) : Bool :=
  (findCycle (workOrderDependencies workOrders) workOrders.keys
    (workOrderDependencies_closed workOrders)).isSome

def duplicateLocalIdViolations (localIds : List String) : List RootPlannerInvariantViolation :=
  (toSet localIds).toList.flatMap fun localId =>
    report (1 < localIds.count localId)
      (.duplicateLocalId localId (wireU32 (localIds.count localId)))

/-- `collect_dependency_violations`. -/
def dependencyViolations (workOrders : List RootPlannerWorkOrder) :
    List RootPlannerInvariantViolation :=
  let byId := workOrdersById workOrders
  collect [
    duplicateLocalIdViolations (workOrders.map RootPlannerWorkOrder.localId),
    workOrders.flatMap fun workOrder => workOrder.dependsOn.flatMap fun dependency =>
      if dependency = workOrder.localId then [.selfDependency workOrder.localId]
      else report (byId.contains dependency = false)
        (.unknownDependency workOrder.localId dependency),
    report (workOrderGraphHasCycle byId) .dependencyCycle]

end Dependencies

end BirdCode.Prompting
