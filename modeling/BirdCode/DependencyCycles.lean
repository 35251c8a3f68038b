import BirdCode.Lib.CycleVisits
import BirdCode.Planner.Turn
import BirdCode.Prompting.RootWorkOrders
import BirdCode.Router.Invariants
import BirdCode.Scheduler.Accepted

/-! The search for a dependency cycle that the scheduler, the planner, the root planner and the router each
have: all four are exact, and agree where their inputs depend on each other in the same way. -/
namespace BirdCode

open Std Lib Scheduler Planner Prompting Router

section Relation

variable {A K : Type}

/-- An id depends on the ids its item names, as far as these have items. -/
def ItemDependsOn (item : K → Option A) (names : A → K → Prop) (id dependency : K) : Prop :=
  (∃ found, item id = some found ∧ names found dependency) ∧ (item dependency).isSome

/-- What the id of a work order depends on. -/
def OrderDependsOn (workOrders : List WorkOrder) : WorkOrderId → WorkOrderId → Prop :=
  ItemDependsOn (fun id => workOrders.find? fun order => order.id = id)
    fun order dependency => dependency ∈ order.dependencies

def PlanDependsOn (workOrders : BTreeMap PlanWorkOrderId PlannedWorkOrder) :
    PlanWorkOrderId → PlanWorkOrderId → Prop :=
  ItemDependsOn (fun id => workOrders[id]?) fun work dependency => dependency ∈ work.dependencies

/-- What a local id depends on, the first work order of each id taken. -/
def RootOrderDependsOn (workOrders : List RootPlannerWorkOrder) : String → String → Prop :=
  ItemDependsOn (fun id => workOrders.find? fun workOrder => workOrder.localId = id)
    fun workOrder dependency => dependency ∈ workOrder.dependsOn

/-- What a subtask's id depends on, the first task of each id taken. -/
def TaskDependsOn (tasks : List SuggestedSubtask) : String → String → Prop :=
  ItemDependsOn (fun id => tasks.find? fun task => task.id = id)
    fun task dependency => dependency ∈ task.dependsOn

end Relation

section Maps

variable {A K : Type} [Ord K] [TransOrd K] [LawfulEqOrd K] [DecidableEq K] {items : List A}

/-- A map that takes each key once has the first item of a key. -/
theorem getElem?_firstOf (key : A → K) (id : K) (byId : BTreeMap K A) :
    (items.foldl (fun byId item =>
      if byId.contains (key item) then byId else byId.insert (key item) item) byId)[id]? =
      byId[id]?.or (items.find? fun item => key item = id) := by
  induction items generalizing byId with
  | nil => rw [List.foldl_nil, List.find?_nil, Option.or_none]
  | cons item items ih =>
    rw [List.foldl_cons, ih, List.find?_cons]
    by_cases hcontains : byId.contains (key item)
    · rw [if_pos hcontains]
      by_cases hid : key item = id
      · subst hid
        have hsome : byId[key item]?.isSome := by
          rwa [← ExtTreeMap.contains_eq_isSome_getElem?]
        obtain ⟨found, hfound⟩ := Option.isSome_iff_exists.mp hsome
        rw [hfound, Option.some_or, Option.some_or]
      · simp only [hid, decide_false]
    · rw [if_neg hcontains, ExtTreeMap.getElem?_insert]
      by_cases hid : key item = id
      · subst hid
        have hnone : byId[key item]? = none := by
          rwa [← Option.not_isSome_iff_eq_none, ← ExtTreeMap.contains_eq_isSome_getElem?]
        simp [hnone]
      · simp [hid]

/-- The map of items under distinct keys has the item of a key. -/
theorem getElem?_toMap_of_nodup (key : A → K) (hkeys : (items.map key).Nodup) (id : K) :
    (toMap (items.map fun item => (key item, item)))[id]? =
      items.find? fun item => key item = id := by
  have hnodup : ((items.map fun item => (key item, item)).map Prod.fst).Nodup := by
    simpa [List.map_map, Function.comp_def] using hkeys
  ext item
  rw [toMap_getElem?_eq_some hnodup, List.mem_map]
  constructor
  · rintro ⟨found, hfound, heq⟩
    obtain ⟨rfl, rfl⟩ := Prod.mk.inj heq
    cases hfind : items.find? fun item => key item = key found with
    | none => simpa using List.find?_eq_none.mp hfind found hfound
    | some first =>
      have hkey : key first = key found := by
        simpa using List.find?_some hfind
      rw [List.inj_on_of_nodup_map hkeys (List.mem_of_find?_eq_some hfind) hfound hkey]
  · intro hfind
    have hkey : key item = id := by
      simpa using List.find?_some hfind
    exact ⟨item, List.mem_of_find?_eq_some hfind, by rw [hkey]⟩

variable {byId : BTreeMap K A} {item : K → Option A} {named : A → List K} {names : A → K → Prop}
  {next : K → List K} {hclosed : ∀ id ∈ byId.keys, ∀ dependency ∈ next id, dependency ∈ byId.keys}

omit [LawfulEqOrd K] [DecidableEq K] in
/-- The known dependencies of an id are what it depends on. -/
theorem mem_next_iff (hitem : ∀ id, byId[id]? = item id)
    (hnames : ∀ found dependency, dependency ∈ named found ↔ names found dependency)
    (hnext : ∀ id, next id = (byId[id]?).elim [] fun found => (named found).filter byId.contains)
    {id dependency : K} : dependency ∈ next id ↔ ItemDependsOn item names id dependency := by
  have hknown : byId.contains dependency = (item dependency).isSome := by
    rw [ExtTreeMap.contains_eq_isSome_getElem?, hitem]
  rw [hnext, hitem]
  unfold ItemDependsOn
  cases item id with
  | none => simp
  | some found => simp [List.mem_filter, hknown, hnames]

/-- A search through the keys of a map along their known dependencies is exact. -/
theorem findCycle_exact (hitem : ∀ id, byId[id]? = item id)
    (hnames : ∀ found dependency, dependency ∈ named found ↔ names found dependency)
    (hnext : ∀ id, next id = (byId[id]?).elim [] fun found => (named found).filter byId.contains) :
    ((findCycle next byId.keys hclosed).isSome ↔ Cyclic (ItemDependsOn item names)) ∧
      ∀ cycle, findCycle next byId.keys hclosed = some cycle →
        ClosedWalk (ItemDependsOn item names) cycle := by
  have hdepends : (fun id dependency => dependency ∈ next id) = ItemDependsOn item names := by
    funext id dependency
    exact propext (mem_next_iff hitem hnames hnext)
  have hkeys : ∀ id dependency, dependency ∈ next id → id ∈ byId.keys := by
    intro id dependency hdependency
    obtain ⟨⟨found, hfound, -⟩, -⟩ := (mem_next_iff hitem hnames hnext).mp hdependency
    rw [ExtTreeMap.mem_keys, ExtTreeMap.mem_iff_isSome_getElem?]
    exact Option.isSome_of_eq_some ((hitem id).trans hfound)
  rw [← hdepends]
  exact ⟨findCycle_isSome_iff hkeys, fun cycle => closedWalk_of_findCycle⟩

end Maps

section Validators

variable {workOrders : List WorkOrder} {planned : BTreeMap PlanWorkOrderId PlannedWorkOrder}
  {rootOrders : List RootPlannerWorkOrder} {tasks : List SuggestedSubtask}

/-- `dependency_cycle` finds a cycle if there is one, and what it reports is a closed walk. -/
theorem dependencyCycle_exact (hids : (workOrders.map (·.id)).Nodup) :
    ((dependencyCycle (ordersById workOrders)).isSome ↔ Cyclic (OrderDependsOn workOrders)) ∧
      ∀ cycle, dependencyCycle (ordersById workOrders) = some cycle →
        ClosedWalk (OrderDependsOn workOrders) cycle := by
  have hnames : ∀ (order : WorkOrder) (dependency : WorkOrderId),
      dependency ∈ order.dependencies.toList ↔ dependency ∈ order.dependencies :=
    fun _ _ => ExtTreeSet.mem_toList
  refine findCycle_exact (getElem?_toMap_of_nodup WorkOrder.id hids) hnames ?_
  intro id
  unfold knownDependencies ordersById
  cases (toMap (workOrders.map fun order => (order.id, order)))[id]? <;> rfl

theorem dependencyGraphHasCycle_iff :
    dependencyGraphHasCycle planned = true ↔ Cyclic (PlanDependsOn planned) := by
  have hnames : ∀ (work : PlannedWorkOrder) (dependency : PlanWorkOrderId),
      dependency ∈ work.dependencies.toList ↔ dependency ∈ work.dependencies :=
    fun _ _ => ExtTreeSet.mem_toList
  refine (findCycle_exact (fun id => rfl) hnames ?_).1
  intro id
  unfold planDependencies
  cases planned[id]? <;> rfl

theorem workOrderGraphHasCycle_iff :
    workOrderGraphHasCycle (workOrdersById rootOrders) = true ↔
      Cyclic (RootOrderDependsOn rootOrders) := by
  have hitem : ∀ id, (workOrdersById rootOrders)[id]? =
      rootOrders.find? fun workOrder => workOrder.localId = id := by
    intro id
    exact (getElem?_firstOf RootPlannerWorkOrder.localId id ∅).trans (by simp)
  refine (findCycle_exact hitem (fun _ _ => Iff.rfl) ?_).1
  intro id
  unfold workOrderDependencies
  cases (workOrdersById rootOrders)[id]? <;> rfl

theorem taskGraphHasCycle_iff :
    taskGraphHasCycle (tasksById tasks) = true ↔ Cyclic (TaskDependsOn tasks) := by
  have hitem : ∀ id, (tasksById tasks)[id]? = tasks.find? fun task => task.id = id := by
    intro id
    exact (getElem?_firstOf SuggestedSubtask.id id ∅).trans (by simp)
  refine (findCycle_exact hitem (fun _ _ => Iff.rfl) ?_).1
  intro id
  unfold taskDependencies
  cases (tasksById tasks)[id]? <;> rfl

end Validators

/-- The searches as the sources write them end on every input, each with the result of the one over lists.
Each finds a cycle just if the dependencies of its input have one, the one of the scheduler reports a
closed walk, and inputs that depend on each other in the same way, under whatever ids, have the same
verdict from all four. -/
theorem cycle_detection_exact (workOrders : List WorkOrder)
    (planned : BTreeMap PlanWorkOrderId PlannedWorkOrder) (rootOrders : List RootPlannerWorkOrder)
    (tasks : List SuggestedSubtask) (hids : (workOrders.map (·.id)).Nodup) :
    (descendAll (knownDependencies (ordersById workOrders)) (ordersById workOrders).keys =
        some (dependencyCycle (ordersById workOrders)) ∧
      ((dependencyCycle (ordersById workOrders)).isSome ↔ Cyclic (OrderDependsOn workOrders)) ∧
      ∀ cycle, dependencyCycle (ordersById workOrders) = some cycle →
        ClosedWalk (OrderDependsOn workOrders) cycle) ∧
    (visitAll (planDependencies planned) planned.keys = some (dependencyGraphHasCycle planned) ∧
      (dependencyGraphHasCycle planned = true ↔ Cyclic (PlanDependsOn planned))) ∧
    (visitAll (workOrderDependencies (workOrdersById rootOrders)) (workOrdersById rootOrders).keys =
        some (workOrderGraphHasCycle (workOrdersById rootOrders)) ∧
      (workOrderGraphHasCycle (workOrdersById rootOrders) = true ↔
        Cyclic (RootOrderDependsOn rootOrders))) ∧
    (visitAll (taskDependencies (tasksById tasks)) (tasksById tasks).keys =
        some (taskGraphHasCycle (tasksById tasks)) ∧
      (taskGraphHasCycle (tasksById tasks) = true ↔ Cyclic (TaskDependsOn tasks))) ∧
    ∀ (V : Type) (depends : V → V → Prop) (orderId : V → WorkOrderId)
      (plannedId : V → PlanWorkOrderId) (rootOrderId taskId : V → String),
      orderId.Injective → plannedId.Injective → rootOrderId.Injective → taskId.Injective →
      OrderDependsOn workOrders = Relation.Map depends orderId orderId →
      PlanDependsOn planned = Relation.Map depends plannedId plannedId →
      RootOrderDependsOn rootOrders = Relation.Map depends rootOrderId rootOrderId →
      TaskDependsOn tasks = Relation.Map depends taskId taskId →
      (dependencyCycle (ordersById workOrders)).isSome = dependencyGraphHasCycle planned ∧
        dependencyGraphHasCycle planned = workOrderGraphHasCycle (workOrdersById rootOrders) ∧
        workOrderGraphHasCycle (workOrdersById rootOrders) = taskGraphHasCycle (tasksById tasks) := by
  obtain ⟨horders, hreported⟩ := dependencyCycle_exact hids
  have hplanned : dependencyGraphHasCycle planned = true ↔ Cyclic (PlanDependsOn planned) :=
    dependencyGraphHasCycle_iff
  have hroot : workOrderGraphHasCycle (workOrdersById rootOrders) = true ↔
      Cyclic (RootOrderDependsOn rootOrders) := workOrderGraphHasCycle_iff
  have htasks : taskGraphHasCycle (tasksById tasks) = true ↔ Cyclic (TaskDependsOn tasks) :=
    taskGraphHasCycle_iff
  refine ⟨⟨descendAll_eq, horders, hreported⟩, ⟨visitAll_eq, hplanned⟩, ⟨visitAll_eq, hroot⟩,
    ⟨visitAll_eq, htasks⟩, ?_⟩
  intro V depends orderId plannedId rootOrderId taskId horderId hplannedId hrootId htaskId
    horderMap hplannedMap hrootMap htaskMap
  rw [horderMap, cyclic_map horderId] at horders
  rw [hplannedMap, cyclic_map hplannedId] at hplanned
  rw [hrootMap, cyclic_map hrootId] at hroot
  rw [htaskMap, cyclic_map htaskId] at htasks
  refine ⟨?_, ?_, ?_⟩
  · exact Bool.eq_iff_iff.mpr (horders.trans hplanned.symm)
  · exact Bool.eq_iff_iff.mpr (hplanned.trans hroot.symm)
  · exact Bool.eq_iff_iff.mpr (hroot.trans htasks.symm)

/-- Two work orders that wait for each other. -/
def waitingPair : List WorkOrder :=
  [sampleOrder ⟨1⟩ firstLease 1 [⟨2⟩], sampleOrder ⟨2⟩ secondLease 1 [⟨1⟩]]

theorem cycle_detection_exact_pair :
    ∃ cycle, dependencyCycle (ordersById waitingPair) = some cycle ∧
      ClosedWalk (OrderDependsOn waitingPair) cycle := by
  obtain ⟨⟨-, horders, hreported⟩, -⟩ :=
    cycle_detection_exact waitingPair ∅ [] [] (by decide)
  have hthere : OrderDependsOn waitingPair ⟨1⟩ ⟨2⟩ :=
    ⟨⟨sampleOrder ⟨1⟩ firstLease 1 [⟨2⟩], rfl, by decide⟩, rfl⟩
  have hback : OrderDependsOn waitingPair ⟨2⟩ ⟨1⟩ :=
    ⟨⟨sampleOrder ⟨2⟩ secondLease 1 [⟨1⟩], rfl, by decide⟩, rfl⟩
  obtain ⟨cycle, hcycle⟩ := Option.isSome_iff_exists.mp
    (horders.mpr ⟨⟨1⟩, .tail (.single hthere) hback⟩)
  exact ⟨cycle, hcycle, hreported cycle hcycle⟩

end BirdCode
