import BirdCode.Scheduler.Validation

/-! What acceptance proves of a graph: distinct known orders, finite dependency descents, lease
exclusivity and exact totals inside the policy. -/
namespace BirdCode.Scheduler

open Lib

variable {policy : ActorGraphPolicy} {workOrders : List WorkOrder} {order other : WorkOrder}

theorem admitOrders_append (policy : ActorGraphPolicy) (workOrders : List WorkOrder)
    (order : WorkOrder) :
    admitOrders policy (workOrders ++ [order]) =
      admitOrder policy (admitOrders policy workOrders) order := by
  simp [admitOrders]

/-- The orders by id, as the loop collects them and as the executor collects them again. -/
def ordersById (workOrders : List WorkOrder) : Orders :=
  toMap (workOrders.map fun order => (order.id, order))

theorem admitOrders_orders (policy : ActorGraphPolicy) (workOrders : List WorkOrder) :
    (admitOrders policy workOrders).orders = ordersById workOrders := by
  induction workOrders using List.reverseRecOn with
  | nil => rfl
  | append_singleton workOrders order ih =>
    rw [admitOrders_append, ordersById, List.map_append, List.map_singleton, toMap_append]
    simp only [admitOrder, ih, ordersById]

theorem admitOrders_violations_eq_nil :
    (admitOrders policy workOrders).violations = [] ↔
      (workOrders.map (·.id)).Nodup ∧ ∀ order ∈ workOrders, orderViolations policy order = [] := by
  induction workOrders using List.reverseRecOn with
  | nil => simp [admitOrders, Admission.start]
  | append_singleton workOrders order ih =>
    have hcontains : (admitOrders policy workOrders).orders.contains order.id = true ↔
        order.id ∈ workOrders.map (·.id) := by
      rw [admitOrders_orders, ← Std.ExtTreeMap.mem_iff_contains, ordersById, mem_toMap]
      simp
    rw [admitOrders_append]
    simp only [admitOrder, List.append_eq_nil_iff, ih, report_eq_nil, hcontains, List.map_append,
      List.map_singleton, List.nodup_append, List.forall_mem_append, List.forall_mem_singleton]
    constructor
    · rintro ⟨⟨⟨hnd, hall⟩, hfresh⟩, hlast⟩
      refine ⟨⟨hnd, List.nodup_singleton _, ?_⟩, hall, hlast⟩
      intro id hid heq
      exact hfresh (heq ▸ hid)
    · rintro ⟨⟨hnd, -, hdisjoint⟩, hall, hlast⟩
      exact ⟨⟨⟨hnd, hall⟩, fun hid => hdisjoint _ hid rfl⟩, hlast⟩

/-- How often a lease is used so far, and whether one of the uses writes. -/
theorem admitOrders_leaseUses (policy : ActorGraphPolicy) (workOrders : List WorkOrder)
    (leaseId : WorkspaceLeaseId) :
    (admitOrders policy workOrders).leaseUses[leaseId]?.getD (0, false) =
      (workOrders.countP (·.workspace.leaseId = leaseId),
        workOrders.any fun order =>
          order.workspace.leaseId = leaseId ∧ order.workspace.access = .write) := by
  induction workOrders using List.reverseRecOn with
  | nil => rfl
  | append_singleton workOrders order ih =>
    rw [admitOrders_append]
    simp only [admitOrder, useLease, List.countP_append, List.any_append]
    by_cases hlease : order.workspace.leaseId = leaseId
    · subst hlease
      rw [Std.ExtTreeMap.getElem?_insert_self, Option.getD_some, ih]
      simp
    · rw [getElem?_insert_of_ne hlease, ih]
      simp [hlease]

theorem orOverflow_exact {overflow : Bool} {value : Option UInt64}
    (h : (orOverflow overflow value).2 = false) :
    overflow = false ∧ value = some (orOverflow overflow value).1 := by
  cases value with
  | none => cases h
  | some value => exact ⟨h, rfl⟩

theorem reserve_exact {total attempts : UInt64} {perAttempt : UInt64 × Bool}
    (h : (reserve total attempts perAttempt).2 = false) :
    perAttempt.2 = false ∧ (reserve total attempts perAttempt).1.toNat =
      total.toNat + perAttempt.1.toNat * attempts.toNat := by
  obtain ⟨hproduct, htotal⟩ := orOverflow_exact h
  obtain ⟨hper, hmul⟩ := orOverflow_exact hproduct
  refine ⟨hper, ?_⟩
  have hsum := checkedAdd_eq_some htotal
  rw [checkedMul_eq_some hmul] at hsum
  exact hsum

/-- The sum over the orders of attempts times a per-attempt amount, as a number. -/
def envelope (amount : AgentBudget → ℕ) (workOrders : List WorkOrder) : ℕ :=
  (workOrders.map fun order => amount order.budget * order.budget.maxAttempts.toNat).sum

/-- As long as no overflow is flagged, the machine totals are the sums of natural numbers. -/
structure ExactTotals (acc : Admission) (workOrders : List WorkOrder) : Prop where
  attempts : acc.totalAttempts.toNat = envelope (fun _ => 1) workOrders
  outputTokens : acc.totalOutputTokens.toNat = envelope (·.maxOutputTokens.toNat) workOrders
  toolCalls : acc.totalToolCalls.toNat = envelope (·.maxToolCalls.toNat) workOrders
  wallTimeMs : acc.totalWallTimeMs.toNat =
    envelope (fun budget => budget.maxWallTimeMs.toNat + budget.maxCleanupTimeMs.toNat) workOrders

theorem admitOrders_exactTotals (h : (admitOrders policy workOrders).overflow = false) :
    ExactTotals (admitOrders policy workOrders) workOrders := by
  induction workOrders using List.reverseRecOn with
  | nil => exact ⟨rfl, rfl, rfl, rfl⟩
  | append_singleton workOrders order ih =>
    rw [admitOrders_append] at h ⊢
    simp only [admitOrder] at h
    obtain ⟨hwall, hwallTotal⟩ := reserve_exact h
    obtain ⟨htool, hwallSum⟩ := orOverflow_exact hwall
    obtain ⟨houtput, htoolTotal⟩ := reserve_exact htool
    obtain ⟨hattempts, houtputTotal⟩ := reserve_exact houtput
    obtain ⟨hearlier, hattemptTotal⟩ := orOverflow_exact hattempts
    obtain ⟨ihattempts, ihoutput, ihtool, ihwall⟩ := ih hearlier
    have hlast : order.budget.maxAttempts.toUInt64.toNat = order.budget.maxAttempts.toNat := by
      simp
    refine ⟨?_, ?_, ?_, ?_⟩
    · simp only [admitOrder, envelope, List.map_append, List.sum_append, List.map_singleton,
        List.sum_singleton, one_mul]
      rw [checkedAdd_eq_some hattemptTotal, ihattempts, hlast]
      simp [envelope]
    · simp only [admitOrder, envelope, List.map_append, List.sum_append, List.map_singleton,
        List.sum_singleton]
      rw [houtputTotal, ihoutput, hlast, envelope]
    · simp only [admitOrder, envelope, List.map_append, List.sum_append, List.map_singleton,
        List.sum_singleton]
      rw [htoolTotal, ihtool, hlast, envelope]
    · simp only [admitOrder, envelope, List.map_append, List.sum_append, List.map_singleton,
        List.sum_singleton]
      rw [hwallTotal, checkedAdd_eq_some hwallSum, ihwall, hlast, envelope]

namespace ValidatedActorGraph

variable {digest : CanonicalDigest} (validated : ValidatedActorGraph digest)

/-- The orders the executor looks up by id. -/
def orders : Orders := ordersById validated.graph.workOrders

theorem violations_eq_nil :
    policyViolations validated.graph validated.policy = [] ∧
    (admitOrders validated.policy validated.graph.workOrders).violations = [] ∧
    (∀ leaseId uses hasWriter,
      (leaseId, uses, hasWriter) ∈
          (admitOrders validated.policy validated.graph.workOrders).leaseUses.toList →
        ¬(uses > 1 ∧ hasWriter = true)) ∧
    (∀ order ∈ validated.graph.workOrders,
      relationViolations validated.orders (reviewedTargets validated.graph.workOrders) order = []) ∧
    dependencyCycle validated.orders = none ∧
    budgetViolations (admitOrders validated.policy validated.graph.workOrders)
      validated.policy.limits = [] := by
  have h := validated.accepted
  simp only [graphViolations, collect_eq_nil, List.forall_mem_cons, List.not_mem_nil,
    false_implies, implies_true, and_true, List.flatMap_eq_nil_iff, Prod.forall, report_eq_nil,
    admitOrders_orders] at h
  obtain ⟨hpolicy, horders, hleases, -, hrelations, -, hcycle, hbudget⟩ := h
  refine ⟨hpolicy, horders, hleases, hrelations, ?_, hbudget⟩
  simpa [orders] using hcycle

theorem ids_nodup : (validated.graph.workOrders.map (·.id)).Nodup :=
  (admitOrders_violations_eq_nil.mp validated.violations_eq_nil.2.1).1

theorem workOrders_nodup : validated.graph.workOrders.Nodup :=
  validated.ids_nodup.of_map

theorem orderViolations_eq_nil (h : order ∈ validated.graph.workOrders) :
    orderViolations validated.policy order = [] :=
  (admitOrders_violations_eq_nil.mp validated.violations_eq_nil.2.1).2 order h

theorem orders_getElem? {id : WorkOrderId} :
    validated.orders[id]? = some order ↔ order ∈ validated.graph.workOrders ∧ order.id = id := by
  have hkeys : ((validated.graph.workOrders.map fun order => (order.id, order)).map
      Prod.fst).Nodup := by
    simpa [List.map_map, Function.comp_def] using validated.ids_nodup
  rw [orders, ordersById, toMap_getElem?_eq_some hkeys]
  constructor
  · intro h
    obtain ⟨found, hmem, heq⟩ := List.mem_map.mp h
    obtain ⟨rfl, rfl⟩ := Prod.mk.inj heq
    exact ⟨hmem, rfl⟩
  · rintro ⟨hmem, rfl⟩
    exact List.mem_map.mpr ⟨order, hmem, rfl⟩

theorem mem_orders {id : WorkOrderId} :
    id ∈ validated.orders ↔ ∃ order ∈ validated.graph.workOrders, order.id = id := by
  rw [orders, ordersById, mem_toMap]
  simp

theorem eq_of_id_eq (h : order ∈ validated.graph.workOrders)
    (h' : other ∈ validated.graph.workOrders) (hid : order.id = other.id) : order = other :=
  List.inj_on_of_nodup_map validated.ids_nodup h h' hid

/-- Every dependency names another order of the graph. -/
theorem dependency_mem (h : order ∈ validated.graph.workOrders) {dependency : WorkOrderId}
    (hdep : dependency ∈ order.dependencies) :
    dependency ∈ validated.orders ∧ dependency ≠ order.id := by
  have hrelation := validated.violations_eq_nil.2.2.2.1 order h
  simp only [relationViolations, List.append_eq_nil_iff, List.flatMap_eq_nil_iff] at hrelation
  have hnone := hrelation.1 dependency (Std.ExtTreeSet.mem_toList.mpr hdep)
  unfold dependencyViolations at hnone
  split at hnone
  · cases hnone
  · next hne =>
    refine ⟨?_, hne⟩
    simp only [collect_eq_nil, List.forall_mem_cons] at hnone
    obtain ⟨hknown, -⟩ := hnone
    split at hknown
    · cases hknown
    · next found hfound =>
      exact validated.mem_orders.mpr ⟨found, validated.orders_getElem?.mp hfound⟩

/-- The dependency relation of an accepted graph has no infinite descent. -/
theorem acc_dependencies (id : WorkOrderId) (h : id ∈ validated.orders) :
    Acc (fun dependency id => ∃ order ∈ validated.graph.workOrders,
      order.id = id ∧ dependency ∈ order.dependencies) id := by
  have hacc := acc_of_findCycle_eq_none validated.violations_eq_nil.2.2.2.2.1 id
    (Std.ExtTreeMap.mem_keys.mpr h)
  induction hacc with
  | intro id _ ih =>
    refine Acc.intro _ ?_
    rintro dependency ⟨order, horder, rfl, hdep⟩
    have hknown := (validated.dependency_mem horder hdep).1
    refine ih dependency ?_ hknown
    have hfound : validated.orders[order.id]? = some order :=
      validated.orders_getElem?.mpr ⟨horder, rfl⟩
    simp only [knownDependencies, hfound, List.mem_filter]
    exact ⟨Std.ExtTreeSet.mem_toList.mpr hdep, hknown⟩

theorem maxParallel_pos : 0 < validated.policy.limits.maxParallel.toNat := by
  have h := validated.violations_eq_nil.1
  simp only [policyViolations, collect_eq_nil, List.forall_mem_cons, report_eq_nil] at h
  have hne := h.2.2.2.2.2.2.2.2.2.2.2.2.1
  rw [← UInt32.toNat_inj] at hne
  exact Nat.pos_of_ne_zero hne

/-- The part of the order checks that scheduling relies on. -/
structure OrderAccepted (policy : ActorGraphPolicy) (order : WorkOrder) : Prop where
  attempts_pos : 0 < order.budget.maxAttempts.toNat
  context : validSha256 order.contextManifestSha256 = true
  profile : policy.modelProfiles[order.assignment.modelProfileId]? = some order.assignment.lineage
  permissions : order.permissions.isSubsetOf policy.rootPermissions = true
  lease : ∃ lease, policy.workspaceLeases[order.workspace.leaseId]? = some lease ∧
    lease.source = order.workspace.source ∧ lease.access.permits order.workspace.access = true
  single_write : order.workspace.access = .write →
    order.budget.maxAttempts = 1 ∧ order.workspace.source.supportsWrite = true

theorem orderAccepted (h : order ∈ validated.graph.workOrders) :
    OrderAccepted validated.policy order := by
  have hnil := validated.orderViolations_eq_nil h
  simp only [orderViolations, collect_eq_nil, List.forall_mem_cons, report_eq_nil, not_or] at hnil
  obtain ⟨-, hassignment, hcontext, ⟨hattempts, -⟩, -, -, -, hpermissions, hworkspace, -⟩ := hnil
  simp only [assignmentViolations, collect_eq_nil, List.forall_mem_cons] at hassignment
  obtain ⟨-, hprofile, -⟩ := hassignment
  simp only [workspaceViolations, collect_eq_nil, List.forall_mem_cons, report_eq_nil] at hworkspace
  obtain ⟨hsource, hlease, hwrite, -⟩ := hworkspace
  refine ⟨?_, by simpa using hcontext, ?_, by simpa using hpermissions, ?_, ?_⟩
  · rw [← UInt32.toNat_inj] at hattempts
    exact Nat.pos_of_ne_zero hattempts
  · split at hprofile
    · cases hprofile
    · next lineage hlineage => simp_all
  · split at hlease
    · cases hlease
    · next lease hfound => exact ⟨lease, hfound, by simp_all⟩
  · intro haccess
    simp_all

/-- A lease that one order writes is used by no other order. -/
theorem writer_lease_exclusive (h : order ∈ validated.graph.workOrders)
    (h' : other ∈ validated.graph.workOrders)
    (hlease : order.workspace.leaseId = other.workspace.leaseId)
    (hwrite : order.workspace.access = .write) : order = other := by
  by_contra hne
  have huses := admitOrders_leaseUses validated.policy validated.graph.workOrders
    order.workspace.leaseId
  have hany : (validated.graph.workOrders.any fun found =>
      found.workspace.leaseId = order.workspace.leaseId ∧ found.workspace.access = .write) =
        true := List.any_eq_true.mpr ⟨order, h, by simp [hwrite]⟩
  have htwo : 1 < validated.graph.workOrders.countP
      (·.workspace.leaseId = order.workspace.leaseId) := by
    have hsub : [order, other].Subperm (validated.graph.workOrders.filter
        (·.workspace.leaseId = order.workspace.leaseId)) := by
      refine List.subperm_of_subset (by simp [hne]) ?_
      intro found hfound
      rcases List.mem_pair.mp hfound with rfl | rfl <;> simp [*]
    rw [List.countP_eq_length_filter]
    exact hsub.length_le
  rw [hany] at huses
  cases hget : (admitOrders validated.policy validated.graph.workOrders).leaseUses[
      order.workspace.leaseId]? with
  | none => simp [hget] at huses
  | some leaseUse =>
    rw [hget, Option.getD_some] at huses
    subst huses
    exact validated.violations_eq_nil.2.2.1 _ _ _
      (Std.ExtTreeMap.mem_toList_iff_getElem?_eq_some.mpr hget) ⟨htwo, rfl⟩

/-- The totals an accepted graph was admitted with are exact: none has wrapped. -/
theorem exactTotals : ExactTotals (admitOrders validated.policy validated.graph.workOrders)
    validated.graph.workOrders := by
  have h := validated.violations_eq_nil.2.2.2.2.2
  simp only [budgetViolations, collect_eq_nil, List.forall_mem_cons, report_eq_nil] at h
  exact admitOrders_exactTotals (by simpa using h.1)

/-- The exact totals of an accepted graph are inside the policy. -/
theorem envelope_le :
    envelope (fun _ => 1) validated.graph.workOrders ≤
        validated.policy.limits.maxTotalAttempts.toNat ∧
      envelope (·.maxOutputTokens.toNat) validated.graph.workOrders ≤
        validated.policy.limits.maxTotalOutputTokens.toNat ∧
      envelope (·.maxToolCalls.toNat) validated.graph.workOrders ≤
        validated.policy.limits.maxTotalToolCalls.toNat ∧
      envelope (fun budget => budget.maxWallTimeMs.toNat + budget.maxCleanupTimeMs.toNat)
        validated.graph.workOrders ≤ validated.policy.limits.maxTotalWallTimeMs.toNat := by
  have h := validated.violations_eq_nil.2.2.2.2.2
  simp only [budgetViolations, collect_eq_nil, List.forall_mem_cons, report_eq_nil,
    UInt64.not_lt, UInt64.le_iff_toNat_le, gt_iff_lt] at h
  obtain ⟨-, hattempts, houtput, htool, hwall, -⟩ := h
  have hexact := validated.exactTotals
  exact ⟨hexact.attempts ▸ hattempts, hexact.outputTokens ▸ houtput, hexact.toolCalls ▸ htool,
    hexact.wallTimeMs ▸ hwall⟩

end ValidatedActorGraph

end BirdCode.Scheduler
