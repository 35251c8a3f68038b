import BirdCode.DependencyCycles
import BirdCode.Planner.Frames

/-! Which work orders one patch can cancel together. The checks look at the dependencies of cancelled orders
as well, so a closed set goes only if nothing in the plan depends on a member of it. -/
namespace BirdCode.Planner

open Std

variable {encoding : PlannerEncoding} {proposal : PlannerTurnProposal} {base next : PlanSnapshot}
  {obligations : ProtectedObligationCatalog} {context : PlannerContextCatalog}
  {policy : PlannerPolicy} {cancellations : List CancelWorkOrder} {ids : List PlanWorkOrderId}

section Fold

variable {applied : Applied} {cancellation : CancelWorkOrder} {current : PlannedWorkOrder}
  {before after : PlanSnapshot}

/-- A work order once it is cancelled. -/
def PlannedWorkOrder.cancel (work : PlannedWorkOrder) (basis : DecisionBasis) : PlannedWorkOrder :=
  { work with state := .cancelled, revision := nextRevision work, basis := basis }

/-- A plan in which the work orders of some ids are cancelled and all else is as it was. -/
structure Cancelled (ids : List PlanWorkOrderId) (before after : PlanSnapshot) : Prop where
  targets : after.verificationTargets = before.verificationTargets
  unnamed : ∀ id ∉ ids, after.workOrders[id]? = before.workOrders[id]?
  named : ∀ id ∈ ids, ∃ work basis, before.workOrders[id]? = some work ∧
    after.workOrders[id]? = some (work.cancel basis)

/-- A cancellation that no check objects to. -/
structure Unobjected (encoding : PlannerEncoding) (context : PlannerContextCatalog)
    (current : PlannedWorkOrder) (cancellation : CancelWorkOrder) : Prop where
  basis : validateBasis "cancel_work_order.basis" cancellation.basis context = []
  mutation : mutationViolations encoding cancellation.target current = []
  revision : current.revision.toNat + 1 < 2 ^ 32

theorem revisionViolations_eq_nil {id : PlanWorkOrderId} :
    revisionViolations id current = [] ↔ current.revision.toNat + 1 < 2 ^ 32 := by
  unfold revisionViolations checkedSucc32
  rw [report_eq_nil]
  split <;> simp_all

variable (encoding context) in
theorem applyCancellation_of_some
    (h : applied.plan.workOrders[cancellation.target.id]? = some current) :
    (applyCancellation encoding context applied cancellation).plan = { applied.plan with
        workOrders := applied.plan.workOrders.insert cancellation.target.id
          (current.cancel cancellation.basis) } ∧
    (applyCancellation encoding context applied cancellation).targetsSeen =
      applied.targetsSeen.insert cancellation.target.id ∧
    ((applyCancellation encoding context applied cancellation).violations = [] ↔
      applied.violations = [] ∧ cancellation.target.id ∉ applied.targetsSeen ∧
        Unobjected encoding context current cancellation) := by
  unfold applyCancellation
  simp only [h]
  refine ⟨rfl, trivial, ?_⟩
  simp only [collect_eq_nil, List.forall_mem_cons, List.append_eq_nil_iff, report_eq_nil,
    ExtTreeSet.contains_iff_mem, revisionViolations_eq_nil]
  constructor
  · rintro ⟨hbefore, ⟨hfresh, hbasis⟩, hmutation, hrevision, -⟩
    exact ⟨hbefore, hfresh, hbasis, hmutation, hrevision⟩
  · rintro ⟨hbefore, hfresh, hbasis, hmutation, hrevision⟩
    exact ⟨hbefore, ⟨hfresh, hbasis⟩, hmutation, hrevision, by simp⟩

variable (encoding context) in
/-- Cancellations of distinct orders of a plan cancel these, and are checked each by itself. -/
theorem cancelled_foldl (hids : (cancellations.map (·.target.id)).Nodup)
    (hfresh : ∀ cancellation ∈ cancellations, cancellation.target.id ∉ applied.targetsSeen)
    (hknown : ∀ cancellation ∈ cancellations,
      (applied.plan.workOrders[cancellation.target.id]?).isSome) :
    Cancelled (cancellations.map (·.target.id)) applied.plan
      (cancellations.foldl (applyCancellation encoding context) applied).plan ∧
    ((cancellations.foldl (applyCancellation encoding context) applied).violations = [] ↔
      applied.violations = [] ∧ ∀ cancellation ∈ cancellations, ∀ current,
        applied.plan.workOrders[cancellation.target.id]? = some current →
          Unobjected encoding context current cancellation) := by
  induction cancellations generalizing applied with
  | nil => exact ⟨⟨rfl, fun _ _ => rfl, by simp⟩, by simp⟩
  | cons first rest ih =>
    rw [List.map_cons, List.nodup_cons] at hids
    obtain ⟨hnew, hrest⟩ := hids
    obtain ⟨work, hwork⟩ := Option.isSome_iff_exists.mp (hknown first List.mem_cons_self)
    obtain ⟨hplan, hseen, hviolations⟩ :=
      applyCancellation_of_some encoding context hwork
    rw [List.foldl_cons]
    generalize applyCancellation encoding context applied first = middle
      at hplan hseen hviolations ⊢
    have hother : ∀ other ∈ rest, other.target.id ≠ first.target.id := by
      intro other hmem heq
      exact hnew (List.mem_map.mpr ⟨other, hmem, heq⟩)
    have hlookup : ∀ id, id ≠ first.target.id →
        middle.plan.workOrders[id]? = applied.plan.workOrders[id]? := by
      intro id hne
      rw [hplan, getElem?_insert_of_ne hne.symm]
    have hself : middle.plan.workOrders[first.target.id]? = some (work.cancel first.basis) := by
      rw [hplan, ExtTreeMap.getElem?_insert_self]
    have hunseen : ∀ other ∈ rest, other.target.id ∉ middle.targetsSeen := by
      intro other hmem hin
      rw [hseen, ExtTreeSet.mem_insert, Std.compare_eq_iff_eq] at hin
      rcases hin with heq | hin
      · exact hother other hmem heq.symm
      · exact hfresh other (List.mem_cons_of_mem _ hmem) hin
    have hstored : ∀ other ∈ rest, (middle.plan.workOrders[other.target.id]?).isSome := by
      intro other hmem
      rw [hlookup _ (hother other hmem)]
      exact hknown other (List.mem_cons_of_mem _ hmem)
    obtain ⟨hcancelled, hrestViolations⟩ := ih hrest hunseen hstored
    refine ⟨⟨hcancelled.targets.trans (by rw [hplan]), ?_, ?_⟩, ?_⟩
    · intro id hid
      rw [List.map_cons, List.mem_cons, not_or] at hid
      exact (hcancelled.unnamed id hid.2).trans (hlookup id hid.1)
    · intro id hid
      rcases List.mem_cons.mp hid with rfl | hid
      · exact ⟨work, first.basis, hwork, (hcancelled.unnamed _ hnew).trans hself⟩
      · obtain ⟨other, basis, hbefore, hafter⟩ := hcancelled.named id hid
        have hne : id ≠ first.target.id := by
          rintro rfl
          exact hnew hid
        exact ⟨other, basis, (hlookup id hne).symm.trans hbefore, hafter⟩
    · rw [hrestViolations, hviolations]
      constructor
      · rintro ⟨⟨hbefore, -, hfirst⟩, hothers⟩
        refine ⟨hbefore, List.forall_mem_cons.mpr ⟨?_, ?_⟩⟩
        · intro current hcurrent
          obtain rfl : work = current := Option.some.inj (hwork.symm.trans hcurrent)
          exact hfirst
        · intro other hmem current hcurrent
          exact hothers other hmem current ((hlookup _ (hother other hmem)).trans hcurrent)
      · rintro ⟨hbefore, hall⟩
        obtain ⟨hfirst, hothers⟩ := List.forall_mem_cons.mp hall
        refine ⟨⟨hbefore, hfresh first List.mem_cons_self, hfirst work hwork⟩, ?_⟩
        intro other hmem current hcurrent
        exact hothers other hmem current ((hlookup _ (hother other hmem)).symm.trans hcurrent)

end Fold

section Invariants

/-- A work order of the plan with the cancellations is one of the plan before, in all that the checks of one
order read. -/
theorem Cancelled.exists_before (h : Cancelled ids base next) {id : PlanWorkOrderId}
    {work : PlannedWorkOrder} (hwork : next.workOrders[id]? = some work) :
    ∃ before, base.workOrders[id]? = some before ∧ work.id = before.id ∧
      work.requiredAccess = before.requiredAccess ∧ work.dependencies = before.dependencies ∧
      work.verificationTargets = before.verificationTargets ∧
      work.obligations = before.obligations := by
  by_cases hid : id ∈ ids
  · obtain ⟨before, basis, hbefore, hafter⟩ := h.named id hid
    obtain rfl : before.cancel basis = work := Option.some.inj (hafter.symm.trans hwork)
    exact ⟨before, hbefore, rfl, rfl, rfl, rfl, rfl⟩
  · rw [h.unnamed id hid] at hwork
    exact ⟨work, hwork, rfl, rfl, rfl, rfl, rfl⟩

theorem Cancelled.exists_after (h : Cancelled ids base next) {id : PlanWorkOrderId}
    {work : PlannedWorkOrder} (hwork : base.workOrders[id]? = some work) :
    ∃ after, next.workOrders[id]? = some after ∧ after.dependencies = work.dependencies := by
  by_cases hid : id ∈ ids
  · obtain ⟨before, basis, hbefore, hafter⟩ := h.named id hid
    obtain rfl : before = work := Option.some.inj (hbefore.symm.trans hwork)
    exact ⟨before.cancel basis, hafter, rfl⟩
  · exact ⟨work, (h.unnamed id hid).trans hwork, rfl⟩

theorem Cancelled.isSome (h : Cancelled ids base next) (id : PlanWorkOrderId) :
    (next.workOrders[id]?).isSome = (base.workOrders[id]?).isSome := by
  by_cases hid : id ∈ ids
  · obtain ⟨before, basis, hbefore, hafter⟩ := h.named id hid
    rw [hbefore, hafter]
    rfl
  · rw [h.unnamed id hid]

theorem Cancelled.dependsOn (h : Cancelled ids base next) :
    PlanDependsOn next.workOrders = PlanDependsOn base.workOrders := by
  funext id dependency
  have hnamed : (∃ work, next.workOrders[id]? = some work ∧ dependency ∈ work.dependencies) ↔
      ∃ work, base.workOrders[id]? = some work ∧ dependency ∈ work.dependencies := by
    constructor
    · rintro ⟨work, hwork, hdependency⟩
      obtain ⟨before, hbefore, -, -, hsame, -⟩ := h.exists_before hwork
      exact ⟨before, hbefore, hsame ▸ hdependency⟩
    · rintro ⟨work, hwork, hdependency⟩
      obtain ⟨after, hafter, hsame⟩ := h.exists_after hwork
      exact ⟨after, hafter, hsame ▸ hdependency⟩
  have hknown := h.isSome dependency
  unfold PlanDependsOn ItemDependsOn
  rw [hnamed, hknown]

/-- The check of a dependency fails just where it was cancelled. -/
theorem Cancelled.planDependencyViolations_eq_nil (h : Cancelled ids base next)
    {id dependency : PlanWorkOrderId} (hbase : planDependencyViolations base id dependency = []) :
    planDependencyViolations next id dependency = [] ↔ dependency ∉ ids := by
  by_cases hdependency : dependency ∈ ids
  · obtain ⟨before, basis, -, hafter⟩ := h.named dependency hdependency
    have hcancelled : (before.cancel basis).state = .cancelled := rfl
    simp [planDependencyViolations, hafter, hdependency, hcancelled]
  · unfold planDependencyViolations at hbase ⊢
    rw [h.unnamed dependency hdependency]
    exact iff_of_true hbase hdependency

/-- A plan that no check objects to. -/
theorem planInvariantViolations_eq_nil {plan : PlanSnapshot} {allowEmpty : Bool} :
    planInvariantViolations plan obligations policy allowEmpty = [] ↔
      plan.workOrders.size ≤ policy.limits.maxWorkOrders.toNat ∧
      plan.verificationTargets.size ≤ policy.limits.maxVerificationTargets.toNat ∧
      (∀ (id : PlanWorkOrderId) work, plan.workOrders[id]? = some work →
        plannedWorkOrderViolations plan obligations policy id work = []) ∧
      (∀ (id : VerificationTargetId) target, plan.verificationTargets[id]? = some target →
        plannedTargetViolations obligations id target = []) ∧
      ¬dependencyGraphHasCycle plan.workOrders = true ∧
      ((allowEmpty && plan.workOrders.isEmpty) = false → coverageViolations plan obligations = []) := by
  simp only [planInvariantViolations, collect_eq_nil, List.forall_mem_cons, List.not_mem_nil,
    false_implies, implies_true, and_true, report_eq_nil, Nat.not_lt, gt_iff_lt,
    List.flatMap_eq_nil_iff, Prod.forall, ExtTreeMap.mem_toList_iff_getElem?_eq_some]
  have hcoverage : (if (allowEmpty && plan.workOrders.isEmpty) = true then []
      else coverageViolations plan obligations) = [] ↔
      ((allowEmpty && plan.workOrders.isEmpty) = false →
        coverageViolations plan obligations = []) := by
    cases allowEmpty && plan.workOrders.isEmpty <;> simp
  rw [hcoverage]

/-- The checks of one order go on as they did, but for the dependencies that were cancelled. -/
theorem Cancelled.plannedWorkOrderViolations_eq_nil (h : Cancelled ids base next)
    {id : PlanWorkOrderId} {work before : PlannedWorkOrder} (hid : work.id = before.id)
    (haccess : work.requiredAccess = before.requiredAccess)
    (hdependencies : work.dependencies = before.dependencies)
    (htargets : work.verificationTargets = before.verificationTargets)
    (hobligations : work.obligations = before.obligations)
    (hbase : plannedWorkOrderViolations base obligations policy id before = []) :
    plannedWorkOrderViolations next obligations policy id work = [] ↔
      ∀ dependency ∈ before.dependencies, dependency ∉ ids := by
  simp only [plannedWorkOrderViolations, collect_eq_nil, List.forall_mem_cons, List.not_mem_nil,
    false_implies, implies_true, and_true, List.flatMap_eq_nil_iff, ExtTreeSet.mem_toList]
    at hbase ⊢
  rw [hid, haccess, hdependencies, htargets, hobligations, h.targets]
  obtain ⟨hown, hallowed, hknown, htargeted, hprotected⟩ := hbase
  constructor
  · rintro ⟨-, -, hnone, -, -⟩ dependency hdependency
    exact (h.planDependencyViolations_eq_nil (hknown dependency hdependency)).mp
      (hnone dependency hdependency)
  · intro hkept
    refine ⟨hown, hallowed, ?_, htargeted, hprotected⟩
    intro dependency hdependency
    exact (h.planDependencyViolations_eq_nil (hknown dependency hdependency)).mpr
      (hkept dependency hdependency)

/-- A valid plan stays valid under cancellations that leave the obligations covered if none of its orders,
cancelled before or not, depends on what they cancel. -/
theorem Cancelled.planInvariantViolations_eq_nil_iff (h : Cancelled ids base next)
    {allowEmpty : Bool} (hbase : planInvariantViolations base obligations policy false = [])
    (hcovered : coverageViolations next obligations = []) :
    planInvariantViolations next obligations policy allowEmpty = [] ↔
      ∀ (id : PlanWorkOrderId) work, base.workOrders[id]? = some work →
        ∀ dependency ∈ work.dependencies, dependency ∉ ids := by
  rw [planInvariantViolations_eq_nil] at hbase ⊢
  obtain ⟨horders, htargets, hwork, htarget, hcycle, -⟩ := hbase
  have hsize : next.workOrders.size = base.workOrders.size := by
    refine size_eq_of_mem_iff fun id => ?_
    rw [ExtTreeMap.mem_iff_isSome_getElem?, ExtTreeMap.mem_iff_isSome_getElem?, h.isSome]
  constructor
  · rintro ⟨-, -, hnone, -⟩ id work hfound
    by_cases hid : id ∈ ids
    · obtain ⟨before, basis, hbefore, hafter⟩ := h.named id hid
      obtain rfl : before = work := Option.some.inj (hbefore.symm.trans hfound)
      have hiff : plannedWorkOrderViolations next obligations policy id (before.cancel basis) = [] ↔
          ∀ dependency ∈ before.dependencies, dependency ∉ ids :=
        h.plannedWorkOrderViolations_eq_nil rfl rfl rfl rfl rfl (hwork id before hbefore)
      exact hiff.mp (hnone id _ hafter)
    · exact (h.plannedWorkOrderViolations_eq_nil rfl rfl rfl rfl rfl (hwork id work hfound)).mp
        (hnone id work ((h.unnamed id hid).trans hfound))
  · intro hkept
    refine ⟨hsize ▸ horders, h.targets ▸ htargets, ?_, h.targets ▸ htarget, ?_, fun _ => hcovered⟩
    · intro id work hfound
      obtain ⟨before, hbefore, hsame, haccess, hdependencies, hverified, hobliged⟩ :=
        h.exists_before hfound
      exact (h.plannedWorkOrderViolations_eq_nil hsame haccess hdependencies hverified hobliged
        (hwork id before hbefore)).mpr (hkept id before hbefore)
    · rw [dependencyGraphHasCycle_iff, h.dependsOn, ← dependencyGraphHasCycle_iff]
      exact hcycle

end Invariants

section Turn

/-- A turn that cancels a closed set of work orders that have not begun, or have failed, of a valid plan, and
is otherwise in order: no live order outside depends on one of them, what is left covers the obligations,
and the directive is valid for the result. -/
structure CancelsClosedSet (encoding : PlannerEncoding) (proposal : PlannerTurnProposal)
    (base : PlanSnapshot) (obligations : ProtectedObligationCatalog)
    (context : PlannerContextCatalog) (policy : PlannerPolicy)
    (cancellations : List CancelWorkOrder) : Prop where
  bindings : bindingViolations encoding base obligations context policy proposal = []
  valid : planInvariantViolations base obligations policy false = []
  patch : proposal.patch = ⟨none, [], [], [], cancellations⟩
  distinct : (cancellations.map (·.target.id)).Nodup
  current : ∀ cancellation ∈ cancellations, ∃ work,
    base.workOrders[cancellation.target.id]? = some work ∧ Mutable work ∧
      encoding.workOrder work = cancellation.target.revisionSha256
  basis : ∀ cancellation ∈ cancellations,
    validateBasis "cancel_work_order.basis" cancellation.basis context = []
  closed : ∀ (id : PlanWorkOrderId) work, base.workOrders[id]? = some work →
    work.state ≠ .cancelled → id ∉ cancellations.map (·.target.id) →
      ∀ dependency ∈ work.dependencies, dependency ∉ cancellations.map (·.target.id)
  covered : ∀ (id : ObligationId) obligation, obligations.obligations[id]? = some obligation →
    obligation.required → ∃ (workId : PlanWorkOrderId) (work : PlannedWorkOrder),
      base.workOrders[workId]? = some work ∧ work.state ≠ .cancelled ∧
        workId ∉ cancellations.map (·.target.id) ∧
        ∃ obligationRef ∈ work.obligations, obligationRef.id = obligation.id
  /-- The limits are kept, on the operations among others. -/
  limits : ∀ violation ∈ structuralViolations encoding proposal base policy,
    violation = .planRevisionOverflow
  directive : (turnDirective encoding proposal base obligations context policy).1.isSome ∧
    (turnDirective encoding proposal base obligations context policy).2 = []

theorem not_mem_directiveCollectionViolations {directive : PlannerDirective} :
    .planRevisionOverflow ∉ directiveCollectionViolations directive := by
  simp [directiveCollectionViolations, collectionViolation, collect]

/-- The revision is reported only where it overflows. -/
theorem revisionOverflows_of_mem
    (h : .planRevisionOverflow ∈ structuralViolations encoding proposal base policy) :
    revisionOverflows proposal base = true := by
  have hcardinality : .planRevisionOverflow ∈ cardinalityViolations proposal base policy →
      revisionOverflows proposal base = true := by
    intro hmem
    simpa [cardinalityViolations, collect, not_mem_directiveCollectionViolations] using hmem
  unfold structuralViolations at h
  split_ifs at h
  · exact hcardinality h
  · exact hcardinality (by simpa using h)
  · exact hcardinality (by simpa using h)

theorem revisionOverflows_of_eq_nil
    (h : structuralViolations encoding proposal base policy = []) :
    revisionOverflows proposal base = false := by
  by_contra hoverflow
  rw [Bool.not_eq_false] at hoverflow
  have hmem : .planRevisionOverflow ∈ structuralViolations encoding proposal base policy := by
    have hhard : hardCardinalityExceeded proposal base = true := by
      simp [hardCardinalityExceeded, hoverflow]
    rw [structuralViolations, if_pos hhard]
    simp [cardinalityViolations, collect, hoverflow]
  rw [h] at hmem
  cases hmem

/-- A turn that binds to a valid plan and has a directive is accepted unless its structure or its result is
objected to. -/
theorem exists_ok_iff
    (hbindings : bindingViolations encoding base obligations context policy proposal = [])
    (hdirective : (turnDirective encoding proposal base obligations context policy).1.isSome) :
    (∃ turn, validateAndApply encoding proposal base obligations context policy = .ok turn) ↔
      structuralViolations encoding proposal base policy = [] ∧
        turnViolations encoding proposal base obligations context policy = [] := by
  constructor
  · rintro ⟨turn, hturn⟩
    have haccepts := accepts_of_ok hturn
    exact ⟨haccepts.structural, haccepts.violations⟩
  · rintro ⟨hstructural, hviolations⟩
    obtain ⟨directive, hsome⟩ := Option.isSome_iff_exists.mp hdirective
    have hoverflow := revisionOverflows_of_eq_nil hstructural
    obtain ⟨plan, hadvanced⟩ : ∃ plan, advancePlan encoding proposal base
        (applyTurn encoding proposal base obligations context policy).plan = .ok plan := by
      unfold advancePlan
      split_ifs with hempty
      · exact ⟨_, rfl⟩
      · cases hrevision : checkedAdd base.revision 1 with
        | none => simp [revisionOverflows, hempty, hrevision] at hoverflow
        | some revision => exact ⟨_, rfl⟩
    unfold validateAndApply
    rw [if_neg (not_not.mpr hstructural), if_neg (not_not.mpr hbindings),
      if_neg (not_not.mpr hviolations), hsome, hadvanced]
    exact ⟨_, rfl⟩

section Closed

variable (h : CancelsClosedSet encoding proposal base obligations context policy cancellations)

include h

/-- The turn does nothing but cancel. -/
theorem CancelsClosedSet.applyTurn_eq :
    applyTurn encoding proposal base obligations context policy =
      cancellations.foldl (applyCancellation encoding context) ⟨base, ∅, []⟩ := by
  simp only [applyTurn, applyOperations, applyStrategySummary, allocateWorkOrderIds,
    allocateVerificationTargetIds, allocateIds, h.patch, List.map_nil, List.foldl_nil,
    List.append_nil]

theorem CancelsClosedSet.applied :
    Cancelled (cancellations.map (·.target.id)) base
      (applyTurn encoding proposal base obligations context policy).plan ∧
    ((applyTurn encoding proposal base obligations context policy).violations = [] ↔
      ∀ cancellation ∈ cancellations, ∀ work : PlannedWorkOrder,
        base.workOrders[cancellation.target.id]? = some work →
          work.revision.toNat + 1 < 2 ^ 32) := by
  have hknown : ∀ cancellation ∈ cancellations,
      (base.workOrders[cancellation.target.id]?).isSome := by
    intro cancellation hmem
    obtain ⟨work, hwork, -⟩ := h.current cancellation hmem
    exact Option.isSome_of_eq_some hwork
  have hfresh : ∀ cancellation ∈ cancellations,
      cancellation.target.id ∉ (⟨base, ∅, []⟩ : Applied).targetsSeen :=
    fun _ _ => ExtTreeSet.not_mem_empty
  obtain ⟨hcancelled, hviolations⟩ :=
    cancelled_foldl encoding context h.distinct hfresh hknown
  rw [h.applyTurn_eq]
  refine ⟨hcancelled, hviolations.trans ?_⟩
  constructor
  · rintro ⟨-, hall⟩ cancellation hmem work hwork
    exact (hall cancellation hmem work hwork).revision
  · intro hrevisions
    refine ⟨rfl, ?_⟩
    intro cancellation hmem work hwork
    obtain ⟨current, hcurrent, hmutable, hdigest⟩ := h.current cancellation hmem
    obtain rfl : current = work := Option.some.inj (hcurrent.symm.trans hwork)
    refine ⟨h.basis cancellation hmem, ?_, hrevisions cancellation hmem current hwork⟩
    rcases hmutable with hstate | hstate <;> simp [mutationViolations, hdigest, hstate]

/-- What is left covers the required obligations. -/
theorem CancelsClosedSet.coverage :
    coverageViolations (applyTurn encoding proposal base obligations context policy).plan
      obligations = [] := by
  simp only [coverageViolations, List.flatMap_eq_nil_iff, List.mem_filter, report_eq_nil,
    Bool.not_eq_false]
  rintro obligation ⟨hmem, hrequired⟩
  obtain ⟨id, hfound⟩ := mem_mapValues.mp hmem
  obtain ⟨workId, work, hwork, hstate, hid, hcarries⟩ := h.covered id obligation hfound hrequired
  refine covered_eq_true.mpr ⟨workId, work, ?_, hstate, hcarries⟩
  rw [h.applied.1.unnamed workId hid]
  exact hwork

theorem CancelsClosedSet.structural_iff :
    structuralViolations encoding proposal base policy = [] ↔
      (cancellations ≠ [] → base.revision.toNat + 1 < 2 ^ 64) := by
  have hoverflows : revisionOverflows proposal base = false ↔
      (cancellations ≠ [] → base.revision.toNat + 1 < 2 ^ 64) := by
    unfold revisionOverflows checkedAdd
    rw [h.patch]
    cases cancellations with
    | nil => simp [PlanPatch.isEmpty]
    | cons first rest => simp [PlanPatch.isEmpty]
  rw [← hoverflows]
  constructor
  · exact revisionOverflows_of_eq_nil
  · intro hrises
    rw [List.eq_nil_iff_forall_not_mem]
    intro violation hmem
    obtain rfl := h.limits violation hmem
    rw [revisionOverflows_of_mem hmem] at hrises
    cases hrises

end Closed

/-- Such a turn is accepted exactly when no work order of the plan, cancelled or not, depends on one that it
cancels, and neither their revisions nor the plan's overflows. -/
theorem closed_cancellation_accepted_iff (encoding : PlannerEncoding)
    (proposal : PlannerTurnProposal) (base : PlanSnapshot)
    (obligations : ProtectedObligationCatalog) (context : PlannerContextCatalog)
    (policy : PlannerPolicy) (cancellations : List CancelWorkOrder)
    (h : CancelsClosedSet encoding proposal base obligations context policy cancellations) :
    (∃ turn, validateAndApply encoding proposal base obligations context policy = .ok turn) ↔
      (∀ (id : PlanWorkOrderId) work, base.workOrders[id]? = some work →
        ∀ dependency ∈ work.dependencies, dependency ∉ cancellations.map (·.target.id)) ∧
      (∀ cancellation ∈ cancellations, ∀ work : PlannedWorkOrder,
        base.workOrders[cancellation.target.id]? = some work →
          work.revision.toNat + 1 < 2 ^ 32) ∧
      (cancellations ≠ [] → base.revision.toNat + 1 < 2 ^ 64) := by
  obtain ⟨hcancelled, hviolations⟩ := h.applied
  rw [exists_ok_iff h.bindings h.directive.1, h.structural_iff]
  simp only [turnViolations, collect_eq_nil, List.forall_mem_cons, List.not_mem_nil,
    false_implies, implies_true, and_true, hviolations, h.directive.2,
    hcancelled.planInvariantViolations_eq_nil_iff h.valid h.coverage]
  constructor
  · rintro ⟨hrevision, hrevisions, hkept⟩
    exact ⟨hkept, hrevisions, hrevision⟩
  · rintro ⟨hkept, hrevisions, hrevision⟩
    exact ⟨hrevision, hrevisions, hkept⟩

end Turn

section Sample

def sampleWork (id : PlanWorkOrderId) (dependencies : List PlanWorkOrderId) : PlannedWorkOrder :=
  ⟨id, 1, "objective", toSet [⟨⟨7⟩, samplePlannerDigest⟩], toSet dependencies, toSet [⟨1⟩], .readOnly,
    .pending, sampleBasis⟩

/-- The second work order depends on the first, and the third covers what they cover. -/
def chainPlan : PlanSnapshot where
  schemaVersion := planSchemaVersion
  planId := ⟨1⟩
  revision := 1
  parentPlanSha256 := none
  obligationSnapshotSha256 := samplePlannerDigest
  acceptancePolicySha256 := samplePlannerDigest
  strategySummary := ""
  verificationTargets := toMap [(⟨1⟩,
    ⟨⟨1⟩, "target", toSet [⟨⟨7⟩, samplePlannerDigest⟩], sampleBasis⟩)]
  workOrders := toMap [(⟨1⟩, sampleWork ⟨1⟩ []), (⟨2⟩, sampleWork ⟨2⟩ [⟨1⟩]),
    (⟨3⟩, sampleWork ⟨3⟩ [])]

def sampleCancellation (id : PlanWorkOrderId) : CancelWorkOrder :=
  ⟨⟨id, samplePlannerDigest⟩, sampleBasis⟩

/-- The turn executes the third work order. -/
def cancellingTurn (ids : List PlanWorkOrderId) : PlannerTurnProposal where
  schemaVersion := 1
  bindings := sampleBindings 1
  patch := ⟨none, [], [], [], ids.map sampleCancellation⟩
  directive := ⟨.execute, ⟨toSet [⟨3⟩], ∅⟩, [], [], [], []⟩

theorem chainPlan_workOrders {id : PlanWorkOrderId} {work : PlannedWorkOrder} :
    chainPlan.workOrders[id]? = some work ↔ id = ⟨1⟩ ∧ work = sampleWork ⟨1⟩ [] ∨
      id = ⟨2⟩ ∧ work = sampleWork ⟨2⟩ [⟨1⟩] ∨ id = ⟨3⟩ ∧ work = sampleWork ⟨3⟩ [] := by
  have hkeys : ([(⟨1⟩, sampleWork ⟨1⟩ []), (⟨2⟩, sampleWork ⟨2⟩ [⟨1⟩]),
      (⟨3⟩, sampleWork ⟨3⟩ [])].map (Prod.fst : PlanWorkOrderId × PlannedWorkOrder → _)).Nodup := by
    decide
  rw [chainPlan, toMap_getElem?_eq_some hkeys]
  simp

/-- Both orders of the chain, or the one that nothing depends on. -/
theorem chainPlan_closed : ∀ ids ∈ [[⟨1⟩, ⟨2⟩], [⟨2⟩]],
    CancelsClosedSet sampleEncoding (cancellingTurn ids) chainPlan sampleObligations sampleContext
      samplePolicy (ids.map sampleCancellation) := by
  have hchecks : planInvariantViolations chainPlan sampleObligations samplePolicy false = [] ∧
      validateBasis "cancel_work_order.basis" sampleBasis sampleContext = [] ∧
      ∀ ids ∈ [[⟨1⟩, ⟨2⟩], [⟨2⟩]],
        bindingViolations sampleEncoding chainPlan sampleObligations sampleContext samplePolicy
          (cancellingTurn ids) = [] ∧
        structuralViolations sampleEncoding (cancellingTurn ids) chainPlan samplePolicy = [] ∧
        (turnDirective sampleEncoding (cancellingTurn ids) chainPlan sampleObligations sampleContext
          samplePolicy).1.isSome ∧
        (turnDirective sampleEncoding (cancellingTurn ids) chainPlan sampleObligations sampleContext
          samplePolicy).2 = [] := by
    decide
  obtain ⟨hvalid, hbasis, hturn⟩ := hchecks
  intro ids hids
  obtain ⟨hbindings, hstructural, hdirective⟩ := hturn ids hids
  have hnamed : (ids.map sampleCancellation).map (·.target.id) = ids := by
    rw [List.map_map]
    exact List.map_id ids
  have hshape : ids.Nodup ∧ ⟨2⟩ ∈ ids ∧ ⟨3⟩ ∉ ids ∧ ∀ id ∈ ids, id = ⟨1⟩ ∨ id = ⟨2⟩ := by
    rcases List.mem_pair.mp hids with rfl | rfl <;> decide
  obtain ⟨hdistinct, hlast, hlive, hchain⟩ := hshape
  refine ⟨hbindings, hvalid, rfl, hnamed.symm ▸ hdistinct, ?_, ?_, ?_, ?_, ?_, hdirective⟩
  · intro cancellation hmem
    obtain ⟨id, hid, rfl⟩ := List.mem_map.mp hmem
    rcases hchain id hid with rfl | rfl
    · exact ⟨_, chainPlan_workOrders.mpr (.inl ⟨rfl, rfl⟩), .inl rfl, rfl⟩
    · exact ⟨_, chainPlan_workOrders.mpr (.inr (.inl ⟨rfl, rfl⟩)), .inl rfl, rfl⟩
  · intro cancellation hmem
    obtain ⟨id, -, rfl⟩ := List.mem_map.mp hmem
    exact hbasis
  · intro id work hwork hstate houtside dependency hdependency
    rw [hnamed] at houtside
    rcases chainPlan_workOrders.mp hwork with ⟨-, rfl⟩ | ⟨rfl, -⟩ | ⟨-, rfl⟩
    · exact absurd hdependency ExtTreeSet.not_mem_empty
    · exact absurd hlast houtside
    · exact absurd hdependency ExtTreeSet.not_mem_empty
  · intro id obligation hfound _
    have hkeys : ([(⟨7⟩, ⟨⟨7⟩, samplePlannerDigest, "obligation", true⟩)].map
        (Prod.fst : ObligationId × ProtectedObligation → _)).Nodup := by
      decide
    rw [sampleObligations, toMap_getElem?_eq_some hkeys, List.mem_singleton] at hfound
    obtain ⟨rfl, rfl⟩ := Prod.mk.inj hfound
    refine ⟨⟨3⟩, _, chainPlan_workOrders.mpr (.inr (.inr ⟨rfl, rfl⟩)), by decide, ?_,
      ⟨⟨7⟩, samplePlannerDigest⟩, by decide, rfl⟩
    rw [hnamed]
    exact hlive
  · intro violation hmem
    rw [hstructural] at hmem
    cases hmem

/-- The order that nothing depends on can be cancelled. -/
theorem closed_cancellation_accepted_leaf : ∃ turn, validateAndApply sampleEncoding
    (cancellingTurn [⟨2⟩]) chainPlan sampleObligations sampleContext samplePolicy = .ok turn := by
  refine (closed_cancellation_accepted_iff _ _ _ _ _ _ _
    (chainPlan_closed [⟨2⟩] (by simp))).mpr ⟨?_, ?_, ?_⟩
  · intro id work hwork dependency hdependency
    rcases chainPlan_workOrders.mp hwork with ⟨-, rfl⟩ | ⟨-, rfl⟩ | ⟨-, rfl⟩
    · exact absurd hdependency ExtTreeSet.not_mem_empty
    · obtain rfl : dependency = ⟨1⟩ := List.mem_singleton.mp (mem_toSet.mp hdependency)
      decide
    · exact absurd hdependency ExtTreeSet.not_mem_empty
  · intro cancellation hmem work hwork
    rcases chainPlan_workOrders.mp hwork with ⟨-, rfl⟩ | ⟨-, rfl⟩ | ⟨-, rfl⟩ <;> decide
  · intro _
    decide

/-- The whole chain cannot: its second order, cancelled as well, still depends on its first. -/
theorem chain_cancellation_rejected :
    CancelsClosedSet sampleEncoding (cancellingTurn [⟨1⟩, ⟨2⟩]) chainPlan sampleObligations
      sampleContext samplePolicy ([⟨1⟩, ⟨2⟩].map sampleCancellation) ∧
    validateAndApply sampleEncoding (cancellingTurn [⟨1⟩, ⟨2⟩]) chainPlan sampleObligations
      sampleContext samplePolicy = .error [.dependencyOnCancelled ⟨2⟩ ⟨1⟩] := by
  refine ⟨chainPlan_closed [⟨1⟩, ⟨2⟩] (by simp), ?_⟩
  decide

end Sample

end BirdCode.Planner
