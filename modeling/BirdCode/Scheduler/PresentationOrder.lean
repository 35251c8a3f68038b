import BirdCode.Scheduler.Accepted

/-! The order in which a graph lists its work orders does not matter: a permuted list is accepted with it, as
the same sorted graph under the same digest, and the sorted graph is accepted as itself. -/
namespace BirdCode.Scheduler

open Lib

variable {digest : CanonicalDigest} {graph : ActorGraph} {policy : ActorGraphPolicy}
  {workOrders workOrders' : List WorkOrder} {validated : ValidatedActorGraph digest}

section Sorting

theorem eq_of_uuid {a b : WorkOrderId} (h : a.uuid = b.uuid) : a = b := by
  cases a
  cases b
  exact congrArg UuidId.mk h

theorem sortWorkOrders_perm (workOrders : List WorkOrder) :
    (sortWorkOrders workOrders).Perm workOrders :=
  List.perm_insertionSort _ _

/-- Orders of distinct ids come out in one order. -/
theorem sortWorkOrders_eq_of_perm (hperm : workOrders.Perm workOrders')
    (hids : (workOrders.map (·.id)).Nodup) :
    sortWorkOrders workOrders = sortWorkOrders workOrders' := by
  have hsorted : (sortWorkOrders workOrders).Perm (sortWorkOrders workOrders') :=
    (sortWorkOrders_perm workOrders).trans (hperm.trans (sortWorkOrders_perm workOrders').symm)
  refine hsorted.eq_of_pairwise ?_ (sortWorkOrders_sorted _) (sortWorkOrders_sorted _)
  intro a b ha hb hab hba
  have ha' : a ∈ workOrders := (sortWorkOrders_perm workOrders).mem_iff.mp ha
  have hb' : b ∈ workOrders := hperm.mem_iff.mpr ((sortWorkOrders_perm workOrders').mem_iff.mp hb)
  refine List.inj_on_of_nodup_map hids ha' hb' ?_
  exact eq_of_uuid (le_antisymm hab hba)

theorem sortWorkOrders_of_sorted
    (hsorted : workOrders.Pairwise fun a b => a.id.uuid ≤ b.id.uuid) :
    sortWorkOrders workOrders = workOrders :=
  hsorted.insertionSort_eq

end Sorting

section Limits

theorem totalCapabilityReferences_perm (hperm : graph.workOrders.Perm workOrders) :
    totalCapabilityReferences { graph with workOrders := workOrders } policy =
      totalCapabilityReferences graph policy := by
  refine (List.Perm.foldl_eq' hperm ?_ _).symm
  intro a _ b _ total
  simp only [saturatingAdd]
  omega

/-- The structural limits are kept or broken by a list in every order. -/
theorem structuralLimitViolations_eq_nil_of_perm (hperm : graph.workOrders.Perm workOrders) :
    structuralLimitViolations { graph with workOrders := workOrders } policy = [] ↔
      structuralLimitViolations graph policy = [] := by
  have hlength : workOrders.length = graph.workOrders.length := hperm.length_eq.symm
  have hshapes : (workOrders.flatMap orderShapeViolations = []) ↔
      graph.workOrders.flatMap orderShapeViolations = [] := by
    simp only [List.flatMap_eq_nil_iff, hperm.mem_iff]
  unfold structuralLimitViolations
  simp only [collect_eq_nil, List.forall_mem_cons, totalCapabilityReferences_perm hperm, hlength,
    report_eq_nil]
  split <;> simp only [collect_eq_nil, List.forall_mem_cons, hshapes]

end Limits

section Acceptance

theorem nodup_of_graphViolations_eq_nil (h : graphViolations graph policy = []) :
    (graph.workOrders.map (·.id)).Nodup := by
  simp only [graphViolations, collect_eq_nil, List.forall_mem_cons] at h
  exact (admitOrders_violations_eq_nil.mp h.2.1).1

/-- Only a graph that keeps the structural limits is accepted, as the sorted one that no check objects to. -/
theorem validateAgainst_eq_ok :
    validateAgainst digest graph policy = .ok validated ↔
      structuralLimitViolations graph policy = [] ∧
        validated.graph = { graph with workOrders := sortWorkOrders graph.workOrders } ∧
        validated.policy = policy := by
  unfold validateAgainst
  by_cases hlimits : structuralLimitViolations graph policy = []
  · rw [if_neg (not_not.mpr hlimits)]
    dsimp only
    by_cases haccepted : graphViolations
        { graph with workOrders := sortWorkOrders graph.workOrders } policy = []
    · rw [dif_pos haccepted]
      constructor
      · intro h
        obtain rfl := Except.ok.inj h
        exact ⟨hlimits, rfl, rfl⟩
      · rintro ⟨-, hgraph, hpolicy⟩
        obtain ⟨accepted, policy', digestSha256, sorted, haccepted', rfl⟩ := validated
        dsimp only at hgraph hpolicy
        subst hgraph hpolicy
        rfl
    · rw [dif_neg haccepted]
      constructor
      · intro h
        cases h
      · rintro ⟨-, hgraph, hpolicy⟩
        have hnone := validated.accepted
        rw [hgraph, hpolicy] at hnone
        exact absurd hnone haccepted
  · rw [if_pos hlimits]
    constructor
    · intro h
      cases h
    · rintro ⟨hkept, -, -⟩
      exact absurd hkept hlimits

theorem validateAgainst_of_perm (hperm : graph.workOrders.Perm workOrders)
    (h : validateAgainst digest graph policy = .ok validated) :
    validateAgainst digest { graph with workOrders := workOrders } policy = .ok validated := by
  obtain ⟨hlimits, hgraph, hpolicy⟩ := validateAgainst_eq_ok.mp h
  have hids : (graph.workOrders.map (·.id)).Nodup := by
    have hsorted := validated.ids_nodup
    rw [hgraph] at hsorted
    exact (((sortWorkOrders_perm graph.workOrders).map _).nodup_iff).mp hsorted
  refine validateAgainst_eq_ok.mpr
    ⟨(structuralLimitViolations_eq_nil_of_perm hperm).mpr hlimits, ?_, hpolicy⟩
  rw [hgraph, sortWorkOrders_eq_of_perm hperm hids]

/-- An accepted graph is accepted as it is. -/
theorem validateAgainst_accepted (h : validateAgainst digest graph policy = .ok validated) :
    validateAgainst digest validated.graph policy = .ok validated := by
  obtain ⟨-, hgraph, -⟩ := validateAgainst_eq_ok.mp h
  rw [hgraph]
  exact validateAgainst_of_perm (sortWorkOrders_perm graph.workOrders).symm h

end Acceptance

/-- Whatever order the work orders are listed in, a graph is accepted as the same canonical graph with the
same digest or rejected, and an accepted graph is accepted again as itself. -/
theorem acceptance_ignores_order (digest : CanonicalDigest) (graph : ActorGraph)
    (policy : ActorGraphPolicy) (workOrders : List WorkOrder)
    (hperm : graph.workOrders.Perm workOrders) :
    (∀ validated, validateAgainst digest { graph with workOrders := workOrders } policy =
        .ok validated ↔ validateAgainst digest graph policy = .ok validated) ∧
    ∀ validated, validateAgainst digest graph policy = .ok validated →
      validateAgainst digest validated.graph policy = .ok validated := by
  refine ⟨?_, fun validated => validateAgainst_accepted⟩
  intro validated
  constructor
  · intro h
    have hback : ({ graph with workOrders := workOrders } : ActorGraph).workOrders.Perm
        graph.workOrders := hperm.symm
    have haccepted := validateAgainst_of_perm hback h
    exact haccepted
  · exact validateAgainst_of_perm hperm

/-- The two orders of the sample graph, listed the other way round, are accepted as that graph. -/
theorem acceptance_ignores_order_pair :
    validateAgainst constantDigest
      { pairGraph.graph with workOrders := pairGraph.graph.workOrders.reverse }
      pairGraph.policy = .ok pairGraph := by
  have haccepted : validateAgainst constantDigest pairGraph.graph pairGraph.policy =
      .ok pairGraph := by
    refine validateAgainst_eq_ok.mpr ⟨by decide, ?_, rfl⟩
    rw [sortWorkOrders_of_sorted pairGraph.sorted]
  exact ((acceptance_ignores_order constantDigest pairGraph.graph pairGraph.policy _
    (List.reverse_perm _).symm).1 pairGraph).mpr haccepted

end BirdCode.Scheduler
