import BirdCode.Scheduler.Accepted

/-! Reviews and candidate groups along whole dependency paths: the direct checks of an accepted graph leave
no path from a reviewed order but to its reviewers, and none between two candidates of a group. -/
namespace BirdCode.Scheduler

open Lib Std

section Reachable

/-- The work order of an id names the other id as a dependency. -/
def WaitsFor (workOrders : List WorkOrder) (id dependency : WorkOrderId) : Prop :=
  ∃ order ∈ workOrders, order.id = id ∧ dependency ∈ order.dependencies

variable {orders : Orders} {source target : WorkOrderId}

/-- A search that does not reach its target has seen a set of orders that no dependency leaves, and none
of them names the target. -/
theorem closed_of_dependencyReachable_eq_false
    (h : dependencyReachable source target orders = false) :
    ∃ seen : List WorkOrderId, source ∈ seen ∧ ∀ id ∈ seen, ∀ order, orders[id]? = some order →
      target ∉ order.dependencies ∧
        ∀ dependency ∈ order.dependencies, dependency ∈ orders → dependency ∈ seen := by
  unfold dependencyReachable at h
  split at h
  · next seen hseen =>
    obtain ⟨hclosed, hsource⟩ := exhaust_ok _ _ hseen
    refine ⟨seen, hsource, ?_⟩
    intro id hid order horder
    obtain ⟨next, hvisit, hnext⟩ := hclosed id hid
    rw [searchDependencies, horder] at hvisit
    dsimp only at hvisit
    split_ifs at hvisit with htarget
    obtain rfl : knownDependencies orders id = next := Except.ok.inj hvisit
    refine ⟨?_, ?_⟩
    · intro hmem
      exact htarget (ExtTreeSet.contains_iff_mem.mpr hmem)
    · intro dependency hdependency hknown
      refine hnext dependency ?_
      simp only [knownDependencies, horder, List.mem_filter]
      exact ⟨ExtTreeSet.mem_toList.mpr hdependency, hknown⟩
  · cases h

theorem isEmpty_eq_false_of_mem {ids : BTreeSet WorkOrderId} (h : target ∈ ids) :
    ids.isEmpty = false := by
  by_contra hempty
  exact notMem_of_isEmpty (Bool.not_eq_false _ |>.mp hempty) target h

end Reachable

section Candidates

variable {orders : Orders} {group : CandidateGroupId} {workOrders candidates : List WorkOrder}
  {first candidate : WorkOrder} {peerIds : List WorkOrderId} {leases : BTreeSet WorkspaceLeaseId}

theorem candidateGroups_concat (order : WorkOrder) :
    candidateGroups (workOrders ++ [order]) =
      match order.candidateGroup with
      | none => candidateGroups workOrders
      | some group => (candidateGroups workOrders).insert group
          ((candidateGroups workOrders)[group]?.getD [] ++ [order]) := by
  rw [candidateGroups, List.foldl_concat]
  rfl

theorem candidateGroups_getElem? :
    ((candidateGroups workOrders)[group]?).getD [] =
      workOrders.filter fun order => order.candidateGroup = some group := by
  induction workOrders using List.reverseRecOn with
  | nil => rfl
  | append_singleton workOrders order ih =>
    rw [candidateGroups_concat, List.filter_append]
    cases hgroup : order.candidateGroup with
    | none =>
      rw [ih]
      simp [hgroup]
    | some other =>
      dsimp only
      rw [ExtTreeMap.getElem?_insert]
      by_cases hsame : other = group
      · subst hsame
        simp [ih, hgroup]
      · simp [ih, hgroup, hsame]

theorem unreachable_of_candidateViolations
    (h : candidateViolations orders group first peerIds leases candidates = [])
    (hcandidate : candidate ∈ candidates) {peerId : WorkOrderId} (hpeer : peerId ∈ peerIds)
    (hne : peerId ≠ candidate.id) : dependencyReachable candidate.id peerId orders = false := by
  induction candidates generalizing leases with
  | nil => cases hcandidate
  | cons head rest ih =>
    simp only [candidateViolations, collect_eq_nil, List.forall_mem_cons] at h
    obtain ⟨hpeers, -, -, -, hrest, -⟩ := h
    rcases List.mem_cons.mp hcandidate with rfl | hcandidate
    · have hreport := List.flatMap_eq_nil_iff.mp hpeers peerId
        (List.mem_filter.mpr ⟨hpeer, by simpa using hne⟩)
      simpa using report_eq_nil.mp hreport
    · exact ih hrest hcandidate

end Candidates

namespace ValidatedActorGraph

variable {digest : CanonicalDigest} (validated : ValidatedActorGraph digest)
  {order reviewer producer candidate peer : WorkOrder} {id target : WorkOrderId}

theorem relation_eq_nil (h : order ∈ validated.graph.workOrders) :
    (∀ dependency ∈ order.dependencies,
      dependencyViolations validated.orders (reviewedTargets validated.graph.workOrders) order
        dependency = []) ∧
    ∀ target ∈ order.reviews, reviewViolations validated.orders order target = [] := by
  have hrelation := validated.violations_eq_nil.2.2.2.1 order h
  simp only [relationViolations, List.append_eq_nil_iff, List.flatMap_eq_nil_iff,
    ExtTreeSet.mem_toList] at hrelation
  exact hrelation

/-- What waits for a reviewed order reviews it. -/
theorem reviews_of_waitsFor (hreviewer : reviewer ∈ validated.graph.workOrders)
    (htarget : target ∈ reviewer.reviews) (horder : order ∈ validated.graph.workOrders)
    (hwaits : target ∈ order.dependencies) : target ∈ order.reviews := by
  have hnone := (validated.relation_eq_nil horder).1 target hwaits
  have hreviewed : target ∈ reviewedTargets validated.graph.workOrders :=
    mem_toSet.mpr (List.mem_flatMap.mpr ⟨reviewer, hreviewer, ExtTreeSet.mem_toList.mpr htarget⟩)
  unfold dependencyViolations at hnone
  split at hnone
  · cases hnone
  · simp only [collect_eq_nil, List.forall_mem_cons, report_eq_nil] at hnone
    have hgated := hnone.2.1
    by_contra hmissing
    refine hgated ⟨ExtTreeSet.contains_iff_mem.mpr hreviewed, ?_⟩
    exact Bool.eq_false_iff.mpr (mt ExtTreeSet.contains_iff_mem.mp hmissing)

/-- Nothing waits for a reviewer. -/
theorem not_waitsFor_reviewer (hreviewer : reviewer ∈ validated.graph.workOrders)
    (htarget : target ∈ reviewer.reviews) (horder : order ∈ validated.graph.workOrders) :
    reviewer.id ∉ order.dependencies := by
  intro hwaits
  have hnone := (validated.relation_eq_nil horder).1 reviewer.id hwaits
  have hfound : validated.orders[reviewer.id]? = some reviewer :=
    validated.orders_getElem?.mpr ⟨hreviewer, rfl⟩
  have hreviews : reviewer.reviews.isEmpty = false := isEmpty_eq_false_of_mem htarget
  unfold dependencyViolations at hnone
  split at hnone
  · cases hnone
  · simp only [collect_eq_nil, List.forall_mem_cons, hfound, report_eq_nil] at hnone
    exact hnone.1 hreviews

/-- Every path of dependencies that ends at a reviewed order is one step of a reviewer. -/
theorem reviewer_of_transGen (hreviewer : reviewer ∈ validated.graph.workOrders)
    (htarget : target ∈ reviewer.reviews)
    (hpath : Relation.TransGen (WaitsFor validated.graph.workOrders) id target) :
    ∃ order ∈ validated.graph.workOrders, order.id = id ∧ target ∈ order.reviews := by
  induction hpath using Relation.TransGen.head_induction_on with
  | single hstep =>
    obtain ⟨order, horder, hid, hwaits⟩ := hstep
    exact ⟨order, horder, hid, validated.reviews_of_waitsFor hreviewer htarget horder hwaits⟩
  | head hstep _ ih =>
    obtain ⟨inner, hinner, rfl, hreviews⟩ := ih
    obtain ⟨outer, houter, -, hwaits⟩ := hstep
    exact absurd hwaits (validated.not_waitsFor_reviewer hinner hreviews houter)

theorem readOnly_of_reviews (hreviewer : reviewer ∈ validated.graph.workOrders)
    (htarget : target ∈ reviewer.reviews) : reviewer.workspace.access = .readOnly := by
  have horder := validated.orderViolations_eq_nil hreviewer
  simp only [Scheduler.orderViolations, workspaceViolations, collect_eq_nil, List.forall_mem_cons,
    report_eq_nil] at horder
  have hreviews : reviewer.reviews.isEmpty = false := isEmpty_eq_false_of_mem htarget
  cases haccess : reviewer.workspace.access with
  | readOnly => rfl
  | write =>
    obtain ⟨-, -, -, -, -, -, -, -, ⟨-, -, -, hwrite, -⟩, -⟩ := horder
    exact absurd ⟨hreviews, haccess⟩ hwrite

/-- A reviewer and what it reviews run in different independence domains. -/
theorem exists_producer (hreviewer : reviewer ∈ validated.graph.workOrders)
    (htarget : target ∈ reviewer.reviews) :
    ∃ producer ∈ validated.graph.workOrders, producer.id = target ∧
      reviewer.assignment.lineage.independenceDomainId ≠
        producer.assignment.lineage.independenceDomainId := by
  have hnone := (validated.relation_eq_nil hreviewer).2 target htarget
  unfold reviewViolations at hnone
  split at hnone
  · cases hnone
  · next producer hproducer =>
    obtain ⟨hmem, hid⟩ := validated.orders_getElem?.mp hproducer
    simp only [collect_eq_nil, List.forall_mem_cons, report_eq_nil] at hnone
    exact ⟨producer, hmem, hid, hnone.2.1⟩

theorem candidate_unreachable {group : CandidateGroupId}
    (hcandidate : candidate ∈ validated.graph.workOrders)
    (hgroup : candidate.candidateGroup = some group) (hpeer : peer ∈ validated.graph.workOrders)
    (hpeerGroup : peer.candidateGroup = some group) (hne : peer.id ≠ candidate.id) :
    dependencyReachable candidate.id peer.id validated.orders = false := by
  have hviolations : ∀ group candidates,
      (group, candidates) ∈ (candidateGroups validated.graph.workOrders).toList →
        candidateGroupViolations validated.orders group candidates = [] := by
    have h := validated.accepted
    simp only [graphViolations, collect_eq_nil, List.forall_mem_cons, List.flatMap_eq_nil_iff,
      Prod.forall, admitOrders_orders] at h
    obtain ⟨-, -, -, -, -, hgroups, -⟩ := h
    exact hgroups
  have hmembers : ∀ order ∈ validated.graph.workOrders, order.candidateGroup = some group →
      order ∈ ((candidateGroups validated.graph.workOrders)[group]?).getD [] := by
    intro order horder hin
    rw [candidateGroups_getElem?, List.mem_filter]
    exact ⟨horder, decide_eq_true hin⟩
  have hcandidate' := hmembers candidate hcandidate hgroup
  have hpeer' := hmembers peer hpeer hpeerGroup
  cases hfound : (candidateGroups validated.graph.workOrders)[group]? with
  | none =>
    rw [hfound] at hcandidate'
    cases hcandidate'
  | some candidates =>
    rw [hfound, Option.getD_some] at hcandidate' hpeer'
    have hnone := hviolations group candidates
      (ExtTreeMap.mem_toList_iff_getElem?_eq_some.mpr hfound)
    unfold candidateGroupViolations at hnone
    split at hnone
    · cases hcandidate'
    · next first rest =>
      have hpeers : peer.id ∈ (toSet ((first :: rest).map (·.id))).toList := by
        rw [ExtTreeSet.mem_toList, mem_toSet]
        exact List.mem_map_of_mem hpeer'
      exact unreachable_of_candidateViolations (List.append_eq_nil_iff.mp hnone).2 hcandidate'
        hpeers hne

/-- A path of dependencies from an order leads to no other one that the search did not reach. -/
theorem not_transGen_of_unreachable {source : WorkOrderId}
    (h : dependencyReachable source target validated.orders = false) :
    ¬Relation.TransGen (WaitsFor validated.graph.workOrders) source target := by
  obtain ⟨seen, hsource, hclosed⟩ := closed_of_dependencyReachable_eq_false h
  clear h
  intro hpath
  induction hpath using Relation.TransGen.head_induction_on with
  | single hstep =>
    obtain ⟨order, horder, rfl, hwaits⟩ := hstep
    exact (hclosed _ hsource order (validated.orders_getElem?.mpr ⟨horder, rfl⟩)).1 hwaits
  | head hstep _ ih =>
    obtain ⟨order, horder, rfl, hwaits⟩ := hstep
    have hknown := (validated.dependency_mem horder hwaits).1
    exact ih ((hclosed _ hsource order
      (validated.orders_getElem?.mpr ⟨horder, rfl⟩)).2 _ hwaits hknown)

end ValidatedActorGraph

/-- In an accepted graph whatever waits for a reviewed order, through however many dependencies, reviews it
directly, only reads, runs in another independence domain and has nothing waiting for it. No candidate
waits for another one of its group. -/
theorem review_gating_transitive {digest : CanonicalDigest}
    (validated : ValidatedActorGraph digest) :
    (∀ reviewer ∈ validated.graph.workOrders, ∀ target ∈ reviewer.reviews, ∀ id,
      Relation.TransGen (WaitsFor validated.graph.workOrders) id target →
        ∃ order ∈ validated.graph.workOrders, order.id = id ∧ target ∈ order.reviews ∧
          order.workspace.access = .readOnly ∧
          (∃ producer ∈ validated.graph.workOrders, producer.id = target ∧
            order.assignment.lineage.independenceDomainId ≠
              producer.assignment.lineage.independenceDomainId) ∧
          ∀ other ∈ validated.graph.workOrders, id ∉ other.dependencies) ∧
    ∀ group, ∀ candidate ∈ validated.graph.workOrders, candidate.candidateGroup = some group →
      ∀ peer ∈ validated.graph.workOrders, peer.candidateGroup = some group →
        peer.id ≠ candidate.id →
          ¬Relation.TransGen (WaitsFor validated.graph.workOrders) candidate.id peer.id := by
  refine ⟨?_, ?_⟩
  · intro reviewer hreviewer target htarget id hpath
    obtain ⟨order, horder, rfl, hreviews⟩ :=
      validated.reviewer_of_transGen hreviewer htarget hpath
    refine ⟨order, horder, rfl, hreviews, validated.readOnly_of_reviews horder hreviews,
      validated.exists_producer horder hreviews, ?_⟩
    intro other hother
    exact validated.not_waitsFor_reviewer horder hreviews hother
  · intro group candidate hcandidate hgroup peer hpeer hpeerGroup hne
    exact validated.not_transGen_of_unreachable
      (validated.candidate_unreachable hcandidate hgroup hpeer hpeerGroup hne)

end BirdCode.Scheduler
