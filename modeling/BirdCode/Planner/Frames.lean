import BirdCode.Planner.Closure

/-! What an accepted turn leaves alone. The mutators work on one draft, so a patch that names an order
of its own changes what it has just added. -/
namespace BirdCode.Planner

open Std

variable {encoding : PlannerEncoding} {proposal : PlannerTurnProposal} {base plan next : PlanSnapshot}
  {obligations : ProtectedObligationCatalog} {context : PlannerContextCatalog}
  {policy : PlannerPolicy} {turn : ValidatedPlannerTurn} {patch : PlanPatch}

/-- The work orders that a patch replaces or cancels, in the order it names them. -/
def PlanPatch.targets (patch : PlanPatch) : List ProtectedWorkOrderRef :=
  patch.replaceWorkOrders.map (·.target) ++ patch.cancelWorkOrders.map (·.target)

/-- The id that a patch on a base derives for a local work order. -/
def derivedWorkOrderId (encoding : PlannerEncoding) (base : PlanSnapshot)
    (localId : LocalWorkOrderId) : PlanWorkOrderId :=
  ⟨derivedPatchUuid encoding "birdcode.plan.work-order.v1" base localId.value⟩

def derivedTargetId (encoding : PlannerEncoding) (base : PlanSnapshot)
    (localId : LocalVerificationTargetId) : VerificationTargetId :=
  ⟨derivedPatchUuid encoding "birdcode.plan.verification-target.v1" base localId.value⟩

/-- The hash function tells the local ids of a patch apart, and what it derives from them is new. -/
structure NoCollisions (encoding : PlannerEncoding) (base : PlanSnapshot) (patch : PlanPatch) :
    Prop where
  apart : ∀ work ∈ patch.addWorkOrders, ∀ other ∈ patch.addWorkOrders,
    derivedWorkOrderId encoding base work.localId =
      derivedWorkOrderId encoding base other.localId → work.localId = other.localId
  workOrders : ∀ work ∈ patch.addWorkOrders,
    derivedWorkOrderId encoding base work.localId ∉ base.workOrders
  targets : ∀ target ∈ patch.addVerificationTargets,
    derivedTargetId encoding base target.localId ∉ base.verificationTargets

section Spec

/-- A work order that has not begun, or has failed. -/
def Mutable (work : PlannedWorkOrder) : Prop := work.state = .pending ∨ work.state = .failed

/-- The next work order is one revision later. -/
def RevisionRises (current next : PlannedWorkOrder) : Prop :=
  next.revision.toNat = current.revision.toNat + 1

/-- What a replacement or a cancellation does to the order it names. -/
structure Changes (encoding : PlannerEncoding)
    (before after : BTreeMap PlanWorkOrderId PlannedWorkOrder) (target : ProtectedWorkOrderRef) :
    Prop where
  changed : ∃ current next, before[target.id]? = some current ∧ Mutable current ∧
    encoding.workOrder current = target.revisionSha256 ∧ after[target.id]? = some next ∧
    RevisionRises current next

/-- The references of an added order are the existing ones it lists and the ids of its locals. -/
structure AddedOrder (encoding : PlannerEncoding) (base : PlanSnapshot) (patch : PlanPatch)
    (work : NewWorkOrder) (order : PlannedWorkOrder) : Prop where
  revision : order.revision = 1
  state : order.state = .pending
  dependencies : ∀ id, id ∈ order.dependencies ↔ id ∈ work.existingDependencies ∨
    ∃ localId ∈ work.newDependencies, id = derivedWorkOrderId encoding base localId
  targets : ∀ id, id ∈ order.verificationTargets ↔ id ∈ work.existingVerificationTargets ∨
    ∃ localId ∈ work.newVerificationTargets, id = derivedTargetId encoding base localId
  localDependencies : ∀ localId ∈ work.newDependencies,
    ∃ added ∈ patch.addWorkOrders, added.localId = localId
  localTargets : ∀ localId ∈ work.newVerificationTargets,
    ∃ added ∈ patch.addVerificationTargets, added.localId = localId

/-- A turn that changes only what its patch names. -/
structure ChangesOnlyNamed (encoding : PlannerEncoding) (base : PlanSnapshot) (patch : PlanPatch)
    (plan : PlanSnapshot) : Prop where
  unnamed : ∀ id ∈ base.workOrders, (∀ target ∈ patch.targets, target.id ≠ id) →
    plan.workOrders[id]? = base.workOrders[id]?
  named : ∀ target ∈ patch.targets,
    Changes encoding base.workOrders plan.workOrders target
  begun : ∀ (id : PlanWorkOrderId) work, base.workOrders[id]? = some work → ¬Mutable work →
    plan.workOrders[id]? = some work
  added : ∀ (id : PlanWorkOrderId) order, plan.workOrders[id]? = some order → id ∉ base.workOrders →
    ∃ work ∈ patch.addWorkOrders, id = derivedWorkOrderId encoding base work.localId ∧
      AddedOrder encoding base patch work order
  additions : ∀ work ∈ patch.addWorkOrders,
    derivedWorkOrderId encoding base work.localId ∈ plan.workOrders ∧
      derivedWorkOrderId encoding base work.localId ∉ base.workOrders
  targets : ∀ (id : VerificationTargetId) target, base.verificationTargets[id]? = some target →
    plan.verificationTargets[id]? = some target
  revision : patch.isEmpty = false → plan.revision.toNat = base.revision.toNat + 1
  unchanged : patch.isEmpty = true → plan = base

end Spec

section Allocate

variable {kind : LocalIdKind} {V : Type} {mint : UInt32 → V}
  {invalid duplicate : LocalId kind → PlannerViolation} {localIds : List (LocalId kind)}

theorem allocateIds_append (localIds : List (LocalId kind)) (localId : LocalId kind) :
    allocateIds mint invalid duplicate (localIds ++ [localId]) =
      let before := allocateIds mint invalid duplicate localIds
      if localId.value = 0 then (before.1, before.2 ++ [invalid localId])
      else (before.1.insert localId (mint localId.value),
        before.2 ++ report (before.1.contains localId) (duplicate localId)) := by
  unfold allocateIds
  rw [List.foldl_append]
  rfl

/-- Without a violation the local ids are distinct, and each has the id that is minted for it. -/
theorem allocateIds_sound (h : (allocateIds mint invalid duplicate localIds).2 = []) :
    localIds.Nodup ∧ ∀ localId, (allocateIds mint invalid duplicate localIds).1[localId]? =
      if localId ∈ localIds then some (mint localId.value) else none := by
  induction localIds using List.reverseRecOn with
  | nil => simp [allocateIds]
  | append_singleton localIds localId ih =>
    rw [allocateIds_append] at h ⊢
    dsimp only at h ⊢
    by_cases hzero : localId.value = 0
    · simp [hzero] at h
    · rw [if_neg hzero] at h ⊢
      dsimp only at h ⊢
      obtain ⟨hbefore, hfresh⟩ := List.append_eq_nil_iff.mp h
      obtain ⟨hnodup, hids⟩ := ih hbefore
      have hnew : localId ∉ localIds := by
        intro hmem
        rw [report_eq_nil, ExtTreeMap.contains_eq_isSome_getElem?, hids, if_pos hmem] at hfresh
        exact hfresh rfl
      refine ⟨?_, ?_⟩
      · exact List.nodup_append.mpr ⟨hnodup, List.nodup_singleton _, by
          rintro a ha b hb rfl
          exact hnew (List.mem_singleton.mp hb ▸ ha)⟩
      · intro other
        by_cases heq : localId = other
        · subst heq
          simp
        · rw [getElem?_insert_of_ne heq, hids]
          have hne : other ≠ localId := fun h => heq h.symm
          simp [hne]

end Allocate

section Resolve

variable {A L : Type} [Ord A] [TransOrd A] [LawfulEqOrd A] [Ord L] [TransOrd L] [LawfulEqOrd L]
  {existing : BTreeSet A} {new : BTreeSet L} {known : A → Bool} {allocated : BTreeMap L A}
  {unknown : A → PlannerViolation} {unknownNew : L → PlannerViolation}

/-- Without a violation every reference is resolved. -/
theorem resolveIds_sound
    (h : (resolveIds existing new known allocated unknown unknownNew).2 = []) :
    (∀ localId ∈ new, ∃ id, allocated[localId]? = some id) ∧
      ∀ id, id ∈ (resolveIds existing new known allocated unknown unknownNew).1 ↔
        id ∈ existing ∨ ∃ localId ∈ new, allocated[localId]? = some id := by
  simp only [resolveIds, List.append_eq_nil_iff, List.flatMap_eq_nil_iff, report_eq_nil,
    ExtTreeSet.mem_toList, Bool.not_eq_false] at h
  obtain ⟨hknown, hallocated⟩ := h
  refine ⟨?_, ?_⟩
  · intro localId hmem
    have hcontains := hallocated localId hmem
    rw [ExtTreeMap.contains_eq_isSome_getElem?, Option.isSome_iff_exists] at hcontains
    exact hcontains
  · intro id
    simp only [resolveIds, mem_toSet, List.mem_append, List.mem_filter, List.mem_filterMap,
      ExtTreeSet.mem_toList]
    constructor
    · rintro (⟨hmem, _⟩ | hlocal)
      · exact .inl hmem
      · exact .inr hlocal
    · rintro (hmem | hlocal)
      · exact .inl ⟨hmem, hknown id hmem⟩
      · exact .inr hlocal

end Resolve

section Mutators

variable {workIds : BTreeMap LocalWorkOrderId PlanWorkOrderId}
  {verificationIds : BTreeMap LocalVerificationTargetId VerificationTargetId}
  {applied middle : Applied} {id : PlanWorkOrderId}

theorem revisionRises_of_nil {current : PlannedWorkOrder}
    (h : revisionViolations id current = []) :
    (nextRevision current).toNat = current.revision.toNat + 1 := by
  unfold revisionViolations at h
  unfold nextRevision
  rw [report_eq_nil] at h
  cases hnext : checkedSucc32 current.revision with
  | none => simp [hnext] at h
  | some next =>
    unfold checkedSucc32 at hnext
    split at hnext
    · next hlt =>
      cases hnext
      rw [Option.getD_some, UInt32.toNat_add, UInt32.toNat_one, Nat.mod_eq_of_lt hlt]
    · cases hnext

theorem mutable_of_nil {target : ProtectedWorkOrderRef} {current : PlannedWorkOrder}
    (h : mutationViolations encoding target current = []) :
    encoding.workOrder current = target.revisionSha256 ∧ Mutable current := by
  simp only [mutationViolations, collect_eq_nil, List.mem_cons, List.not_mem_nil, or_false,
    forall_eq_or_imp, forall_eq, report_eq_nil, not_not, not_and_or] at h
  exact h

/-- One operation on an order that no operation before it named. -/
structure Mutation (encoding : PlannerEncoding) (before after : Applied)
    (target : ProtectedWorkOrderRef) : Prop where
  fresh : target.id ∉ before.targetsSeen
  seen : after.targetsSeen = before.targetsSeen.insert target.id
  verification : after.plan.verificationTargets = before.plan.verificationTargets
  order : ∃ current next, before.plan.workOrders[target.id]? = some current ∧ Mutable current ∧
    encoding.workOrder current = target.revisionSha256 ∧ RevisionRises current next ∧
    after.plan.workOrders = before.plan.workOrders.insert target.id next

theorem applyReplacement_sound {replacement : ReplaceWorkOrder}
    (h : (applyReplacement encoding obligations context policy workIds verificationIds applied
      replacement).violations = []) :
    applied.violations = [] ∧ Mutation encoding applied (applyReplacement encoding obligations
      context policy workIds verificationIds applied replacement) replacement.target := by
  unfold applyReplacement at h ⊢
  dsimp only at h ⊢
  cases hcurrent : applied.plan.workOrders[replacement.target.id]? with
  | none => simp [hcurrent] at h
  | some current =>
    simp only [hcurrent, collect_eq_nil, List.mem_cons, List.not_mem_nil, or_false,
      forall_eq_or_imp, forall_eq, report_eq_nil, Bool.not_eq_true] at h ⊢
    obtain ⟨hbefore, hfresh, hmutation, _, hrevision⟩ := h
    obtain ⟨hdigest, hmutable⟩ := mutable_of_nil hmutation
    refine ⟨hbefore, ?_, rfl, rfl, current, _, hcurrent, hmutable, hdigest, ?_, rfl⟩
    · simpa [← ExtTreeSet.contains_iff_mem] using hfresh
    · exact revisionRises_of_nil hrevision

theorem applyCancellation_sound {cancellation : CancelWorkOrder}
    (h : (applyCancellation encoding context applied cancellation).violations = []) :
    applied.violations = [] ∧ Mutation encoding applied
      (applyCancellation encoding context applied cancellation) cancellation.target := by
  unfold applyCancellation at h ⊢
  dsimp only at h ⊢
  cases hcurrent : applied.plan.workOrders[cancellation.target.id]? with
  | none => simp [hcurrent] at h
  | some current =>
    simp only [hcurrent, collect_eq_nil, List.mem_cons, List.not_mem_nil, or_false,
      forall_eq_or_imp, forall_eq, List.append_eq_nil_iff, report_eq_nil, Bool.not_eq_true] at h ⊢
    obtain ⟨hbefore, ⟨hfresh, _⟩, hmutation, hrevision⟩ := h
    obtain ⟨hdigest, hmutable⟩ := mutable_of_nil hmutation
    refine ⟨hbefore, ?_, rfl, rfl, current, _, hcurrent, hmutable, hdigest, ?_, rfl⟩
    · simpa [← ExtTreeSet.contains_iff_mem] using hfresh
    · exact revisionRises_of_nil hrevision

/-- Operations one after the other. -/
inductive Mutations (encoding : PlannerEncoding) (before : Applied) :
    List ProtectedWorkOrderRef → Applied → Prop
  | nil : Mutations encoding before [] before
  | snoc {targets : List ProtectedWorkOrderRef} {middle after : Applied}
      {target : ProtectedWorkOrderRef} (h : Mutations encoding before targets middle)
      (hlast : Mutation encoding middle after target) :
      Mutations encoding before (targets ++ [target]) after

/-- A loop over operations, one of the two kinds, goes on with the operations before it. -/
theorem mutations_foldl {T : Type} {mutate : Applied → T → Applied}
    {target : T → ProtectedWorkOrderRef}
    (hmutate : ∀ applied operation, (mutate applied operation).violations = [] →
      applied.violations = [] ∧ Mutation encoding applied (mutate applied operation)
        (target operation)) (operations : List T)
    (h : (operations.foldl mutate middle).violations = []) :
    middle.violations = [] ∧ ∀ before targets, Mutations encoding before targets middle →
      Mutations encoding before (targets ++ operations.map target)
        (operations.foldl mutate middle) := by
  induction operations using List.reverseRecOn with
  | nil => exact ⟨h, fun before targets hbefore => by simpa using hbefore⟩
  | append_singleton operations operation ih =>
    rw [List.foldl_append, List.foldl_cons, List.foldl_nil] at h
    obtain ⟨hviolations, hlast⟩ := hmutate _ _ h
    obtain ⟨hmiddle, hrun⟩ := ih hviolations
    refine ⟨hmiddle, fun before targets hbefore => ?_⟩
    rw [List.foldl_append, List.foldl_cons, List.foldl_nil, List.map_append, List.map_singleton,
      ← List.append_assoc]
    exact (hrun before targets hbefore).snoc hlast

/-- What operations of distinct targets change. -/
structure MutationsSound (encoding : PlannerEncoding) (before : Applied)
    (targets : List ProtectedWorkOrderRef) (after : Applied) : Prop where
  seen : ∀ id, id ∈ after.targetsSeen ↔ ∃ target ∈ targets, target.id = id
  verification : after.plan.verificationTargets = before.plan.verificationTargets
  unnamed : ∀ id, (∀ target ∈ targets, target.id ≠ id) →
    after.plan.workOrders[id]? = before.plan.workOrders[id]?
  named : ∀ target ∈ targets,
    Changes encoding before.plan.workOrders after.plan.workOrders target

theorem Mutations.sound {targets : List ProtectedWorkOrderRef} {after : Applied}
    (h : Mutations encoding applied targets after) (hempty : applied.targetsSeen = ∅) :
    MutationsSound encoding applied targets after := by
  induction h with
  | nil => exact ⟨by simp [hempty], rfl, fun _ _ => rfl, by simp⟩
  | @snoc targets middle after target _ hlast ih =>
    obtain ⟨current, next, hcurrent, hmutable, hdigest, hrises, hinsert⟩ := hlast.order
    -- No earlier operation named this order, so it is still as it was before all of them.
    have hfirst : ∀ earlier ∈ targets, earlier.id ≠ target.id := by
      intro earlier hearlier heq
      exact hlast.fresh ((ih.seen _).mpr ⟨earlier, hearlier, heq⟩)
    refine ⟨?_, hlast.verification.trans ih.verification, ?_, ?_⟩
    · intro id
      rw [hlast.seen, ExtTreeSet.mem_insert, Std.compare_eq_iff_eq, ih.seen]
      constructor
      · rintro (rfl | ⟨earlier, hearlier, rfl⟩)
        · exact ⟨target, by simp, rfl⟩
        · exact ⟨earlier, by simp [hearlier], rfl⟩
      · rintro ⟨other, hother, rfl⟩
        rcases List.mem_append.mp hother with hearlier | hself
        · exact .inr ⟨other, hearlier, rfl⟩
        · exact .inl (by rw [List.mem_singleton.mp hself])
    · intro id hid
      rw [hinsert, getElem?_insert_of_ne (hid target (by simp))]
      exact ih.unnamed id fun other hother => hid other (by simp [hother])
    · intro other hother
      rcases List.mem_append.mp hother with hearlier | hself
      · obtain ⟨before, later, hbefore, hmutable', hdigest', hlater, hrises'⟩ :=
          (ih.named other hearlier).changed
        refine ⟨before, later, hbefore, hmutable', hdigest', ?_, hrises'⟩
        rw [hinsert, getElem?_insert_of_ne (hfirst other hearlier).symm]
        exact hlater
      · obtain rfl := List.mem_singleton.mp hself
        refine ⟨current, next, ?_, hmutable, hdigest, ?_, hrises⟩
        · rw [← ih.unnamed other.id hfirst]
          exact hcurrent
        · rw [hinsert, ExtTreeMap.getElem?_insert_self]

/-- The additions of verification targets change nothing else, and no target of another id. -/
theorem targets_foldl (targets : List NewVerificationTarget)
    (h : (targets.foldl (applyVerificationTarget obligations context verificationIds)
      applied).violations = []) :
    applied.violations = [] ∧
      (targets.foldl (applyVerificationTarget obligations context verificationIds)
        applied).plan.workOrders = applied.plan.workOrders ∧
      (targets.foldl (applyVerificationTarget obligations context verificationIds)
        applied).targetsSeen = applied.targetsSeen ∧
      ∀ id : VerificationTargetId,
        (∀ target ∈ targets, verificationIds[target.localId]? ≠ some id) →
        (targets.foldl (applyVerificationTarget obligations context verificationIds)
          applied).plan.verificationTargets[id]? = applied.plan.verificationTargets[id]? := by
  induction targets using List.reverseRecOn with
  | nil => exact ⟨h, rfl, rfl, fun _ _ => rfl⟩
  | append_singleton targets target ih =>
    rw [List.foldl_append, List.foldl_cons, List.foldl_nil] at h ⊢
    generalize targets.foldl (applyVerificationTarget obligations context verificationIds) applied =
      middle at h ih ⊢
    simp only [applyVerificationTarget, collect_eq_nil, List.mem_cons, List.not_mem_nil, or_false,
      forall_eq_or_imp, forall_eq] at h
    obtain ⟨hviolations, hworkOrders, hseen, hids⟩ := ih h.1
    refine ⟨hviolations, ?_, hseen, ?_⟩
    · unfold applyVerificationTarget
      dsimp only
      split <;> exact hworkOrders
    · intro id hid
      have hothers := hids id fun other hother => hid other (by simp [hother])
      have hself := hid target (by simp)
      unfold applyVerificationTarget
      dsimp only
      split
      · exact hothers
      · next allocated hallocated =>
        dsimp only
        rw [getElem?_insert_of_ne, hothers]
        rintro rfl
        exact hself hallocated

/-- What the content of a work order resolves to. -/
structure ResolvesTo (workIds : BTreeMap LocalWorkOrderId PlanWorkOrderId)
    (verificationIds : BTreeMap LocalVerificationTargetId VerificationTargetId)
    (content : WorkOrderContent) (order : PlannedWorkOrder) : Prop where
  dependencies : ∀ id, id ∈ order.dependencies ↔ id ∈ content.existingDependencies ∨
    ∃ localId ∈ content.newDependencies, workIds[localId]? = some id
  targets : ∀ id, id ∈ order.verificationTargets ↔ id ∈ content.existingVerificationTargets ∨
    ∃ localId ∈ content.newVerificationTargets, verificationIds[localId]? = some id
  localDependencies : ∀ localId ∈ content.newDependencies, ∃ id, workIds[localId]? = some id
  localTargets : ∀ localId ∈ content.newVerificationTargets,
    ∃ id, verificationIds[localId]? = some id

theorem applyWorkOrderAddition_sound {work : NewWorkOrder}
    (hid : workIds[work.localId]? = some id)
    (h : (applyWorkOrderAddition obligations context policy workIds verificationIds applied
      work).violations = []) :
    applied.violations = [] ∧ ∃ order : PlannedWorkOrder, order.revision = 1 ∧
      order.state = .pending ∧ ResolvesTo workIds verificationIds work.toWorkOrderContent order ∧
      applyWorkOrderAddition obligations context policy workIds verificationIds applied work =
        { plan := { applied.plan with workOrders := applied.plan.workOrders.insert id order }
          targetsSeen := applied.targetsSeen
          violations := [] } := by
  have hviolations := h
  simp only [applyWorkOrderAddition, hid, List.append_eq_nil_iff, resolveContent, collect_eq_nil,
    List.mem_cons, List.not_mem_nil, or_false, forall_eq_or_imp, forall_eq] at hviolations
  obtain ⟨hbefore, hdependencies, htargets, _⟩ := hviolations
  obtain ⟨hlocals, hmem⟩ := resolveIds_sound hdependencies
  obtain ⟨hlocalTargets, hmemTargets⟩ := resolveIds_sound htargets
  refine ⟨hbefore, contentWorkOrder id 1 work.toWorkOrderContent _ _, rfl, rfl,
    ⟨hmem, hmemTargets, hlocals, hlocalTargets⟩, ?_⟩
  have heq : applyWorkOrderAddition obligations context policy workIds verificationIds applied work =
      { applyWorkOrderAddition obligations context policy workIds verificationIds applied work with
        violations := [] } := by
    rw [← h]
  rw [heq]
  simp only [applyWorkOrderAddition, hid]
  rfl

theorem violations_addition {work : NewWorkOrder}
    (h : (applyWorkOrderAddition obligations context policy workIds verificationIds applied
      work).violations = []) : applied.violations = [] := by
  unfold applyWorkOrderAddition at h
  split at h
  · exact h
  · exact (List.append_eq_nil_iff.mp h).1

/-- A loop that only adds violations had none before. -/
theorem violations_foldl {T : Type} {mutate : Applied → T → Applied}
    (hmutate : ∀ applied operation, (mutate applied operation).violations = [] →
      applied.violations = []) (operations : List T)
    (h : (operations.foldl mutate applied).violations = []) : applied.violations = [] := by
  induction operations generalizing applied with
  | nil => exact h
  | cons operation operations ih => exact hmutate _ _ (ih h)

/-- Additions of distinct ids leave every other order alone, and each of them is there. -/
theorem additions_foldl {works : List NewWorkOrder} {derived : NewWorkOrder → PlanWorkOrderId}
    (hids : ∀ work ∈ works, workIds[work.localId]? = some (derived work))
    (hnodup : (works.map derived).Nodup)
    (h : (works.foldl (applyWorkOrderAddition obligations context policy workIds verificationIds)
      applied).violations = []) :
    applied.violations = [] ∧
      (works.foldl (applyWorkOrderAddition obligations context policy workIds verificationIds)
        applied).plan.verificationTargets = applied.plan.verificationTargets ∧
      (works.foldl (applyWorkOrderAddition obligations context policy workIds verificationIds)
        applied).targetsSeen = applied.targetsSeen ∧
      (∀ id : PlanWorkOrderId, (∀ work ∈ works, derived work ≠ id) →
        (works.foldl (applyWorkOrderAddition obligations context policy workIds verificationIds)
          applied).plan.workOrders[id]? = applied.plan.workOrders[id]?) ∧
      ∀ work ∈ works, ∃ order : PlannedWorkOrder,
        (works.foldl (applyWorkOrderAddition obligations context policy workIds verificationIds)
          applied).plan.workOrders[derived work]? = some order ∧ order.revision = 1 ∧
        order.state = .pending ∧ ResolvesTo workIds verificationIds work.toWorkOrderContent order := by
  induction works using List.reverseRecOn with
  | nil => exact ⟨h, rfl, rfl, fun _ _ => rfl, by simp⟩
  | append_singleton works work ih =>
    rw [List.foldl_append, List.foldl_cons, List.foldl_nil] at h ⊢
    generalize works.foldl (applyWorkOrderAddition obligations context policy workIds
      verificationIds) applied = middle at h ih ⊢
    obtain ⟨hmiddle, order, hrevision, hstate, hresolves, hafter⟩ :=
      applyWorkOrderAddition_sound (hids work (by simp)) h
    rw [List.map_append, List.map_singleton, List.nodup_append] at hnodup
    obtain ⟨hnodup, _, hapart⟩ := hnodup
    obtain ⟨hviolations, htargets, hseen, hothers, hadded⟩ :=
      ih (fun other hother => hids other (by simp [hother])) hnodup hmiddle
    rw [hafter]
    refine ⟨hviolations, htargets, hseen, ?_, ?_⟩
    · intro id hid
      dsimp only
      rw [getElem?_insert_of_ne (hid work (by simp))]
      exact hothers id fun other hother => hid other (by simp [hother])
    · intro other hother
      dsimp only
      rcases List.mem_append.mp hother with hearlier | hself
      · obtain ⟨found, hfound, hrest⟩ := hadded other hearlier
        refine ⟨found, ?_, hrest⟩
        rw [getElem?_insert_of_ne, hfound]
        intro heq
        exact hapart _ (List.mem_map_of_mem hearlier) _ (by simp) heq.symm
      · obtain rfl := List.mem_singleton.mp hself
        exact ⟨order, ExtTreeMap.getElem?_insert_self .., hrevision, hstate, hresolves⟩

end Mutators

section Turn

variable {applied : Applied}

theorem applyStrategySummary_sound (h : (applyStrategySummary patch applied).violations = []) :
    applied.violations = [] ∧
      (applyStrategySummary patch applied).plan.workOrders = applied.plan.workOrders ∧
      (applyStrategySummary patch applied).plan.verificationTargets =
        applied.plan.verificationTargets := by
  unfold applyStrategySummary at h ⊢
  split at h
  · exact ⟨h, rfl, rfl⟩
  · exact ⟨(List.append_eq_nil_iff.mp h).1, rfl, rfl⟩

theorem resolvesTo_added {work : NewWorkOrder} {order : PlannedWorkOrder}
    (hwork : (allocateWorkOrderIds encoding base patch).2 = [])
    (htargets : (allocateVerificationTargetIds encoding base patch).2 = [])
    (hrevision : order.revision = 1) (hstate : order.state = .pending)
    (h : ResolvesTo (allocateWorkOrderIds encoding base patch).1
      (allocateVerificationTargetIds encoding base patch).1 work.toWorkOrderContent order) :
    AddedOrder encoding base patch work order := by
  have hids := (allocateIds_sound hwork).2
  have htargetIds := (allocateIds_sound htargets).2
  have hlocal : ∀ localId ∈ work.newDependencies,
      localId ∈ patch.addWorkOrders.map (·.localId) := by
    intro localId hmem
    obtain ⟨id, hid⟩ := h.localDependencies localId hmem
    by_contra hnone
    rw [allocateWorkOrderIds, hids, if_neg hnone] at hid
    cases hid
  have hlocalTarget : ∀ localId ∈ work.newVerificationTargets,
      localId ∈ patch.addVerificationTargets.map (·.localId) := by
    intro localId hmem
    obtain ⟨id, hid⟩ := h.localTargets localId hmem
    by_contra hnone
    rw [allocateVerificationTargetIds, htargetIds, if_neg hnone] at hid
    cases hid
  refine ⟨hrevision, hstate, ?_, ?_, ?_, ?_⟩
  · intro id
    rw [h.dependencies]
    refine or_congr_right (exists_congr fun localId => and_congr_right fun hmem => ?_)
    rw [allocateWorkOrderIds, hids, if_pos (hlocal localId hmem), Option.some.injEq]
    exact eq_comm
  · intro id
    rw [h.targets]
    refine or_congr_right (exists_congr fun localId => and_congr_right fun hmem => ?_)
    rw [allocateVerificationTargetIds, htargetIds, if_pos (hlocalTarget localId hmem),
      Option.some.injEq]
    exact eq_comm
  · intro localId hmem
    exact List.mem_map.mp (hlocal localId hmem)
  · intro localId hmem
    exact List.mem_map.mp (hlocalTarget localId hmem)

/-- The draft once the additions are in it, and what the operations on orders make of it. -/
structure Drafted (encoding : PlannerEncoding) (base : PlanSnapshot) (patch : PlanPatch)
    (draft : BTreeMap PlanWorkOrderId PlannedWorkOrder) (plan : PlanSnapshot) : Prop where
  others : ∀ id : PlanWorkOrderId,
    (∀ work ∈ patch.addWorkOrders, derivedWorkOrderId encoding base work.localId ≠ id) →
    draft[id]? = base.workOrders[id]?
  additions : ∀ work ∈ patch.addWorkOrders, ∃ order : PlannedWorkOrder,
    draft[derivedWorkOrderId encoding base work.localId]? = some order ∧
      AddedOrder encoding base patch work order
  unnamed : ∀ id : PlanWorkOrderId, (∀ target ∈ patch.targets, target.id ≠ id) →
    plan.workOrders[id]? = draft[id]?
  named : ∀ target ∈ patch.targets, Changes encoding draft plan.workOrders target
  targets : ∀ id ∈ base.verificationTargets,
    plan.verificationTargets[id]? = base.verificationTargets[id]?

theorem drafted_applyTurn (hcollisions : NoCollisions encoding base proposal.patch)
    (h : (applyTurn encoding proposal base obligations context policy).violations = []) :
    ∃ draft, Drafted encoding base proposal.patch draft
      (applyTurn encoding proposal base obligations context policy).plan := by
  have hturn : applyTurn encoding proposal base obligations context policy =
      applyStrategySummary proposal.patch (applyOperations encoding obligations context policy
        (allocateWorkOrderIds encoding base proposal.patch).1
        (allocateVerificationTargetIds encoding base proposal.patch).1 proposal.patch
        ⟨base, ∅, (allocateWorkOrderIds encoding base proposal.patch).2 ++
          (allocateVerificationTargetIds encoding base proposal.patch).2⟩) := rfl
  rw [hturn] at h ⊢
  obtain ⟨hoperations, hworkOrders, htargets⟩ := applyStrategySummary_sound h
  -- The violations of each stage are kept by the stages behind it, so no stage has any.
  unfold applyOperations at hoperations hworkOrders htargets ⊢
  dsimp only at hoperations hworkOrders htargets ⊢
  have hcancellation : ∀ (applied : Applied) (operation : CancelWorkOrder),
      (applyCancellation encoding context applied operation).violations = [] →
      applied.violations = [] ∧ Mutation encoding applied
        (applyCancellation encoding context applied operation) operation.target :=
    fun _ _ => applyCancellation_sound
  have hreplacement : ∀ (applied : Applied) (operation : ReplaceWorkOrder),
      (applyReplacement encoding obligations context policy
        (allocateWorkOrderIds encoding base proposal.patch).1
        (allocateVerificationTargetIds encoding base proposal.patch).1 applied
        operation).violations = [] →
      applied.violations = [] ∧ Mutation encoding applied (applyReplacement encoding obligations
        context policy (allocateWorkOrderIds encoding base proposal.patch).1
        (allocateVerificationTargetIds encoding base proposal.patch).1 applied operation)
        operation.target := fun _ _ => applyReplacement_sound
  obtain ⟨hreplaced, hcancels⟩ := mutations_foldl hcancellation _ hoperations
  obtain ⟨hadded, hreplaces⟩ := mutations_foldl hreplacement _ hreplaced
  obtain ⟨hwork, htarget⟩ := List.append_eq_nil_iff.mp
    (targets_foldl _ (violations_foldl (fun _ _ => violations_addition) _ hadded)).1
  have hwork' := allocateIds_sound hwork
  have htarget' := allocateIds_sound htarget
  have hids : ∀ work ∈ proposal.patch.addWorkOrders,
      (allocateWorkOrderIds encoding base proposal.patch).1[work.localId]? =
        some (derivedWorkOrderId encoding base work.localId) := by
    intro work hmem
    rw [allocateWorkOrderIds, hwork'.2, if_pos (List.mem_map_of_mem hmem)]
    rfl
  have hnodup : (proposal.patch.addWorkOrders.map fun work =>
      derivedWorkOrderId encoding base work.localId).Nodup := by
    have hlocal := List.pairwise_map.mp hwork'.1
    rw [List.Nodup, List.pairwise_map]
    refine hlocal.imp_of_mem ?_
    intro work other hmem hother hne heq
    exact hne (hcollisions.apart work hmem other hother heq)
  obtain ⟨hverified, hverification, hseen, hothers, hadditions⟩ :=
    additions_foldl hids hnodup hadded
  obtain ⟨_, hbaseOrders, hbaseSeen, hbaseTargets⟩ := targets_foldl _ hverified
  have hsound := (hcancels _ _ (hreplaces _ _ .nil)).sound (hseen.trans hbaseSeen)
  refine ⟨_, {
    others := fun id hid => (hothers id hid).trans (by rw [hbaseOrders])
    additions := fun work hmem => ?_
    unnamed := fun id hid => ?_
    named := fun target hmem => ?_
    targets := fun id hid => ?_ }⟩
  · obtain ⟨order, horder, hrevision, hstate, hresolves⟩ := hadditions work hmem
    exact ⟨order, horder, resolvesTo_added hwork htarget hrevision hstate hresolves⟩
  · rw [hworkOrders]
    exact hsound.unnamed id hid
  · rw [hworkOrders]
    exact hsound.named target hmem
  · rw [htargets, hsound.verification, hverification]
    refine hbaseTargets id fun target hmem hid' => ?_
    have hderived := htarget'.2 target.localId
    rw [if_pos (List.mem_map_of_mem hmem)] at hderived
    obtain rfl := Option.some.inj (hderived.symm.trans hid')
    exact hcollisions.targets target hmem hid

/-- The plan that is advanced keeps its orders and targets, and its revision rises if it changes. -/
theorem advancePlan_revision (h : advancePlan encoding proposal base next = .ok plan)
    (hpatch : proposal.patch.isEmpty = false) : plan.revision.toNat = base.revision.toNat + 1 := by
  unfold advancePlan at h
  rw [if_neg (by simp [hpatch])] at h
  split at h
  · cases h
  · next revision hrevision =>
    cases h
    rw [checkedAdd_eq_some hrevision]
    rfl

/-- A patch without operations changes nothing. -/
theorem applyTurn_of_isEmpty (h : proposal.patch.isEmpty = true) :
    (applyTurn encoding proposal base obligations context policy).plan = base := by
  simp only [PlanPatch.isEmpty, Bool.and_eq_true, List.isEmpty_iff, Option.isNone_iff_eq_none] at h
  obtain ⟨⟨⟨⟨hsummary, htargets⟩, hadds⟩, hreplaces⟩, hcancels⟩ := h
  simp only [applyTurn, applyStrategySummary, applyOperations, hsummary, htargets, hadds, hreplaces,
    hcancels, List.foldl_nil]

/-- An accepted turn changes only what its patch names exactly if the patch names none of the orders
that it adds. -/
theorem changesOnlyNamed_iff (encoding : PlannerEncoding) (proposal : PlannerTurnProposal)
    (base : PlanSnapshot) (obligations : ProtectedObligationCatalog)
    (context : PlannerContextCatalog) (policy : PlannerPolicy) (turn : ValidatedPlannerTurn)
    (h : validateAndApply encoding proposal base obligations context policy = .ok turn)
    (hcollisions : NoCollisions encoding base proposal.patch) :
    ChangesOnlyNamed encoding base proposal.patch turn.plan ↔
      ∀ target ∈ proposal.patch.targets, ∀ work ∈ proposal.patch.addWorkOrders,
        target.id ≠ derivedWorkOrderId encoding base work.localId := by
  have haccepts := accepts_of_ok h
  have hviolations := haccepts.violations
  simp only [turnViolations, collect_eq_nil, List.mem_cons, List.not_mem_nil, or_false,
    forall_eq_or_imp, forall_eq] at hviolations
  obtain ⟨draft, hdraft⟩ := drafted_applyTurn hcollisions hviolations.1
  obtain ⟨_, _, _, hworkOrders, htargets, _⟩ := advancePlan_eq_ok haccepts.advanced
  constructor
  · intro honly target htarget work hwork heq
    obtain ⟨current, _, hcurrent, _⟩ := (honly.named target htarget).changed
    apply hcollisions.workOrders work hwork
    rw [← heq, ExtTreeMap.mem_iff_isSome_getElem?, hcurrent]
    rfl
  · intro hapart
    have hbase : ∀ target ∈ proposal.patch.targets,
        draft[target.id]? = base.workOrders[target.id]? := by
      intro target htarget
      exact hdraft.others target.id fun work hwork heq => hapart target htarget work hwork heq.symm
    have hnamed : ∀ target ∈ proposal.patch.targets,
        Changes encoding base.workOrders turn.plan.workOrders target := by
      intro target htarget
      obtain ⟨current, next, hcurrent, hchange⟩ := (hdraft.named target htarget).changed
      rw [hbase target htarget] at hcurrent
      rw [hworkOrders]
      exact ⟨current, next, hcurrent, hchange⟩
    have hunnamed : ∀ id ∈ base.workOrders, (∀ target ∈ proposal.patch.targets, target.id ≠ id) →
        turn.plan.workOrders[id]? = base.workOrders[id]? := by
      intro id hid hother
      rw [hworkOrders, hdraft.unnamed id hother]
      refine hdraft.others id fun work hwork heq => ?_
      exact hcollisions.workOrders work hwork (heq ▸ hid)
    refine ⟨hunnamed, hnamed, ?_, ?_, ?_, ?_, ?_, ?_⟩
    · intro id work hwork hbegun
      rw [hunnamed id, hwork]
      · rw [ExtTreeMap.mem_iff_isSome_getElem?, hwork]
        rfl
      · rintro target htarget rfl
        obtain ⟨current, _, hcurrent, hmutable, _⟩ := (hnamed target htarget).changed
        obtain rfl := Option.some.inj (hwork.symm.trans hcurrent)
        exact hbegun hmutable
    · intro id order horder hnew
      have hother : ∀ target ∈ proposal.patch.targets, target.id ≠ id := by
        rintro target htarget rfl
        obtain ⟨current, _, hcurrent, _⟩ := (hnamed target htarget).changed
        apply hnew
        rw [ExtTreeMap.mem_iff_isSome_getElem?, hcurrent]
        rfl
      rw [hworkOrders, hdraft.unnamed id hother] at horder
      by_cases hadded : ∃ work ∈ proposal.patch.addWorkOrders,
          derivedWorkOrderId encoding base work.localId = id
      · obtain ⟨work, hwork, rfl⟩ := hadded
        obtain ⟨found, hfound, hspec⟩ := hdraft.additions work hwork
        obtain rfl := Option.some.inj (horder.symm.trans hfound)
        exact ⟨work, hwork, rfl, hspec⟩
      · rw [hdraft.others id fun work hwork heq => hadded ⟨work, hwork, heq⟩,
          ExtTreeMap.getElem?_eq_none hnew] at horder
        cases horder
    · intro work hwork
      obtain ⟨order, horder, _⟩ := hdraft.additions work hwork
      refine ⟨?_, hcollisions.workOrders work hwork⟩
      rw [hworkOrders, ExtTreeMap.mem_iff_isSome_getElem?,
        hdraft.unnamed _ fun target htarget => hapart target htarget work hwork, horder]
      rfl
    · intro id target htarget
      rw [htargets, hdraft.targets id, htarget]
      rw [ExtTreeMap.mem_iff_isSome_getElem?, htarget]
      rfl
    · exact advancePlan_revision haccepts.advanced
    · intro hpatch
      have hadvanced := haccepts.advanced
      unfold advancePlan at hadvanced
      rw [if_pos hpatch, applyTurn_of_isEmpty hpatch] at hadvanced
      exact (Except.ok.inj hadvanced).symm

end Turn

section Sample

/-! The first turn adds a work order. Then a turn that adds another one also replaces it. -/

/-- The base with the work order of the first turn. -/
def sampleBase : PlanSnapshot :=
  ((validateAndApply sampleEncoding firstTurn (.empty ⟨1⟩ sampleObligations) sampleObligations
    sampleContext samplePolicy).toOption.map ValidatedPlannerTurn.plan).getD
    (.empty ⟨1⟩ sampleObligations)

/-- A turn that adds a second work order and replaces another. -/
def addingTurn (target : PlanWorkOrderId) : PlannerTurnProposal where
  schemaVersion := 1
  bindings := sampleBindings 1
  patch := ⟨none, [], [⟨sampleContent [] [⟨uuidV8 1⟩], ⟨2⟩⟩],
    [⟨sampleContent [] [⟨uuidV8 1⟩], ⟨target, samplePlannerDigest⟩⟩], []⟩
  directive := ⟨.execute, ⟨toSet [⟨uuidV8 1⟩], ∅⟩, [], [], [], []⟩

theorem addingTurn_collisions (target : PlanWorkOrderId) :
    NoCollisions sampleEncoding sampleBase (addingTurn target).patch where
  apart := by
    intro work hwork other hother _
    rw [List.mem_singleton.mp hwork, List.mem_singleton.mp hother]
  workOrders := by
    intro work hwork
    rw [List.mem_singleton.mp hwork]
    decide
  targets := by
    intro target htarget
    cases htarget

theorem replacesBase_accepted : (validateAndApply sampleEncoding (addingTurn ⟨uuidV8 1⟩) sampleBase
    sampleObligations sampleContext samplePolicy).toOption.isSome = true := by
  decide

theorem replacesAddition_accepted : (validateAndApply sampleEncoding (addingTurn ⟨uuidV8 2⟩)
    sampleBase sampleObligations sampleContext samplePolicy).toOption.isSome = true := by
  decide

theorem addingTurn_ok {target : PlanWorkOrderId}
    (h : (validateAndApply sampleEncoding (addingTurn target) sampleBase sampleObligations
      sampleContext samplePolicy).toOption.isSome = true) :
    ∃ turn, validateAndApply sampleEncoding (addingTurn target) sampleBase sampleObligations
      sampleContext samplePolicy = .ok turn := by
  cases hresult : validateAndApply sampleEncoding (addingTurn target) sampleBase sampleObligations
    sampleContext samplePolicy with
  | ok turn => exact ⟨turn, rfl⟩
  | error violations =>
    rw [hresult] at h
    cases h

/-- The turn that replaces the order of the base changes only that order. -/
theorem changesOnlyNamed_of_base : ∃ turn, validateAndApply sampleEncoding
    (addingTurn ⟨uuidV8 1⟩) sampleBase sampleObligations sampleContext samplePolicy = .ok turn ∧
    ChangesOnlyNamed sampleEncoding sampleBase (addingTurn ⟨uuidV8 1⟩).patch turn.plan := by
  obtain ⟨turn, hturn⟩ := addingTurn_ok replacesBase_accepted
  refine ⟨turn, hturn, (changesOnlyNamed_iff _ _ _ _ _ _ _ hturn (addingTurn_collisions _)).mpr ?_⟩
  decide

/-- The turn that replaces the order it adds is accepted. -/
theorem replaces_own_addition : ¬∀ (encoding : PlannerEncoding) (proposal : PlannerTurnProposal)
    (base : PlanSnapshot) (obligations : ProtectedObligationCatalog)
    (context : PlannerContextCatalog) (policy : PlannerPolicy) (turn : ValidatedPlannerTurn),
    validateAndApply encoding proposal base obligations context policy = .ok turn →
    NoCollisions encoding base proposal.patch →
    ChangesOnlyNamed encoding base proposal.patch turn.plan := by
  intro h
  obtain ⟨turn, hturn⟩ := addingTurn_ok replacesAddition_accepted
  have honly := h _ _ _ _ _ _ _ hturn (addingTurn_collisions _)
  obtain ⟨current, _, hcurrent, _⟩ := (honly.named ⟨⟨uuidV8 2⟩, samplePlannerDigest⟩
    (by simp [PlanPatch.targets, addingTurn])).changed
  have hnone : (⟨uuidV8 2⟩ : PlanWorkOrderId) ∉ sampleBase.workOrders := by decide
  rw [ExtTreeMap.getElem?_eq_none hnone] at hcurrent
  cases hcurrent

end Sample

end BirdCode.Planner
