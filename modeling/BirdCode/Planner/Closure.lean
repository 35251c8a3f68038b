import BirdCode.Lib.Run
import BirdCode.Planner.Apply

/-! An accepted turn yields a plan that the next turn can be built on. -/
namespace BirdCode.Planner

open Lib

variable {encoding : PlannerEncoding} {proposal : PlannerTurnProposal} {base plan next : PlanSnapshot}
  {obligations : ProtectedObligationCatalog} {context : PlannerContextCatalog}
  {policy : PlannerPolicy} {turn : ValidatedPlannerTurn}

section Header

/-- What no mutator writes. -/
structure SameHeader (base next : PlanSnapshot) : Prop where
  schemaVersion : next.schemaVersion = base.schemaVersion
  planId : next.planId = base.planId
  revision : next.revision = base.revision
  parent : next.parentPlanSha256 = base.parentPlanSha256
  obligations : next.obligationSnapshotSha256 = base.obligationSnapshotSha256
  acceptancePolicy : next.acceptancePolicySha256 = base.acceptancePolicySha256

theorem SameHeader.refl (plan : PlanSnapshot) : SameHeader plan plan :=
  ⟨rfl, rfl, rfl, rfl, rfl, rfl⟩

theorem SameHeader.trans (h : SameHeader base plan) (h' : SameHeader plan next) :
    SameHeader base next :=
  ⟨h'.schemaVersion.trans h.schemaVersion, h'.planId.trans h.planId,
    h'.revision.trans h.revision, h'.parent.trans h.parent, h'.obligations.trans h.obligations,
    h'.acceptancePolicy.trans h.acceptancePolicy⟩

/-- A fold of a mutator writes no more of the header than the mutator does. -/
theorem sameHeader_foldl {T : Type} {mutate : Applied → T → Applied}
    (hmutate : ∀ applied operation, SameHeader applied.plan (mutate applied operation).plan)
    (operations : List T) (applied : Applied) :
    SameHeader applied.plan (operations.foldl mutate applied).plan := by
  induction operations generalizing applied with
  | nil => exact .refl _
  | cons operation operations ih => exact (hmutate applied operation).trans (ih _)

section Mutators

variable {workIds : BTreeMap LocalWorkOrderId PlanWorkOrderId}
  {verificationIds : BTreeMap LocalVerificationTargetId VerificationTargetId}

theorem sameHeader_applyVerificationTarget (applied : Applied) (target : NewVerificationTarget) :
    SameHeader applied.plan
      (applyVerificationTarget obligations context verificationIds applied target).plan := by
  unfold applyVerificationTarget
  split <;> exact ⟨rfl, rfl, rfl, rfl, rfl, rfl⟩

theorem sameHeader_applyWorkOrderAddition (applied : Applied) (work : NewWorkOrder) :
    SameHeader applied.plan (applyWorkOrderAddition obligations context policy workIds
      verificationIds applied work).plan := by
  unfold applyWorkOrderAddition
  split <;> exact ⟨rfl, rfl, rfl, rfl, rfl, rfl⟩

theorem sameHeader_applyReplacement (applied : Applied) (replacement : ReplaceWorkOrder) :
    SameHeader applied.plan (applyReplacement encoding obligations context policy workIds
      verificationIds applied replacement).plan := by
  simp only [applyReplacement]
  split <;> exact ⟨rfl, rfl, rfl, rfl, rfl, rfl⟩

theorem sameHeader_applyCancellation (applied : Applied) (cancellation : CancelWorkOrder) :
    SameHeader applied.plan (applyCancellation encoding context applied cancellation).plan := by
  simp only [applyCancellation]
  split <;> exact ⟨rfl, rfl, rfl, rfl, rfl, rfl⟩

theorem sameHeader_applyOperations (patch : PlanPatch) (applied : Applied) :
    SameHeader applied.plan (applyOperations encoding obligations context policy workIds
      verificationIds patch applied).plan :=
  (((sameHeader_foldl sameHeader_applyVerificationTarget _ _).trans
    (sameHeader_foldl sameHeader_applyWorkOrderAddition _ _)).trans
    (sameHeader_foldl sameHeader_applyReplacement _ _)).trans
    (sameHeader_foldl sameHeader_applyCancellation _ _)

end Mutators

theorem sameHeader_applyTurn :
    SameHeader base (applyTurn encoding proposal base obligations context policy).plan := by
  simp only [applyTurn, applyStrategySummary]
  split
  · exact sameHeader_applyOperations proposal.patch ⟨base, _, _⟩
  · exact (sameHeader_applyOperations proposal.patch ⟨base, _, _⟩).trans
      ⟨rfl, rfl, rfl, rfl, rfl, rfl⟩

end Header

section WellFormed

/-- One work order of the plan depends on another id. -/
def DependsOn (plan : PlanSnapshot) (id dependency : PlanWorkOrderId) : Prop :=
  ∃ work, plan.workOrders[id]? = some work ∧ dependency ∈ work.dependencies

/-- What the checks on a plan promise, in terms of the plan. -/
structure WellFormed (obligations : ProtectedObligationCatalog) (policy : PlannerPolicy)
    (plan : PlanSnapshot) : Prop where
  work_id : ∀ (id : PlanWorkOrderId) (work : PlannedWorkOrder),
    plan.workOrders[id]? = some work → work.id = id
  target_id : ∀ (id : VerificationTargetId) (target : VerificationTarget),
    plan.verificationTargets[id]? = some target → target.id = id
  dependency : ∀ id dependency, DependsOn plan id dependency →
    ∃ work, plan.workOrders[dependency]? = some work ∧ work.state ≠ .cancelled
  acyclic : ∀ id, ¬ Relation.TransGen (DependsOn plan) id id
  access : ∀ (id : PlanWorkOrderId) (work : PlannedWorkOrder),
    plan.workOrders[id]? = some work → work.requiredAccess.rank ≤ policy.maximumAccess.rank
  covered : plan.revision > 0 → ∀ (id : ObligationId) (obligation : ProtectedObligation),
    obligations.obligations[id]? = some obligation → obligation.required →
      ∃ (workId : PlanWorkOrderId) (work : PlannedWorkOrder),
        plan.workOrders[workId]? = some work ∧ work.state ≠ .cancelled ∧
          ∃ obligationRef ∈ work.obligations, obligationRef.id = obligation.id

theorem covered_eq_true {id : ObligationId} : covered plan id = true ↔
    ∃ (workId : PlanWorkOrderId) (work : PlannedWorkOrder),
      plan.workOrders[workId]? = some work ∧ work.state ≠ .cancelled ∧
        ∃ obligationRef ∈ work.obligations, obligationRef.id = id := by
  simp only [covered, List.any_eq_true, Bool.and_eq_true, decide_eq_true_eq,
    Std.ExtTreeSet.mem_toList]
  constructor
  · rintro ⟨work, hwork, hstate, obligationRef, href, hid⟩
    obtain ⟨workId, hfound⟩ := mem_mapValues.mp hwork
    exact ⟨workId, work, hfound, hstate, obligationRef, href, hid⟩
  · rintro ⟨workId, work, hfound, hstate, obligationRef, href, hid⟩
    exact ⟨work, mem_mapValues.mpr ⟨workId, hfound⟩, hstate, obligationRef, href, hid⟩

/-- The checks that do not ask for coverage. -/
theorem wellFormed_of_planInvariantViolations {allowEmpty : Bool}
    (h : planInvariantViolations plan obligations policy allowEmpty = [])
    (hallow : plan.revision > 0 → allowEmpty = false) : WellFormed obligations policy plan := by
  simp only [planInvariantViolations, collect_eq_nil, List.forall_mem_cons, List.not_mem_nil,
    false_implies, implies_true, and_true, List.flatMap_eq_nil_iff, Prod.forall, report_eq_nil,
    Std.ExtTreeMap.mem_toList_iff_getElem?_eq_some, plannedWorkOrderViolations,
    plannedTargetViolations, List.append_eq_nil_iff, not_not, Std.ExtTreeSet.mem_toList] at h
  obtain ⟨-, -, hwork, htarget, hcycle, hcovered⟩ := h
  have hdependency : ∀ id dependency, DependsOn plan id dependency →
      ∃ work, plan.workOrders[dependency]? = some work ∧ work.state ≠ .cancelled := by
    rintro id dependency ⟨work, hfound, hmem⟩
    have hnone := (hwork id work hfound).2.2.1 dependency hmem
    unfold planDependencyViolations at hnone
    split at hnone
    · cases hnone
    · next found hfound' => exact ⟨found, hfound', report_eq_nil.mp hnone⟩
  refine ⟨fun id work hfound => (hwork id work hfound).1.symm,
    fun id target hfound => (htarget id target hfound).1.symm, hdependency, fun id hcycle' => ?_,
    fun id work hfound => Nat.not_lt.mp (hwork id work hfound).2.1, fun hrevision id obligation
      hfound hrequired => ?_⟩
  · have hnext : ∀ id dependency, DependsOn plan id dependency →
        dependency ∈ planDependencies plan.workOrders id := by
      rintro id dependency ⟨work, hfound, hmem⟩
      obtain ⟨found, hfound', -⟩ := hdependency id dependency ⟨work, hfound, hmem⟩
      rw [planDependencies, hfound]
      refine List.mem_filter.mpr ⟨Std.ExtTreeSet.mem_toList.mpr hmem, ?_⟩
      rw [Std.ExtTreeMap.contains_eq_isSome_getElem?, hfound']
      rfl
    have hnone : findCycle (planDependencies plan.workOrders) plan.workOrders.keys
        (planDependencies_closed plan.workOrders) = none := by
      simpa [dependencyGraphHasCycle] using hcycle
    obtain ⟨work, hfound, -⟩ : ∃ work, plan.workOrders[id]? = some work ∧ True := by
      obtain ⟨_, ⟨work, hfound, -⟩, -⟩ := Relation.TransGen.head'_iff.mp hcycle'
      exact ⟨work, hfound, trivial⟩
    have hid : id ∈ plan.workOrders.keys :=
      Std.ExtTreeMap.mem_keys.mpr (Std.ExtTreeMap.mem_iff_isSome_getElem?.mpr (by rw [hfound]; rfl))
    refine not_transGen_of_findCycle_eq_none hnone hid ?_
    rw [← Relation.transGen_swap]
    exact Relation.TransGen.mono hnext _ _ hcycle'
  · rw [hallow hrevision, Bool.false_and, if_neg Bool.false_ne_true] at hcovered
    simp only [coverageViolations, List.flatMap_eq_nil_iff, List.mem_filter, report_eq_nil,
      Bool.not_eq_false] at hcovered
    exact covered_eq_true.mp (hcovered obligation ⟨mem_mapValues.mpr ⟨id, hfound⟩, hrequired⟩)

end WellFormed

section Accepted

/-- Everything that an accepted turn has passed. -/
structure Accepts (encoding : PlannerEncoding) (proposal : PlannerTurnProposal) (base : PlanSnapshot)
    (obligations : ProtectedObligationCatalog) (context : PlannerContextCatalog)
    (policy : PlannerPolicy) (turn : ValidatedPlannerTurn) : Prop where
  structural : structuralViolations encoding proposal base policy = []
  bindings : bindingViolations encoding base obligations context policy proposal = []
  violations : turnViolations encoding proposal base obligations context policy = []
  directive : (turnDirective encoding proposal base obligations context policy).1 =
    some turn.directive
  advanced : advancePlan encoding proposal base
    (applyTurn encoding proposal base obligations context policy).plan = .ok turn.plan
  digest : turn.planSha256 = encoding.plan turn.plan

theorem accepts_of_ok
    (h : validateAndApply encoding proposal base obligations context policy = .ok turn) :
    Accepts encoding proposal base obligations context policy turn := by
  unfold validateAndApply at h
  split_ifs at h with hstructural hbindings hviolations
  split at h
  · cases h
  · next directive hdirective =>
    generalize hadvanced : advancePlan encoding proposal base
      (applyTurn encoding proposal base obligations context policy).plan = advanced at h
    cases advanced with
    | error violations => cases h
    | ok plan =>
      cases h
      exact ⟨not_not.mp hstructural, not_not.mp hbindings, not_not.mp hviolations, hdirective,
        hadvanced, rfl⟩

/-- Only the revision and the parent tell the advanced plan from the one that was checked. -/
theorem advancePlan_eq_ok (h : advancePlan encoding proposal base next = .ok plan) :
    plan.schemaVersion = next.schemaVersion ∧
      plan.obligationSnapshotSha256 = next.obligationSnapshotSha256 ∧
      plan.acceptancePolicySha256 = next.acceptancePolicySha256 ∧
      plan.workOrders = next.workOrders ∧ plan.verificationTargets = next.verificationTargets ∧
      (proposal.patch.isEmpty = true → plan.revision = next.revision) := by
  unfold advancePlan at h
  split at h
  · cases h
    exact ⟨rfl, rfl, rfl, rfl, rfl, fun _ => rfl⟩
  · next hpatch =>
    split at h
    · cases h
    · cases h
      exact ⟨rfl, rfl, rfl, rfl, rfl, fun hempty => absurd hempty hpatch⟩

theorem planInvariantViolations_congr (hworkOrders : plan.workOrders = next.workOrders)
    (htargets : plan.verificationTargets = next.verificationTargets) (allowEmpty : Bool) :
    planInvariantViolations plan obligations policy allowEmpty =
      planInvariantViolations next obligations policy allowEmpty := by
  have hdependency : planDependencyViolations plan = planDependencyViolations next := by
    funext id dependency
    rw [planDependencyViolations, planDependencyViolations, hworkOrders]
  have hwork : plannedWorkOrderViolations plan = plannedWorkOrderViolations next := by
    funext obligations policy id work
    rw [plannedWorkOrderViolations, plannedWorkOrderViolations, hdependency, htargets]
  have hcovered : covered plan = covered next := by
    funext id
    rw [covered, covered, hworkOrders]
  have hcoverage : coverageViolations plan = coverageViolations next := by
    funext obligations
    rw [coverageViolations, coverageViolations, hcovered]
  rw [planInvariantViolations, planInvariantViolations, hwork, hcoverage, hworkOrders, htargets]

/-- What a turn can be built on, apart from the catalogs and the policy. -/
structure Buildable (obligations : ProtectedObligationCatalog) (policy : PlannerPolicy)
    (plan : PlanSnapshot) : Prop where
  schemaVersion : plan.schemaVersion = planSchemaVersion
  snapshot : plan.obligationSnapshotSha256 = obligations.snapshotSha256
  acceptancePolicy : plan.acceptancePolicySha256 = obligations.acceptancePolicySha256
  invariants : basePlanViolations plan obligations policy = []
  wellFormed : WellFormed obligations policy plan

theorem buildable_empty (planId : PlanId) : Buildable obligations policy (.empty planId obligations) := by
  refine ⟨rfl, rfl, rfl, rfl, ⟨?_, ?_, ?_, ?_, ?_, fun h => absurd h (by simp [PlanSnapshot.empty])⟩⟩
  · simp [PlanSnapshot.empty]
  · simp [PlanSnapshot.empty]
  · simp [DependsOn, PlanSnapshot.empty]
  · intro id hcycle
    obtain ⟨_, ⟨_, hfound, -⟩, -⟩ := Relation.TransGen.head'_iff.mp hcycle
    simp [PlanSnapshot.empty] at hfound
  · simp [PlanSnapshot.empty]

/-- An accepted turn was checked against valid catalogs and a valid policy. -/
theorem Accepts.snapshots (h : Accepts encoding proposal base obligations context policy turn) :
    policy.isInternallyValid encoding = true ∧ obligations.isInternallyValid encoding = true := by
  have hbindings := h.bindings
  simp only [bindingViolations, snapshotViolations, collect_eq_nil, List.forall_mem_cons,
    report_eq_nil, Bool.not_eq_false] at hbindings
  exact ⟨hbindings.2.1.1, hbindings.2.1.2.1⟩

theorem Accepts.buildable (hbase : Buildable obligations policy base)
    (h : Accepts encoding proposal base obligations context policy turn) :
    Buildable obligations policy turn.plan := by
  obtain ⟨hschema, hobligations, hacceptance, hworkOrders, htargets, hrevision⟩ :=
    advancePlan_eq_ok h.advanced
  have hheader : SameHeader base
      (applyTurn encoding proposal base obligations context policy).plan := sameHeader_applyTurn
  have hviolations := h.violations
  simp only [turnViolations, collect_eq_nil, List.forall_mem_cons] at hviolations
  have hinvariants := hviolations.2.1
  rw [← planInvariantViolations_congr hworkOrders htargets] at hinvariants
  have hpause : allowInitialEmptyPause proposal base = true → turn.plan.revision = 0 := by
    intro hpause
    simp only [allowInitialEmptyPause, Bool.and_eq_true, decide_eq_true_eq] at hpause
    rw [hrevision hpause.1.2, hheader.revision, hpause.1.1.1]
  refine ⟨hschema.trans (hheader.schemaVersion.trans hbase.schemaVersion),
    hobligations.trans (hheader.obligations.trans hbase.snapshot),
    hacceptance.trans (hheader.acceptancePolicy.trans hbase.acceptancePolicy), ?_,
    wellFormed_of_planInvariantViolations hinvariants fun hpositive => ?_⟩
  · by_cases hallow : allowInitialEmptyPause proposal base = true
    · unfold basePlanViolations
      split
      · next hchecked =>
        rw [hpause hallow] at hchecked
        rw [hallow] at hinvariants
        simp only [planInvariantViolations, collect_eq_nil, List.forall_mem_cons] at hinvariants ⊢
        simp_all
      · rfl
    · rw [Bool.not_eq_true] at hallow
      rw [hallow] at hinvariants
      unfold basePlanViolations
      split
      · exact hinvariants
      · rfl
  · by_contra hallow
    rw [Bool.not_eq_false] at hallow
    rw [hpause hallow] at hpositive
    exact absurd hpositive (by decide)

end Accepted

section Runs

variable (encoding obligations policy)

/-- A turn with the context that it was prepared with. -/
def turnStep (plan : PlanSnapshot) (input : PlannerTurnProposal × PlannerContextCatalog) :
    Option PlanSnapshot :=
  (validateAndApply encoding input.1 plan obligations input.2 policy).toOption.map (·.plan)

variable {encoding obligations policy} {planId : PlanId}
  {tr : List (PlanSnapshot × PlannerTurnProposal × PlannerContextCatalog)}

theorem turnStep_eq_some {input : PlannerTurnProposal × PlannerContextCatalog}
    (h : turnStep encoding obligations policy plan input = some next) :
    ∃ turn, Accepts encoding input.1 plan obligations input.2 policy turn ∧ turn.plan = next := by
  unfold turnStep at h
  generalize hvalidated : validateAndApply encoding input.1 plan obligations input.2 policy = result
    at h
  cases result with
  | error violations => cases h
  | ok turn => exact ⟨turn, accepts_of_ok hvalidated, Option.some.inj h⟩

theorem buildable_run (h : Run (turnStep encoding obligations policy) (.empty planId obligations) tr
    plan) : Buildable obligations policy plan := by
  refine h.invariant (P := Buildable obligations policy) (fun base input next hbase hstep => ?_)
    (buildable_empty planId)
  obtain ⟨turn, haccepts, rfl⟩ := turnStep_eq_some hstep
  exact haccepts.buildable hbase

theorem snapshots_run (h : Run (turnStep encoding obligations policy) (.empty planId obligations) tr
    plan) (hstarted : tr ≠ []) :
    policy.isInternallyValid encoding = true ∧ obligations.isInternallyValid encoding = true := by
  cases h with
  | nil => exact absurd rfl hstarted
  | snoc _ hstep =>
    obtain ⟨turn, haccepts, -⟩ := turnStep_eq_some hstep
    exact haccepts.snapshots

/-- No accepted turn wedges the plan. A plan without a turn is checked against the catalogs and the
policy that the run begins with. -/
theorem setup_accepts_reachable
    (h : Run (turnStep encoding obligations policy) (.empty planId obligations) tr plan)
    (hinitial : tr = [] → policy.isInternallyValid encoding = true ∧
      obligations.isInternallyValid encoding = true)
    (hcontext : context.isInternallyValid encoding = true) :
    plannerSetupViolations encoding plan obligations context policy = [] ∧
      WellFormed obligations policy plan := by
  have hplan := buildable_run h
  have hsnapshots : policy.isInternallyValid encoding = true ∧
      obligations.isInternallyValid encoding = true := by
    by_cases hstarted : tr = []
    · exact hinitial hstarted
    · exact snapshots_run h hstarted
  refine ⟨?_, hplan.wellFormed⟩
  simp [plannerSetupViolations, snapshotViolations, hsnapshots.1, hsnapshots.2, hcontext,
    hplan.schemaVersion, hplan.snapshot, hplan.acceptancePolicy, hplan.invariants]

end Runs

section Sample

def samplePlannerDigest : PlannerDigest := ⟨String.ofList (List.replicate 64 '0'), by decide +kernel⟩

/-- Every digest is the same and every length is one. -/
def sampleEncoding : PlannerEncoding where
  text _ := samplePlannerDigest
  plan _ := samplePlannerDigest
  workOrder _ := samplePlannerDigest
  obligations _ _ := samplePlannerDigest
  obligationLength _ := 1
  evidenceBindings _ := samplePlannerDigest
  evidenceBindingsLength _ := 1
  policy _ _ := samplePlannerDigest
  directiveLength _ := 1
  patchBytes _ _ _ localId := Fin.ofNat _ localId.toNat

def sampleObligations : ProtectedObligationCatalog :=
  ⟨samplePlannerDigest, samplePlannerDigest,
    toMap [(⟨7⟩, ⟨⟨7⟩, samplePlannerDigest, "obligation", true⟩)]⟩

def samplePolicy : PlannerPolicy :=
  ⟨samplePlannerDigest, .readOnly, ⟨4, 4, 4, 4, 4, 4, 1024⟩⟩

def sampleContext : PlannerContextCatalog :=
  ⟨samplePlannerDigest, [⟨⟨"evidence", by decide⟩, samplePlannerDigest⟩], by decide⟩

def sampleBindings (revision : UInt64) : PlannerTurnBindings :=
  ⟨⟨1⟩, revision, samplePlannerDigest, samplePlannerDigest, samplePlannerDigest,
    samplePlannerDigest, samplePlannerDigest⟩

def sampleBasis : DecisionBasis := ⟨toSet [⟨"evidence", by decide⟩], "rationale"⟩

def sampleContent (newTargets : List LocalVerificationTargetId)
    (targets : List VerificationTargetId) : WorkOrderContent :=
  ⟨"objective", toSet [⟨⟨7⟩, samplePlannerDigest⟩], ∅, ∅, toSet targets, toSet newTargets,
    .readOnly, sampleBasis⟩

/-- The first turn adds a target and a work order and executes it. -/
def firstTurn : PlannerTurnProposal where
  schemaVersion := 1
  bindings := sampleBindings 0
  patch := ⟨none, [⟨⟨1⟩, "target", toSet [⟨⟨7⟩, samplePlannerDigest⟩], sampleBasis⟩],
    [⟨sampleContent [⟨1⟩] [], ⟨1⟩⟩], [], []⟩
  directive := ⟨.execute, ⟨∅, toSet [⟨1⟩]⟩, [], [], [], []⟩

/-- The second turn replaces the work order. -/
def secondTurn : PlannerTurnProposal where
  schemaVersion := 1
  bindings := sampleBindings 1
  patch := ⟨none, [], [], [⟨sampleContent [] [⟨uuidV8 1⟩], ⟨⟨uuidV8 1⟩, samplePlannerDigest⟩⟩], []⟩
  directive := ⟨.execute, ⟨toSet [⟨uuidV8 1⟩], ∅⟩, [], [], [], []⟩

theorem setup_accepts_reachable_replaced : ∃ tr plan,
    Run (turnStep sampleEncoding sampleObligations samplePolicy) (.empty ⟨1⟩ sampleObligations) tr
      plan ∧ plan.revision = 2 ∧
      plannerSetupViolations sampleEncoding plan sampleObligations sampleContext samplePolicy = [] := by
  have hreached : (execute (turnStep sampleEncoding sampleObligations samplePolicy)
      (.empty ⟨1⟩ sampleObligations)
      [(firstTurn, sampleContext), (secondTurn, sampleContext)]).any
      (fun run => run.2.revision = 2) = true := by
    decide
  obtain ⟨⟨tr, plan⟩, hexecute, hrevision⟩ := (Option.any_eq_true _ _).mp hreached
  have hrun := (run_of_execute hexecute).1
  exact ⟨tr, plan, hrun, of_decide_eq_true hrevision,
    (setup_accepts_reachable hrun (fun _ => by decide) (by decide)).1⟩

end Sample

end BirdCode.Planner
