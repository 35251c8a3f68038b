import BirdCode.Store.RootStages

/-! The accepted plans of a run form one chain: each attempt is decided once, against the base that
is current then, and each plan names the plan before it. -/
namespace BirdCode.Store

open Lib (Stepwise)

variable {documents : PlanningDocuments} {env : Environment} {log log' : EventLog} {run : Run}
  {event : EventEnvelope} {admission : EventAdmission} {runId : RunId} {stored : StoredInference}
  {prepared : PlannerInferencePrepared} {stage : PlannerStageContext}

section Bases

theorem InferenceAdmitted.initial_base (h : InferenceAdmitted log event prepared run stage)
    (hinitial : stageKind stage = .initialPlan) : prepared.planRevision = 0 := by
  have hrules := h.rules
  cases stage with
  | initialPlan =>
    simp only [validateStage, ensure_eq_ok] at hrules
    exact hrules.2.2
  | initialReview => cases hinitial
  | repair => cases hinitial
  | finalReview => cases hinitial

theorem InferenceAdmitted.repair_base (h : InferenceAdmitted log event prepared run stage)
    (hrepairs : stageKind stage = .repair) : ∃ candidate, stageCandidate stage = some candidate ∧
      prepared.base = (candidate.planRevision, candidate.planDigest) := by
  have hrules := h.rules
  cases stage with
  | initialPlan => cases hrepairs
  | initialReview => cases hrepairs
  | finalReview => cases hrepairs
  | repair actor lineage policy ordinal candidate triggeringReviewEventId findings =>
    simp only [validateStage, validateRepairStage, bind_eq_ok] at hrules
    obtain ⟨_, _, _, _, _, _, trigger, _, hrules⟩ := hrules
    split at hrules
    case h_2 => cases hrules
    case h_1 =>
      simp only [bind_eq_ok, ensure_eq_ok] at hrules
      obtain ⟨_, _, _, _, _, _, _, _, _, _, _, _, hrevision, hdigest, _⟩ := hrules
      exact ⟨candidate, rfl, by rw [PlannerInferencePrepared.base, hrevision, hdigest]⟩

/-- An attempt is prepared on the base that is current. -/
theorem InferenceAdmitted.current (h : InferenceAdmitted log event prepared run stage)
    (hadmitted : Admitted documents env log) : comparedBase log run.id prepared = prepared.base := by
  have hbase := h.base
  unfold requireCurrentPlanBase at hbase
  rw [hadmitted.currentPlanBase_eq h.found] at hbase
  unfold comparedBase
  cases hlast : (plansOf log run.id).getLast?.map StoredPlan.base with
  | some current =>
    simp only [hlast, ensure_eq_ok] at hbase
    exact hbase
  | none =>
    simp only [hlast, bind_eq_ok, ensure_eq_ok] at hbase
    obtain ⟨_, hrevision, _⟩ := hbase
    rw [Option.getD_none, PlannerInferencePrepared.base, hrevision]

/-- The stages that propose a plan. -/
def proposesPlan (stored : StoredInference) : Bool :=
  stageOf stored = some .initialPlan || stageOf stored = some .repair

/-- An attempt of a producer stage is one of the initial plan or of the repair. -/
theorem Admitted.proposes (h : Admitted documents env log) (hmem : stored ∈ inferencesOf log runId)
    (hproducer : ∀ stage, stored.prepared.stageContext = some stage → isProducerStage stage = true) :
    proposesPlan stored = true := by
  obtain ⟨before, other, stage, _, _, _, hinference⟩ := h.inference_of_mem hmem
  have hstage := hproducer stage hinference.context
  unfold proposesPlan stageOf
  rw [hinference.context]
  cases stage <;> simp_all [isProducerStage, stageKind]

/-- Where a repair is prepared, the initial plan was accepted. -/
theorem Admitted.initial_accepted (h : Admitted documents env log)
    (hmem : stored ∈ inferencesOf log runId) (hrepair : stageOf stored = some .repair) :
    ∃ plan ∈ plansOf log runId, ∃ initial ∈ inferencesOf log runId,
      stageOf initial = some .initialPlan ∧
        plan.accepted.inferenceAttemptId = initial.prepared.attemptId := by
  obtain ⟨repair, trigger, review, reviewer, hof⟩ := h.repair_of_mem hmem hrepair
  obtain ⟨stage, plan, attempt, producer, _, hproducer, hreview, _⟩ := hof.initial h
  refine ⟨plan, hreview.plan_mem, attempt, hreview.attempt_mem, ?_, hreview.proposed⟩
  rw [stageOf, hreview.context, Option.map_some, hproducer]

/-- No plan decision of an attempt is in the log. -/
def Undecided (log : EventLog) (runId : RunId) (attemptId : InferenceAttemptId) : Prop :=
  ∀ held ∈ eventsOf log runId, held.payload.isPlanDecisionOf attemptId = false

theorem Undecided.of_kept {whole : EventLog} {attemptId : InferenceAttemptId}
    (h : Undecided whole runId attemptId) (hkept : log.events <+: whole.events) :
    Undecided log runId attemptId := fun held hheld => h held ((eventsOf_kept hkept).subset hheld)

theorem not_undecided_of_plan {plan : StoredPlan} (hmem : plan ∈ plansOf log runId) :
    ¬Undecided log runId plan.accepted.inferenceAttemptId := by
  intro hundecided
  obtain ⟨hown, hpayload⟩ := mem_plansOf.mp hmem
  have hnot := hundecided plan.event hown
  simp [hpayload, EventPayload.isPlanDecisionOf] at hnot

/-- While an attempt is undecided no other attempt is accepted. -/
theorem Admitted.accepted_alone (h : Admitted documents env log) {other : StoredInference}
    (hstored : stored ∈ inferencesOf log runId) (hother : other ∈ inferencesOf log runId)
    (hproposes : proposesPlan stored = true) (hproposes' : proposesPlan other = true)
    (hundecided : Undecided log runId stored.prepared.attemptId)
    (hundecided' : Undecided log runId other.prepared.attemptId) : stored = other := by
  -- the attempt of the initial plan was accepted before the repair was prepared
  have hdecided : ∀ initial ∈ inferencesOf log runId, ∀ repair ∈ inferencesOf log runId,
      stageOf initial = some .initialPlan → stageOf repair = some .repair →
        ¬Undecided log runId initial.prepared.attemptId := by
    intro initial hinitial repair hrepair hplan hrepairs
    obtain ⟨plan, hmem, held, hheld, hstage, hproposed⟩ := h.initial_accepted hrepair hrepairs
    rw [h.inference_eq_of_stage hinitial hheld (hplan.trans hstage.symm), ← hproposed]
    exact not_undecided_of_plan hmem
  unfold proposesPlan at hproposes hproposes'
  simp only [Bool.or_eq_true, decide_eq_true_eq] at hproposes hproposes'
  obtain hfirst | hfirst := hproposes <;> obtain hsecond | hsecond := hproposes'
  · exact h.inference_eq_of_stage hstored hother (hfirst.trans hsecond.symm)
  · exact absurd hundecided (hdecided stored hstored other hother hfirst hsecond)
  · exact absurd hundecided' (hdecided other hother stored hstored hsecond hfirst)
  · exact h.inference_eq_of_stage hstored hother (hfirst.trans hsecond.symm)

end Bases

section Undecided

theorem plansOf_append (hevents : log'.events = log.events ++ [event]) :
    plansOf log' runId = plansOf log runId ++ (planOf runId event).toList := by
  unfold plansOf
  rw [hevents, List.filterMap_append]
  cases hplan : planOf runId event <;> simp [hplan]

theorem inferencesOf_append (hevents : log'.events = log.events ++ [event]) :
    inferencesOf log' runId = inferencesOf log runId ++ (inferenceOf runId event).toList := by
  unfold inferencesOf
  rw [hevents, List.filterMap_append]
  cases hprepared : inferenceOf runId event <;> simp [hprepared]

/-- The base of an undecided attempt is current. -/
theorem Admitted.undecided_current (h : Admitted documents env log)
    (hmem : stored ∈ inferencesOf log runId) (hproposes : proposesPlan stored = true)
    (hundecided : Undecided log runId stored.prepared.attemptId) :
    comparedBase log runId stored.prepared = stored.prepared.base := by
  induction h with
  | empty => simp [inferencesOf] at hmem
  | @append log log' event admission hadmitted happly ih =>
    have happended := applyExactEventEnvelope_appended happly
    have hundecided' := hundecided.of_kept happended.kept
    unfold comparedBase
    rw [plansOf_append happended.events]
    cases hplan : planOf runId event with
    | some plan =>
      -- another attempt cannot be accepted, and this one is undecided
      obtain ⟨rfl, hown, hpayload⟩ := planOf_eq_some.mp hplan
      obtain ⟨other, accepted, hadmits⟩ := happended.plan hadmitted hpayload
      obtain rfl := Option.some.inj (hadmits.proposal.owner.symm.trans hown)
      have hnot := hundecided plan.event (by
        rw [eventsOf_append_own happended.events hown]
        exact List.mem_append_right _ (List.mem_singleton.mpr rfl))
      have hstored : stored ∈ inferencesOf log other.id := by
        rw [inferencesOf_append happended.events, List.mem_append] at hmem
        obtain hmem | hmem := hmem
        · exact hmem
        · simp [inferenceOf, hpayload, EventPayload.inferencePrepared] at hmem
      obtain ⟨haccepted, hid⟩ := hadmits.proposal.prepared
      have hsame := hadmitted.accepted_alone hstored haccepted hproposes
        (hadmitted.proposes haccepted hadmits.proposal.producer) hundecided'
        (by rw [hid]; exact hadmits.proposal.undecided)
      simp [hpayload, EventPayload.isPlanDecisionOf, hsame, hid] at hnot
    | none =>
      rw [Option.toList_none, List.append_nil]
      rw [inferencesOf_append happended.events, List.mem_append] at hmem
      obtain hmem | hmem := hmem
      · exact ih hmem hundecided'
      · rw [Option.mem_toList, inferenceOf] at hmem
        split at hmem
        case isFalse => cases hmem
        case isTrue hown =>
          obtain ⟨prepared, hprepared, rfl⟩ := Option.map_eq_some_iff.mp hmem
          have hpayload : event.payload = .plannerInferencePrepared prepared := by
            cases hp : event.payload <;> simp_all [EventPayload.inferencePrepared]
          obtain ⟨other, stage, hinference⟩ := happended.inference hadmitted hpayload
          obtain rfl := Option.some.inj (hinference.owner.symm.trans hown)
          exact hinference.current hadmitted

end Undecided

section Chain

/-- The base a plan was accepted on. -/
def StoredPlan.previous (plan : StoredPlan) : UInt64 × Sha256Digest :=
  (plan.accepted.previousPlanRevision, plan.accepted.previousPlanDigest)

/-- A plan was proposed on the plan before it: it names that plan's revision and digest, and its
attempt names that plan. The first plan was proposed on no plan. -/
structure PlanNames (log : EventLog) (runId : RunId) (earlier : List StoredPlan)
    (plan : StoredPlan) : Prop where
  base : plan.previous =
    (earlier.getLast?.map StoredPlan.base).getD (0, plan.accepted.previousPlanDigest)
  attempt : ∃ stored ∈ inferencesOf log runId,
    stored.prepared.attemptId = plan.accepted.inferenceAttemptId ∧
    stored.prepared.base = plan.previous ∧
    stored.prepared.stageContext.bind stageCandidate = earlier.getLast?.map StoredPlan.candidate

theorem Appended.plan_names (h : Appended documents env log event admission log')
    (hadmitted : Admitted documents env log) {accepted : PlanProposalAccepted}
    (hpayload : event.payload = .planProposalAccepted accepted) (hown : event.runId = some runId) :
    PlanNames log runId (plansOf log runId) ⟨event, accepted⟩ := by
  obtain ⟨run, stored, hplan⟩ := h.plan hadmitted hpayload
  obtain rfl := Option.some.inj (hplan.proposal.owner.symm.trans hown)
  obtain ⟨hmem, hid⟩ := hplan.proposal.prepared
  have hdigest : stored.prepared.planDigest = accepted.previousPlanDigest :=
    (congrArg Prod.snd hplan.previous).symm
  have hbase : StoredPlan.previous ⟨event, accepted⟩ =
      ((plansOf log run.id).getLast?.map StoredPlan.base).getD (0, accepted.previousPlanDigest) := by
    rw [StoredPlan.previous, hplan.previous, ← hplan.current, comparedBase, hdigest]
  refine ⟨hbase, stored, hmem, hid, hplan.previous.symm, ?_⟩
  obtain ⟨before, other, stage, hsame, hbefore, hkept, hinference⟩ := hadmitted.inference_of_mem hmem
  rw [hinference.context, Option.bind_some]
  have hnumbered := plans_numbered (hadmitted.plan_steps run.id)
  have hproducer := hplan.proposal.producer stage hinference.context
  cases hkind : stageKind stage with
  | initialReview => cases stage <;> simp_all [isProducerStage, stageKind]
  | finalReview => cases stage <;> simp_all [isProducerStage, stageKind]
  | initialPlan =>
    -- the initial plan starts at revision zero, which no accepted plan leaves
    have hnone : stageCandidate stage = none := by cases stage <;> simp_all [stageKind, stageCandidate]
    rw [hnone]
    cases hlast : (plansOf log run.id).getLast? with
    | none => rfl
    | some last =>
      have hcurrent := hplan.current
      rw [comparedBase, hlast, Option.map_some, Option.getD_some] at hcurrent
      have hrevision := congrArg (fun base : UInt64 × Sha256Digest => base.1.toNat) hcurrent
      simp only [StoredPlan.base, PlannerInferencePrepared.base, hinference.initial_base hkind]
        at hrevision
      have hnumber := Lib.number_getLast hnumbered hlast
      have hpos := List.length_pos_of_mem (List.mem_of_getLast? hlast)
      rw [hrevision] at hnumber
      change 0 = _ at hnumber
      omega
  | repair =>
    obtain ⟨candidate, hcandidate, hnames⟩ := hinference.repair_base hkind
    obtain ⟨trigger, review, reviewer, hrepair⟩ := hinference.repairs hbefore hkind
    obtain ⟨_, plan, _, _, _, _, hreview, hreviewed⟩ := hrepair.initial hbefore
    rw [hsame] at hreview
    have hproposed := (plansOf_kept hkept).subset hreview.plan_mem
    obtain rfl := Option.some.inj (hcandidate.symm.trans hrepair.candidate)
    obtain ⟨last, hlast⟩ : ∃ last, (plansOf log run.id).getLast? = some last := by
      cases hlast : (plansOf log run.id).getLast? with
      | none => simp [List.getLast?_eq_none_iff.mp hlast] at hproposed
      | some last => exact ⟨last, rfl⟩
    have hcurrent := hplan.current
    rw [comparedBase, hlast, Option.map_some, Option.getD_some, hnames, hreviewed] at hcurrent
    have hlastPlan : last = plan :=
      hadmitted.plan_eq (List.mem_of_getLast? hlast) hproposed (congrArg Prod.fst hcurrent)
    rw [hcandidate, hreviewed, hlast, hlastPlan, Option.map_some]

theorem PlanNames.kept {whole : EventLog} {earlier : List StoredPlan} {plan : StoredPlan}
    (h : PlanNames log runId earlier plan) (hkept : log.events <+: whole.events) :
    PlanNames whole runId earlier plan := by
  obtain ⟨stored, hmem, hattempt⟩ := h.attempt
  exact ⟨h.base, stored, (inferencesOf_kept hkept).subset hmem, hattempt⟩

theorem Admitted.plans_chain (h : Admitted documents env log) (runId : RunId) :
    Stepwise (PlanNames log runId) (plansOf log runId) := by
  refine (h.stepwise (List.prefix_refl _)).filterMap ?_
  intro before event plan hafter hread
  obtain ⟨held, later, admission, rfl, hadmitted, happended, hkept⟩ := hafter.append
  obtain ⟨rfl, hown, hpayload⟩ := planOf_eq_some.mp hread
  exact (happended.plan_names hadmitted hpayload hown).kept (happended.kept.trans hkept)

end Chain

section Swaps

/-- The reasons that reject a proposal for its base. -/
def PlanProposalRejectionReason.isStaleBase : PlanProposalRejectionReason → Bool
  | .staleBaseRevision | .staleBaseDigest => true
  | _ => false

theorem reasonMatchesCas_stale {reason : PlanProposalRejectionReason}
    {current base : UInt64 × Sha256Digest} (h : reasonMatchesCas reason current base = true) :
    reason.isStaleBase = true ↔ current ≠ base := by
  obtain ⟨currentRevision, currentDigest⟩ := current
  obtain ⟨baseRevision, baseDigest⟩ := base
  cases reason <;>
    simp_all [reasonMatchesCas, PlanProposalRejectionReason.isStaleBase, Prod.ext_iff]

/-- How the decision of an event compares the base of its attempt with the current one. -/
structure DecisionSwaps (log : EventLog) (runId : RunId) (event : EventEnvelope) : Prop where
  accepted : ∀ accepted, event.payload = .planProposalAccepted accepted →
    ∃ stored ∈ inferencesOf log runId,
      stored.prepared.attemptId = accepted.inferenceAttemptId ∧
        comparedBase log runId stored.prepared = stored.prepared.base
  rejected : ∀ rejected, event.payload = .planProposalRejected rejected →
    ∃ stored ∈ inferencesOf log runId,
      stored.prepared.attemptId = rejected.inferenceAttemptId ∧
        (rejected.reason.isStaleBase = true ↔
          comparedBase log runId stored.prepared ≠ stored.prepared.base)

theorem Appended.swaps (h : Appended documents env log event admission log')
    (hadmitted : Admitted documents env log) (hown : event.runId = some runId) :
    DecisionSwaps log runId event := by
  constructor
  · intro accepted hpayload
    obtain ⟨run, stored, hplan⟩ := h.plan hadmitted hpayload
    obtain rfl := Option.some.inj (hplan.proposal.owner.symm.trans hown)
    obtain ⟨hmem, hid⟩ := hplan.proposal.prepared
    exact ⟨stored, hmem, hid, hplan.current⟩
  · intro rejected hpayload
    obtain ⟨run, stored, hrejection⟩ := h.plan_rejection hadmitted hpayload
    obtain rfl := Option.some.inj (hrejection.proposal.owner.symm.trans hown)
    obtain ⟨hmem, hid⟩ := hrejection.proposal.prepared
    exact ⟨stored, hmem, hid, reasonMatchesCas_stale hrejection.reason⟩

/-- An append may reject the proposal of an attempt for its base. -/
def StaleRejectable (documents : PlanningDocuments) (env : Environment) (log : EventLog)
    (runId : RunId) (attemptId : InferenceAttemptId) : Prop :=
  ∃ event admission log' rejected, Appended documents env log event admission log' ∧
    event.runId = some runId ∧ event.payload = .planProposalRejected rejected ∧
    rejected.inferenceAttemptId = attemptId ∧ rejected.reason.isStaleBase = true

theorem Admitted.stale_rejectable_iff (h : Admitted documents env log)
    (hmem : stored ∈ inferencesOf log runId) (hproposes : proposesPlan stored = true)
    (hundecided : Undecided log runId stored.prepared.attemptId) :
    StaleRejectable documents env log runId stored.prepared.attemptId ↔
      comparedBase log runId stored.prepared ≠ stored.prepared.base := by
  constructor
  · rintro ⟨event, admission, log', rejected, happended, hown, hpayload, hattempt, hstale⟩
    obtain ⟨other, hother, hid, hswaps⟩ := (happended.swaps h hown).rejected rejected hpayload
    rw [h.inference_eq hmem hother (hattempt.symm.trans hid.symm)]
    exact hswaps.mp hstale
  · intro hstale
    exact absurd (h.undecided_current hmem hproposes hundecided) hstale

/-- An attempt is decided once at most. -/
theorem Admitted.decided_once (h : Admitted documents env log) (runId : RunId)
    (attemptId : InferenceAttemptId) : (eventsOf log runId).countP
      (fun event => event.payload.isPlanDecisionOf attemptId) ≤ 1 := by
  refine Lib.countP_le_one_of_pairwise (h.pairwise (List.prefix_refl _) ?_)
  intro log log' event admission hadmitted happended _ hown earlier hearlier hfirst
  by_contra hsecond
  have hundecided : Undecided log runId attemptId := by
    cases hp : event.payload <;> simp [hp, EventPayload.isPlanDecisionOf] at hsecond
    case planProposalAccepted accepted =>
      obtain ⟨run, stored, hplan⟩ := happended.plan hadmitted hp
      obtain rfl := Option.some.inj (hplan.proposal.owner.symm.trans hown)
      rw [← hsecond]
      exact hplan.proposal.undecided
    case planProposalRejected rejected =>
      obtain ⟨run, stored, hrejection⟩ := happended.plan_rejection hadmitted hp
      obtain rfl := Option.some.inj (hrejection.proposal.owner.symm.trans hown)
      rw [← hsecond]
      exact hrejection.proposal.undecided
  rw [hundecided earlier hearlier] at hfirst
  cases hfirst

end Swaps

section Revisions

/-- The accepted plans of a run and the decisions that led to them. -/
structure PlanRevisions (documents : PlanningDocuments) (env : Environment) (log : EventLog)
    (runId : RunId) : Prop where
  numbered : (plansOf log runId).map (fun plan => plan.accepted.acceptedPlanRevision.toNat) =
    List.range' 1 (plansOf log runId).length
  chain : Stepwise (PlanNames log runId) (plansOf log runId)
  decided : ∀ attemptId, (eventsOf log runId).countP
    (fun event => event.payload.isPlanDecisionOf attemptId) ≤ 1
  swaps : Stepwise (fun before event => ∃ held : EventLog, eventsOf held runId = before ∧
    DecisionSwaps held runId event) (eventsOf log runId)
  stale : ∀ stored ∈ inferencesOf log runId, proposesPlan stored = true →
    Undecided log runId stored.prepared.attemptId →
      (StaleRejectable documents env log runId stored.prepared.attemptId ↔
        comparedBase log runId stored.prepared ≠ stored.prepared.base)
  exclusive : ∀ first ∈ plansOf log runId, ∀ second ∈ plansOf log runId,
    first.previous = second.previous → first = second

/-- In every admitted log the accepted plans of a run are revised by compare and swap: they are
numbered in order, each on the one before it, and no two were accepted on one base. -/
theorem planRevisions_of_admitted (documents : PlanningDocuments) (env : Environment)
    (log : EventLog) (runId : RunId) (hadmitted : Admitted documents env log) :
    PlanRevisions documents env log runId := by
  have hsteps := hadmitted.plan_steps runId
  refine ⟨plans_numbered hsteps, hadmitted.plans_chain runId, hadmitted.decided_once runId, ?_, ?_,
    ?_⟩
  · refine (hadmitted.own_stepwise (List.prefix_refl _) runId).imp ?_
    intro before event hafter
    obtain ⟨held, later, admission, hbefore, hheld, happended, _, hown⟩ := hafter.append
    exact ⟨held, hbefore, happended.swaps hheld hown⟩
  · intro stored hmem hproposes hundecided
    exact hadmitted.stale_rejectable_iff hmem hproposes hundecided
  · intro first hfirst second hsecond hsame
    have hnext : ∀ plan ∈ plansOf log runId, plan.accepted.acceptedPlanRevision.toNat =
        plan.previous.1.toNat + 1 := by
      intro plan hplan
      obtain ⟨_, _, _, hstep⟩ := hsteps.of_mem hplan
      exact hstep.next
    refine hadmitted.plan_eq hfirst hsecond (UInt64.toNat_inj.mp ?_)
    rw [hnext first hfirst, hnext second hsecond, hsame]

theorem planRevisions_of_planned : PlanRevisions samplePlanningDocuments
    (plainEnvironment sampleWires) plannedLog plannedRun.id :=
  planRevisions_of_admitted samplePlanningDocuments (plainEnvironment sampleWires) plannedLog
    plannedRun.id (.attempts .empty _)

end Revisions

end BirdCode.Store
