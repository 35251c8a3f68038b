import BirdCode.Store.RootAppends

/-! The stages of root planning only move forward: what authorizes a stage, what closes it and what
completes the run. -/
namespace BirdCode.Store

open Lib (Stepwise)

variable {documents : PlanningDocuments} {env : Environment} {log log' : EventLog} {run : Run}
  {event : EventEnvelope} {admission : EventAdmission} {runId : RunId} {sessionId : SessionId}

section Rules

variable {prepared : PlannerInferencePrepared} {stage : PlannerStageContext}

/-- A reviewer is another actor, of another domain and not the same model. -/
structure IndependentOf (reviewer producer : StageIdentity) : Prop where
  actor : reviewer.modelActorId ≠ producer.modelActorId
  domain : reviewer.modelLineage.independenceDomainId ≠ producer.modelLineage.independenceDomainId
  model : ¬(reviewer.modelLineage.backendId = producer.modelLineage.backendId ∧
    reviewer.modelLineage.modelId = producer.modelLineage.modelId)

/-- A review of a plan by a model that is independent of the one that proposed the plan. -/
structure ReviewOf (log : EventLog) (runId : RunId) (review : PlannerStageContext)
    (plan : StoredPlan) (attempt : StoredInference) (producer : PlannerStageContext) : Prop where
  plan_mem : plan ∈ plansOf log runId
  attempt_mem : attempt ∈ inferencesOf log runId
  context : attempt.prepared.stageContext = some producer
  proposed : plan.accepted.inferenceAttemptId = attempt.prepared.attemptId
  candidate : stageCandidate review = some plan.candidate
  independent : IndependentOf (stageIdentity review) (stageIdentity producer)

/-- The stage whose plan a stage reviews. -/
def reviewedStage : RootPlanningStage → Option RootPlanningStage
  | .initialReview => some .initialPlan
  | .finalReview => some .repair
  | .initialPlan | .repair => none

theorem validateReviewStage_reviews (hadmitted : Admitted documents env log)
    (hrun : storedRun log run.id = some run) (hsession : event.sessionId = run.spec.sessionId)
    {candidate : PlanCandidateBinding} {producer : RootPlanningStage}
    (hcandidate : stageCandidate stage = some candidate)
    (h : validateReviewStage log event run.id prepared stage producer candidate = .ok ()) :
    ∃ plan attempt context, stageKind context = producer ∧
      ReviewOf log run.id stage plan attempt context := by
  simp only [validateReviewStage, parentStage, validateReviewerIndependence, bind_eq_ok,
    expect_eq_ok, ensure_eq_ok, hsession] at h
  obtain ⟨⟨attemptId, context⟩, ⟨_, _, attempt, hattempt, _, hcontext, heq⟩, accepted, hbinding, _,
    ⟨hkind, hproposed, _⟩, hactor, hdomain, hmodel⟩ := h
  cases heq
  obtain ⟨hmem, hid⟩ := hadmitted.preparedInferenceForAttempt_eq_ok hrun hattempt
  obtain ⟨plan, hplan, hnames, rfl⟩ := validateCandidateBinding_plan rfl hbinding
  refine ⟨plan, attempt, context, hkind, hplan, hmem, hcontext, ?_, ?_, ⟨hactor, hdomain, hmodel⟩⟩
  · rw [hproposed, hid]
  · rw [hcandidate, hnames]

theorem InferenceAdmitted.reviews (h : InferenceAdmitted log event prepared run stage)
    (hadmitted : Admitted documents env log) {producer : RootPlanningStage}
    (hreviews : reviewedStage (stageKind stage) = some producer) :
    ∃ plan attempt context, stageKind context = producer ∧
      ReviewOf log run.id stage plan attempt context := by
  have hrules := h.rules
  cases stage with
  | initialPlan => cases hreviews
  | repair => cases hreviews
  | initialReview actor lineage policy critic round candidate =>
    obtain rfl := Option.some.inj hreviews
    simp only [validateStage, bind_eq_ok] at hrules
    obtain ⟨_, _, hreview⟩ := hrules
    exact validateReviewStage_reviews hadmitted h.found h.session rfl hreview
  | finalReview actor lineage policy critic round ordinal candidate =>
    obtain rfl := Option.some.inj hreviews
    simp only [validateStage, bind_eq_ok] at hrules
    obtain ⟨_, _, _, _, hreview⟩ := hrules
    exact validateReviewStage_reviews hadmitted h.found h.session rfl hreview

/-- A repair that a review of the initial plan authorized. -/
structure RepairOf (log : EventLog) (runId : RunId) (repair : PlannerStageContext)
    (trigger : EventEnvelope) (review : PlanSemanticReviewRejected) (reviewer : StoredInference) :
    Prop where
  trigger_mem : trigger ∈ eventsOf log runId
  payload : trigger.payload = .planSemanticReviewRejected review
  authorized : review.disposition = .repairOnceAuthorized
  reviewer_mem : reviewer ∈ inferencesOf log runId
  stage : stageOf reviewer = some .initialReview
  decided : review.inferenceAttemptId = reviewer.prepared.attemptId
  candidate : stageCandidate repair = some review.candidate

theorem InferenceAdmitted.repairs (h : InferenceAdmitted log event prepared run stage)
    (hadmitted : Admitted documents env log) (hrepairs : stageKind stage = .repair) :
    ∃ trigger review reviewer, RepairOf log run.id stage trigger review reviewer := by
  have hrules := h.rules
  cases stage with
  | initialPlan => cases hrepairs
  | initialReview => cases hrepairs
  | finalReview => cases hrepairs
  | repair actor lineage policy ordinal candidate triggeringReviewEventId findings =>
    simp only [validateStage, validateRepairStage, parentStage, bind_eq_ok, expect_eq_ok,
      ensure_eq_ok, h.session] at hrules
    obtain ⟨_, _, ⟨attemptId, context⟩, ⟨_, _, reviewer, hreviewer, _, hcontext, heq⟩, _, hkind,
      trigger, htrigger, hrules⟩ := hrules
    cases heq
    split at hrules
    case h_2 => cases hrules
    case h_1 review hpayload =>
      simp only [bind_eq_ok, expect_eq_ok, ensure_eq_ok] at hrules
      obtain ⟨_, _, _, _, hdecided, hauthorized, hcandidate, _⟩ := hrules
      obtain ⟨hmem, hid⟩ := hadmitted.preparedInferenceForAttempt_eq_ok h.found hreviewer
      obtain ⟨hlog, _, hown, _⟩ := storedEventForRun_mem htrigger
      refine ⟨trigger, review, reviewer, List.mem_filter.mpr ⟨hlog, by simp [hown]⟩, hpayload,
        hauthorized, hmem, by simp [stageOf, hcontext, hkind], ?_, ?_⟩
      · rw [hdecided, hid]
      · rw [hcandidate]
        rfl

end Rules

section Kept

variable {whole : EventLog} {stored : StoredInference}

theorem eventsOf_kept (h : log.events <+: whole.events) :
    eventsOf log runId <+: eventsOf whole runId := h.filter _

theorem inferencesOf_kept (h : log.events <+: whole.events) :
    inferencesOf log runId <+: inferencesOf whole runId := h.filterMap _

theorem plansOf_kept (h : log.events <+: whole.events) :
    plansOf log runId <+: plansOf whole runId := h.filterMap _

theorem ReviewOf.kept {review producer : PlannerStageContext} {plan : StoredPlan}
    (h : ReviewOf log runId review plan stored producer) (hkept : log.events <+: whole.events) :
    ReviewOf whole runId review plan stored producer :=
  { h with
    plan_mem := (plansOf_kept hkept).subset h.plan_mem
    attempt_mem := (inferencesOf_kept hkept).subset h.attempt_mem }

theorem RepairOf.kept {repair : PlannerStageContext} {trigger : EventEnvelope}
    {review : PlanSemanticReviewRejected} (h : RepairOf log runId repair trigger review stored)
    (hkept : log.events <+: whole.events) : RepairOf whole runId repair trigger review stored :=
  { h with
    trigger_mem := (eventsOf_kept hkept).subset h.trigger_mem
    reviewer_mem := (inferencesOf_kept hkept).subset h.reviewer_mem }

/-- An inference is known by its attempt. -/
theorem Admitted.inference_eq (h : Admitted documents env log) {first second : StoredInference}
    (hfirst : first ∈ inferencesOf log runId) (hsecond : second ∈ inferencesOf log runId)
    (hsame : first.prepared.attemptId = second.prepared.attemptId) : first = second := by
  have hnodup := (h.inference_steps runId).nodup fun _ _ hstep => hstep.fresh
  exact List.inj_on_of_nodup_map hnodup hfirst hsecond hsame

/-- An inference is known by its stage. -/
theorem Admitted.inference_eq_of_stage (h : Admitted documents env log)
    {first second : StoredInference} (hfirst : first ∈ inferencesOf log runId)
    (hsecond : second ∈ inferencesOf log runId) (hsame : stageOf first = stageOf second) :
    first = second := by
  have hnodup : ((inferencesOf log runId).map stageOf).Nodup :=
    (stages_forward (h.inference_steps runId)).sublist.nodup (by decide)
  exact List.inj_on_of_nodup_map hnodup hfirst hsecond hsame

/-- How a decision on a review was appended. -/
theorem Admitted.review_of_mem (h : Admitted documents env log) (hmem : event ∈ eventsOf log runId)
    {attemptId : InferenceAttemptId} {candidate : PlanCandidateBinding}
    (hdecides : event.payload.reviewDecision = some (attemptId, candidate)) :
    ∃ (before after : EventLog) (run : Run) (stored : StoredInference)
      (stage : PlannerStageContext), run.id = runId ∧ Admitted documents env before ∧
      after.events = before.events ++ [event] ∧ after.events <+: log.events ∧
      ReviewAdmitted before event attemptId candidate run stored stage := by
  obtain ⟨hmem, hown⟩ := List.mem_filter.mp hmem
  obtain ⟨before, after, admission, hbefore, happended, hafter⟩ := h.split hmem
  obtain ⟨run, stored, stage, hreview⟩ := happended.review hbefore hdecides
  obtain rfl := Option.some.inj (hreview.owner.symm.trans (of_decide_eq_true hown))
  exact ⟨before, after, run, stored, stage, rfl, hbefore, happended.events, hafter, hreview⟩

end Kept

section Order

/-- A repair follows the review of the plan that the initial plan's attempt proposed. -/
theorem RepairOf.initial {repair : PlannerStageContext} {trigger : EventEnvelope}
    {review : PlanSemanticReviewRejected} {reviewer : StoredInference}
    (h : RepairOf log runId repair trigger review reviewer)
    (hadmitted : Admitted documents env log) :
    ∃ stage plan attempt producer, reviewer.prepared.stageContext = some stage ∧
      stageKind producer = .initialPlan ∧ ReviewOf log runId stage plan attempt producer ∧
      review.candidate = plan.candidate := by
  obtain ⟨before, run, stage, rfl, hbefore, hkept, hinference⟩ :=
    hadmitted.inference_of_mem h.reviewer_mem
  have hstage : stageKind stage = .initialReview := by
    have := h.stage
    rw [stageOf, hinference.context] at this
    exact Option.some.inj this
  obtain ⟨plan, attempt, producer, hproducer, hreview⟩ :=
    hinference.reviews hbefore (show reviewedStage (stageKind stage) = some .initialPlan by
      rw [hstage]; rfl)
  refine ⟨stage, plan, attempt, producer, hinference.context, hproducer, hreview.kept hkept, ?_⟩
  obtain ⟨earlier, _, _, stored, held, hid, _, hafter, hkept', hdecision⟩ :=
    hadmitted.review_of_mem h.trigger_mem (by rw [h.payload]; rfl)
  have hsame : stored = reviewer := by
    refine hadmitted.inference_eq ?_ h.reviewer_mem (hdecision.prepared.2.trans h.decided)
    have hearlier : earlier.events <+: log.events := by
      refine List.IsPrefix.trans ?_ hkept'
      rw [hafter]
      exact List.prefix_append ..
    rw [← hid]
    exact (inferencesOf_kept hearlier).subset hdecision.prepared.1
  have hcontext := hdecision.context
  rw [hsame, hinference.context] at hcontext
  obtain rfl := Option.some.inj hcontext
  exact Option.some.inj (hdecision.reviews.2.symm.trans hreview.candidate)

/-- The decisions that end the planning: an accepted review, or a rejected one that authorizes no
repair. -/
def EventPayload.endsPlanning : EventPayload → Bool
  | .planSemanticReviewAccepted _ => true
  | .planSemanticReviewRejected rejected => rejected.disposition ≠ .repairOnceAuthorized
  | _ => false

theorem isReviewDecisionOf_of_decides {payload : EventPayload} {attemptId : InferenceAttemptId}
    {candidate : PlanCandidateBinding} (h : payload.reviewDecision = some (attemptId, candidate)) :
    payload.isReviewDecisionOf attemptId = true := by
  cases payload <;> simp_all [EventPayload.reviewDecision, EventPayload.isReviewDecisionOf]

theorem decides_of_endsPlanning {payload : EventPayload} (h : payload.endsPlanning = true) :
    ∃ attemptId candidate, payload.reviewDecision = some (attemptId, candidate) := by
  cases payload <;> simp_all [EventPayload.endsPlanning, EventPayload.reviewDecision]

/-- Of two decisions on the review of an attempt the later was not admitted. -/
theorem Admitted.one_review (h : Admitted documents env log) (runId : RunId) :
    (eventsOf log runId).Pairwise fun earlier later => ∀ attemptId first second,
      earlier.payload.reviewDecision = some (attemptId, first) →
        later.payload.reviewDecision ≠ some (attemptId, second) := by
  refine h.pairwise (List.prefix_refl _) ?_
  intro log log' event admission hadmitted happended _ hown earlier hearlier attemptId first second
    hfirst hsecond
  obtain ⟨run, stored, stage, hreview⟩ := happended.review hadmitted hsecond
  obtain rfl := Option.some.inj (hreview.owner.symm.trans hown)
  have := hreview.undecided earlier hearlier
  rw [isReviewDecisionOf_of_decides hfirst] at this
  cases this

theorem Admitted.review_eq (h : Admitted documents env log) {first second : EventEnvelope}
    (hfirst : first ∈ eventsOf log runId) (hsecond : second ∈ eventsOf log runId)
    {attemptId : InferenceAttemptId} {candidate other : PlanCandidateBinding}
    (hdecides : first.payload.reviewDecision = some (attemptId, candidate))
    (hdecides' : second.payload.reviewDecision = some (attemptId, other)) : first = second := by
  by_contra hne
  have hsymm : Std.Symm fun earlier later : EventEnvelope => ∀ attemptId first second,
      earlier.payload.reviewDecision = some (attemptId, first) →
        later.payload.reviewDecision ≠ some (attemptId, second) :=
    ⟨fun _ _ hexcludes attemptId _ _ hlater hearlier => hexcludes attemptId _ _ hearlier hlater⟩
  exact (h.one_review runId).forall hfirst hsecond hne attemptId candidate other hdecides hdecides'

/-- A decision on a review decides an attempt of a review stage. -/
theorem Admitted.reviewed_stage (h : Admitted documents env log) (hmem : event ∈ eventsOf log runId)
    {attemptId : InferenceAttemptId} {candidate : PlanCandidateBinding}
    (hdecides : event.payload.reviewDecision = some (attemptId, candidate)) :
    ∃ stored ∈ inferencesOf log runId, stored.prepared.attemptId = attemptId ∧
      (stageOf stored = some .initialReview ∨ stageOf stored = some .finalReview) := by
  obtain ⟨before, after, run, stored, stage, rfl, _, hafter, hkept, hreview⟩ :=
    h.review_of_mem hmem hdecides
  have hbefore : before.events <+: log.events := by
    refine List.IsPrefix.trans ?_ hkept
    rw [hafter]
    exact List.prefix_append ..
  refine ⟨stored, (inferencesOf_kept hbefore).subset hreview.prepared.1, hreview.prepared.2, ?_⟩
  have hreviews := hreview.reviews.1
  rw [stageOf, hreview.context]
  cases stage <;> simp_all [isProducerStage, stageKind]

/-- The review that authorized a repair did not end the planning. -/
theorem RepairOf.goes_on {repair : PlannerStageContext} {trigger : EventEnvelope}
    {review : PlanSemanticReviewRejected} {reviewer : StoredInference}
    (h : RepairOf log runId repair trigger review reviewer) (hadmitted : Admitted documents env log)
    (hmem : event ∈ eventsOf log runId) {candidate : PlanCandidateBinding}
    (hdecides : event.payload.reviewDecision = some (reviewer.prepared.attemptId, candidate)) :
    event.payload.endsPlanning = false := by
  have htrigger : trigger.payload.reviewDecision =
      some (reviewer.prepared.attemptId, review.candidate) := by
    rw [h.payload, ← h.decided]
    rfl
  have hsame := hadmitted.review_eq hmem h.trigger_mem hdecides htrigger
  rw [hsame, h.payload]
  simp [EventPayload.endsPlanning, h.authorized]

/-- A log that holds a repair holds the review that authorized it. -/
theorem Admitted.repair_of_mem (h : Admitted documents env log) {stored : StoredInference}
    (hmem : stored ∈ inferencesOf log runId) (hstage : stageOf stored = some .repair) :
    ∃ stage trigger review reviewer, RepairOf log runId stage trigger review reviewer := by
  obtain ⟨before, run, stage, rfl, hbefore, hkept, hinference⟩ := h.inference_of_mem hmem
  rw [stageOf, hinference.context] at hstage
  obtain ⟨trigger, review, reviewer, hrepair⟩ :=
    hinference.repairs hbefore (Option.some.inj hstage)
  exact ⟨stage, trigger, review, reviewer, hrepair.kept hkept⟩

/-- After a decision that ends the planning nothing is prepared. -/
theorem Admitted.nothing_prepared (h : Admitted documents env log) (runId : RunId) :
    (eventsOf log runId).Pairwise fun earlier later =>
      earlier.payload.endsPlanning = true → later.payload.inferencePrepared = none := by
  refine h.pairwise (List.prefix_refl _) ?_
  intro log log' event admission hadmitted happended _ hown earlier hearlier hends
  by_contra hprepared
  obtain ⟨prepared, hprepared⟩ := Option.ne_none_iff_exists'.mp hprepared
  have hpayload : event.payload = .plannerInferencePrepared prepared := by
    cases hp : event.payload <;> simp_all [EventPayload.inferencePrepared]
  obtain ⟨run, stage, hinference⟩ := happended.inference hadmitted hpayload
  obtain rfl := Option.some.inj (hinference.owner.symm.trans hown)
  obtain ⟨attemptId, candidate, hdecides⟩ := decides_of_endsPlanning hends
  obtain ⟨stored, hstored, rfl, hstage⟩ := hadmitted.reviewed_stage hearlier hdecides
  have hprevious := hinference.previous
  have hbefore : stageOf stored ∈ (requiredPrefixOf (stageKind stage)).map some := by
    rw [← hprevious]
    exact List.mem_map_of_mem hstored
  -- only a repair and a final review come after a review, and both after its authorization
  obtain ⟨hinitial, repair, trigger, review, reviewer, hrepair⟩ :
      stageOf stored = some .initialReview ∧ ∃ repair trigger review reviewer,
        RepairOf log run.id repair trigger review reviewer := by
    cases hkind : stageKind stage <;> rw [hkind] at hbefore hprevious
    case initialPlan => simp [requiredPrefixOf] at hbefore
    case initialReview =>
      simp only [requiredPrefixOf, List.map_cons, List.map_nil, List.mem_singleton] at hbefore
      rw [hbefore] at hstage
      simp at hstage
    case repair =>
      have hinitial : stageOf stored = some .initialReview := by
        obtain hinitial | hfinal := hstage
        · exact hinitial
        · rw [hfinal] at hbefore
          simp [requiredPrefixOf] at hbefore
      exact ⟨hinitial, stage, hinference.repairs hadmitted hkind⟩
    case finalReview =>
      have hinitial : stageOf stored = some .initialReview := by
        obtain hinitial | hfinal := hstage
        · exact hinitial
        · rw [hfinal] at hbefore
          simp [requiredPrefixOf] at hbefore
      have hmem : some RootPlanningStage.repair ∈ (inferencesOf log run.id).map stageOf := by
        rw [hprevious]
        simp [requiredPrefixOf]
      obtain ⟨held, hheld, hrepair⟩ := List.mem_map.mp hmem
      exact ⟨hinitial, hadmitted.repair_of_mem hheld hrepair⟩
  have hreviewer : stored = reviewer :=
    hadmitted.inference_eq_of_stage hstored hrepair.reviewer_mem (hinitial.trans hrepair.stage.symm)
  have hgoes := hrepair.goes_on hadmitted hearlier (by rw [← hreviewer]; exact hdecides)
  rw [hgoes] at hends
  cases hends

end Order

section Closing

variable {attemptId : InferenceAttemptId}

/-- The events that close an attempt. -/
def closersOf (log : EventLog) (runId : RunId) (attemptId : InferenceAttemptId) : ℕ :=
  (eventsOf log runId).countP fun event => event.payload.isInferenceTerminalOf attemptId

theorem Appended.closes (h : Appended documents env log event admission log')
    (hadmitted : Admitted documents env log) (hown : event.runId = some runId)
    (hcloses : event.payload.isInferenceTerminalOf attemptId = true) :
    ∀ held ∈ eventsOf log runId, held.payload.isInferenceTerminalOf attemptId = false := by
  have hcreated : event.payload.createdRun = none := by
    cases hp : event.payload <;> simp_all [EventPayload.isInferenceTerminalOf,
      EventPayload.createdRun]
  obtain ⟨run, hrun, hsession⟩ := h.bound hcreated runId hown
  obtain rfl := storedRun_id hrun
  refine hadmitted.none_of_count hrun ?_
  have hgeneric := h.generic (by cases hp : event.payload <;> simp_all
    [EventPayload.isInferenceTerminalOf, EventPayload.createdSession]) hcreated
  simp only [validateGenericEvent, bind_eq_ok] at hgeneric
  obtain ⟨_, _, _, _, hkind⟩ := hgeneric
  cases hp : event.payload <;> simp only [hp, EventPayload.isInferenceTerminalOf,
    decide_eq_true_eq, Bool.false_eq_true] at hcloses hkind
  case plannerInferenceObserved observed =>
    simp only [validatePlannerInferenceObserved, bind_eq_ok, ensure_eq_ok, plannerRunId_eq_ok]
      at hkind
    obtain ⟨_, hown', _, _, _, _, _, ⟨_, _, _, _, hcount⟩, _⟩ := hkind
    obtain rfl := Option.some.inj (hown.symm.trans hown')
    rwa [inferenceTerminalCount, ← hsession, hcloses] at hcount
  case plannerInferenceOutcomeUnknown unknown =>
    simp only [validatePlannerInferenceUnknown, bind_eq_ok, ensure_eq_ok, plannerRunId_eq_ok]
      at hkind
    obtain ⟨_, hown', _, _, _, _, _, _, _, ⟨_, _, _, hcount⟩, _⟩ := hkind
    obtain rfl := Option.some.inj (hown.symm.trans hown')
    rwa [inferenceTerminalCount, ← hsession, hcloses] at hcount

/-- Each attempt is closed once at most. -/
theorem Admitted.closed_once (h : Admitted documents env log) (runId : RunId)
    (attemptId : InferenceAttemptId) : closersOf log runId attemptId ≤ 1 := by
  refine Lib.countP_le_one_of_pairwise (h.pairwise (List.prefix_refl _) ?_)
  intro log log' event admission hadmitted happended _ hown earlier hearlier hfirst
  by_contra hsecond
  have hnone := happended.closes hadmitted hown (by simpa using hsecond) earlier hearlier
  rw [hnone] at hfirst
  cases hfirst

theorem closersOf_pos (h : ∃ held ∈ eventsOf log runId,
    held.payload.isInferenceTerminalOf attemptId = true) : 0 < closersOf log runId attemptId :=
  List.countP_pos_iff.mpr h

theorem closersOf_mono {whole : EventLog} (h : log.events <+: whole.events) :
    closersOf log runId attemptId ≤ closersOf whole runId attemptId :=
  (eventsOf_kept h).sublist.countP_le

/-- An accepted plan was proposed by an attempt that was closed. -/
theorem Admitted.plan_closed (h : Admitted documents env log) {plan : StoredPlan}
    (hmem : plan ∈ plansOf log runId) :
    0 < closersOf log runId plan.accepted.inferenceAttemptId := by
  obtain ⟨hown, hpayload⟩ := mem_plansOf.mp hmem
  obtain ⟨hmem, hown⟩ := List.mem_filter.mp hown
  obtain ⟨before, after, admission, hbefore, happended, hafter⟩ := h.split hmem
  obtain ⟨run, stored, hplan⟩ := happended.plan hbefore hpayload
  obtain rfl := Option.some.inj (hplan.proposal.owner.symm.trans (of_decide_eq_true hown))
  exact Nat.lt_of_lt_of_le (closersOf_pos hplan.proposal.closed)
    (closersOf_mono (happended.kept.trans hafter))

/-- A review was decided of an attempt that was closed. -/
theorem Admitted.review_closed (h : Admitted documents env log) (hmem : event ∈ eventsOf log runId)
    {candidate : PlanCandidateBinding}
    (hdecides : event.payload.reviewDecision = some (attemptId, candidate)) :
    0 < closersOf log runId attemptId := by
  obtain ⟨before, after, run, stored, stage, rfl, _, hafter, hkept, hreview⟩ :=
    h.review_of_mem hmem hdecides
  refine Nat.lt_of_lt_of_le (closersOf_pos hreview.closed) (closersOf_mono ?_)
  refine List.IsPrefix.trans ?_ hkept
  rw [hafter]
  exact List.prefix_append ..

/-- Where a repair was authorized, the initial plan and its review are closed. -/
theorem RepairOf.closed {repair : PlannerStageContext} {trigger : EventEnvelope}
    {review : PlanSemanticReviewRejected} {reviewer : StoredInference}
    (h : RepairOf log runId repair trigger review reviewer) (hadmitted : Admitted documents env log)
    {stored : StoredInference} (hmem : stored ∈ inferencesOf log runId)
    (hstage : stageOf stored = some .initialPlan ∨ stageOf stored = some .initialReview) :
    0 < closersOf log runId stored.prepared.attemptId := by
  obtain ⟨stage, plan, attempt, producer, _, hproducer, hreview, _⟩ := h.initial hadmitted
  obtain hplan | hreviewed := hstage
  · have hsame : stored = attempt := by
      refine hadmitted.inference_eq_of_stage hmem hreview.attempt_mem (hplan.trans ?_)
      rw [stageOf, hreview.context, Option.map_some, hproducer]
    rw [hsame, ← hreview.proposed]
    exact hadmitted.plan_closed hreview.plan_mem
  · have hsame : stored = reviewer :=
      hadmitted.inference_eq_of_stage hmem h.reviewer_mem (hreviewed.trans h.stage.symm)
    rw [hsame]
    have hdecides : trigger.payload.reviewDecision = some (reviewer.prepared.attemptId, review.candidate) := by
      rw [h.payload, ← h.decided]
      rfl
    exact hadmitted.review_closed h.trigger_mem hdecides

/-- What is prepared follows attempts that were closed. -/
theorem InferenceAdmitted.follows {prepared : PlannerInferencePrepared}
    {stage : PlannerStageContext} (h : InferenceAdmitted log event prepared run stage)
    (hadmitted : Admitted documents env log) {stored : StoredInference}
    (hmem : stored ∈ inferencesOf log run.id) :
    0 < closersOf log run.id stored.prepared.attemptId := by
  have hprevious := h.previous
  have hstored : stageOf stored ∈ (requiredPrefixOf (stageKind stage)).map some := by
    rw [← hprevious]
    exact List.mem_map_of_mem hmem
  -- the stage that is reviewed is closed by the acceptance of its plan
  have hreviewed : ∀ producer, reviewedStage (stageKind stage) = some producer →
      stageOf stored = some producer → 0 < closersOf log run.id stored.prepared.attemptId := by
    intro producer hreviews hproducer
    obtain ⟨plan, attempt, context, hkind, hreview⟩ := h.reviews hadmitted hreviews
    have hsame : stored = attempt := by
      refine hadmitted.inference_eq_of_stage hmem hreview.attempt_mem (hproducer.trans ?_)
      rw [stageOf, hreview.context, Option.map_some, hkind]
    rw [hsame, ← hreview.proposed]
    exact hadmitted.plan_closed hreview.plan_mem
  cases hkind : stageKind stage <;> rw [hkind] at hstored hprevious hreviewed
  case initialPlan => simp [requiredPrefixOf] at hstored
  case initialReview =>
    refine hreviewed _ rfl ?_
    simpa [requiredPrefixOf] using hstored
  case repair =>
    obtain ⟨trigger, review, reviewer, hrepair⟩ := h.repairs hadmitted hkind
    refine hrepair.closed hadmitted hmem ?_
    simpa [requiredPrefixOf] using hstored
  case finalReview =>
    have hrepairs : some RootPlanningStage.repair ∈ (inferencesOf log run.id).map stageOf := by
      rw [hprevious]
      simp [requiredPrefixOf]
    obtain ⟨held, hheld, hstage⟩ := List.mem_map.mp hrepairs
    obtain ⟨repair, trigger, review, reviewer, hrepair⟩ := hadmitted.repair_of_mem hheld hstage
    simp only [requiredPrefixOf, List.map_cons, List.map_nil, List.mem_cons, List.not_mem_nil,
      or_false] at hstored
    obtain hplan | hinitial | hrepaired := hstored
    · exact hrepair.closed hadmitted hmem (.inl hplan)
    · exact hrepair.closed hadmitted hmem (.inr hinitial)
    · exact hreviewed _ rfl hrepaired

/-- Every inference that another one follows is closed, and closed once. -/
theorem Admitted.followed_closed (h : Admitted documents env log) (runId : RunId) :
    Stepwise (fun earlier _ => ∀ held ∈ earlier,
      closersOf log runId held.prepared.attemptId = 1) (inferencesOf log runId) := by
  refine (h.stepwise (List.prefix_refl _)).filterMap ?_
  intro before event stored hafter hread held hheld
  obtain ⟨log, later, admission, rfl, hadmitted, happended, hkept⟩ := hafter.append
  unfold inferenceOf at hread
  split at hread
  case isFalse => cases hread
  case isTrue hown =>
    obtain ⟨prepared, hprepared, rfl⟩ := Option.map_eq_some_iff.mp hread
    have hpayload : event.payload = .plannerInferencePrepared prepared := by
      cases hp : event.payload <;> simp_all [EventPayload.inferencePrepared]
    obtain ⟨run, stage, hinference⟩ := happended.inference hadmitted hpayload
    obtain rfl := Option.some.inj (hinference.owner.symm.trans hown)
    have hpos := Nat.lt_of_lt_of_le (hinference.follows hadmitted hheld)
      (closersOf_mono (happended.kept.trans hkept))
    have honce := h.closed_once run.id held.prepared.attemptId
    omega

end Closing

section Completion

/-- In an admitted log the latest event of a kind is the last of the run's own. -/
theorem Admitted.latest_eq (h : Admitted documents env log)
    (hrun : storedRun log run.id = some run) (kind : EventPayload → Bool) :
    latest log run.spec.sessionId run.id kind =
      ((eventsOf log run.id).filter fun event => kind event.payload).getLast? := by
  rw [h.eventsOf_eq hrun, latest, runEvents, List.filter_filter]
  congr 2
  funext event
  simp [Bool.and_comm, Bool.and_left_comm]

theorem plansOf_eq : plansOf log runId = (eventsOf log runId).filterMap (planOf runId) := by
  unfold plansOf eventsOf
  rw [List.filterMap_filter]
  refine List.filterMap_congr fun event _ => ?_
  by_cases hown : event.runId = some runId <;> simp [planOf, hown]

/-- A plan is known by its revision. -/
theorem Admitted.plan_eq (h : Admitted documents env log) {first second : StoredPlan}
    (hfirst : first ∈ plansOf log runId) (hsecond : second ∈ plansOf log runId)
    (hsame : first.accepted.acceptedPlanRevision = second.accepted.acceptedPlanRevision) :
    first = second := by
  have hnodup : ((plansOf log runId).map fun plan =>
      plan.accepted.acceptedPlanRevision.toNat).Nodup := by
    rw [plans_numbered (h.plan_steps runId)]
    exact List.nodup_range'
  exact List.inj_on_of_nodup_map hnodup hfirst hsecond (congrArg UInt64.toNat hsame)

/-- A review decides the current plan, and its reviewer is independent of the plan's producer. -/
theorem ReviewAdmitted.current_plan {attemptId : InferenceAttemptId}
    {candidate : PlanCandidateBinding} {stored : StoredInference} {stage : PlannerStageContext}
    (h : ReviewAdmitted log event attemptId candidate run stored stage)
    (hadmitted : Admitted documents env log) :
    ∃ plan attempt producer, (plansOf log run.id).getLast? = some plan ∧
      plan.candidate = candidate ∧ ReviewOf log run.id stage plan attempt producer := by
  obtain ⟨plan, hplan, rfl⟩ := h.plan
  obtain ⟨last, hlast, hbase⟩ := Option.map_eq_some_iff.mp h.current
  have hcurrent : last = plan :=
    hadmitted.plan_eq (List.mem_of_getLast? hlast) hplan (congrArg Prod.fst hbase)
  obtain ⟨before, _, stage', hid, hbefore, hkept, hinference⟩ :=
    hadmitted.inference_of_mem h.prepared.1
  obtain rfl := Option.some.inj (h.context.symm.trans hinference.context)
  obtain ⟨reviewed, hreviewed⟩ : ∃ reviewed, reviewedStage (stageKind stage) = some reviewed := by
    have hreviews := h.reviews.1
    cases stage <;> simp_all [isProducerStage, reviewedStage, stageKind]
  obtain ⟨other, attempt, producer, _, hreview⟩ := hinference.reviews hbefore hreviewed
  rw [hid] at hreview
  have hreview := hreview.kept hkept
  have hnames := Option.some.inj (hreview.candidate.symm.trans h.reviews.2)
  have hsame : other = plan :=
    hadmitted.plan_eq hreview.plan_mem hplan (congrArg PlanCandidateBinding.planRevision hnames)
  rw [hsame] at hreview
  exact ⟨plan, attempt, producer, by rw [hlast, hcurrent], rfl, hreview⟩

/-- The accepted review that completes a planning run: the last event but claims, of the current
plan and by a reviewer that is independent of the model that proposed it. -/
structure CompletedByReview (log : EventLog) (runId : RunId) (before : List EventEnvelope) :
    Prop where
  accepted : ∃ acceptance accepted plan reviewer review attempt producer,
    (before.filter fun held => !held.payload.isRunClaimed).getLast? = some acceptance ∧
    acceptance.payload = .planSemanticReviewAccepted accepted ∧
    (before.filterMap (planOf runId)).getLast? = some plan ∧ accepted.candidate = plan.candidate ∧
    reviewer ∈ inferencesOf log runId ∧
    reviewer.prepared.attemptId = accepted.inferenceAttemptId ∧
    reviewer.prepared.stageContext = some review ∧
    ReviewOf log runId review plan attempt producer

/-- What completes a run as its last event but claims. -/
theorem Appended.completed (h : Appended documents env log event admission log')
    (hadmitted : Admitted documents env log) (hrun : storedRun log run.id = some run)
    (hown : event.runId = some run.id) {state : RunState}
    (hpayload : event.payload = .runStateChanged state .completed) :
    ∃ latest, ((eventsOf log run.id).filter fun held => !held.payload.isRunClaimed).getLast? =
      some latest ∧ completesRun run latest.payload = true := by
  obtain ⟨_, hchange⟩ := h.stateChanged hpayload
  obtain rfl := Option.some.inj (hown.symm.trans hchange.owner)
  have hcause := hchange.cause (.inl rfl)
  simp only [validateTerminalCause, bind_eq_ok, ensure_eq_ok, latestNonClaimEvent, expect_eq_ok]
    at hcause
  obtain ⟨other, hother, latest, hlatest, _, hcompletes, _⟩ := hcause
  obtain ⟨hstored, hsession⟩ := durableRunForEvent_eq_ok.mp hother
  obtain rfl := Option.some.inj (hrun.symm.trans hstored)
  rw [← hsession, hadmitted.latest_eq hrun] at hlatest
  refine ⟨latest, hlatest, ?_⟩
  obtain ⟨_, hcompletes⟩ | ⟨hfailed, _⟩ := hcompletes
  · exact hcompletes
  · cases hfailed

theorem Appended.completed_by_review (h : Appended documents env log event admission log')
    (hadmitted : Admitted documents env log) (hrun : storedRun log run.id = some run)
    (hown : event.runId = some run.id) {state : RunState}
    (hpayload : event.payload = .runStateChanged state .completed)
    (hpurpose : run.spec.purpose = .planOnly) :
    CompletedByReview log run.id (eventsOf log run.id) := by
  obtain ⟨acceptance, hlatest, hcompletes⟩ := h.completed hadmitted hrun hown hpayload
  have hacceptance := planAcceptance_of_supports (hadmitted.run_contract hrun)
    (by rw [hpurpose]; rfl)
  obtain ⟨accepted, haccepted⟩ : ∃ accepted,
      acceptance.payload = .planSemanticReviewAccepted accepted := by
    unfold completesRun at hcompletes
    rw [hpurpose, hacceptance] at hcompletes
    cases hp : acceptance.payload <;> simp_all
  have hmem : acceptance ∈ eventsOf log run.id :=
    (List.mem_filter.mp (List.mem_of_getLast? hlatest)).1
  have hdecides : acceptance.payload.reviewDecision =
      some (accepted.inferenceAttemptId, accepted.candidate) := by
    rw [haccepted]
    rfl
  obtain ⟨before, after, other, reviewer, review, hid, hbefore, hafter, ⟨rest, hrest⟩, hreview⟩ :=
    hadmitted.review_of_mem hmem hdecides
  have hkept : before.events <+: log.events := by
    rw [← hrest, hafter, List.append_assoc]
    exact List.prefix_append ..
  obtain ⟨plan, attempt, producer, hplan, hnames, hof⟩ := hreview.current_plan hbefore
  rw [hid] at hplan hof
  -- behind the acceptance there are claims only, which leave the plans as they were
  have hevents : eventsOf log run.id = eventsOf before run.id ++ acceptance ::
      rest.filter fun held => held.runId = some run.id := by
    have hown := (List.mem_filter.mp hmem).2
    unfold eventsOf
    rw [← hrest, hafter, List.append_assoc, List.filter_append, List.singleton_append,
      List.filter_cons, if_pos hown]
  have hclaims : ∀ held ∈ rest.filter fun held => held.runId = some run.id,
      (!held.payload.isRunClaimed) = false := by
    rw [hevents] at hlatest
    refine Lib.not_selected_of_getLast ?_ hlatest
    rw [← hevents]
    exact (List.Nodup.of_map _ log.idsDistinct).filter _
  have hnone : (rest.filter fun held => held.runId = some run.id).filterMap (planOf run.id) = [] := by
    refine List.filterMap_eq_nil_iff.mpr fun held hheld => ?_
    have := hclaims held hheld
    cases hp : held.payload <;> simp_all [planOf, EventPayload.isRunClaimed,
      EventPayload.planAccepted]
  have hplans : (eventsOf log run.id).filterMap (planOf run.id) =
      (eventsOf before run.id).filterMap (planOf run.id) := by
    rw [hevents, List.filterMap_append, List.filterMap_cons_none, hnone, List.append_nil]
    simp [planOf, haccepted, EventPayload.planAccepted]
  refine ⟨acceptance, accepted, plan, reviewer, review, attempt, producer, hlatest, haccepted, ?_,
    hnames.symm, ?_, hreview.prepared.2, hreview.context, hof.kept hkept⟩
  · rw [hplans, ← plansOf_eq, hplan]
  · rw [← hid]
    exact (inferencesOf_kept hkept).subset hreview.prepared.1

end Completion

section Stages

/-- What an event of planning finds of the stages before it. -/
structure StageAdmitted (log : EventLog) (run : Run) (event : EventEnvelope) : Prop where
  repair : ∀ prepared stage, event.payload = .plannerInferencePrepared prepared →
    prepared.stageContext = some stage → stageKind stage = .repair →
      ∃ trigger review reviewer initial plan attempt producer,
        RepairOf log run.id stage trigger review reviewer ∧
        reviewer.prepared.stageContext = some initial ∧ stageKind producer = .initialPlan ∧
        ReviewOf log run.id initial plan attempt producer ∧ review.candidate = plan.candidate
  finalReview : ∀ prepared stage, event.payload = .plannerInferencePrepared prepared →
    prepared.stageContext = some stage → stageKind stage = .finalReview →
      ∃ plan attempt producer, stageKind producer = .repair ∧
        ReviewOf log run.id stage plan attempt producer
  completed : ∀ state, event.payload = .runStateChanged state .completed →
    (run.spec.purpose = .planOnly ∧ CompletedByReview log run.id (eventsOf log run.id)) ∨
      (run.isParallelRecon = true ∧ ∃ latest gate, ((eventsOf log run.id).filter fun held =>
        !held.payload.isRunClaimed).getLast? = some latest ∧
          latest.payload = .reconCompletionGateAccepted gate)

theorem Appended.stage (h : Appended documents env log event admission log')
    (hadmitted : Admitted documents env log)
    (hrun : event.payload.createdRun = none → storedRun log run.id = some run)
    (hown : event.runId = some run.id) : StageAdmitted log run event := by
  constructor
  · intro prepared stage hpayload hstage hkind
    obtain ⟨other, _, hinference⟩ := h.inference hadmitted hpayload
    obtain rfl := Option.some.inj (hinference.context.symm.trans hstage)
    have hid := Option.some.inj (hinference.owner.symm.trans hown)
    obtain ⟨trigger, review, reviewer, hrepair⟩ := hinference.repairs hadmitted hkind
    rw [hid] at hrepair
    obtain ⟨initial, plan, attempt, producer, hinitial⟩ := hrepair.initial hadmitted
    exact ⟨trigger, review, reviewer, initial, plan, attempt, producer, hrepair, hinitial⟩
  · intro prepared stage hpayload hstage hkind
    obtain ⟨other, _, hinference⟩ := h.inference hadmitted hpayload
    obtain rfl := Option.some.inj (hinference.context.symm.trans hstage)
    have hid := Option.some.inj (hinference.owner.symm.trans hown)
    rw [← hid]
    exact hinference.reviews hadmitted (by rw [hkind]; rfl)
  · intro state hpayload
    have hrun := hrun (by simp [hpayload, EventPayload.createdRun])
    obtain ⟨latest, hlatest, hcompletes⟩ := h.completed hadmitted hrun hown hpayload
    cases hpurpose : run.spec.purpose with
    | planOnly =>
      exact .inl ⟨rfl, h.completed_by_review hadmitted hrun hown hpayload hpurpose⟩
    | execute => simp [completesRun, hpurpose] at hcompletes
    | parallelRepositoryReconnaissanceV1 =>
      refine .inr ⟨by simp [Run.isParallelRecon, hpurpose], latest, ?_⟩
      unfold completesRun at hcompletes
      rw [hpurpose] at hcompletes
      cases hp : latest.payload <;> simp_all

/-- What a run's planning keeps to. -/
structure RootStages (log : EventLog) (run : Run) : Prop where
  stages : (inferencesOf log run.id).map stageOf <+: rootStages.map some
  steps : Stepwise (fun before event => ∃ held : EventLog, eventsOf held run.id = before ∧
    StageAdmitted held run event) (eventsOf log run.id)
  attempts : ((inferencesOf log run.id).map fun stored => stored.prepared.attemptId).Nodup
  once : ∀ attemptId, closersOf log run.id attemptId ≤ 1
  followed : Stepwise (fun earlier _ => ∀ stored ∈ earlier,
    closersOf log run.id stored.prepared.attemptId = 1) (inferencesOf log run.id)
  ended : (eventsOf log run.id).Pairwise fun earlier later =>
    earlier.payload.endsPlanning = true → later.payload.inferencePrepared = none

/-- In every admitted log the planning of a run only moves forward: its stages are prepared in
order, each closed once before the next, a repair only as a review authorized it, nothing after a
review ended the planning, and an accepted review of the current plan completes the run. -/
theorem rootStages_of_admitted (documents : PlanningDocuments) (env : Environment) (log : EventLog)
    (run : Run) (hadmitted : Admitted documents env log)
    (hrun : storedRun log run.id = some run) : RootStages log run := by
  have hsteps := hadmitted.inference_steps run.id
  refine ⟨stages_forward hsteps, ?_, hsteps.nodup fun _ _ hstep => hstep.fresh,
    hadmitted.closed_once run.id, hadmitted.followed_closed run.id,
    hadmitted.nothing_prepared run.id⟩
  refine (hadmitted.own_stepwise (List.prefix_refl _) run.id).imp ?_
  intro before event hafter
  obtain ⟨held, later, admission, hbefore, hheld, happended, hkept, hown⟩ := hafter.append
  refine ⟨held, hbefore, happended.stage hheld ?_ hown⟩
  intro hcreated
  obtain ⟨other, hother, _⟩ := happended.bound hcreated run.id hown
  obtain ⟨rest, hrest⟩ := happended.kept.trans hkept
  obtain rfl := Option.some.inj ((storedRun_append hrest.symm hother).symm.trans hrun)
  exact hother

theorem rootStages_of_planned : RootStages plannedLog plannedRun :=
  rootStages_of_admitted samplePlanningDocuments (plainEnvironment sampleWires) plannedLog
    plannedRun (.attempts .empty _) plannedLog_stored

end Stages

end BirdCode.Store
