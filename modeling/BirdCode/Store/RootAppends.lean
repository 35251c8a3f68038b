import BirdCode.Store.Fixtures
import BirdCode.Store.RunStates

/-! What each append of root planning finds of the run before it: the inferences of its stages, the
plans that were accepted and the decisions on both. -/
namespace BirdCode.Store

open Lib (Stepwise)

variable {documents : PlanningDocuments} {env : Environment} {log log' : EventLog} {run : Run}
  {event : EventEnvelope} {admission : EventAdmission} {runId : RunId} {sessionId : SessionId}

section Inferences

/-- The Prepared that an event makes of a run. -/
def inferenceOf (runId : RunId) (event : EventEnvelope) : Option StoredInference :=
  if event.runId = some runId then event.payload.inferencePrepared.map (StoredInference.mk event)
  else none

/-- The inferences a run prepared, in the order of the log. -/
def inferencesOf (log : EventLog) (runId : RunId) : List StoredInference :=
  log.events.filterMap (inferenceOf runId)

def stageOf (stored : StoredInference) : Option RootPlanningStage :=
  stored.prepared.stageContext.map stageKind

/-- The stages in their order. -/
def rootStages : List RootPlanningStage := [.initialPlan, .initialReview, .repair, .finalReview]

theorem mem_inferencesOf {stored : StoredInference} : stored ∈ inferencesOf log runId ↔
    stored.event ∈ eventsOf log runId ∧
      stored.event.payload = .plannerInferencePrepared stored.prepared := by
  simp only [inferencesOf, List.mem_filterMap, inferenceOf, eventsOf, List.mem_filter,
    decide_eq_true_eq]
  constructor
  · rintro ⟨event, hmem, hread⟩
    split at hread
    case isFalse => cases hread
    case isTrue hown =>
      obtain ⟨prepared, hprepared, rfl⟩ := Option.map_eq_some_iff.mp hread
      refine ⟨⟨hmem, hown⟩, ?_⟩
      cases hp : event.payload <;> simp_all [EventPayload.inferencePrepared]
  · rintro ⟨⟨hmem, hown⟩, hpayload⟩
    refine ⟨stored.event, hmem, ?_⟩
    simp [hown, hpayload, EventPayload.inferencePrepared]

theorem Admitted.preparedInferences_eq (h : Admitted documents env log)
    (hrun : storedRun log run.id = some run) :
    preparedInferences log run.spec.sessionId run.id = inferencesOf log run.id := by
  unfold preparedInferences inferencesOf
  rw [← h.eventsOf_eq hrun, eventsOf, List.filterMap_filter]
  refine List.filterMap_congr fun event _ => ?_
  simp [inferenceOf]

/-- The stored run is the one that was created. -/
theorem storedRun_created (hrun : storedRun log runId = some run) :
    ∃ event ∈ log.events, event.payload = .runCreated run := by
  have hmem := List.mem_of_find?_eq_some hrun
  obtain ⟨event, hevent, hcreated⟩ := List.mem_filterMap.mp hmem
  refine ⟨event, hevent, ?_⟩
  cases hp : event.payload <;> simp_all [EventPayload.createdRun]

/-- A run is created under one of the contracts that are still offered. -/
theorem Admitted.run_contract (h : Admitted documents env log)
    (hrun : storedRun log runId = some run) : newRunAcceptanceContractIsValid run = true := by
  obtain ⟨event, hmem, hpayload⟩ := storedRun_created hrun
  obtain ⟨before, after, admission, _, happended, _⟩ := h.split hmem
  have hkind := happended.kind
  simp only [validateEventKind, hpayload, ensure_eq_ok] at hkind
  exact hkind.2.2.2.1

theorem planAcceptance_of_supports (hcontract : newRunAcceptanceContractIsValid run = true)
    (hsupports : supportsRootPlanning run.spec.purpose = true) :
    run.spec.planAcceptance = .independentSemanticReviewV1 := by
  unfold newRunAcceptanceContractIsValid at hcontract
  cases hpurpose : run.spec.purpose <;> cases haccept : run.spec.planAcceptance <;>
    simp_all [supportsRootPlanning]

/-- What the append of an inference establishes. -/
structure InferenceAdmitted (log : EventLog) (event : EventEnvelope)
    (prepared : PlannerInferencePrepared) (run : Run) (stage : PlannerStageContext) : Prop where
  owner : event.runId = some run.id
  found : storedRun log run.id = some run
  session : event.sessionId = run.spec.sessionId
  fresh : ∀ held ∈ inferencesOf log run.id, held.prepared.attemptId ≠ prepared.attemptId
  base : requireCurrentPlanBase log run.spec.sessionId run.id prepared.planRevision
    prepared.planDigest true = .ok ()
  context : prepared.stageContext = some stage
  contract : run.spec.planAcceptance = .independentSemanticReviewV1
  previous : (inferencesOf log run.id).map stageOf = (requiredPrefixOf (stageKind stage)).map some
  rules : validateStage log event run.id prepared (inferencesOf log run.id) stage = .ok ()

theorem Appended.inference (h : Appended documents env log event admission log')
    (hadmitted : Admitted documents env log) {prepared : PlannerInferencePrepared}
    (hpayload : event.payload = .plannerInferencePrepared prepared) :
    ∃ run stage, InferenceAdmitted log event prepared run stage := by
  have hgeneric := h.generic (by simp [hpayload, EventPayload.createdSession])
    (by simp [hpayload, EventPayload.createdRun])
  simp only [validateGenericEvent, hpayload, validatePlannerInferencePrepared,
    validateInferenceIdentity, bind_eq_ok, ensure_eq_ok, plannerRunId_eq_ok] at hgeneric
  obtain ⟨_, _, _, _, runId, hown, _, _, _, _, _, _, _, _, run, hrun, _, hcontext, _, _, _,
    ⟨_, _, _, _, hfresh, _⟩, _, _, _, _, _, hbase, _, _, _, ⟨hsupports, _⟩, _⟩ := hgeneric
  obtain ⟨hstored, hsession⟩ := durableRunForEvent_eq_ok.mp hrun
  obtain rfl := storedRun_id hstored
  have haccept := planAcceptance_of_supports (hadmitted.run_contract hstored) hsupports
  have hinferences := hadmitted.preparedInferences_eq hstored
  rw [← hsession] at hbase
  simp only [validatePlannerStageContext, haccept, ← hsession, hinferences] at hcontext
  split at hcontext
  case h_1 heq _ => cases heq
  case h_3 => cases hcontext
  case h_2 stage _ hstage =>
    simp only [bind_eq_ok, ensure_eq_ok] at hcontext
    obtain ⟨_, ⟨_, hprevious⟩, _, _, hrules⟩ := hcontext
    refine ⟨run, stage, hown, hstored, hsession.symm, ?_, hbase, hstage, haccept, hprevious, hrules⟩
    intro held hheld hsame
    obtain ⟨hmem, hheldPayload⟩ := mem_inferencesOf.mp hheld
    have := not_carries_of_identityCount_eq_zero hfresh (List.mem_filter.mp hmem).1
    simp [hheldPayload, EventPayload.inferencePrepared, hsame] at this

/-- How an inference of a log was appended. -/
theorem Admitted.inference_of_mem (h : Admitted documents env log)
    {stored : StoredInference} (hmem : stored ∈ inferencesOf log runId) :
    ∃ before run stage, run.id = runId ∧ Admitted documents env before ∧
      before.events <+: log.events ∧
      InferenceAdmitted before stored.event stored.prepared run stage := by
  obtain ⟨hown, hpayload⟩ := mem_inferencesOf.mp hmem
  obtain ⟨hmem, hown⟩ := List.mem_filter.mp hown
  obtain ⟨before, after, admission, hbefore, happended, hafter⟩ := h.split hmem
  obtain ⟨run, stage, hinference⟩ := happended.inference hbefore hpayload
  obtain rfl := Option.some.inj (hinference.owner.symm.trans (of_decide_eq_true hown))
  exact ⟨before, run, stage, rfl, hbefore, happended.kept.trans hafter, hinference⟩

/-- An inference among the inferences of its run that came before it. -/
structure InferenceStep (earlier : List StoredInference) (stored : StoredInference) : Prop where
  fresh : ∀ held ∈ earlier, held.prepared.attemptId ≠ stored.prepared.attemptId
  stage : ∃ stage, stageOf stored = some stage ∧
    earlier.map stageOf = (requiredPrefixOf stage).map some

theorem Admitted.inference_steps (h : Admitted documents env log) (runId : RunId) :
    Stepwise InferenceStep (inferencesOf log runId) := by
  refine (h.stepwise (List.prefix_refl _)).filterMap ?_
  intro before event stored hafter hread
  obtain ⟨log, later, admission, rfl, hadmitted, happended, _⟩ := hafter.append
  unfold inferenceOf at hread
  split at hread
  case isFalse => cases hread
  case isTrue hown =>
    obtain ⟨prepared, hprepared, rfl⟩ := Option.map_eq_some_iff.mp hread
    have hpayload : event.payload = .plannerInferencePrepared prepared := by
      cases hp : event.payload <;> simp_all [EventPayload.inferencePrepared]
    obtain ⟨run, stage, hinference⟩ := happended.inference hadmitted hpayload
    obtain rfl := Option.some.inj (hinference.owner.symm.trans hown)
    exact ⟨hinference.fresh, stageKind stage, by simp [stageOf, hinference.context],
      hinference.previous⟩

/-- The stages of a run are prepared in their order, each once. -/
theorem stages_forward {inferences : List StoredInference}
    (h : Stepwise InferenceStep inferences) :
    inferences.map stageOf <+: rootStages.map some := by
  refine h.induct (P := fun inferences => inferences.map stageOf <+: rootStages.map some)
    (List.nil_prefix ..) ?_
  intro earlier stored _ hstep
  obtain ⟨stage, hstage, hprevious⟩ := hstep.stage
  rw [List.map_append, List.map_singleton, hstage, hprevious]
  cases stage <;> decide

end Inferences

section Plans

/-- An accepted plan as it was committed. -/
structure StoredPlan where
  event : EventEnvelope
  accepted : PlanProposalAccepted
  deriving DecidableEq

/-- The revision and the digest that a plan leaves current. -/
def StoredPlan.base (plan : StoredPlan) : UInt64 × Sha256Digest :=
  (plan.accepted.acceptedPlanRevision, plan.accepted.acceptedPlanDigest)

/-- The candidate that names a plan. -/
def StoredPlan.candidate (plan : StoredPlan) : PlanCandidateBinding where
  proposalEventId := plan.event.id
  planRevision := plan.accepted.acceptedPlanRevision
  planDigest := plan.accepted.acceptedPlanDigest
  planArtifact := plan.accepted.acceptedPlanArtifact

def planOf (runId : RunId) (event : EventEnvelope) : Option StoredPlan :=
  if event.runId = some runId then event.payload.planAccepted.map (StoredPlan.mk event) else none

/-- The accepted plans of a run, in the order of the log. -/
def plansOf (log : EventLog) (runId : RunId) : List StoredPlan :=
  log.events.filterMap (planOf runId)

theorem planAccepted_eq_some {payload : EventPayload} {accepted : PlanProposalAccepted} :
    payload.planAccepted = some accepted ↔ payload = .planProposalAccepted accepted := by
  cases payload <;> simp [EventPayload.planAccepted]

theorem planOf_eq_some {plan : StoredPlan} : planOf runId event = some plan ↔
    plan.event = event ∧ event.runId = some runId ∧
      event.payload = .planProposalAccepted plan.accepted := by
  unfold planOf
  split
  case isTrue hown =>
    rw [Option.map_eq_some_iff]
    constructor
    · rintro ⟨accepted, haccepted, rfl⟩
      exact ⟨rfl, hown, planAccepted_eq_some.mp haccepted⟩
    · rintro ⟨rfl, _, hpayload⟩
      exact ⟨plan.accepted, planAccepted_eq_some.mpr hpayload, rfl⟩
  case isFalse hown => simp [hown]

theorem mem_plansOf {plan : StoredPlan} : plan ∈ plansOf log runId ↔
    plan.event ∈ eventsOf log runId ∧
      plan.event.payload = .planProposalAccepted plan.accepted := by
  simp only [plansOf, List.mem_filterMap, planOf_eq_some, eventsOf, List.mem_filter,
    decide_eq_true_eq]
  constructor
  · rintro ⟨event, hmem, rfl, hown, hpayload⟩
    exact ⟨⟨hmem, hown⟩, hpayload⟩
  · rintro ⟨⟨hmem, hown⟩, hpayload⟩
    exact ⟨plan.event, hmem, rfl, hown, hpayload⟩

/-- The current base is the one that the last accepted plan leaves. -/
theorem Admitted.currentPlanBase_eq (h : Admitted documents env log)
    (hrun : storedRun log run.id = some run) :
    currentPlanBase log run.spec.sessionId run.id =
      (plansOf log run.id).getLast?.map StoredPlan.base := by
  have hplans : (plansOf log run.id).map StoredPlan.accepted =
      (log.events.filter fun event => event.sessionId = run.spec.sessionId ∧
        event.runId = some run.id ∧ event.payload.planAccepted.isSome = true).filterMap
          fun event => event.payload.planAccepted := by
    unfold plansOf
    rw [List.map_filterMap, List.filterMap_filter]
    refine List.filterMap_congr fun event hevent => ?_
    by_cases hown : event.runId = some run.id
    · obtain ⟨other, hother, hsession⟩ := h.run_stored hevent hown
      obtain rfl := Option.some.inj (hother.symm.trans hrun)
      cases haccepted : event.payload.planAccepted <;>
        simp [planOf, hown, hsession, haccepted]
    · simp [planOf, hown]
  have hlast : latestPlanAccepted log run.spec.sessionId run.id =
      (plansOf log run.id).getLast?.map StoredPlan.accepted := by
    rw [← List.getLast?_map, hplans]
    unfold latestPlanAccepted latest
    generalize hkept : (log.events.filter fun event => event.sessionId = run.spec.sessionId ∧
      event.runId = some run.id ∧ event.payload.planAccepted.isSome = true) = kept
    have hall : ∀ event ∈ kept, event.payload.planAccepted.isSome = true := by
      intro event hevent
      rw [← hkept] at hevent
      exact (of_decide_eq_true (List.mem_filter.mp hevent).2).2.2
    induction kept using List.reverseRecOn with
    | nil => rfl
    | append_singleton rest last _ =>
      obtain ⟨accepted, haccepted⟩ := Option.isSome_iff_exists.mp
        (hall last (List.mem_append_right _ (List.mem_singleton.mpr rfl)))
      simp [haccepted]
  unfold currentPlanBase
  rw [hlast, Option.map_map]
  rfl

end Plans

section Decisions

theorem Admitted.preparedInferenceForAttempt_eq_ok (h : Admitted documents env log)
    (hrun : storedRun log run.id = some run) {attemptId : InferenceAttemptId}
    {stored : StoredInference} (hattempt : preparedInferenceForAttempt log run.spec.sessionId run.id
      attemptId = .ok stored) :
    stored ∈ inferencesOf log run.id ∧ stored.prepared.attemptId = attemptId := by
  unfold preparedInferenceForAttempt at hattempt
  rw [expect_eq_ok, h.preparedInferences_eq hrun] at hattempt
  have hfound := List.find?_some hattempt
  exact ⟨List.mem_of_find?_eq_some hattempt, of_decide_eq_true hfound⟩

/-- No event of a run was selected by a count of zero. -/
theorem Admitted.none_of_count (h : Admitted documents env log)
    (hrun : storedRun log run.id = some run) {p : EventPayload → Bool}
    (hcount : ((runEvents log run.spec.sessionId run.id).countP fun stored => p stored.payload) = 0) :
    ∀ held ∈ eventsOf log run.id, p held.payload = false := by
  intro held hheld
  rw [h.eventsOf_eq hrun] at hheld
  have := List.countP_eq_zero.mp hcount held hheld
  simpa using this

/-- A decision follows the Observed of its attempt. -/
theorem successfulObservedForDecision_closed {observedEventId : EventId}
    {attemptId : InferenceAttemptId} {observedEvent : EventEnvelope}
    (h : successfulObservedForDecision log event runId observedEventId attemptId =
      .ok observedEvent) :
    ∃ held ∈ eventsOf log runId, held.payload.isInferenceTerminalOf attemptId = true := by
  simp only [successfulObservedForDecision, bind_eq_ok, expect_eq_ok, ensure_eq_ok] at h
  obtain ⟨held, hheld, observed, hobserved, _, _, _, ⟨_, hattempt, _⟩, _⟩ := h
  obtain ⟨hmem, _, hown, _⟩ := storedEventForRun_mem hheld
  refine ⟨held, List.mem_filter.mpr ⟨hmem, by simp [hown]⟩, ?_⟩
  cases hp : held.payload <;> simp_all [EventPayload.inferenceObserved,
    EventPayload.isInferenceTerminalOf]

/-- What both decisions on a plan proposal establish. -/
structure ProposalAdmitted (log : EventLog) (event : EventEnvelope) (attemptId : InferenceAttemptId)
    (run : Run) (stored : StoredInference) : Prop where
  owner : event.runId = some run.id
  found : storedRun log run.id = some run
  session : event.sessionId = run.spec.sessionId
  prepared : stored ∈ inferencesOf log run.id ∧ stored.prepared.attemptId = attemptId
  producer : ∀ stage, stored.prepared.stageContext = some stage → isProducerStage stage = true
  undecided : ∀ held ∈ eventsOf log run.id, held.payload.isPlanDecisionOf attemptId = false
  closed : ∃ held ∈ eventsOf log run.id, held.payload.isInferenceTerminalOf attemptId = true

/-- The base that a decision compares the base of the attempt with. -/
def comparedBase (log : EventLog) (runId : RunId) (prepared : PlannerInferencePrepared) :
    UInt64 × Sha256Digest :=
  ((plansOf log runId).getLast?.map StoredPlan.base).getD (0, prepared.planDigest)

/-- The base an attempt was prepared on. -/
def PlannerInferencePrepared.base (prepared : PlannerInferencePrepared) : UInt64 × Sha256Digest :=
  (prepared.planRevision, prepared.planDigest)

theorem Appended.proposal (h : Appended documents env log event admission log')
    (hadmitted : Admitted documents env log) {observedEventId : EventId}
    {attemptId : InferenceAttemptId} {decided : DecidedProposal}
    (hown : event.runId = some runId) (hcreated : event.payload.createdRun = none)
    (hdecided : proposalForDecision log event runId observedEventId attemptId = .ok decided)
    (hcount : planDecisionCount log event runId attemptId = 0) :
    ∃ run stored, run.id = runId ∧ ProposalAdmitted log event attemptId run stored ∧
      decided.prepared = stored.prepared ∧
      planBaseOr log event runId decided.prepared = comparedBase log runId stored.prepared := by
  obtain ⟨run, hrun, hsession⟩ := h.bound hcreated runId hown
  obtain rfl := storedRun_id hrun
  simp only [proposalForDecision, bind_eq_ok, ensure_eq_ok, ← hsession] at hdecided
  obtain ⟨_, _, _, hobserved, stored, hattempt, _, hproducer, _, _, heq⟩ := hdecided
  cases heq
  simp only [planDecisionCount, ← hsession] at hcount
  refine ⟨run, stored, rfl, ⟨hown, hrun, hsession.symm,
    hadmitted.preparedInferenceForAttempt_eq_ok hrun hattempt, ?_,
    hadmitted.none_of_count hrun hcount, successfulObservedForDecision_closed hobserved⟩, rfl, ?_⟩
  · intro stage hstage
    rwa [hstage, Option.all_some] at hproducer
  · unfold planBaseOr comparedBase
    rw [← hsession, hadmitted.currentPlanBase_eq hrun]

/-- What the append of an accepted plan establishes. -/
structure PlanAdmitted (log : EventLog) (event : EventEnvelope) (accepted : PlanProposalAccepted)
    (run : Run) (stored : StoredInference) : Prop where
  proposal : ProposalAdmitted log event accepted.inferenceAttemptId run stored
  previous : (accepted.previousPlanRevision, accepted.previousPlanDigest) = stored.prepared.base
  current : comparedBase log run.id stored.prepared = stored.prepared.base
  next : accepted.acceptedPlanRevision.toNat = accepted.previousPlanRevision.toNat + 1

theorem Appended.plan (h : Appended documents env log event admission log')
    (hadmitted : Admitted documents env log) {accepted : PlanProposalAccepted}
    (hpayload : event.payload = .planProposalAccepted accepted) :
    ∃ run stored, PlanAdmitted log event accepted run stored := by
  have hcreated : event.payload.createdRun = none := by simp [hpayload, EventPayload.createdRun]
  have hgeneric := h.generic (by simp [hpayload, EventPayload.createdSession]) hcreated
  simp only [validateGenericEvent, hpayload, validatePlanProposalAccepted, bind_eq_ok,
    ensure_eq_ok, expect_eq_ok, plannerRunId_eq_ok] at hgeneric
  obtain ⟨_, _, _, _, runId, hown, decided, hdecided, revision, hrevision, _,
    ⟨hprevious, hdigest, hbase, haccepted, _, hcount, _⟩, _⟩ := hgeneric
  obtain ⟨run, stored, rfl, hproposal, hprepared, hcompared⟩ :=
    h.proposal hadmitted hown hcreated hdecided hcount
  rw [hprepared] at hprevious hdigest
  refine ⟨run, stored, hproposal, ?_, ?_, ?_⟩
  · rw [hprevious, hdigest, PlannerInferencePrepared.base]
  · rw [← hcompared, hbase, hprevious, hdigest, PlannerInferencePrepared.base]
  · rw [haccepted, checkedAdd_eq_some hrevision]
    rfl

/-- What the append of a rejected plan establishes. -/
structure PlanRejectionAdmitted (log : EventLog) (event : EventEnvelope)
    (rejected : PlanProposalRejected) (run : Run) (stored : StoredInference) : Prop where
  proposal : ProposalAdmitted log event rejected.inferenceAttemptId run stored
  reason : reasonMatchesCas rejected.reason (comparedBase log run.id stored.prepared)
    stored.prepared.base = true
  class_of : ∃ rejection, rejected.reason = rootPlannerRejectionReason rejection

theorem Appended.plan_rejection (h : Appended documents env log event admission log')
    (hadmitted : Admitted documents env log) {rejected : PlanProposalRejected}
    (hpayload : event.payload = .planProposalRejected rejected) :
    ∃ run stored, PlanRejectionAdmitted log event rejected run stored := by
  have hcreated : event.payload.createdRun = none := by simp [hpayload, EventPayload.createdRun]
  have hgeneric := h.generic (by simp [hpayload, EventPayload.createdSession]) hcreated
  simp only [validateGenericEvent, hpayload, validatePlanProposalRejected, bind_eq_ok,
    ensure_eq_ok, plannerRunId_eq_ok] at hgeneric
  obtain ⟨_, _, _, _, runId, hown, decided, hdecided, _, ⟨hrevision, hdigest, hcount, _⟩, _,
    hreason, other, hother, hsemantic⟩ := hgeneric
  obtain ⟨run, stored, rfl, hproposal, hprepared, hcompared⟩ :=
    h.proposal hadmitted hown hcreated hdecided hcount
  rw [hcompared, hrevision, hdigest, hprepared] at hreason
  refine ⟨run, stored, hproposal, hreason, ?_⟩
  obtain ⟨hstored, _⟩ := durableRunForEvent_eq_ok.mp hother
  obtain rfl := Option.some.inj (hproposal.found.symm.trans hstored)
  have hcontract : run.spec.planAcceptance = .independentSemanticReviewV1 := by
    obtain ⟨before, other, stage, hid, _, hkept, hinference⟩ :=
      hadmitted.inference_of_mem hproposal.prepared.1
    obtain ⟨rest, hrest⟩ := hkept
    have hsame := storedRun_append hrest.symm (hid ▸ hinference.found)
    rw [← Option.some.inj (hsame.symm.trans hstored)]
    exact hinference.contract
  rw [hcontract] at hsemantic
  simp only [whenever_eq_ok, bind_eq_ok, ensure_eq_ok, true_implies] at hsemantic
  obtain ⟨_, _, rejection, _, hclass⟩ := hsemantic
  exact ⟨rejection, hclass⟩

end Decisions

section Reviews

/-- The attempt and the candidate that a decision on a review decides. -/
def EventPayload.reviewDecision : EventPayload → Option (InferenceAttemptId × PlanCandidateBinding)
  | .planSemanticReviewAccepted accepted => some (accepted.inferenceAttemptId, accepted.candidate)
  | .planSemanticReviewRejected rejected => some (rejected.inferenceAttemptId, rejected.candidate)
  | _ => none

/-- What both decisions on a review establish. -/
structure ReviewAdmitted (log : EventLog) (event : EventEnvelope) (attemptId : InferenceAttemptId)
    (candidate : PlanCandidateBinding) (run : Run) (stored : StoredInference)
    (stage : PlannerStageContext) : Prop where
  owner : event.runId = some run.id
  found : storedRun log run.id = some run
  session : event.sessionId = run.spec.sessionId
  prepared : stored ∈ inferencesOf log run.id ∧ stored.prepared.attemptId = attemptId
  context : stored.prepared.stageContext = some stage
  reviews : isProducerStage stage = false ∧ stageCandidate stage = some candidate
  undecided : ∀ held ∈ eventsOf log run.id, held.payload.isReviewDecisionOf attemptId = false
  closed : ∃ held ∈ eventsOf log run.id, held.payload.isInferenceTerminalOf attemptId = true
  plan : ∃ plan ∈ plansOf log run.id, plan.candidate = candidate
  current : (plansOf log run.id).getLast?.map StoredPlan.base =
    some (candidate.planRevision, candidate.planDigest)

theorem validateCandidateBinding_plan (hown : run.id = runId) {candidate : PlanCandidateBinding}
    {accepted : PlanProposalAccepted}
    (h : validateCandidateBinding log sessionId runId candidate = .ok accepted) :
    ∃ plan ∈ plansOf log run.id, plan.candidate = candidate ∧ plan.accepted = accepted := by
  subst hown
  simp only [validateCandidateBinding, bind_eq_ok, expect_eq_ok, ensure_eq_ok] at h
  obtain ⟨proposalEvent, hproposal, read, hread, _, ⟨hrevision, hdigest, hartifact⟩, heq⟩ := h
  cases heq
  obtain ⟨hmem, hid, hrun, _⟩ := storedEventForRun_mem hproposal
  refine ⟨⟨proposalEvent, accepted⟩, mem_plansOf.mpr ⟨List.mem_filter.mpr ⟨hmem, by simp [hrun]⟩,
    planAccepted_eq_some.mp hread⟩, ?_, rfl⟩
  obtain ⟨eventId, revision, digest, artifact⟩ := candidate
  simp only [StoredPlan.candidate, PlanCandidateBinding.mk.injEq]
  exact ⟨hid, hrevision, hdigest, hartifact⟩

theorem Appended.review_common (h : Appended documents env log event admission log')
    (hadmitted : Admitted documents env log) (hcreated : event.payload.createdRun = none)
    {attemptId : InferenceAttemptId} {observedEventId : EventId}
    {candidate : PlanCandidateBinding} {critique validation : ArtifactRef}
    {result : PlannerStageContext × PlanSemanticReviewValidationReceipt}
    (hcommon : validateSemanticReviewCommon documents log event attemptId observedEventId candidate
      critique validation = .ok result) :
    ∃ run stored, ReviewAdmitted log event attemptId candidate run stored result.1 := by
  simp only [validateSemanticReviewCommon, bind_eq_ok, ensure_eq_ok, expect_eq_ok,
    plannerRunId_eq_ok] at hcommon
  obtain ⟨runId, hown, hcommon⟩ := hcommon
  obtain ⟨run, hrun, hsession⟩ := h.bound hcreated runId hown
  obtain rfl := storedRun_id hrun
  rw [← hsession] at hcommon
  obtain ⟨_, _, _, hobserved, stored, hattempt, stage, hstage, _,
    ⟨hreviews, hcandidate, _, _, hcount⟩,
    accepted, hbinding, _, _, _, _, _, hbase, _, _, _, _, _, _, heq⟩ := hcommon
  cases heq
  obtain ⟨plan, hplan, hnames, _⟩ := validateCandidateBinding_plan rfl hbinding
  rw [hadmitted.currentPlanBase_eq hrun] at hbase
  simp only [semanticReviewDecisionCount, ← hsession] at hcount
  exact ⟨run, stored, hown, hrun, hsession.symm,
    hadmitted.preparedInferenceForAttempt_eq_ok hrun hattempt, hstage, ⟨hreviews, hcandidate⟩,
    hadmitted.none_of_count hrun hcount, successfulObservedForDecision_closed hobserved,
    ⟨plan, hplan, hnames⟩, hbase⟩

theorem Appended.review (h : Appended documents env log event admission log')
    (hadmitted : Admitted documents env log) {attemptId : InferenceAttemptId}
    {candidate : PlanCandidateBinding}
    (hdecides : event.payload.reviewDecision = some (attemptId, candidate)) :
    ∃ run stored stage, ReviewAdmitted log event attemptId candidate run stored stage := by
  have hcreated : event.payload.createdRun = none := by
    cases hp : event.payload <;> simp_all [EventPayload.reviewDecision, EventPayload.createdRun]
  have hgeneric := h.generic (by cases hp : event.payload <;> simp_all
    [EventPayload.reviewDecision, EventPayload.createdSession]) hcreated
  simp only [validateGenericEvent, bind_eq_ok] at hgeneric
  obtain ⟨_, _, _, _, hkind⟩ := hgeneric
  cases hp : event.payload <;> simp only [hp, EventPayload.reviewDecision, reduceCtorEq,
    Option.some.injEq, Prod.mk.injEq] at hdecides hkind
  case planSemanticReviewAccepted accepted =>
    obtain ⟨rfl, rfl⟩ := hdecides
    simp only [validatePlanSemanticReviewAccepted, bind_eq_ok] at hkind
    obtain ⟨result, hcommon, _⟩ := hkind
    obtain ⟨run, stored, hreview⟩ := h.review_common hadmitted hcreated hcommon
    exact ⟨run, stored, result.1, hreview⟩
  case planSemanticReviewRejected rejected =>
    obtain ⟨rfl, rfl⟩ := hdecides
    simp only [validatePlanSemanticReviewRejected, bind_eq_ok] at hkind
    obtain ⟨result, hcommon, _⟩ := hkind
    obtain ⟨run, stored, hreview⟩ := h.review_common hadmitted hcreated hcommon
    exact ⟨run, stored, result.1, hreview⟩

end Reviews

section Chain

/-- A plan among the plans of its run that were accepted before it. -/
structure PlanStep (earlier : List StoredPlan) (plan : StoredPlan) : Prop where
  base : (plan.accepted.previousPlanRevision, plan.accepted.previousPlanDigest) =
    (earlier.getLast?.map StoredPlan.base).getD (0, plan.accepted.previousPlanDigest)
  next : plan.accepted.acceptedPlanRevision.toNat = plan.accepted.previousPlanRevision.toNat + 1

theorem Admitted.plan_steps (h : Admitted documents env log) (runId : RunId) :
    Stepwise PlanStep (plansOf log runId) := by
  refine (h.stepwise (List.prefix_refl _)).filterMap ?_
  intro before event plan hafter hread
  obtain ⟨log, later, admission, rfl, hadmitted, happended, _⟩ := hafter.append
  obtain ⟨_, hown, hpayload⟩ := planOf_eq_some.mp hread
  obtain ⟨run, stored, hplan⟩ := happended.plan hadmitted hpayload
  obtain rfl := Option.some.inj (hplan.proposal.owner.symm.trans hown)
  refine ⟨?_, hplan.next⟩
  have hdigest : stored.prepared.planDigest = plan.accepted.previousPlanDigest :=
    (congrArg Prod.snd hplan.previous).symm
  rw [hplan.previous, ← hplan.current, comparedBase, hdigest]
  rfl

/-- The accepted revisions are 1, 2, 3 and so on. -/
theorem plans_numbered {plans : List StoredPlan} (h : Stepwise PlanStep plans) :
    plans.map (fun plan => plan.accepted.acceptedPlanRevision.toNat) =
      List.range' 1 plans.length := by
  refine h.numbered ?_
  intro earlier plan hstep
  have hrevision := congrArg (fun base => base.1.toNat) hstep.base
  simp only at hrevision
  rw [hstep.next, hrevision]
  cases earlier.getLast? <;> rfl

end Chain

end BirdCode.Store
