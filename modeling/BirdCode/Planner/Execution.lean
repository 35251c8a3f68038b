import BirdCode.Planner.Interleaving

/-! The execution of one planner attempt over a journal that other executors may share. -/
namespace BirdCode.Planner

open Std Lib

variable {T : PromptTypes}

structure PlannerExecutionRequest (T : PromptTypes) where
  executionId : PlannerExecutionId
  attemptId : PlannerAttemptId
  parentAttemptId : Option PlannerAttemptId
  budgetReservationId : BudgetReservationId
  promptBundle : PreparedPlannerReplannerRequest T
  basePlan : PlanSnapshot
  obligations : ProtectedObligationCatalog
  context : PlannerContextCatalog
  policy : PlannerPolicy

inductive PlannerExecutionStatus
  | accepted (result : ValidatedPlannerTurn)
  | rejected (rejection : PlannerRejection)
  deriving DecidableEq

structure PlannerExecution (T : PromptTypes) where
  prepared : PlannerAttemptPrepared T
  observed : PlannerAttemptObserved T
  status : PlannerExecutionStatus

inductive PlannerExecutionError
  | inferencePolicy (message : String)
  | backendPolicyMismatch
  | setup (violations : List PlannerViolation)
  | promptBoundary (message : String)
  | preparationUnacknowledged (message : String)
  | observationUnacknowledged (attemptId : PlannerAttemptId) (message : String)
  | decisionUnacknowledged (attemptId : PlannerAttemptId) (message : String)
  deriving DecidableEq

structure ModelBackend (T : PromptTypes) where
  backendId : BackendId
  instanceIdentity : BackendInstanceIdentity
  inferStructured : StructuredInferenceRequest T →
    Except (BackendError T) (StructuredInferenceResponse T)

section Execute

variable (boundary : JournalBoundary T) (inferencePolicy : PlannerReplannerInferencePolicy)
  (backend : ModelBackend T) (request : PlannerExecutionRequest T)

/-- The preparation that `execute` asks the journal to retain. -/
def preparation : PlannerAttemptPrepared T where
  executionId := request.executionId
  attemptId := request.attemptId
  parentAttemptId := request.parentAttemptId
  budgetReservationId := request.budgetReservationId
  backendId := inferencePolicy.backendId
  backendInstance := inferencePolicy.backendInstance
  modelId := inferencePolicy.modelId
  maxOutputTokens := inferencePolicy.maxOutputTokens
  basePlanSha256 := boundary.encoding.plan request.basePlan
  obligationSnapshotSha256 := request.obligations.snapshotSha256
  acceptancePolicySha256 := request.obligations.acceptancePolicySha256
  contextManifestSha256 := request.context.manifestSha256
  plannerPolicySha256 := request.policy.policySha256
  inferencePolicySha256 := inferencePolicy.policySha256
  inferencePolicy := inferencePolicy
  promptBundleSha256 := boundary.promptBundle request.promptBundle
  promptBundle := request.promptBundle
  basePlan := request.basePlan
  obligations := request.obligations
  context := request.context
  policy := request.policy

/-- The checks before the preparation. -/
def prepare : Except PlannerExecutionError (PlannerAttemptPrepared T) := do
  (inferencePolicy.validateIntegrity boundary.toPlannerBoundary).mapError .inferencePolicy
  let setupViolations := plannerSetupViolations boundary.encoding request.basePlan
    request.obligations request.context request.policy
  ensure (setupViolations.isEmpty = true) (.setup setupViolations)
  (request.promptBundle.validateAgainst boundary.toPlannerBoundary request.basePlan
    request.obligations request.context request.policy inferencePolicy).mapError .promptBoundary
  ensure (backend.backendId = inferencePolicy.backendId ∧
      backend.instanceIdentity = inferencePolicy.backendInstance ∧
      (backend.instanceIdentity.validateIntegrity boundary.toPlannerBoundary).isOk = true)
    .backendPolicyMismatch
  return preparation boundary inferencePolicy request

/-- The backend's answer as it is observed. -/
def observation : PlannerInferenceObservation T :=
  match backend.inferStructured request.promptBundle.inference with
  | .ok response => .response response
  | .error error => .error error

def observedRecord (prepared : PlannerAttemptPrepared T) : PlannerAttemptObserved T where
  executionId := request.executionId
  attemptId := request.attemptId
  preparedSha256 := boundary.prepared prepared
  observation := observation backend request

/-- The decision of the live path, from the request and the backend's answer. -/
def liveDecision (prepared : PlannerAttemptPrepared T) (observed : PlannerAttemptObserved T) :
    Except PlannerRejection (PlannerTurnProposal × ValidatedPlannerTurn) :=
  match observed.observation with
  | .error error =>
    .error (backendRejection
      (plannerBackendErrorViolations boundary.toPlannerBoundary error prepared.backendInstance))
  | .response response => do
    let responseViolations := plannerResponseViolations boundary.toPlannerBoundary response
      prepared.modelId prepared.backendId prepared.backendInstance prepared.maxOutputTokens
    ensure (responseViolations.isEmpty = true) (.responseContract responseViolations)
    (decodeAndApplyPlannerReplannerOutput boundary.toPlannerBoundary request.basePlan
      request.obligations request.context request.policy inferencePolicy request.promptBundle
      response.value).mapError plannerPromptRejection

/-- The decision as it is recorded and as it is returned. -/
def decisionRecord (observed : PlannerAttemptObserved T) :
    Except PlannerRejection (PlannerTurnProposal × ValidatedPlannerTurn) →
      PlannerJournalRecord T × PlannerExecutionStatus
  | .ok (proposal, result) =>
    (.accepted ⟨request.executionId, request.attemptId, boundary.observed observed,
      boundary.proposal proposal, result⟩, .accepted result)
  | .error rejection =>
    (.rejected ⟨request.executionId, request.attemptId, boundary.observed observed, rejection⟩,
      .rejected rejection)

/-- The records that others ask the journal to retain, whatever its answers. -/
def retainAll (journal : InMemoryPlannerJournal T) (records : List (PlannerJournalRecord T)) :
    InMemoryPlannerJournal T :=
  records.foldl (fun journal record => (journal.retain boundary inferencePolicy record).2) journal

/-- `PlannerExecutor::execute`, with what others append before the observation and before the
decision. -/
def executeAttempt (journal : InMemoryPlannerJournal T)
    (beforeObservation beforeDecision : List (PlannerJournalRecord T)) :
    Except PlannerExecutionError (PlannerExecution T) × InMemoryPlannerJournal T :=
  match prepare boundary inferencePolicy backend request with
  | .error error => (.error error, journal)
  | .ok prepared =>
    match journal.retain boundary inferencePolicy (.prepared prepared) with
    | (.error error, journal) => (.error (.preparationUnacknowledged error.message), journal)
    | (.ok (), journal) =>
      let observed := observedRecord boundary backend request prepared
      match (retainAll boundary inferencePolicy journal beforeObservation).retain boundary
          inferencePolicy (.observed observed) with
      | (.error error, journal) =>
        (.error (.observationUnacknowledged request.attemptId error.message), journal)
      | (.ok (), journal) =>
        let decision := decisionRecord boundary request observed
          (liveDecision boundary inferencePolicy request prepared observed)
        match (retainAll boundary inferencePolicy journal beforeDecision).retain boundary
            inferencePolicy decision.1 with
        | (.error error, journal) =>
          (.error (.decisionUnacknowledged request.attemptId error.message), journal)
        | (.ok (), journal) => (.ok ⟨prepared, observed, decision.2⟩, journal)

end Execute

section Agreement

variable {boundary : JournalBoundary T} {inferencePolicy : PlannerReplannerInferencePolicy}
  {backend : ModelBackend T} {request : PlannerExecutionRequest T}
  {prepared : PlannerAttemptPrepared T} {observed : PlannerAttemptObserved T}
  {journal next : InMemoryPlannerJournal T} {record : PlannerJournalRecord T}
  {records others : List (PlannerJournalRecord T)} {projection : PlannerJournalProjection T}
  {attempt : PlannerAttemptProjection T}

/-- The decision that a status reports, as replay names it. -/
def replayedDecision (boundary : JournalBoundary T) :
    Except PlannerRejection (PlannerTurnProposal × ValidatedPlannerTurn) → ReplayedPlannerDecision
  | .ok (proposal, result) => .accepted (boundary.proposal proposal) result
  | .error rejection => .rejected rejection

/-- The live path reads the request where replay reads the preparation. -/
theorem replayPlannerDecision_eq (observed : PlannerAttemptObserved T) :
    replayPlannerDecision boundary inferencePolicy (preparation boundary inferencePolicy request)
      observed = replayedDecision boundary (liveDecision boundary inferencePolicy request
        (preparation boundary inferencePolicy request) observed) := by
  unfold replayPlannerDecision liveDecision
  cases observed.observation with
  | error error => rfl
  | response response =>
    simp only [preparation]
    by_cases hempty : (plannerResponseViolations boundary.toPlannerBoundary response
        inferencePolicy.modelId inferencePolicy.backendId inferencePolicy.backendInstance
        inferencePolicy.maxOutputTokens).isEmpty = true
    · simp only [hempty, Bool.not_true, Bool.false_eq_true, if_false, ensure, if_true]
      generalize decodeAndApplyPlannerReplannerOutput boundary.toPlannerBoundary request.basePlan
        request.obligations request.context request.policy inferencePolicy request.promptBundle
        response.value = decoded
      rcases decoded with error | ⟨proposal, result⟩ <;> rfl
    · simp only [hempty, Bool.not_false, if_true, ensure, if_false, Bool.false_eq_true]
      rfl

theorem prepare_eq_ok (h : prepare boundary inferencePolicy backend request = .ok prepared) :
    prepared = preparation boundary inferencePolicy request := by
  simp only [prepare, bind_eq_ok] at h
  obtain ⟨_, -, _, -, _, -, _, -, h⟩ := h
  exact (Except.ok.inj h).symm

theorem retain_eq_ok : journal.retain boundary inferencePolicy record = (.ok (), next) ↔
    (∃ projection, replay boundary inferencePolicy (journal.records ++ [record]) =
      .ok projection) ∧ next = ⟨journal.records ++ [record]⟩ := by
  unfold InMemoryPlannerJournal.retain
  split
  · next error herror => simp [herror]
  · next projection hok => simp [hok, eq_comm]

/-- What others append leaves an attempt that is not theirs as it is. -/
theorem retainAll_spec (journal : InMemoryPlannerJournal T)
    (hothers : ∀ record ∈ others, record.attemptId ≠ request.attemptId)
    (h : replay boundary inferencePolicy journal.records = .ok projection) :
    ∃ after, (retainAll boundary inferencePolicy journal others).projection boundary
        inferencePolicy = .ok after ∧
      after[request.attemptId]? = projection[request.attemptId]? ∧
      (retainAll boundary inferencePolicy journal others).records.length ≤
        journal.records.length + others.length := by
  induction others generalizing journal projection with
  | nil => exact ⟨projection, h, rfl, le_rfl⟩
  | cons record others ih =>
    have hrecord := hothers record (List.mem_cons_self ..)
    have hrest := fun other hother => hothers other (List.mem_cons_of_mem _ hother)
    simp only [retainAll, List.foldl_cons, List.length_cons]
    generalize hretain : journal.retain boundary inferencePolicy record = answer
    unfold InMemoryPlannerJournal.retain at hretain
    split at hretain
    · subst hretain
      obtain ⟨after, hafter, hsame, hlength⟩ := ih _ hrest h
      exact ⟨after, hafter, hsame, hlength.trans (by omega)⟩
    · next middle hmiddle =>
      subst hretain
      obtain ⟨before, hbefore, -, hkeeps⟩ := moves_snoc hmiddle
      obtain rfl : before = projection := Except.ok.inj (hbefore.symm.trans h)
      obtain ⟨after, hafter, hsame, hlength⟩ := ih _ hrest hmiddle
      refine ⟨after, hafter, hsame.trans (hkeeps _ hrecord.symm), hlength.trans ?_⟩
      rw [List.length_append, List.length_singleton]
      omega

/-- An observation of an open attempt is accepted while there is room. -/
theorem replay_observed {id : PlannerAttemptId} (observed : PlannerAttemptObserved T)
    (h : replay boundary inferencePolicy records = .ok projection)
    (hroom : records.length < hardMaxActiveJournalRecords)
    (hopen : projection[id]? = some (.reconciliationRequired prepared))
    (hid : observed.attemptId = id) (hexecution : prepared.executionId = observed.executionId)
    (hprepared : boundary.prepared prepared = observed.preparedSha256) :
    replay boundary inferencePolicy (records ++ [.observed observed]) =
      .ok (projection.insert id (.observedPendingDecision prepared observed)) := by
  subst hid
  refine replay_snoc h hroom ?_ (fun token hmem => absurd hmem List.not_mem_nil)
  exact toOption_eq_some.mpr (observeAttempt_eq_ok.mpr ⟨prepared, hopen, hexecution, hprepared, rfl⟩)

/-- The record of a replayed decision, and the attempt that it leads to. -/
def settlement (boundary : JournalBoundary T) (id : PlannerAttemptId)
    (prepared : PlannerAttemptPrepared T) (observed : PlannerAttemptObserved T) :
    ReplayedPlannerDecision → PlannerJournalRecord T × PlannerAttemptProjection T
  | .accepted proposalSha256 result =>
    let accepted : PlannerAttemptAccepted :=
      ⟨prepared.executionId, id, boundary.observed observed, proposalSha256, result⟩
    (.accepted accepted, .accepted prepared observed accepted)
  | .rejected rejection =>
    let rejected : PlannerAttemptRejected :=
      ⟨prepared.executionId, id, boundary.observed observed, rejection⟩
    (.rejected rejected, .rejected prepared observed rejected)

theorem attemptId_settlement {id : PlannerAttemptId} {decision : ReplayedPlannerDecision} :
    (settlement boundary id prepared observed decision).1.attemptId = id := by
  cases decision <;> rfl

/-- The replayed decision on an observed attempt is accepted while there is room. -/
theorem replay_settlement {id : PlannerAttemptId}
    (h : replay boundary inferencePolicy records = .ok projection)
    (hroom : records.length < hardMaxActiveJournalRecords)
    (hopen : projection[id]? = some (.observedPendingDecision prepared observed)) :
    replay boundary inferencePolicy (records ++ [(settlement boundary id prepared observed
        (replayPlannerDecision boundary inferencePolicy prepared observed)).1]) =
      .ok (projection.insert id (settlement boundary id prepared observed
        (replayPlannerDecision boundary inferencePolicy prepared observed)).2) := by
  generalize hdecision : replayPlannerDecision boundary inferencePolicy prepared observed = decision
  cases decision with
  | accepted proposalSha256 result =>
    refine replay_snoc h hroom ?_ (fun token hmem => absurd hmem List.not_mem_nil)
    exact toOption_eq_some.mpr (acceptAttempt_eq_ok.mpr
      ⟨prepared, observed, hopen, rfl, rfl, hdecision, rfl⟩)
  | rejected rejection =>
    refine replay_snoc h hroom ?_ (fun token hmem => absurd hmem List.not_mem_nil)
    exact toOption_eq_some.mpr (rejectAttempt_eq_ok.mpr
      ⟨prepared, observed, hopen, rfl, rfl, hdecision, rfl⟩)

/-- What `execute` records is the settlement that replay computes. -/
theorem decisionRecord_eq :
    (decisionRecord boundary request observed (liveDecision boundary inferencePolicy request
      (preparation boundary inferencePolicy request) observed)).1 =
    (settlement boundary request.attemptId (preparation boundary inferencePolicy request) observed
      (replayPlannerDecision boundary inferencePolicy
        (preparation boundary inferencePolicy request) observed)).1 := by
  rw [replayPlannerDecision_eq]
  rcases liveDecision boundary inferencePolicy request (preparation boundary inferencePolicy request)
    observed with rejection | ⟨proposal, result⟩ <;> rfl

/-- A journal that one more record fits into. -/
def BelowCap (journal : InMemoryPlannerJournal T) : Prop :=
  journal.records.length < hardMaxActiveJournalRecords

/-- The attempt's state that a status reports. -/
def Reports (boundary : JournalBoundary T) (inferencePolicy : PlannerReplannerInferencePolicy)
    (execution : PlannerExecution T) (attempt : Option (PlannerAttemptProjection T)) : Prop :=
  match execution.status with
  | .accepted result => ∃ proposalSha256,
      replayPlannerDecision boundary inferencePolicy execution.prepared execution.observed =
        .accepted proposalSha256 result ∧
      attempt = some (.accepted execution.prepared execution.observed
        ⟨execution.prepared.executionId, execution.prepared.attemptId,
          boundary.observed execution.observed, proposalSha256, result⟩)
  | .rejected rejection =>
      replayPlannerDecision boundary inferencePolicy execution.prepared execution.observed =
        .rejected rejection ∧
      attempt = some (.rejected execution.prepared execution.observed
        ⟨execution.prepared.executionId, execution.prepared.attemptId,
          boundary.observed execution.observed, rejection⟩)

/-- The status and the settlement come from one decision. -/
theorem reports_settlement :
    Reports boundary inferencePolicy
      ⟨preparation boundary inferencePolicy request, observed,
        (decisionRecord boundary request observed (liveDecision boundary inferencePolicy request
          (preparation boundary inferencePolicy request) observed)).2⟩
      (some (settlement boundary request.attemptId (preparation boundary inferencePolicy request)
        observed (replayPlannerDecision boundary inferencePolicy
          (preparation boundary inferencePolicy request) observed)).2) := by
  have hdecision : replayPlannerDecision boundary inferencePolicy
      (preparation boundary inferencePolicy request) observed = _ :=
    replayPlannerDecision_eq observed
  revert hdecision
  unfold Reports
  generalize liveDecision boundary inferencePolicy request
    (preparation boundary inferencePolicy request) observed = decision
  intro hdecision
  rcases decision with rejection | ⟨proposal, result⟩
  · exact ⟨hdecision, by rw [hdecision]; rfl⟩
  · exact ⟨_, hdecision, by rw [hdecision]; rfl⟩

theorem executeAttempt_eq_ok {observing deciding final : InMemoryPlannerJournal T}
    {beforeObservation beforeDecision : List (PlannerJournalRecord T)}
    (hprepare : prepare boundary inferencePolicy backend request = .ok prepared)
    (hprepared : journal.retain boundary inferencePolicy (.prepared prepared) = (.ok (), observing))
    (hobserved : (retainAll boundary inferencePolicy observing beforeObservation).retain boundary
      inferencePolicy (.observed (observedRecord boundary backend request prepared)) =
        (.ok (), deciding))
    (hdecided : (retainAll boundary inferencePolicy deciding beforeDecision).retain boundary
      inferencePolicy (decisionRecord boundary request (observedRecord boundary backend request
        prepared) (liveDecision boundary inferencePolicy request prepared (observedRecord boundary
          backend request prepared))).1 = (.ok (), final)) :
    executeAttempt boundary inferencePolicy backend request journal beforeObservation
      beforeDecision = (.ok ⟨prepared, observedRecord boundary backend request prepared,
        (decisionRecord boundary request (observedRecord boundary backend request prepared)
          (liveDecision boundary inferencePolicy request prepared (observedRecord boundary backend
            request prepared))).2⟩, final) := by
  simp only [executeAttempt, hprepare, hprepared, hobserved, hdecided]

/-- Once a preparation is acknowledged, the executor's other two records are accepted whenever the
journal they are appended to is below its cap, and replay decides as the executor did. -/
theorem execute_agrees_with_replay
    {beforeObservation beforeDecision : List (PlannerJournalRecord T)}
    (hprepare : prepare boundary inferencePolicy backend request = .ok prepared)
    (hacknowledged : journal.retain boundary inferencePolicy (.prepared prepared) = (.ok (), next))
    (hothers : ∀ record ∈ beforeObservation ++ beforeDecision,
      record.attemptId ≠ request.attemptId)
    (hobserve : BelowCap (retainAll boundary inferencePolicy next beforeObservation))
    (hdecide : BelowCap (retainAll boundary inferencePolicy
      ⟨(retainAll boundary inferencePolicy next beforeObservation).records ++
        [.observed (observedRecord boundary backend request prepared)]⟩ beforeDecision)) :
    ∃ execution final projection,
      executeAttempt boundary inferencePolicy backend request journal beforeObservation
        beforeDecision = (.ok execution, final) ∧
      execution.prepared = prepared ∧
      execution.observed = observedRecord boundary backend request prepared ∧
      final.projection boundary inferencePolicy = .ok projection ∧
      Reports boundary inferencePolicy execution projection[request.attemptId]? := by
  obtain rfl := prepare_eq_ok hprepare
  obtain ⟨⟨projection, hreplay⟩, rfl⟩ := retain_eq_ok.mp hacknowledged
  -- The preparation opened the attempt.
  have hopen : projection[request.attemptId]? =
      some (.reconciliationRequired (preparation boundary inferencePolicy request)) := by
    obtain ⟨before, attempt, -, hadvance, rfl, -⟩ := replay_of_snoc hreplay
    obtain ⟨-, rfl⟩ := advance_prepared_eq_some.mp hadvance
    exact ExtTreeMap.getElem?_insert_self
  -- The attempt is still open when the observation is appended.
  have hfirst := fun record hmem => hothers record (List.mem_append_left _ hmem)
  obtain ⟨observing, hobserving, hsame, -⟩ := retainAll_spec _ hfirst hreplay
  have hobservation := replay_observed (observedRecord boundary backend request _) hobserving
    hobserve (hsame.trans hopen) rfl rfl rfl
  -- It is still undecided when the decision is appended.
  have hsecond := fun record hmem => hothers record (List.mem_append_right _ hmem)
  obtain ⟨deciding, hdeciding, hsame', -⟩ := retainAll_spec
    ⟨(retainAll boundary inferencePolicy _ beforeObservation).records ++ [_]⟩ hsecond hobservation
  have hsettled := replay_settlement hdeciding hdecide
    (hsame'.trans ExtTreeMap.getElem?_insert_self)
  rw [← decisionRecord_eq] at hsettled
  have hexecute := executeAttempt_eq_ok hprepare hacknowledged
    (retain_eq_ok.mpr ⟨⟨_, hobservation⟩, rfl⟩) (retain_eq_ok.mpr ⟨⟨_, hsettled⟩, rfl⟩)
  refine ⟨_, _, _, hexecute, rfl, rfl, hsettled, ?_⟩
  rw [ExtTreeMap.getElem?_insert_self]
  exact reports_settlement

end Agreement

section Sample

def sampleTypes : PromptTypes :=
  ⟨Unit, Unit, Unit, Unit, inferInstance, inferInstance, inferInstance, inferInstance⟩

/-- Every text is the JSON of `firstTurn`, and every digest is the same. -/
def sampleBoundary : JournalBoundary sampleTypes where
  encoding := sampleEncoding
  identity _ _ _ := samplePlannerDigest
  inferencePolicy _ _ _ _ := samplePlannerDigest
  promptBundle _ := samplePlannerDigest
  proposal _ := samplePlannerDigest
  matchesEndpoint _ _ := true
  parse _ := some ()
  plannerReplannerInvocation _ _ _ _ _ _ := .ok ()
  compile _ := .ok ()
  messages _ := .ok [⟨.user, "plan"⟩]
  outputSchema _ := ()
  generationSchema _ := ()
  validateOutput _ _ _ := .ok ()
  decodeProposal _ := .ok firstTurn
  prepared _ := samplePlannerDigest
  observed _ := samplePlannerDigest

def sampleIdentity : BackendInstanceIdentity :=
  ⟨1, ⟨"backend", by decide⟩, .httpOrigin ⟨"http://localhost"⟩, ⟨"deployment", by decide⟩,
    samplePlannerDigest⟩

def sampleInferencePolicy : PlannerReplannerInferencePolicy :=
  ⟨sampleIdentity, ⟨"model", by decide⟩, none, 1024, samplePlannerDigest⟩

def sampleResponse : StructuredInferenceResponse sampleTypes where
  modelId := ⟨"model", by decide⟩
  value := ()
  rawText := "text"
  finishReason := none
  usage := none
  evidence := ⟨⟨"backend", by decide⟩, some sampleIdentity, "http://localhost", 200, none, none, ()⟩

def sampleBackend : ModelBackend sampleTypes :=
  ⟨⟨"backend", by decide⟩, sampleIdentity, fun _ => .ok sampleResponse⟩

def sampleRequest (n : Uuid) : PlannerExecutionRequest sampleTypes where
  executionId := ⟨n⟩
  attemptId := ⟨n⟩
  parentAttemptId := none
  budgetReservationId := ⟨n⟩
  promptBundle := ⟨samplePlannerDigest, (), (), (), ⟨⟨"model", by decide⟩, [⟨.user, "plan"⟩],
    ⟨"planner_replanner_turn", (), some ()⟩, 1024, none⟩⟩
  basePlan := .empty ⟨1⟩ sampleObligations
  obligations := sampleObligations
  context := sampleContext
  policy := samplePolicy

def samplePreparation (n : Uuid) : PlannerAttemptPrepared sampleTypes :=
  preparation sampleBoundary sampleInferencePolicy (sampleRequest n)

/-- An attempt that is accepted while another one is prepared. -/
theorem execute_agrees_with_replay_interleaved : ∃ execution final projection,
    executeAttempt sampleBoundary sampleInferencePolicy sampleBackend (sampleRequest 1) ⟨[]⟩
      [.prepared (samplePreparation 2)] [] = (.ok execution, final) ∧
    execution.prepared = samplePreparation 1 ∧
    execution.observed = observedRecord sampleBoundary sampleBackend (sampleRequest 1)
      (samplePreparation 1) ∧
    final.projection sampleBoundary sampleInferencePolicy = .ok projection ∧
    Reports sampleBoundary sampleInferencePolicy execution
      projection[(sampleRequest 1).attemptId]? := by
  have hreplay : (replay sampleBoundary sampleInferencePolicy
      [.prepared (samplePreparation 1)]).isOk = true := by decide
  obtain ⟨projection, hprojection⟩ := isOk_eq_true.mp hreplay
  have hretain : InMemoryPlannerJournal.retain sampleBoundary sampleInferencePolicy ⟨[]⟩
      (.prepared (samplePreparation 1)) = (.ok (), ⟨[.prepared (samplePreparation 1)]⟩) :=
    retain_eq_ok.mpr ⟨⟨projection, hprojection⟩, rfl⟩
  have hroom : ∀ journal : InMemoryPlannerJournal sampleTypes, journal.records.length ≤ 3 →
      BelowCap journal := fun journal hlength => Nat.lt_of_le_of_lt hlength (by decide)
  refine execute_agrees_with_replay (by decide) hretain (by decide) ?_ ?_
  · exact hroom _ (by decide)
  · exact hroom _ (by decide)

end Sample

end BirdCode.Planner
