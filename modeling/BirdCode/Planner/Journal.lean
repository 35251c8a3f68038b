import BirdCode.Planner.Inference

/-! The append-only journal of planner attempts and its replay, which never calls a model. -/
namespace BirdCode.Planner

open Std

abbrev PlannerExecutionId := UuidId .plannerExecution
abbrev PlannerAttemptId := UuidId .plannerAttempt
abbrev BudgetReservationId := UuidId .budgetReservation

def hardMaxActiveJournalRecords : ℕ := 4096

variable {T : PromptTypes}

section Records

structure PlannerAttemptPrepared (T : PromptTypes) where
  executionId : PlannerExecutionId
  attemptId : PlannerAttemptId
  parentAttemptId : Option PlannerAttemptId
  budgetReservationId : BudgetReservationId
  backendId : BackendId
  backendInstance : BackendInstanceIdentity
  modelId : ModelId
  maxOutputTokens : UInt32
  basePlanSha256 : PlannerDigest
  obligationSnapshotSha256 : PlannerDigest
  acceptancePolicySha256 : PlannerDigest
  contextManifestSha256 : PlannerDigest
  plannerPolicySha256 : PlannerDigest
  inferencePolicySha256 : PlannerDigest
  inferencePolicy : PlannerReplannerInferencePolicy
  promptBundleSha256 : PlannerDigest
  promptBundle : PreparedPlannerReplannerRequest T
  basePlan : PlanSnapshot
  obligations : ProtectedObligationCatalog
  context : PlannerContextCatalog
  policy : PlannerPolicy
  deriving DecidableEq

inductive PlannerInferenceObservation (T : PromptTypes)
  | response (response : StructuredInferenceResponse T)
  | error (error : BackendError T)
  deriving DecidableEq

structure PlannerAttemptObserved (T : PromptTypes) where
  executionId : PlannerExecutionId
  attemptId : PlannerAttemptId
  preparedSha256 : PlannerDigest
  observation : PlannerInferenceObservation T
  deriving DecidableEq

inductive PlannerRejection
  | backend
  | responseContract (violations : List PlannerResponseViolation)
  | outputDecode (message : String)
  | promptContract (message : String)
  | planValidation (violations : List PlannerViolation)
  deriving DecidableEq

structure PlannerAttemptAccepted where
  executionId : PlannerExecutionId
  attemptId : PlannerAttemptId
  observedSha256 : PlannerDigest
  proposalSha256 : PlannerDigest
  result : ValidatedPlannerTurn
  deriving DecidableEq

structure PlannerAttemptRejected where
  executionId : PlannerExecutionId
  attemptId : PlannerAttemptId
  observedSha256 : PlannerDigest
  rejection : PlannerRejection
  deriving DecidableEq

inductive PlannerJournalRecord (T : PromptTypes)
  | prepared (prepared : PlannerAttemptPrepared T)
  | observed (observed : PlannerAttemptObserved T)
  | accepted (accepted : PlannerAttemptAccepted)
  | rejected (rejected : PlannerAttemptRejected)
  deriving DecidableEq

def PlannerJournalRecord.attemptId : PlannerJournalRecord T → PlannerAttemptId
  | .prepared record => record.attemptId
  | .observed record => record.attemptId
  | .accepted record => record.attemptId
  | .rejected record => record.attemptId

structure PlannerJournalError where
  message : String
  deriving DecidableEq

inductive PlannerAttemptProjection (T : PromptTypes)
  | reconciliationRequired (prepared : PlannerAttemptPrepared T)
  | observedPendingDecision (prepared : PlannerAttemptPrepared T)
      (observed : PlannerAttemptObserved T)
  | accepted (prepared : PlannerAttemptPrepared T) (observed : PlannerAttemptObserved T)
      (accepted : PlannerAttemptAccepted)
  | rejected (prepared : PlannerAttemptPrepared T) (observed : PlannerAttemptObserved T)
      (rejected : PlannerAttemptRejected)
  deriving DecidableEq

abbrev PlannerJournalProjection (T : PromptTypes) :=
  BTreeMap PlannerAttemptId (PlannerAttemptProjection T)

/-- The digests of the records, beside what the boundary computes. -/
structure JournalBoundary (T : PromptTypes) extends PlannerBoundary T where
  prepared : PlannerAttemptPrepared T → PlannerDigest
  observed : PlannerAttemptObserved T → PlannerDigest

end Records

variable (boundary : JournalBoundary T)
  (expectedInferencePolicy : PlannerReplannerInferencePolicy)

section Decision

inductive ReplayedPlannerDecision
  | accepted (proposalSha256 : PlannerDigest) (result : ValidatedPlannerTurn)
  | rejected (rejection : PlannerRejection)
  deriving DecidableEq

def plannerPromptRejection : PlannerReplannerApplyError → PlannerRejection
  | .outputDecode message => .outputDecode message
  | .plan violations => .planValidation violations
  | .setup message => .promptContract message
  | .prompt message => .promptContract message

/-- What a backend error is rejected with. -/
def backendRejection (violations : List PlannerResponseViolation) : PlannerRejection :=
  if violations.isEmpty then .backend else .responseContract violations

def replayPlannerDecision (prepared : PlannerAttemptPrepared T)
    (observed : PlannerAttemptObserved T) : ReplayedPlannerDecision :=
  match observed.observation with
  | .error error =>
    .rejected (backendRejection
      (plannerBackendErrorViolations boundary.toPlannerBoundary error prepared.backendInstance))
  | .response response =>
    let responseViolations := plannerResponseViolations boundary.toPlannerBoundary response
      prepared.modelId prepared.backendId prepared.backendInstance prepared.maxOutputTokens
    if !responseViolations.isEmpty then .rejected (.responseContract responseViolations)
    else
      match decodeAndApplyPlannerReplannerOutput boundary.toPlannerBoundary prepared.basePlan
          prepared.obligations prepared.context prepared.policy expectedInferencePolicy
          prepared.promptBundle response.value with
      | .ok (proposal, result) => .accepted (boundary.proposal proposal) result
      | .error error => .rejected (plannerPromptRejection error)

end Decision

section Replay

def preparedIsInternallyValid (prepared : PlannerAttemptPrepared T) : Bool :=
  prepared.inferencePolicy = expectedInferencePolicy &&
  prepared.inferencePolicySha256 = expectedInferencePolicy.policySha256 &&
  prepared.promptBundle.inferencePolicySha256 = expectedInferencePolicy.policySha256 &&
  prepared.backendId = expectedInferencePolicy.backendId &&
  prepared.backendInstance = expectedInferencePolicy.backendInstance &&
  prepared.modelId = expectedInferencePolicy.modelId &&
  prepared.maxOutputTokens = expectedInferencePolicy.maxOutputTokens &&
  prepared.promptBundle.inference.modelId = prepared.modelId &&
  prepared.promptBundle.inference.reasoning = expectedInferencePolicy.reasoning &&
  prepared.promptBundle.inference.maxOutputTokens = prepared.maxOutputTokens &&
  boundary.promptBundle prepared.promptBundle = prepared.promptBundleSha256 &&
  boundary.encoding.plan prepared.basePlan = prepared.basePlanSha256 &&
  prepared.obligations.snapshotSha256 = prepared.obligationSnapshotSha256 &&
  prepared.obligations.acceptancePolicySha256 = prepared.acceptancePolicySha256 &&
  prepared.context.manifestSha256 = prepared.contextManifestSha256 &&
  prepared.policy.policySha256 = prepared.plannerPolicySha256 &&
  (prepared.promptBundle.validateAgainst boundary.toPlannerBoundary prepared.basePlan
    prepared.obligations prepared.context prepared.policy expectedInferencePolicy).isOk &&
  (plannerSetupViolations boundary.encoding prepared.basePlan prepared.obligations prepared.context
    prepared.policy).isEmpty

/-- What replay has seen: the attempts, the budget reservations and the executions. -/
structure ReplayState (T : PromptTypes) where
  attempts : PlannerJournalProjection T
  reservations : BTreeSet BudgetReservationId
  executions : BTreeSet PlannerExecutionId

/-- A journal of version 1 has no record that authorizes a retry. -/
def replayPrepared (state : ReplayState T) (prepared : PlannerAttemptPrepared T) :
    Except PlannerJournalError (ReplayState T) := do
  ensure (preparedIsInternallyValid boundary expectedInferencePolicy prepared = true)
    ⟨"planner preparation does not bind its request and authority snapshots"⟩
  ensure (prepared.budgetReservationId ∉ state.reservations)
    ⟨"planner budget reservation is reused"⟩
  ensure (prepared.parentAttemptId = none)
    ⟨"planner retry requires an explicit durable retry authorization record"⟩
  ensure (prepared.executionId ∉ state.executions)
    ⟨"planner execution may contain exactly one root preparation"⟩
  ensure (prepared.attemptId ∉ state.attempts) ⟨"duplicate planner preparation"⟩
  return ⟨state.attempts.insert prepared.attemptId (.reconciliationRequired prepared),
    state.reservations.insert prepared.budgetReservationId,
    state.executions.insert prepared.executionId⟩

def observeAttempt (observed : PlannerAttemptObserved T) :
    Option (PlannerAttemptProjection T) → Except PlannerJournalError (PlannerAttemptProjection T)
  | none => .error ⟨"planner observation has no preparation"⟩
  | some (.reconciliationRequired prepared) => do
    ensure (prepared.executionId = observed.executionId ∧
        boundary.prepared prepared = observed.preparedSha256)
      ⟨"planner observation does not bind its preparation"⟩
    return .observedPendingDecision prepared observed
  | some _ => .error ⟨"planner observation is duplicated or out of order"⟩

def acceptAttempt (accepted : PlannerAttemptAccepted) :
    Option (PlannerAttemptProjection T) → Except PlannerJournalError (PlannerAttemptProjection T)
  | none => .error ⟨"planner acceptance has no observation"⟩
  | some (.observedPendingDecision prepared observed) => do
    ensure (prepared.executionId = accepted.executionId ∧
        boundary.observed observed = accepted.observedSha256)
      ⟨"planner acceptance does not bind its observation"⟩
    match replayPlannerDecision boundary expectedInferencePolicy prepared observed with
    | .rejected _ =>
      .error ⟨"planner acceptance contradicts the observed deterministic decision"⟩
    | .accepted proposalSha256 result =>
      ensure (accepted.proposalSha256 = proposalSha256 ∧ accepted.result = result)
        ⟨"planner acceptance contains a fabricated proposal or result"⟩
      return .accepted prepared observed accepted
  | some _ => .error ⟨"planner acceptance is duplicated or out of order"⟩

def rejectAttempt (rejected : PlannerAttemptRejected) :
    Option (PlannerAttemptProjection T) → Except PlannerJournalError (PlannerAttemptProjection T)
  | none => .error ⟨"planner rejection has no observation"⟩
  | some (.observedPendingDecision prepared observed) => do
    ensure (prepared.executionId = rejected.executionId ∧
        boundary.observed observed = rejected.observedSha256)
      ⟨"planner rejection does not bind its observation"⟩
    match replayPlannerDecision boundary expectedInferencePolicy prepared observed with
    | .accepted _ _ =>
      .error ⟨"planner rejection contradicts the observed deterministic decision"⟩
    | .rejected expectedRejection =>
      ensure (rejected.rejection = expectedRejection)
        ⟨"planner rejection does not match the observed deterministic decision"⟩
      return .rejected prepared observed rejected
  | some _ => .error ⟨"planner rejection is duplicated or out of order"⟩

/-- `attempts.get_mut` and the assignment through it. -/
def updateAttempt (state : ReplayState T) (attemptId : PlannerAttemptId)
    (update : Option (PlannerAttemptProjection T) →
      Except PlannerJournalError (PlannerAttemptProjection T)) :
    Except PlannerJournalError (ReplayState T) := do
  let attempt ← update state.attempts[attemptId]?
  return { state with attempts := state.attempts.insert attemptId attempt }

def replayRecord (state : ReplayState T) :
    PlannerJournalRecord T → Except PlannerJournalError (ReplayState T)
  | .prepared prepared => replayPrepared boundary expectedInferencePolicy state prepared
  | .observed observed =>
    updateAttempt state observed.attemptId (observeAttempt boundary observed)
  | .accepted accepted =>
    updateAttempt state accepted.attemptId
      (acceptAttempt boundary expectedInferencePolicy accepted)
  | .rejected rejected =>
    updateAttempt state rejected.attemptId
      (rejectAttempt boundary expectedInferencePolicy rejected)

/-- `PlannerJournalProjection::replay`. -/
def replay (records : List (PlannerJournalRecord T)) :
    Except PlannerJournalError (PlannerJournalProjection T) := do
  (expectedInferencePolicy.validateIntegrity boundary.toPlannerBoundary).mapError
    PlannerJournalError.mk
  ensure (records.length ≤ hardMaxActiveJournalRecords)
    ⟨"active planner journal exceeds its hard record limit; durable archival is required"⟩
  let state ← records.foldlM (replayRecord boundary expectedInferencePolicy) ⟨∅, ∅, ∅⟩
  return state.attempts

end Replay

/-- A journal in memory. -/
structure InMemoryPlannerJournal (T : PromptTypes) where
  records : List (PlannerJournalRecord T)

/-- `InMemoryPlannerJournal::projection`. -/
def InMemoryPlannerJournal.projection (journal : InMemoryPlannerJournal T) :
    Except PlannerJournalError (PlannerJournalProjection T) :=
  replay boundary expectedInferencePolicy journal.records

/-- `InMemoryPlannerJournal::retain`: the answer and the journal after the call. -/
def InMemoryPlannerJournal.retain (journal : InMemoryPlannerJournal T)
    (record : PlannerJournalRecord T) :
    Except PlannerJournalError Unit × InMemoryPlannerJournal T :=
  match replay boundary expectedInferencePolicy (journal.records ++ [record]) with
  | .error error => (.error error, journal)
  | .ok _ => (.ok (), ⟨journal.records ++ [record]⟩)

end BirdCode.Planner
