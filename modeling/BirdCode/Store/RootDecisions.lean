import BirdCode.Store.RootPlanning

/-! The decisions of root planning: proposals, their semantic reviews and durable failures. -/
namespace BirdCode.Store

namespace EventPayload

def carriesProposal (proposalId : PlanProposalId) : EventPayload → Bool
  | .planProposalAccepted accepted => accepted.proposalId = proposalId
  | .planProposalRejected rejected => rejected.proposalId = proposalId
  | _ => false

def carriesReview (reviewId : PlanSemanticReviewId) : EventPayload → Bool
  | .planSemanticReviewAccepted accepted => accepted.reviewId = reviewId
  | .planSemanticReviewRejected rejected => rejected.reviewId = reviewId
  | _ => false

def inferenceObserved : EventPayload → Option PlannerInferenceObserved
  | .plannerInferenceObserved observed => some observed
  | _ => none

end EventPayload

variable (documents : PlanningDocuments) (env : Environment) (log : EventLog)
  (event : EventEnvelope)

section Observed

/-- What a decision requires of the events it decides, when they belong to a stage. -/
def validateDecisionProvenance (runId : RunId) (stored : StoredInference)
    (observedEvent : EventEnvelope) (observed : PlannerInferenceObserved) :
    Except StoreError Unit := do
  let run ← durableRunForEvent log event.sessionId runId
  let expectedBackend := expectedBackendSelection run stored.prepared.backendModel
  ensure (preparedUnderBackend stored run = true ∧
    observedEvent.provenance.backend = some expectedBackend ∧
    observedEvent.provenance.rawArtifact = some observed.normalizedCompleteEvidenceArtifact)
    .invalidStateEvent
  requireExactModelProvenance event expectedBackend none

/-- `successful_observed_for_decision`. -/
def successfulObservedForDecision (runId : RunId) (observedEventId : EventId)
    (attemptId : InferenceAttemptId) : Except StoreError EventEnvelope := do
  let observedEvent ← storedEventForRun log event.sessionId runId observedEventId
  let observed ← expect .invalidStateEvent observedEvent.payload.inferenceObserved
  let stored ← storedInference log event.sessionId runId observed.preparedEventId
  ensure (event.causalParent = some observedEvent.id ∧ observed.attemptId = attemptId ∧
    stored.prepared.attemptId = attemptId ∧ observed.outcome.isSucceeded = true)
    .invalidStateEvent
  whenever (stored.prepared.stageContext.isSome = true)
    (validateDecisionProvenance log event runId stored observedEvent observed)
  return observedEvent

end Observed

section Proposals

/-- A successful observation of a producer stage, under the current claim. -/
structure DecidedProposal where
  observedEvent : EventEnvelope
  prepared : PlannerInferencePrepared
  deriving DecidableEq

/-- What both decisions on a proposal require first. -/
def proposalForDecision (runId : RunId) (observedEventId : EventId)
    (attemptId : InferenceAttemptId) : Except StoreError DecidedProposal := do
  requireRunningRun log event runId
  let observedEvent ← successfulObservedForDecision log event runId observedEventId attemptId
  let stored ← preparedInferenceForAttempt log event.sessionId runId attemptId
  ensure ((stored.prepared.stageContext.all isProducerStage) = true) .invalidStateEvent
  let _ ← requireCurrentClaimOwner log event runId stored.prepared.cancellationGeneration
  return ⟨observedEvent, stored.prepared⟩

/-- `plan_decision_count`. -/
def planDecisionCount (runId : RunId) (attemptId : InferenceAttemptId) : ℕ :=
  (runEvents log event.sessionId runId).countP fun stored =>
    stored.payload.isPlanDecisionOf attemptId

/-- The current base, which before the first accepted plan is the base of the attempt. -/
def planBaseOr (runId : RunId) (prepared : PlannerInferencePrepared) : UInt64 × Sha256Digest :=
  (currentPlanBase log event.sessionId runId).getD (0, prepared.planDigest)

/-- The log's part of `expected_repair_invocation`. -/
def repairAssignment (runId : RunId) :
    PlannerStageContext → Except StoreError (Option RepairAssignment)
  | .repair _ _ _ _ candidate triggeringReviewEventId requiredFindingIds => do
    let _ ← validateCandidateBinding log event.sessionId runId candidate
    let reviewEvent ← storedEventForRun log event.sessionId runId triggeringReviewEventId
    let .planSemanticReviewRejected review := reviewEvent.payload | .error .invalidStateEvent
    let reviewPrepared ← preparedInferenceForAttempt log event.sessionId runId
      review.inferenceAttemptId
    let reviewStage ← expect .invalidStateEvent reviewPrepared.prepared.stageContext
    return some ⟨candidate, triggeringReviewEventId, requiredFindingIds, review, reviewStage⟩
  | _ => .ok none

/-- What `reconstruct_semantic_producer_observation` takes from the log. -/
def producerObservation (runId : RunId) (decided : DecidedProposal) :
    Except StoreError ProducerObservation := do
  let stage ← expect .invalidStateEvent decided.prepared.stageContext
  ensure (isProducerStage stage = true) .invalidStateEvent
  let (session, run) ← durableSessionAndRun log runId event.sessionId
  documents.stageExecutionPolicy decided.prepared stage run.spec.limits.maxOutputTokens
  let initial ← expect .invalidStateEvent (firstPreparedInference log event.sessionId runId)
  let repair ← repairAssignment log event runId stage
  return ⟨session, run, initial, decided.prepared, repair, decided.observedEvent⟩

/-- `root_planner_rejection_reason`. -/
def rootPlannerRejectionReason : RootPlannerRejectionClass → PlanProposalRejectionReason
  | .invalidSchema => .invalidSchema
  | .protectedAuthorityMutation => .protectedAuthorityMutation
  | .obligationCoverageIncomplete => .obligationCoverageIncomplete
  | .dependencyCycle => .dependencyCycle
  | .policyLimitExceeded => .policyLimitExceeded

/-- A rejection for a stale base is one exactly when the base is stale. -/
def reasonMatchesCas (reason : PlanProposalRejectionReason) (current base : UInt64 × Sha256Digest) :
    Bool :=
  match reason with
  | .staleBaseRevision => current.1 ≠ base.1
  | .staleBaseDigest => current.1 = base.1 && current.2 ≠ base.2
  | _ => current.1 = base.1 && current.2 = base.2

/-- `validate_plan_proposal_rejected`. -/
def validatePlanProposalRejected (rejected : PlanProposalRejected) : Except StoreError Unit := do
  let runId ← plannerRunId event
  let decided ← proposalForDecision log event runId rejected.observedEventId
    rejected.inferenceAttemptId
  ensure (rejected.basePlanRevision = decided.prepared.planRevision ∧
    rejected.basePlanDigest = decided.prepared.planDigest ∧
    planDecisionCount log event runId rejected.inferenceAttemptId = 0 ∧
    identityCount log (EventPayload.carriesProposal rejected.proposalId) = 0) .invalidStateEvent
  ensure (reasonMatchesCas rejected.reason (planBaseOr log event runId decided.prepared)
    (rejected.basePlanRevision, rejected.basePlanDigest) = true) .invalidStateEvent
  let run ← durableRunForEvent log event.sessionId runId
  whenever (run.spec.planAcceptance = .independentSemanticReviewV1) do
    let observation ← producerObservation documents log event runId decided
    let rejection ← documents.planRejection observation rejected
    ensure (rejected.reason = rootPlannerRejectionReason rejection) .invalidStateEvent

/-- `validate_plan_proposal_accepted`. -/
def validatePlanProposalAccepted (accepted : PlanProposalAccepted) : Except StoreError Unit := do
  let runId ← plannerRunId event
  let decided ← proposalForDecision log event runId accepted.observedEventId
    accepted.inferenceAttemptId
  let revision ← expect .invalidStateEvent (checkedAdd accepted.previousPlanRevision 1)
  ensure (accepted.previousPlanRevision = decided.prepared.planRevision ∧
    accepted.previousPlanDigest = decided.prepared.planDigest ∧
    planBaseOr log event runId decided.prepared =
      (accepted.previousPlanRevision, accepted.previousPlanDigest) ∧
    accepted.acceptedPlanRevision = revision ∧
    digestMatchesArtifact accepted.acceptedPlanDigest accepted.acceptedPlanArtifact = true ∧
    planDecisionCount log event runId accepted.inferenceAttemptId = 0 ∧
    identityCount log (EventPayload.carriesProposal accepted.proposalId) = 0) .invalidStateEvent
  let run ← durableRunForEvent log event.sessionId runId
  whenever (run.spec.planAcceptance = .independentSemanticReviewV1) do
    let observation ← producerObservation documents log event runId decided
    documents.planProposal observation accepted

end Proposals

section Reviews

/-- `semantic_review_decision_count`. -/
def semanticReviewDecisionCount (runId : RunId) (attemptId : InferenceAttemptId) : ℕ :=
  (runEvents log event.sessionId runId).countP fun stored =>
    stored.payload.isReviewDecisionOf attemptId

/-- `validate_semantic_review_common`. -/
def validateSemanticReviewCommon (attemptId : InferenceAttemptId) (observedEventId : EventId)
    (candidate : PlanCandidateBinding) (critiqueArtifact validationEvidenceArtifact : ArtifactRef) :
    Except StoreError (PlannerStageContext × PlanSemanticReviewValidationReceipt) := do
  let runId ← plannerRunId event
  requireRunningRun log event runId
  let observedEvent ← successfulObservedForDecision log event runId observedEventId attemptId
  let stored ← preparedInferenceForAttempt log event.sessionId runId attemptId
  let stage ← expect .invalidStateEvent stored.prepared.stageContext
  ensure (isProducerStage stage = false ∧ stageCandidate stage = some candidate ∧
    stored.prepared.planRevision = candidate.planRevision ∧
    stored.prepared.planDigest = candidate.planDigest ∧
    semanticReviewDecisionCount log event runId attemptId = 0) .invalidStateEvent
  let _ ← validateCandidateBinding log event.sessionId runId candidate
  let (session, run) ← durableSessionAndRun log runId event.sessionId
  documents.stageExecutionPolicy stored.prepared stage run.spec.limits.maxOutputTokens
  ensure (currentPlanBase log event.sessionId runId =
    some (candidate.planRevision, candidate.planDigest)) .invalidStateEvent
  let _ ← requireCurrentClaimOwner log event runId stored.prepared.cancellationGeneration
  validateCriticPolicyArtifact documents log event runId stored.prepared stage
  let receipt ← documents.semanticReview stored.prepared observedEvent stage candidate session run
    critiqueArtifact validationEvidenceArtifact
  return (stage, receipt)

/-- `validate_plan_semantic_review_accepted`. -/
def validatePlanSemanticReviewAccepted (accepted : PlanSemanticReviewAccepted) :
    Except StoreError Unit := do
  let (_, receipt) ← validateSemanticReviewCommon documents log event accepted.inferenceAttemptId
    accepted.observedEventId accepted.candidate accepted.critiqueArtifact
    accepted.validationEvidenceArtifact
  ensure (receipt.verdict = .accept ∧ receipt.findingIds = [] ∧
    identityCount log (EventPayload.carriesReview accepted.reviewId) = 0) .invalidStateEvent

def validRequiredFindings (findingIds : List String) : Bool :=
  findingIds.length ≤ 32 && findingIds.Nodup &&
    findingIds.all fun finding => !finding.isEmpty && finding.utf8ByteSize ≤ 128

/-- The dispositions that a verdict on a stage leaves. -/
def validReviewDisposition (stage : RootPlanningStage)
    (receipt : PlanSemanticReviewValidationReceipt) (requiredFindingIds : List String) :
    PlanSemanticReviewRejectionDisposition → Bool
  | .repairOnceAuthorized =>
    stage = .initialReview && !requiredFindingIds.isEmpty && receipt.verdict = .revise &&
      receipt.findingIds = requiredFindingIds
  | .terminalReject =>
    requiredFindingIds.isEmpty &&
      ((stage = .initialReview && (receipt.verdict = .clarify || receipt.verdict = .escalate)) ||
        (stage = .finalReview && (receipt.verdict = .revise || receipt.verdict = .clarify ||
          receipt.verdict = .escalate)))
  | .reviewContractInvalid =>
    requiredFindingIds.isEmpty && receipt.findingIds.isEmpty &&
      receipt.verdict = .contractInvalid

/-- `validate_plan_semantic_review_rejected`. -/
def validatePlanSemanticReviewRejected (rejected : PlanSemanticReviewRejected) :
    Except StoreError Unit := do
  let (stage, receipt) ← validateSemanticReviewCommon documents log event
    rejected.inferenceAttemptId rejected.observedEventId rejected.candidate
    rejected.critiqueArtifact rejected.validationEvidenceArtifact
  ensure (identityCount log (EventPayload.carriesReview rejected.reviewId) = 0 ∧
    validRequiredFindings rejected.requiredFindingIds = true ∧
    validReviewDisposition (stageKind stage) receipt rejected.requiredFindingIds
      rejected.disposition = true) .invalidStateEvent

end Reviews

section Failures

/-- `expected_lineage_backend_selection`. -/
def expectedLineageBackendSelection (run : Run) (lineage : ModelLineage) : BackendSelection where
  backendId := lineage.backendId
  kind := .model
  model := some lineage.modelId
  reasoningEffort := run.spec.backend.reasoningEffort

/-- `valid_root_planning_failure_classification`. -/
def validRootPlanningFailureClassification :
    RootPlanningFailurePhase → RootPlanningFailureReason → Bool
  | .preflight, reason =>
    reason = .invalidWallDeadline || reason = .invalidRunConfiguration ||
      reason = .wallDeadlineExceeded
  | .modelDiscovery, reason =>
    reason = .invalidRunConfiguration || reason = .backendDiscoveryFailed ||
      reason = .discoveryTimedOut || reason = .invalidDiscoveryCatalog ||
      reason = .selectedModelUnavailable || reason = .wallDeadlineExceeded
  | .promptPreparation, reason =>
    reason = .invalidRunConfiguration || reason = .artifactPersistenceFailed ||
      reason = .wallDeadlineExceeded || reason = .promptCompilationFailed ||
      reason = .durableStateConflict

/-- A producer that is unavailable is the producer the run selected. -/
def semanticSubjectIsValid (run : Run) (failure : RootPlanningFailed) : Bool :=
  run.spec.planAcceptance ≠ .independentSemanticReviewV1 ||
    failure.reason ≠ .selectedModelUnavailable ||
    failure.modelSubject.any fun subject => subject.role ≠ .producer ||
      (subject.lineage.backendId = run.spec.backend.backendId &&
        some subject.lineage.modelId = run.spec.backend.model)

/-- `validate_root_planning_failed`. -/
def validateRootPlanningFailed (failure : RootPlanningFailed) : Except StoreError Unit := do
  let runId ← plannerRunId event
  requireRunningRun log event runId
  requireLatestRunParent log event runId
  ensure (failure.cancellationGeneration = 0 ∧
    ((runEvents log event.sessionId runId).countP fun stored => match stored.payload with
      | .rootPlanningFailed _ => true
      | _ => false) = 0 ∧
    validRootPlanningFailureClassification failure.phase failure.reason = true ∧
    preparedInferences log event.sessionId runId = []) .invalidStateEvent
  let stored ← requireCurrentClaimOwner log event runId failure.cancellationGeneration
  let run ← durableRunForEvent log event.sessionId runId
  ensure (failure.claimEventId = stored.event.id ∧ failure.claimId = stored.claim.claimId ∧
    event.provenance.rawArtifact = some failure.evidenceArtifact ∧
    supportsRootPlanning run.spec.purpose = true ∧ semanticSubjectIsValid run failure = true)
    .invalidStateEvent
  requireExactModelProvenance event
    ((failure.modelSubject.map fun subject =>
      expectedLineageBackendSelection run subject.lineage).getD run.spec.backend)
    (some failure.evidenceArtifact)
  whenever (run.spec.planAcceptance = .independentSemanticReviewV1) do
    let evidence ← readCanonicalJsonArtifact env.root documents.rootPlanningFailure
      failure.evidenceArtifact rootPlanningFailureMediaType
    ensure (evidence.schemaVersion = 1 ∧ evidence.runId = runId ∧
      evidence.claimEventId = failure.claimEventId ∧ evidence.claimId = failure.claimId ∧
      evidence.phase = failure.phase ∧ evidence.reason = failure.reason ∧
      evidence.modelSubject = failure.modelSubject) .invalidStateEvent

/-- `valid_stage_failure_classification`. -/
def validStageFailureClassification (stage : RootPlanningStage) :
    RootPlanningStageFailureReason → Bool
  | .independentReviewerUnavailable => stage.role = .independentCritic
  | .wallDeadlineExceeded | .artifactPersistenceFailed | .invalidCommittedArtifact
  | .durableStateConflict => true
  | .selectedModelUnavailable | .aggregateBudgetExhausted | .promptCompilationFailed
  | .configurationDrift => stage ≠ .initialPlan

/-- The failures of a stage whose inference was observed. -/
def failsObservedStage : RootPlanningStageFailureReason → Bool
  | .invalidCommittedArtifact | .artifactPersistenceFailed | .wallDeadlineExceeded
  | .durableStateConflict => true
  | _ => false

/-- The prepared stages are exactly those before the failed one, and its predecessor is the
decision on the last of them. -/
def exactNextStagePredecessor (prepared : List StoredInference) (failedStage : RootPlanningStage)
    (predecessor : EventPayload) : Bool :=
  prepared.map (fun stored => stored.prepared.stageContext.map stageKind) =
      (requiredPrefixOf failedStage).map some &&
    match failedStage, predecessor with
    | .initialReview, .planProposalAccepted accepted
    | .finalReview, .planProposalAccepted accepted =>
      prepared.getLast?.any fun stored => stored.prepared.attemptId = accepted.inferenceAttemptId
    | .repair, .planSemanticReviewRejected rejected =>
      rejected.disposition = .repairOnceAuthorized &&
        prepared.getLast?.any fun stored =>
          stored.prepared.attemptId = rejected.inferenceAttemptId
    | _, _ => false

/-- The Prepared whose successful observation is the predecessor. -/
def observedReplayStage (prepared : List StoredInference) (predecessor : EventPayload) :
    Option StoredInference :=
  predecessor.inferenceObserved.bind fun observed =>
    if observed.outcome.isSucceeded then
      prepared.find? fun stored => stored.event.id = observed.preparedEventId &&
        stored.prepared.attemptId = observed.attemptId && stored.prepared.stageContext.isSome
    else none

/-- Whom the failure of a stage that was not prepared is attributed to. -/
def nextStageSubject (failure : RootPlanningStageFailed) (producer critic : ModelLineage) :
    RootPlanningModelSubject :=
  match failure.reason, failure.failedStage.role with
  | .independentReviewerUnavailable, _ => ⟨.independentCritic, critic⟩
  | .selectedModelUnavailable, _ => ⟨.producer, producer⟩
  | _, .producer => ⟨.producer, producer⟩
  | _, .independentCritic => ⟨.independentCritic, critic⟩

/-- The subject of a failure after an observation of its stage. -/
def observedFailureSubject (failure : RootPlanningStageFailed) (policy : ArtifactRef)
    (prepared : List StoredInference) (stage : PlannerStageContext) :
    Except StoreError RootPlanningModelSubject := do
  ensure (stageKind stage = failure.failedStage ∧
    prepared.map (fun stored => stored.prepared.stageContext.map stageKind) =
      (requiredPrefixOf (stageKind stage) ++ [stageKind stage]).map some ∧
    failsObservedStage failure.reason = true ∧
    failure.executionPolicyArtifact = (stageIdentity stage).executionPolicyArtifact ∧
    (stageIdentity stage).executionPolicyArtifact = policy) .invalidStateEvent
  return stageModelSubject stage

/-- The subject of a failure before its stage was prepared. -/
def nextFailureSubject (failure : RootPlanningStageFailed) (policy : ArtifactRef)
    (prepared : List StoredInference) (predecessor : EventPayload) :
    PlannerStageContext → Except StoreError RootPlanningModelSubject
  | .initialPlan _ producer critic _ => do
    ensure (exactNextStagePredecessor prepared failure.failedStage predecessor = true ∧
      failure.executionPolicyArtifact = policy) .invalidStateEvent
    return nextStageSubject failure producer critic
  | _ => .error .invalidStateEvent

/-- `validate_root_planning_stage_failed`. -/
def validateRootPlanningStageFailed (failure : RootPlanningStageFailed) :
    Except StoreError Unit := do
  let runId ← plannerRunId event
  let run ← durableRunForEvent log event.sessionId runId
  ensure (supportsRootPlanning run.spec.purpose = true) .invalidStateEvent
  requireRunningRun log event runId
  requireLatestRunParent log event runId
  let predecessor ← latestNonClaimEvent log event.sessionId runId
  ensure (failure.predecessorEventId = predecessor.id ∧ failure.cancellationGeneration = 0 ∧
    latestCancellationGeneration log event.sessionId runId = 0 ∧
    ((runEvents log event.sessionId runId).any fun stored =>
      stored.payload.isRootPlanningFailure) = false ∧
    identityCount log (fun stored => match stored with
      | .rootPlanningStageFailed held => held.failureId = failure.failureId
      | _ => false) = 0 ∧
    validStageFailureClassification failure.failedStage failure.reason = true ∧
    event.provenance.rawArtifact = some failure.evidenceArtifact) .invalidStateEvent
  let _ ← requireCurrentClaimOwner log event runId failure.cancellationGeneration
  let prepared := preparedInferences log event.sessionId runId
  ensure ((prepared.all fun stored => stored.prepared.stageContext.isSome) = true)
    .invalidStateEvent
  let first ← expect .invalidStateEvent <|
    prepared.head?.bind fun stored => stored.prepared.stageContext
  let policy := (stageIdentity first).executionPolicyArtifact
  let replayed := observedReplayStage prepared predecessor.payload
  let subject ← match replayed.bind fun stored => stored.prepared.stageContext with
    | some stage => observedFailureSubject failure policy prepared stage
    | none => nextFailureSubject failure policy prepared predecessor.payload first
  let expectedBackend := expectedLineageBackendSelection run subject.lineage
  ensure (failure.modelSubject = subject) .invalidStateEvent
  requireExactModelProvenance event expectedBackend (some failure.evidenceArtifact)
  ensure ((replayed.all fun stored => stored.event.provenance.backend.isSome →
    stored.event.provenance.backend = some expectedBackend ∧
      predecessor.provenance.backend = some expectedBackend) = true) .invalidStateEvent
  let evidence ← readCanonicalJsonArtifact env.root documents.rootPlanningStageFailure
    failure.evidenceArtifact rootPlanningStageFailureMediaType
  ensure (evidence.schemaVersion = 1 ∧ evidence.runId = runId ∧
    evidence.failedStage = failure.failedStage ∧
    evidence.predecessorEventId = failure.predecessorEventId ∧
    evidence.executionPolicySha256.value = failure.executionPolicyArtifact.sha256 ∧
    evidence.reason = failure.reason ∧ evidence.modelSubject = failure.modelSubject)
    .invalidStateEvent

end Failures

end BirdCode.Store
