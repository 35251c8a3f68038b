import BirdCode.Store.PlanningDocuments
import BirdCode.Store.Tables

/-! The stages of root planning: what prepares an inference of a stage and what closes it. -/
namespace BirdCode.Store

namespace EventPayload

def inferencePrepared : EventPayload → Option PlannerInferencePrepared
  | .plannerInferencePrepared prepared => some prepared
  | _ => none

def planAccepted : EventPayload → Option PlanProposalAccepted
  | .planProposalAccepted accepted => some accepted
  | _ => none

def isInferenceTerminalOf (attemptId : InferenceAttemptId) : EventPayload → Bool
  | .plannerInferenceObserved observed => observed.attemptId = attemptId
  | .plannerInferenceOutcomeUnknown unknown => unknown.attemptId = attemptId
  | _ => false

def isPlanDecisionOf (attemptId : InferenceAttemptId) : EventPayload → Bool
  | .planProposalAccepted accepted => accepted.inferenceAttemptId = attemptId
  | .planProposalRejected rejected => rejected.inferenceAttemptId = attemptId
  | _ => false

def isReviewDecisionOf (attemptId : InferenceAttemptId) : EventPayload → Bool
  | .planSemanticReviewAccepted accepted => accepted.inferenceAttemptId = attemptId
  | .planSemanticReviewRejected rejected => rejected.inferenceAttemptId = attemptId
  | _ => false

/-- What `parent_attempt_is_terminal` selects. -/
def endsAttempt (attemptId : InferenceAttemptId) (payload : EventPayload) : Bool :=
  payload.isInferenceTerminalOf attemptId || payload.isPlanDecisionOf attemptId ||
    payload.isReviewDecisionOf attemptId

end EventPayload

/-- A Prepared of root planning as it was committed. -/
structure StoredInference where
  event : EventEnvelope
  prepared : PlannerInferencePrepared
  deriving DecidableEq

section Stages

structure StageIdentity where
  modelActorId : ActorId
  modelLineage : ModelLineage
  executionPolicyArtifact : ArtifactRef
  deriving DecidableEq

def stageIdentity : PlannerStageContext → StageIdentity
  | .initialPlan actor lineage _ policy => ⟨actor, lineage, policy⟩
  | .initialReview actor lineage policy _ _ _ => ⟨actor, lineage, policy⟩
  | .repair actor lineage policy _ _ _ _ => ⟨actor, lineage, policy⟩
  | .finalReview actor lineage policy _ _ _ _ => ⟨actor, lineage, policy⟩

def stageKind : PlannerStageContext → RootPlanningStage
  | .initialPlan .. => .initialPlan
  | .initialReview .. => .initialReview
  | .repair .. => .repair
  | .finalReview .. => .finalReview

def stageCandidate : PlannerStageContext → Option PlanCandidateBinding
  | .initialPlan .. => none
  | .initialReview _ _ _ _ _ candidate => some candidate
  | .repair _ _ _ _ candidate _ _ => some candidate
  | .finalReview _ _ _ _ _ _ candidate => some candidate

def reviewCriticPolicyArtifact : PlannerStageContext → Option ArtifactRef
  | .initialReview _ _ _ policy _ _ => some policy
  | .finalReview _ _ _ policy _ _ _ => some policy
  | .initialPlan .. | .repair .. => none

def isProducerStage : PlannerStageContext → Bool
  | .initialPlan .. | .repair .. => true
  | .initialReview .. | .finalReview .. => false

def RootPlanningStage.role : RootPlanningStage → RootPlanningModelRole
  | .initialPlan | .repair => .producer
  | .initialReview | .finalReview => .independentCritic

/-- The subject of `stage_model_subject`. -/
def stageModelSubject (stage : PlannerStageContext) : RootPlanningModelSubject where
  role := (stageKind stage).role
  lineage := (stageIdentity stage).modelLineage

/-- The stages prepared before a stage. -/
def requiredPrefixOf : RootPlanningStage → List RootPlanningStage
  | .initialPlan => []
  | .initialReview => [.initialPlan]
  | .repair => [.initialPlan, .initialReview]
  | .finalReview => [.initialPlan, .initialReview, .repair]

/-- `!value.is_empty() && value.trim() == value && value.len() <= 512`. -/
def validLineageText (value : String) : Bool :=
  !value.isEmpty && (value.toList.head?.all fun c => !isWhitespace c) &&
    (value.toList.getLast?.all fun c => !isWhitespace c) && value.utf8ByteSize ≤ 512

def validLineage (lineage : ModelLineage) : Bool :=
  [lineage.backendId, lineage.modelId, lineage.deploymentId,
    lineage.independenceDomainId].all validLineageText

def supportsRootPlanning : RunPurpose → Bool
  | .planOnly | .parallelRepositoryReconnaissanceV1 => true
  | .execute => false

end Stages

variable (documents : PlanningDocuments) (env : Environment) (log : EventLog)

section State

variable (sessionId : SessionId) (runId : RunId)

/-- `prepared_events_for_run`. -/
def preparedInferences : List StoredInference :=
  (runEvents log sessionId runId).filterMap fun event =>
    event.payload.inferencePrepared.map (StoredInference.mk event)

def preparedInferenceForAttempt (attemptId : InferenceAttemptId) :
    Except StoreError StoredInference :=
  expect .invalidStateEvent <| (preparedInferences log sessionId runId).find? fun stored =>
    stored.prepared.attemptId = attemptId

def firstPreparedInference : Option PlannerInferencePrepared :=
  (preparedInferences log sessionId runId).head?.map StoredInference.prepared

/-- The Prepared at an event. -/
def storedInference (eventId : EventId) : Except StoreError StoredInference := do
  let event ← storedEventForRun log sessionId runId eventId
  let prepared ← expect .invalidStateEvent event.payload.inferencePrepared
  return ⟨event, prepared⟩

def latestPlanAccepted : Option PlanProposalAccepted :=
  (latest log sessionId runId fun payload => payload.planAccepted.isSome).bind fun event =>
    event.payload.planAccepted

def currentPlanBase : Option (UInt64 × Sha256Digest) :=
  (latestPlanAccepted log sessionId runId).map fun accepted =>
    (accepted.acceptedPlanRevision, accepted.acceptedPlanDigest)

def genesisPlanDigest : Except StoreError (Option Sha256Digest) :=
  match firstPreparedInference log sessionId runId with
  | none => .ok none
  | some first => do
    ensure (first.planRevision = 0) .invalidStateEvent
    return some first.planDigest

def requireCurrentPlanBase (revision : UInt64) (digest : Sha256Digest)
    (allowFirstGenesis : Bool) : Except StoreError Unit :=
  match currentPlanBase log sessionId runId with
  | some current => ensure (current = (revision, digest)) .invalidStateEvent
  | none => do
    ensure (revision = 0) .invalidStateEvent
    let genesis ← genesisPlanDigest log sessionId runId
    match genesis with
    | some genesis => ensure (genesis = digest) .invalidStateEvent
    | none => ensure (allowFirstGenesis = true) .invalidStateEvent

/-- The last event that ends an attempt, after the attempt was prepared. -/
def attemptEnd (parent : StoredInference) : Option EventEnvelope :=
  ((runEvents log sessionId runId).filter fun event =>
    parent.event.sequence < event.sequence ∧
      event.payload.endsAttempt parent.prepared.attemptId = true).getLast?

def parentAttemptIsTerminal (parentAttemptId : InferenceAttemptId) : Except StoreError Bool := do
  let parent ← preparedInferenceForAttempt log sessionId runId parentAttemptId
  return match (attemptEnd log sessionId runId parent).map EventEnvelope.payload with
  | none => false
  | some (.plannerInferenceObserved observed) =>
    match observed.outcome with
    | .failed error => error.retry = .requiresNewAttempt
    | .succeeded .. => false
  | some _ => true

def validateCandidateBinding (candidate : PlanCandidateBinding) :
    Except StoreError PlanProposalAccepted := do
  let proposalEvent ← storedEventForRun log sessionId runId candidate.proposalEventId
  let accepted ← expect .invalidStateEvent proposalEvent.payload.planAccepted
  ensure (accepted.acceptedPlanRevision = candidate.planRevision ∧
    accepted.acceptedPlanDigest = candidate.planDigest ∧
    accepted.acceptedPlanArtifact = candidate.planArtifact) .invalidStateEvent
  return accepted

end State

section StageContext

/-- A reviewer is another actor, of another domain and not the same model. -/
def validateReviewerIndependence (reviewerActor : ActorId) (reviewerLineage : ModelLineage)
    (producerStage : PlannerStageContext) : Except StoreError Unit :=
  let producer := stageIdentity producerStage
  ensure (reviewerActor ≠ producer.modelActorId ∧
    reviewerLineage.independenceDomainId ≠ producer.modelLineage.independenceDomainId ∧
    ¬(reviewerLineage.backendId = producer.modelLineage.backendId ∧
      reviewerLineage.modelId = producer.modelLineage.modelId)) .invalidStateEvent

variable (event : EventEnvelope) (runId : RunId) (prepared : PlannerInferencePrepared)
  (previous : List StoredInference)

/-- The stage of the parent attempt, and the attempt. -/
def parentStage : Except StoreError (InferenceAttemptId × PlannerStageContext) := do
  let parentAttemptId ← expect .invalidStateEvent prepared.parentAttemptId
  let parent ← preparedInferenceForAttempt log event.sessionId runId parentAttemptId
  let stage ← expect .invalidStateEvent parent.prepared.stageContext
  return (parentAttemptId, stage)

/-- What a review requires of the producer stage it reviews. -/
def validateReviewStage (stage : PlannerStageContext) (producer : RootPlanningStage)
    (candidate : PlanCandidateBinding) : Except StoreError Unit := do
  let (parentAttemptId, parent) ← parentStage log event runId prepared
  let accepted ← validateCandidateBinding log event.sessionId runId candidate
  ensure (stageKind parent = producer ∧ accepted.inferenceAttemptId = parentAttemptId ∧
    prepared.planRevision = candidate.planRevision ∧ prepared.planDigest = candidate.planDigest)
    .invalidStateEvent
  validateReviewerIndependence (stageIdentity stage).modelActorId
    (stageIdentity stage).modelLineage parent

/-- What the repair requires of the review that authorized it. -/
def validateRepairStage (lineage : ModelLineage) (candidate : PlanCandidateBinding)
    (triggeringReviewEventId : EventId) (requiredFindingIds : List String) :
    Except StoreError Unit := do
  let (parentAttemptId, parent) ← parentStage log event runId prepared
  ensure (stageKind parent = .initialReview) .invalidStateEvent
  let reviewEvent ← storedEventForRun log event.sessionId runId triggeringReviewEventId
  let .planSemanticReviewRejected review := reviewEvent.payload | .error .invalidStateEvent
  let _ ← validateCandidateBinding log event.sessionId runId candidate
  let initial ← expect .invalidStateEvent <|
    previous.head?.bind fun stored => stored.prepared.stageContext
  ensure (review.inferenceAttemptId = parentAttemptId ∧
    review.disposition = .repairOnceAuthorized ∧ review.candidate = candidate ∧
    review.requiredFindingIds = requiredFindingIds ∧ requiredFindingIds ≠ [] ∧
    requiredFindingIds.length ≤ 32 ∧ requiredFindingIds.Nodup ∧
    (requiredFindingIds.all fun finding => !finding.isEmpty) = true ∧
    prepared.planRevision = candidate.planRevision ∧
    prepared.planDigest = candidate.planDigest ∧ stageKind initial = .initialPlan ∧
    lineage = (stageIdentity initial).modelLineage) .invalidStateEvent

/-- The rules of each stage. -/
def validateStage : PlannerStageContext → Except StoreError Unit
  | .initialPlan .. =>
    ensure (previous = [] ∧ prepared.parentAttemptId = none ∧ prepared.planRevision = 0)
      .invalidStateEvent
  | stage@(.initialReview _ _ _ _ reviewRound candidate) => do
    ensure (reviewRound = 1) .invalidStateEvent
    validateReviewStage log event runId prepared stage .initialPlan candidate
  | .repair _ lineage _ repairOrdinal candidate triggeringReviewEventId requiredFindingIds => do
    ensure (repairOrdinal = 1) .invalidStateEvent
    validateRepairStage log event runId prepared previous lineage candidate
      triggeringReviewEventId requiredFindingIds
  | stage@(.finalReview _ lineage _ _ reviewRound repairOrdinal candidate) => do
    let initialReviewer ← expect .invalidStateEvent <|
      previous[1]?.bind fun stored => stored.prepared.stageContext
    ensure (reviewRound = 2 ∧ repairOrdinal = 1 ∧
      lineage = (stageIdentity initialReviewer).modelLineage) .invalidStateEvent
    validateReviewStage log event runId prepared stage .repair candidate

/-- `validate_planner_stage_context`. -/
def validatePlannerStageContext (run : Run) : Except StoreError Unit :=
  let previous := preparedInferences log event.sessionId runId
  match run.spec.planAcceptance, prepared.stageContext with
  | .legacyMechanicalOnlyV4, none =>
    ensure ((previous.all fun stored => stored.prepared.stageContext.isNone) = true)
      .invalidStateEvent
  | .independentSemanticReviewV1, some stage => do
    let identity := stageIdentity stage
    ensure (previous.length < 4 ∧
      previous.map (fun stored => stored.prepared.stageContext.map stageKind) =
        (requiredPrefixOf (stageKind stage)).map some) .invalidStateEvent
    ensure (validLineage identity.modelLineage = true ∧
      identity.modelLineage.backendId = prepared.backendModel.backendId ∧
      identity.modelLineage.modelId = prepared.backendModel.modelId ∧
      (previous.all fun stored => stored.prepared.stageContext.all fun held =>
        (stageIdentity held).modelActorId ≠ identity.modelActorId) = true ∧
      (previous.head?.all fun first => first.prepared.stageContext.any fun held =>
        (stageIdentity held).executionPolicyArtifact = identity.executionPolicyArtifact) = true)
      .invalidStateEvent
    validateStage log event runId prepared previous stage
  | _, _ => .error .invalidStateEvent

end StageContext

section Prepared

variable (event : EventEnvelope) (prepared : PlannerInferencePrepared)

/-- `validate_critic_policy_artifact`, of a review stage. -/
def validateCriticPolicyArtifact (runId : RunId) (prepared : PlannerInferencePrepared)
    (stage : PlannerStageContext) : Except StoreError Unit :=
  match reviewCriticPolicyArtifact stage with
  | none => .ok ()
  | some artifact => do
    let (session, run) ← durableSessionAndRun log runId event.sessionId
    let initial ← expect .invalidStateEvent (firstPreparedInference log event.sessionId runId)
    documents.criticPolicy session run initial prepared stage artifact

/-- The reservation, the backend and the identities of a Prepared. -/
def validateInferenceIdentity : Except StoreError Unit :=
  ensure (prepared.tokenReservation.reservedTokens ≠ 0 ∧
    prepared.tokenReservation.maxOutputTokens ≠ 0 ∧
    prepared.tokenReservation.maxOutputTokens ≤ prepared.tokenReservation.reservedTokens ∧
    (prepared.backendInstance.any fun identity => env.identityIntegrity identity &&
      identity.backendId = prepared.backendModel.backendId &&
      (prepared.stageContext.all fun stage => identity.configuredDeploymentId =
        (stageIdentity stage).modelLineage.deploymentId)) = true ∧
    identityCount log (fun stored => stored.inferencePrepared.any fun held =>
      held.attemptId = prepared.attemptId) = 0 ∧
    modelTokenReservationIdentityCount log prepared.tokenReservation.id = 0) .invalidStateEvent

/-- The first attempt at a plan has no parent, a later one has a terminal parent. -/
def validateParentAttempt (runId : RunId) : Except StoreError Unit :=
  match prepared.parentAttemptId with
  | none =>
    ensure ((preparedInferences log event.sessionId runId).countP (fun stored =>
      stored.prepared.planRevision = prepared.planRevision ∧
        stored.prepared.planDigest = prepared.planDigest) = 0) .invalidStateEvent
  | some parentAttemptId => do
    ensure (parentAttemptId ≠ prepared.attemptId) .invalidStateEvent
    let terminal ← parentAttemptIsTerminal log event.sessionId runId parentAttemptId
    ensure (terminal = true) .invalidStateEvent

/-- Every Prepared of a run is bound to the snapshots of the first. -/
def keepsFirstBindings (runId : RunId) : Bool :=
  (firstPreparedInference log event.sessionId runId).all fun first =>
    first.obligationSnapshotDigest = prepared.obligationSnapshotDigest &&
    first.acceptancePolicyDigest = prepared.acceptancePolicyDigest &&
    first.plannerPolicyDigest = prepared.plannerPolicyDigest

/-- A producer runs on the backend the run selected. -/
def producerBackendMatches (run : Run) : Bool :=
  run.spec.backend.backendId = prepared.backendModel.backendId &&
    run.spec.backend.kind = prepared.backendModel.kind &&
    run.spec.backend.model.all fun model => model = prepared.backendModel.modelId

/-- `validate_planner_inference_prepared`. -/
def validatePlannerInferencePrepared : Except StoreError Unit := do
  let runId ← plannerRunId event
  requireRunningRun log event runId
  ensure (latestCancellationGeneration log event.sessionId runId = 0) .invalidStateEvent
  requireLatestRunParent log event runId
  let _ ← requireCurrentClaimOwner log event runId prepared.cancellationGeneration
  let run ← durableRunForEvent log event.sessionId runId
  validatePlannerStageContext log event runId prepared run
  prepared.stageContext.forM (validateCriticPolicyArtifact documents log event runId prepared)
  validateInferenceIdentity env log prepared
  validateParentAttempt log event prepared runId
  ensure (keepsFirstBindings log event prepared runId = true) .invalidStateEvent
  requireCurrentPlanBase log event.sessionId runId prepared.planRevision prepared.planDigest true
  prepared.stageContext.forM fun stage =>
    documents.stageExecutionPolicy prepared stage run.spec.limits.maxOutputTokens
  ensure (supportsRootPlanning run.spec.purpose = true ∧
    (prepared.stageContext.all isProducerStage = true →
      producerBackendMatches prepared run = true)) .invalidStateEvent
  whenever (prepared.stageContext.isSome = true)
    (requireExactModelProvenance event (expectedBackendSelection run prepared.backendModel) none)
  ensure (fitsRunLimit log event.sessionId run prepared.tokenReservation) .invalidStateEvent

end Prepared

section Closed

variable (event : EventEnvelope)

/-- `inference_terminal_count`. -/
def inferenceTerminalCount (runId : RunId) (attemptId : InferenceAttemptId) : ℕ :=
  (runEvents log event.sessionId runId).countP fun stored =>
    stored.payload.isInferenceTerminalOf attemptId

/-- A stage was prepared under the backend of its model and without a raw artifact. -/
def preparedUnderBackend (stored : StoredInference) (run : Run) : Bool :=
  stored.event.provenance.backend =
      some (expectedBackendSelection run stored.prepared.backendModel) &&
    stored.event.provenance.rawArtifact.isNone

/-- What the evidence of an observed stage must say. -/
def validateObservedEvidence (runId : RunId) (stored : StoredInference)
    (observed : PlannerInferenceObserved) : Except StoreError Unit := do
  let run ← durableRunForEvent log event.sessionId runId
  ensure (preparedUnderBackend stored run = true) .invalidStateEvent
  requireExactModelProvenance event (expectedBackendSelection run stored.prepared.backendModel)
    (some observed.normalizedCompleteEvidenceArtifact)
  let outcome ← documents.inferenceObservation stored.prepared
    observed.normalizedCompleteEvidenceArtifact
  ensure (observed.outcome = outcome) .invalidStateEvent

/-- A success reports the model of the request and a usage within the reservation. -/
def reportedWithinReservation (prepared : PlannerInferencePrepared) :
    PlannerInferenceObservation → Bool
  | .succeeded reported usage =>
    reported = prepared.backendModel && validChildTokenUsage usage prepared.tokenReservation
  | .failed _ => true

/-- `validate_planner_inference_observed`. -/
def validatePlannerInferenceObserved (observed : PlannerInferenceObserved) :
    Except StoreError Unit := do
  let runId ← plannerRunId event
  requireRunningRun log event runId
  let stored ← storedInference log event.sessionId runId observed.preparedEventId
  ensure (event.causalParent = some stored.event.id ∧ event.actorId = stored.event.actorId ∧
    observed.attemptId = stored.prepared.attemptId ∧
    observed.tokenReservationId = stored.prepared.tokenReservation.id ∧
    inferenceTerminalCount log event runId observed.attemptId = 0) .invalidStateEvent
  let _ ← requireActiveClaimOwner log event runId
  whenever (stored.prepared.stageContext.isSome = true)
    (validateObservedEvidence documents log event runId stored observed)
  ensure (reportedWithinReservation stored.prepared observed.outcome = true) .invalidStateEvent

/-- The boundaries that a reason of root planning can be recorded for. -/
def inferenceBoundaryMatches : UnknownInferenceOutcomeReason → UnknownInferenceBoundary → Bool
  | .runtimeRestartedBeforeObservation, .restart
  | .runtimeRestartedBeforeObservation, .shutdown
  | .runtimeRestartedBeforeObservation, .cancelled => true
  | .claimExpiredBeforeObservation, .claimRenewalFailed => true
  | .evidenceCommitIndeterminate, .deadline
  | .evidenceCommitIndeterminate, .cancelled => true
  | _, _ => false

/-- What the boundary evidence of an unknown stage must say. -/
def validateUnknownBoundary (runId : RunId) (stored : StoredInference)
    (unknown : PlannerInferenceOutcomeUnknown) : Except StoreError Unit := do
  let run ← durableRunForEvent log event.sessionId runId
  ensure (preparedUnderBackend stored run = true) .invalidStateEvent
  let boundaryArtifact ← expect .invalidStateEvent event.provenance.rawArtifact
  requireExactModelProvenance event (expectedBackendSelection run stored.prepared.backendModel)
    (some boundaryArtifact)
  let boundary ← readCanonicalJsonArtifact env.root documents.boundaryEvidence boundaryArtifact
    cancellationBoundaryMediaType
  ensure (boundary.preparedEventId = stored.event.id ∧
    boundary.cancellationGeneration = unknown.cancellationGeneration ∧
    inferenceBoundaryMatches unknown.reason boundary.reason = true) .invalidStateEvent

/-- `validate_planner_inference_unknown`. -/
def validatePlannerInferenceUnknown (unknown : PlannerInferenceOutcomeUnknown) :
    Except StoreError Unit := do
  let runId ← plannerRunId event
  requireRunningRun log event runId
  let stored ← storedInference log event.sessionId runId unknown.preparedEventId
  let _ ← requireCurrentClaimOwner log event runId unknown.cancellationGeneration
  ensure (event.causalParent = some stored.event.id ∧
    unknown.attemptId = stored.prepared.attemptId ∧
    unknown.tokenReservationId = stored.prepared.tokenReservation.id ∧
    inferenceTerminalCount log event runId unknown.attemptId = 0) .invalidStateEvent
  whenever (stored.prepared.stageContext.isSome = true)
    (validateUnknownBoundary documents env log event runId stored unknown)

end Closed

section ReadOperations

variable (event : EventEnvelope)

/-- `validate_read_operation_prepared`. -/
def validateReadOperationPrepared (prepared : ReadOperationPrepared) : Except StoreError Unit := do
  let runId ← plannerRunId event
  requireRunningRun log event runId
  ensure (latestCancellationGeneration log event.sessionId runId = 0) .invalidStateEvent
  requireLatestRunParent log event runId
  let _ ← requireCurrentClaimOwner log event runId prepared.cancellationGeneration
  ensure (identityCount log (fun stored => match stored with
    | .readOperationPrepared held => held.operationId = prepared.operationId
    | _ => false) = 0) .invalidStateEvent
  requireCurrentPlanBase log event.sessionId runId prepared.planRevision prepared.planDigest false

/-- `validate_read_operation_observed`. -/
def validateReadOperationObserved (observed : ReadOperationObserved) : Except StoreError Unit := do
  let runId ← plannerRunId event
  requireRunningRun log event runId
  let preparedEvent ← storedEventForRun log event.sessionId runId observed.preparedEventId
  let .readOperationPrepared prepared := preparedEvent.payload | .error .invalidStateEvent
  ensure (event.causalParent = some preparedEvent.id ∧
    event.actorId = preparedEvent.actorId ∧ observed.operationId = prepared.operationId ∧
    ((runEvents log event.sessionId runId).countP fun stored => match stored.payload with
      | .readOperationObserved held => held.operationId = observed.operationId
      | _ => false) = 0) .invalidStateEvent
  let _ ← requireActiveClaimOwner log event runId

end ReadOperations

end BirdCode.Store
