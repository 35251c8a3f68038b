import BirdCode.Store.RootDecisions

/-! The turns of the planner: what prepares a turn over its evidence, what closes it across the
claims that came since, and what decides it. -/
namespace BirdCode.Store

def plannerTurnContractVersion : UInt32 := 1
def plannerEvidenceContractVersion : UInt32 := 2
def parallelReconnaissanceV1PlannerAttemptsPerStage : ℕ := 2
def parallelReconnaissanceV1MaxPlannerTurns : ℕ := 8
def parallelReconnaissanceV1MaxPlannerOutputTokensPerCall : UInt64 := 16384
def parallelReconPlannerTerminalMaxClaimEvents : ℕ := 257

def plannerV2FinalizationProducer := "birdcode-store-planner-v2-finalization-v1"

namespace EventPayload

def turnPrepared : EventPayload → Option PlannerTurnPrepared
  | .plannerTurnPrepared prepared => some prepared
  | _ => none

def turnAccepted : EventPayload → Option PlannerTurnAccepted
  | .plannerTurnAccepted accepted => some accepted
  | _ => none

def isTurnDecisionOf (turnId : PlannerTurnId) : EventPayload → Bool
  | .plannerTurnAccepted accepted => accepted.turnId = turnId
  | .plannerTurnRejected rejected => rejected.turnId = turnId
  | _ => false

def isTurnTerminalOf (turnId : PlannerTurnId) : EventPayload → Bool
  | .plannerTurnObserved observed => observed.turnId = turnId
  | .plannerTurnUnknown unknown => unknown.turnId = turnId
  | payload => payload.isTurnDecisionOf turnId

/-- The Observed or Unknown of a Prepared event. -/
def closesTurn (preparedEventId : EventId) : EventPayload → Bool
  | .plannerTurnObserved observed => observed.preparedEventId = preparedEventId
  | .plannerTurnUnknown unknown => unknown.preparedEventId = preparedEventId
  | _ => false

end EventPayload

/-- A planner turn as it was prepared. -/
structure StoredTurn where
  event : EventEnvelope
  prepared : PlannerTurnPrepared
  deriving DecidableEq

variable (documents : PlanningDocuments) (env : Environment) (log : EventLog)
  (event : EventEnvelope) (runId : RunId)

section Queries

def storedTurn (eventId : EventId) : Except StoreError StoredTurn := do
  let preparedEvent ← storedEventForRun log event.sessionId runId eventId
  let prepared ← expect .invalidStateEvent preparedEvent.payload.turnPrepared
  return ⟨preparedEvent, prepared⟩

def preparedTurns : List StoredTurn :=
  (runEvents log event.sessionId runId).filterMap fun stored =>
    stored.payload.turnPrepared.map (StoredTurn.mk stored)

/-- `planner_turn_terminal_count`, over the whole table. -/
def plannerTurnTerminalCount (turnId : PlannerTurnId) : ℕ :=
  identityCount log (EventPayload.isTurnTerminalOf turnId)

/-- `planner_turn_decision_count`. -/
def plannerTurnDecisionCount (turnId : PlannerTurnId) : ℕ :=
  identityCount log (EventPayload.isTurnDecisionOf turnId)

/-- `latest_planner_prepared_before`. -/
def latestPlannerPreparedBefore (upperSequenceExclusive : ℕ) : Option StoredTurn :=
  (latestBefore log event.sessionId runId (fun payload => payload.turnPrepared.isSome)
    upperSequenceExclusive).bind fun stored =>
      stored.payload.turnPrepared.map (StoredTurn.mk stored)

/-- `planner_v2_retry_terminal_for_prepared`: a Prepared has at most one terminal. -/
def retryTerminalForPrepared (preparedEventId : EventId) (upperSequenceExclusive : ℕ) :
    Except StoreError (Option EventEnvelope) := do
  let terminals := (runEvents log event.sessionId runId).filter fun stored =>
    stored.sequence < upperSequenceExclusive ∧ stored.payload.closesTurn preparedEventId = true
  ensure (terminals.length ≤ 1) .invalidStateEvent
  return terminals.head?

end Queries

section Evidence

/-- `planner_evidence_bindings`. -/
def plannerEvidenceBindings (packet : PlannerEvidencePacket) : List PlannerEvidenceBinding :=
  packet.entries.map fun entry => ⟨entry.evidenceId, entry.normalizedContentDigest⟩

/-- A child's terminal of the run, before the event that cites it. -/
def citedFinish (binding : ChildExecutionBinding) (finishedEventId : EventId) :
    Except StoreError (EventEnvelope × ChildExecutionFinished) := do
  let finished ← storedEventForRun log event.sessionId runId finishedEventId
  let .childExecutionFinished terminal := finished.payload | .error .invalidStateEvent
  ensure (finished.sequence < event.sequence ∧ terminal.binding = binding) .invalidStateEvent
  return (finished, terminal)

/-- `validate_planner_durable_evidence_material`. -/
def validatePlannerDurableEvidenceMaterial : PlannerEvidenceMaterial → Except StoreError Unit
  | .acceptedRootPlan evidence => do
    let source ← storedEventForRun log event.sessionId runId evidence.acceptedPlanEventId
    let .planSemanticReviewAccepted accepted := source.payload | .error .invalidStateEvent
    ensure (source.sequence < event.sequence ∧
      accepted.candidate.planArtifact = evidence.acceptedPlanArtifact ∧
      accepted.candidate.planDigest = evidence.acceptedPlanDigest ∧
      accepted.candidate.planRevision = evidence.acceptedPlanRevision) .invalidStateEvent
  | .childHandoff evidence => do
    let handoff ← storedEventForRun log event.sessionId runId evidence.handoffEventId
    let (finished, terminal) ← citedFinish log event runId evidence.binding
      evidence.finishedEventId
    let .childHandoffCommitted committed := handoff.payload | .error .invalidStateEvent
    ensure (handoff.sequence < finished.sequence ∧ committed.binding = evidence.binding ∧
      committed.handoffId = evidence.handoffId ∧
      committed.handoffArtifact = evidence.handoffArtifact ∧
      committed.handoffDigest = evidence.handoffDigest ∧
      terminal.handoffEventId = some evidence.handoffEventId ∧
      (match terminal.outcome with
        | .succeeded .. => true
        | _ => false) = true) .invalidStateEvent
  | .childFailed evidence => do
    let (_, terminal) ← citedFinish log event runId evidence.binding evidence.finishedEventId
    ensure (terminal.outcome = .failed evidence.kind evidence.retry evidence.cause ∧
      digestMatchesArtifact evidence.evidenceDigest evidence.evidenceArtifact = true)
      .invalidStateEvent
  | .childCancelled evidence => do
    let (_, terminal) ← citedFinish log event runId evidence.binding evidence.finishedEventId
    ensure (terminal.outcome = .cancelled evidence.cause) .invalidStateEvent

/-- The root plan that the first entry of a packet binds. -/
def rootPlanEvidence (packet : PlannerEvidencePacket) : Option PlannerAcceptedRootPlanEvidence :=
  packet.entries.head?.bind fun entry => match entry.material with
    | .acceptedRootPlan root => some root
    | _ => none

/-- An initial delegation starts from the empty plan of the accepted root plan. -/
def isEmptyRootPlan (snapshot : PlannerPlanSnapshot) : Bool :=
  snapshot.schemaVersion = 1 && snapshot.revision = 0 && snapshot.parentPlanSha256.isNone &&
    snapshot.strategySummary.isEmpty && snapshot.verificationTargets.isEmpty &&
    snapshot.workOrders.isEmpty

/-- `validate_planner_base_authority`. -/
def validatePlannerBaseAuthority (prepared : PlannerTurnPrepared)
    (snapshot : PlannerPlanSnapshot) : Except StoreError Unit := do
  ensure (snapshot.obligationSnapshotSha256 = prepared.obligationSnapshotDigest.value ∧
    snapshot.acceptancePolicySha256 = prepared.acceptancePolicyDigest.value) .invalidStateEvent
  match prepared.purpose with
  | .initialDelegation =>
    let root ← expect .invalidStateEvent (rootPlanEvidence prepared.durableEvidencePacket)
    let anchor ← storedEventForRun log event.sessionId runId prepared.basePlan.acceptedEventId
    let .planSemanticReviewAccepted _ := anchor.payload | .error .invalidStateEvent
    ensure (anchor.sequence < event.sequence ∧ root.acceptedPlanEventId = anchor.id ∧
      prepared.basePlan.revision = 0 ∧ isEmptyRootPlan snapshot = true) .invalidStateEvent
  | .evidenceReplan =>
    let previous ← expect .invalidStateEvent <| latestBefore log event.sessionId runId
      (fun payload => payload.turnAccepted.isSome) event.sequence
    ensure (previous.id = prepared.basePlan.acceptedEventId ∧
      (previous.payload.turnAccepted.any fun accepted =>
        accepted.resultingPlan = prepared.basePlan) = true) .invalidStateEvent

/-- The two packets bind the same evidence in the same order. -/
def promptBindsDurableEvidence (prompt : PromptEvidencePacket) (durable : PlannerEvidencePacket) :
    Bool :=
  prompt.entries.map Prod.fst = (plannerEvidenceBindings durable).map fun binding =>
    ⟨documents.evidenceIdText binding.evidenceId, binding.normalizedContentDigest.value⟩

end Evidence

section Prepared

variable (prepared : PlannerTurnPrepared)

/-- The run, the claim and the contract of a Prepared. -/
def validateTurnAuthority (run : Run) (stored : StoredClaim) : Except StoreError Unit :=
  let turns := preparedTurns log event runId
  ensure (run.spec.purpose = .parallelRepositoryReconnaissanceV1 ∧
    turns.length < parallelReconnaissanceV1MaxPlannerTurns ∧
    (turns.countP fun turn => turn.prepared.purpose = prepared.purpose) <
      parallelReconnaissanceV1PlannerAttemptsPerStage ∧
    prepared.schemaVersion = plannerTurnContractVersion ∧
    prepared.durableEvidencePacket.schemaVersion = plannerEvidenceContractVersion ∧
    prepared.durableEvidenceDelta.schemaVersion = plannerEvidenceContractVersion ∧
    prepared.durableEvidencePacket.purpose = prepared.purpose ∧
    prepared.durableEvidenceDelta.purpose = prepared.purpose ∧
    prepared.durableEvidencePacket.contextManifestDigest = prepared.contextManifestDigest ∧
    event.actorId = stored.event.actorId ∧ stored.event.id = prepared.claimEventId ∧
    stored.claim.claimId = prepared.claimId ∧
    stored.claim.claimGeneration = prepared.claimGeneration ∧
    stored.claim.runtimeInstanceId = prepared.claimRuntimeInstanceId ∧
    stored.claim.cancellationGeneration = prepared.cancellationGeneration ∧
    prepared.preparedAt.runtimeInstanceId = prepared.claimRuntimeInstanceId) .invalidStateEvent

/-- The model, its backend and the reservation of a Prepared. -/
def validateTurnModel : Except StoreError Unit :=
  let budget := prepared.outputBudget
  let reservation := prepared.tokenReservation
  ensure (prepared.backendModel.kind = .model ∧
    env.identityIntegrity prepared.backendInstance = true ∧
    prepared.backendInstance.backendId = prepared.backendModel.backendId ∧
    prepared.backendInstance.configuredDeploymentId = prepared.modelLineage.deploymentId ∧
    prepared.modelLineage.backendId = prepared.backendModel.backendId ∧
    prepared.modelLineage.modelId = prepared.backendModel.modelId ∧
    validLineage prepared.modelLineage = true ∧
    validChildTokenReservation reservation = true ∧
    reservation.maxOutputTokens ≤ parallelReconnaissanceV1MaxPlannerOutputTokensPerCall ∧
    budget.maxTotalReservedOutputTokens ≠ 0 ∧ budget.maxOutputTokensPerCall ≠ 0 ∧
    budget.maxOutputTokensPerCall ≤ parallelReconnaissanceV1MaxPlannerOutputTokensPerCall ∧
    budget.maxOutputTokensPerCall ≤ budget.maxTotalReservedOutputTokens ∧
    reservation.maxOutputTokens ≤ budget.maxOutputTokensPerCall ∧
    modelTokenReservationIdentityCount log reservation.id = 0) .invalidStateEvent

/-- Every digest of a Prepared names the artifact beside it. -/
def turnDigestsMatch : Bool :=
  digestMatchesArtifact prepared.durableEvidencePacketDigest
    prepared.durableEvidencePacketArtifact &&
  digestMatchesArtifact prepared.durableEvidenceDeltaDigest
    prepared.durableEvidenceDeltaArtifact &&
  digestMatchesArtifact prepared.promptEvidencePacketDigest
    prepared.promptEvidencePacketArtifact &&
  digestMatchesArtifact prepared.promptEvidenceDeltaDigest
    prepared.promptEvidenceDeltaArtifact &&
  digestMatchesArtifact prepared.promptManifestDigest prepared.promptManifestArtifact &&
  digestMatchesArtifact prepared.promptDigest prepared.promptArtifact &&
  digestMatchesArtifact prepared.requestDigest prepared.requestArtifact

/-- The evidence documents of a Prepared, and the entries they cite. -/
def validateTurnEvidence : Except StoreError (PromptEvidencePacket × PromptEvidenceDelta) := do
  let packet ← readCanonicalJsonArtifact env.root documents.durablePacket
    prepared.durableEvidencePacketArtifact plannerDurableEvidencePacketV2MediaType
  let delta ← readCanonicalJsonArtifact env.root documents.durableDelta
    prepared.durableEvidenceDeltaArtifact plannerDurableEvidenceDeltaV2MediaType
  ensure (packet = prepared.durableEvidencePacket ∧ delta = prepared.durableEvidenceDelta)
    .invalidStateEvent
  let promptPacket ← documents.promptPacket prepared.promptEvidencePacketArtifact
  let promptDelta ← documents.promptDelta prepared.promptEvidenceDeltaArtifact
  ensure (documents.promptDeltaValid promptDelta promptPacket = true ∧
    promptPacket.purpose = prepared.purpose ∧ promptDelta.purpose = prepared.purpose ∧
    promptPacket.contextManifestSha256 = prepared.contextManifestDigest.value ∧
    promptBindsDurableEvidence documents promptPacket prepared.durableEvidencePacket = true)
    .invalidStateEvent
  prepared.durableEvidencePacket.entries.forM fun entry =>
    validatePlannerDurableEvidenceMaterial log event runId entry.material
  return (promptPacket, promptDelta)

/-- `planner_v2_terminal_authorizes_retry`. -/
def terminalAuthorizesRetry (terminal : EventEnvelope) (preparedEventId : EventId) : Bool :=
  match terminal.payload with
  | .plannerTurnObserved observed =>
    observed.preparedEventId = preparedEventId &&
      match observed.outcome with
      | .failed error => error.retry = .requiresNewAttempt
      | .succeeded .. => false
  | .plannerTurnUnknown unknown =>
    unknown.preparedEventId = preparedEventId &&
      (unknown.boundary = .restart || unknown.boundary = .shutdown ||
        unknown.boundary = .claimRenewalFailed)
  | _ => false

/-- The terminal of the previous Prepared, when it authorizes a retry. -/
def retryTerminal (previous : Option StoredTurn) : Except StoreError (Option EventEnvelope) :=
  match previous with
  | none => .ok none
  | some turn => do
    let terminal ← retryTerminalForPrepared log event runId turn.event.id event.sequence
    return terminal.filter fun terminal => terminalAuthorizesRetry terminal turn.event.id

/-- A first delegation: nothing was available before it, and the root plan is all there is. -/
def validateFirstDelegation (promptDelta : PromptEvidenceDelta) : Except StoreError Unit :=
  ensure (prepared.durableEvidenceDelta.previousPacketDigest = none ∧
    prepared.durableEvidenceDelta.previousEvidence = [] ∧
    promptDelta.previousPacketSha256 = none ∧ promptDelta.previousEvidence = [] ∧
    prepared.durableEvidencePacket.entries.length = 1 ∧
    (rootPlanEvidence prepared.durableEvidencePacket).isSome = true) .invalidStateEvent

/-- A retry repeats the evidence of the turn it retries. -/
def validateTurnRetry (turn : StoredTurn) (terminal : EventEnvelope)
    (prompt : PromptEvidencePacket × PromptEvidenceDelta) : Except StoreError Unit := do
  let previousPrompt ← documents.promptPacket turn.prepared.promptEvidencePacketArtifact
  let previousDelta ← documents.promptDelta turn.prepared.promptEvidenceDeltaArtifact
  ensure (turn.prepared.purpose = prepared.purpose ∧ turn.prepared.basePlan = prepared.basePlan ∧
    turn.prepared.durableEvidencePacket = prepared.durableEvidencePacket ∧
    turn.prepared.durableEvidenceDelta = prepared.durableEvidenceDelta ∧
    (previousPrompt, previousDelta) = prompt ∧ turn.event.sequence < terminal.sequence ∧
    terminal.sequence < event.sequence) .invalidStateEvent

/-- A replan continues the evidence of the turn before it. -/
def validateReplan (turn : StoredTurn) (promptDelta : PromptEvidenceDelta) :
    Except StoreError Unit := do
  let previousPrompt ← documents.promptPacket turn.prepared.promptEvidencePacketArtifact
  ensure (prepared.durableEvidenceDelta.previousPacketDigest =
      some turn.prepared.durableEvidencePacketDigest ∧
    prepared.durableEvidenceDelta.previousEvidence =
      plannerEvidenceBindings turn.prepared.durableEvidencePacket ∧
    promptDelta.previousPacketSha256 = some previousPrompt.packetSha256 ∧
    promptDelta.previousEvidence = previousPrompt.entries.map Prod.fst) .invalidStateEvent

/-- What a Prepared continues: nothing, the turn it retries, or the turn it replans. -/
def validateTurnContinuation (prompt : PromptEvidencePacket × PromptEvidenceDelta) :
    Except StoreError Unit := do
  let previous := latestPlannerPreparedBefore log event runId event.sequence
  let terminal ← retryTerminal log event runId previous
  match prepared.purpose, previous, terminal with
  | .initialDelegation, none, none => validateFirstDelegation prepared prompt.2
  | _, some turn, some terminal =>
    validateTurnRetry documents event prepared turn terminal prompt
  | .evidenceReplan, some turn, none => validateReplan documents prepared turn prompt.2
  | _, _, _ => .error .invalidStateEvent

/-- The evidence that the delta does not already name is what the delta makes available. -/
def newlyAvailableEvidence : List PlannerEvidenceBinding :=
  (plannerEvidenceBindings prepared.durableEvidencePacket).filter fun binding =>
    binding.evidenceId ∉ prepared.durableEvidenceDelta.previousEvidence.map
      PlannerEvidenceBinding.evidenceId

/-- `validate_planner_turn_prepared_v1`. -/
def validatePlannerTurnPrepared : Except StoreError Unit := do
  let runId ← plannerRunId event
  requireRunningRun log event runId
  requireLatestRunParent log event runId
  let run ← durableRunForEvent log event.sessionId runId
  let stored ← requireCurrentClaimOwner log event runId prepared.cancellationGeneration
  validateTurnAuthority log event runId prepared run stored
  validateTurnModel env log prepared
  ensure (turnDigestsMatch prepared = true) .invalidStateEvent
  requireExactModelProvenance event (expectedBackendSelection run prepared.backendModel)
    (some prepared.requestArtifact)
  ensure ((run.spec.limits.maxOutputTokens.all fun limit =>
      prepared.outputBudget.maxTotalReservedOutputTokens ≤ limit) = true ∧
    fitsRunLimit log event.sessionId run prepared.tokenReservation) .invalidStateEvent
  let snapshot ← documents.baseSnapshot prepared.basePlan
  validatePlannerBaseAuthority log event runId prepared snapshot
  let _ ← documents.retainedPrompt prepared snapshot
  let prompt ← validateTurnEvidence documents env log event runId prepared
  validateTurnContinuation documents log event runId prepared prompt
  ensure (prepared.durableEvidenceDelta.newlyAvailable = newlyAvailableEvidence prepared ∧
    prepared.durableEvidenceDelta.newlyAvailable ≠ []) .invalidStateEvent

end Prepared

section Continuity

inductive PlannerTerminalClaimContinuity
  | contiguous | discontinuous
  deriving DecidableEq

inductive PlannerTerminalClockBoundary
  | observed
  | unknown (boundary : UnknownInferenceBoundary)
  deriving DecidableEq

/-- `planner_terminal_clock_follows_prepared`. -/
def plannerTerminalClockFollowsPrepared (preparedAt terminalAt : RuntimeClockReading)
    (boundary : PlannerTerminalClockBoundary) : Bool :=
  preparedAt.observedAt ≤ terminalAt.observedAt &&
    if preparedAt.runtimeInstanceId = terminalAt.runtimeInstanceId then
      sameRuntimeNotBefore preparedAt terminalAt
    else
      boundary = .unknown .restart || boundary = .unknown .shutdown ||
        boundary = .unknown .claimRenewalFailed

/-- The claim that a turn was prepared under was the run's latest and unexpired there. -/
def validatePreparedClaim (turn : StoredTurn) (claim : StoredClaim) : Except StoreError Unit := do
  let latest ← expect .invalidStateEvent <|
    latestClaimForRunBefore log event.sessionId runId turn.event.sequence
  ensure (claim.event.sequence < turn.event.sequence ∧ latest.id = claim.event.id ∧
    claim.event.actorId = turn.event.actorId ∧ claim.claim.claimId = turn.prepared.claimId ∧
    claim.claim.claimGeneration = turn.prepared.claimGeneration ∧
    claim.claim.runtimeInstanceId = turn.prepared.claimRuntimeInstanceId ∧
    claim.claim.cancellationGeneration = turn.prepared.cancellationGeneration ∧
    turn.prepared.preparedAt.runtimeInstanceId = claim.claim.runtimeInstanceId ∧
    turn.prepared.preparedAt.observedAt ≤ turn.event.occurredAt ∧
    turn.event.occurredAt < claim.claim.leaseExpiresAt ∧
    turn.prepared.preparedAt.observedAt < claim.claim.leaseExpiresAt) .invalidStateEvent

/-- The claims of the run from one claim on, before a sequence. -/
def claimsFrom (first : EventEnvelope) (upperSequenceExclusive : ℕ) : List EventEnvelope :=
  (runEvents log event.sessionId runId).filter fun stored =>
    first.sequence ≤ stored.sequence ∧ stored.sequence < upperSequenceExclusive ∧
      stored.payload.isRunClaimed = true

/-- The transition between two claims that follow each other. -/
def claimTransition (prior next : StoredClaim) (continuity : PlannerTerminalClaimContinuity) :
    Except StoreError PlannerTerminalClaimContinuity := do
  let generation ← expect .invalidStateEvent (checkedAdd prior.claim.claimGeneration 1)
  ensure (next.claim.claimGeneration = generation ∧
    next.event.occurredAt < next.claim.leaseExpiresAt ∧
    prior.event.sequence < next.event.sequence) .invalidStateEvent
  return if next.event.actorId ≠ prior.event.actorId ∨
      next.claim.runtimeInstanceId ≠ prior.claim.runtimeInstanceId ∨
      next.claim.cancellationGeneration ≠ prior.claim.cancellationGeneration ∨
      prior.claim.leaseExpiresAt ≤ next.event.occurredAt then
    .discontinuous else continuity

/-- The walk over the claims after the one of the Prepared. -/
def walkClaims (state : StoredClaim × PlannerTerminalClaimContinuity) (next : EventEnvelope) :
    Except StoreError (StoredClaim × PlannerTerminalClaimContinuity) := do
  let claim ← readClaim next
  let continuity ← claimTransition state.1 claim state.2
  return (claim, continuity)

/-- `planner_terminal_claim_continuity`. -/
def plannerTerminalClaimContinuity (turn : StoredTurn) (terminalClock : RuntimeClockReading) :
    Except StoreError PlannerTerminalClaimContinuity := do
  ensure (event.runId = some runId ∧ turn.event.runId = some runId) .invalidStateEvent
  let preparedClaimEvent ← storedEventForRun log event.sessionId runId turn.prepared.claimEventId
  let preparedClaim ← readClaim preparedClaimEvent
  validatePreparedClaim log event runId turn preparedClaim
  let claims := claimsFrom log event runId preparedClaimEvent event.sequence
  let latest ← expect .invalidStateEvent <|
    latestClaimForRunBefore log event.sessionId runId event.sequence
  ensure (claims.length ≤ parallelReconPlannerTerminalMaxClaimEvents ∧
    claims.head? = some preparedClaimEvent ∧ claims.getLast? = some latest) .invalidStateEvent
  let (last, continuity) ← claims.tail.foldlM walkClaims (preparedClaim, .contiguous)
  ensure (event.actorId = last.event.actorId ∧
    terminalClock.runtimeInstanceId = last.claim.runtimeInstanceId ∧
    terminalClock.observedAt ≤ event.occurredAt ∧
    event.occurredAt < last.claim.leaseExpiresAt ∧
    terminalClock.observedAt < last.claim.leaseExpiresAt) .invalidStateEvent
  return if latestCancellationGenerationBefore log event.sessionId runId event.sequence ≠
      turn.prepared.cancellationGeneration then .discontinuous else continuity

end Continuity

section Closed

/-- `planner_prepared_for_terminal`. -/
def plannerPreparedForTerminal (turnId : PlannerTurnId) (preparedEventId : EventId) :
    Except StoreError StoredTurn := do
  let turn ← storedTurn log event runId preparedEventId
  ensure (turn.event.sequence < event.sequence ∧ turn.prepared.turnId = turnId ∧
    event.causalParent = some preparedEventId ∧ plannerTurnTerminalCount log turnId = 0)
    .invalidStateEvent
  return turn

/-- `validate_planner_turn_observed_v1`. -/
def validatePlannerTurnObserved (observed : PlannerTurnObserved) : Except StoreError Unit := do
  let runId ← plannerRunId event
  requireRunningRun log event runId
  let turn ← plannerPreparedForTerminal log event runId observed.turnId observed.preparedEventId
  let continuity ← plannerTerminalClaimContinuity log event runId turn observed.observedAt
  let run ← durableRunForEvent log event.sessionId runId
  requireExactModelProvenance event (expectedBackendSelection run turn.prepared.backendModel)
    (some observed.normalizedCompleteEvidenceArtifact)
  let outcome ← documents.turnObservation turn.prepared
    observed.normalizedCompleteEvidenceArtifact
  ensure (continuity = .contiguous ∧
    plannerTerminalClockFollowsPrepared turn.prepared.preparedAt observed.observedAt .observed =
      true ∧ observed.outcome = outcome) .invalidStateEvent

/-- The reason that a turn's Unknown records at a boundary. -/
def plannerV2UnknownReason : UnknownInferenceBoundary → UnknownInferenceOutcomeReason
  | .restart | .shutdown => .runtimeRestartedBeforeObservation
  | .claimRenewalFailed => .claimExpiredBeforeObservation
  | .deadline | .cancelled => .evidenceCommitIndeterminate

/-- What the boundary evidence of an unknown turn says. -/
def expectedTurnBoundary (turn : StoredTurn) (unknown : PlannerTurnUnknown) :
    RetainedCancellationBoundaryEvidence where
  reason := unknown.boundary
  preparedEventId := unknown.preparedEventId
  cancellationGeneration :=
    (unknown.cancellation.map ChildCancellationCause.cancellationGeneration).getD
      turn.prepared.cancellationGeneration

/-- `validate_planner_turn_unknown_v1`. -/
def validatePlannerTurnUnknown (unknown : PlannerTurnUnknown) : Except StoreError Unit := do
  let runId ← plannerRunId event
  requireRunningRun log event runId
  let turn ← plannerPreparedForTerminal log event runId unknown.turnId unknown.preparedEventId
  let _ ← plannerTerminalClaimContinuity log event runId turn unknown.boundaryAt
  let run ← durableRunForEvent log event.sessionId runId
  requireExactModelProvenance event (expectedBackendSelection run turn.prepared.backendModel)
    (some unknown.boundaryEvidenceArtifact)
  unknown.cancellation.forM (validateChildCancellationCause log event)
  ensure ((unknown.cancellation.isSome = true ↔ unknown.boundary = .cancelled) ∧
    plannerTerminalClockFollowsPrepared turn.prepared.preparedAt unknown.boundaryAt
      (.unknown unknown.boundary) = true) .invalidStateEvent
  let boundary ← readCanonicalJsonArtifact env.root documents.boundaryEvidence
    unknown.boundaryEvidenceArtifact cancellationBoundaryMediaType
  ensure (boundary = expectedTurnBoundary turn unknown ∧
    unknown.reason = plannerV2UnknownReason unknown.boundary) .invalidStateEvent

end Closed

section Decided

/-- What a decision on a turn repeats of it, with its clock and its evidence. -/
structure TurnDecision where
  turnId : PlannerTurnId
  purpose : PlannerTurnPurpose
  preparedEventId : EventId
  observedEventId : EventId
  basePlan : PlannerBasePlanBinding
  outputArtifact : ArtifactRef
  outputDigest : Sha256Digest
  validationEvidenceArtifact : ArtifactRef
  validationEvidenceDigest : Sha256Digest
  decidedAt : RuntimeClockReading

def PlannerTurnAccepted.decision (accepted : PlannerTurnAccepted) : TurnDecision where
  turnId := accepted.turnId
  purpose := accepted.purpose
  preparedEventId := accepted.preparedEventId
  observedEventId := accepted.observedEventId
  basePlan := accepted.basePlan
  outputArtifact := accepted.acceptedPromptOutputArtifact
  outputDigest := accepted.acceptedPromptOutputDigest
  validationEvidenceArtifact := accepted.validationEvidenceArtifact
  validationEvidenceDigest := accepted.validationEvidenceDigest
  decidedAt := accepted.acceptedAt

def PlannerTurnRejected.decision (rejected : PlannerTurnRejected) : TurnDecision where
  turnId := rejected.turnId
  purpose := rejected.purpose
  preparedEventId := rejected.preparedEventId
  observedEventId := rejected.observedEventId
  basePlan := rejected.basePlan
  outputArtifact := rejected.rejectedOutputArtifact
  outputDigest := rejected.rejectedOutputDigest
  validationEvidenceArtifact := rejected.validationEvidenceArtifact
  validationEvidenceDigest := rejected.validationEvidenceDigest
  decidedAt := rejected.rejectedAt

/-- What both decisions on a turn require of the log. -/
def observedTurnForDecision (decision : TurnDecision) :
    Except StoreError (StoredTurn × PlannerTurnObserved) := do
  let runId ← plannerRunId event
  requireRunningRun log event runId
  let observedEvent ← storedEventForRun log event.sessionId runId decision.observedEventId
  let .plannerTurnObserved observed := observedEvent.payload | .error .invalidStateEvent
  let turn ← storedTurn log event runId decision.preparedEventId
  ensure (event.causalParent = some observedEvent.id ∧
    turn.event.sequence < observedEvent.sequence ∧ observedEvent.sequence < event.sequence ∧
    observed.turnId = decision.turnId ∧ observed.preparedEventId = turn.event.id ∧
    observed.outcome.isSucceeded = true ∧ turn.prepared.turnId = decision.turnId ∧
    plannerTurnDecisionCount log decision.turnId = 0 ∧
    decision.purpose = turn.prepared.purpose ∧ decision.basePlan = turn.prepared.basePlan ∧
    digestMatchesArtifact decision.outputDigest decision.outputArtifact = true ∧
    digestMatchesArtifact decision.validationEvidenceDigest
      decision.validationEvidenceArtifact = true ∧
    event.provenance.backend = none ∧
    event.provenance.producer = plannerV2FinalizationProducer ∧
    event.provenance.rawArtifact = some decision.validationEvidenceArtifact ∧
    sameRuntimeNotBefore observed.observedAt decision.decidedAt = true) .invalidStateEvent
  return (turn, observed)

def delegateDirectiveIds : PlannerAcceptedDirective → List PlannerDelegateDirectiveId
  | .delegate delegations => delegations.map PlannerAcceptedDelegation.directiveId
  | _ => []

/-- `planner_delegate_directive_id_seen`, of every directive of a delegation. -/
def directiveIdsAreNew (directive : PlannerAcceptedDirective) : Bool :=
  (delegateDirectiveIds directive).Nodup &&
    log.events.all fun stored => stored.payload.turnAccepted.all fun accepted =>
      (delegateDirectiveIds accepted.resolvedDirective).all fun id =>
        id ∉ delegateDirectiveIds directive

/-- `validate_planner_turn_accepted_v1`. -/
def validatePlannerTurnAccepted (accepted : PlannerTurnAccepted) : Except StoreError Unit := do
  let (turn, observed) ← observedTurnForDecision log event accepted.decision
  documents.turnAcceptance turn.prepared observed accepted event.id
  ensure (directiveIdsAreNew log accepted.resolvedDirective = true) .invalidStateEvent

/-- `validate_planner_turn_rejected_v1`. -/
def validatePlannerTurnRejected (rejected : PlannerTurnRejected) : Except StoreError Unit := do
  let (turn, observed) ← observedTurnForDecision log event rejected.decision
  ensure (rejected.rejectedOutputArtifact.mediaType = plannerPromptOutputV2MediaType)
    .invalidStateEvent
  documents.turnRejection turn.prepared observed rejected

end Decided

end BirdCode.Store
