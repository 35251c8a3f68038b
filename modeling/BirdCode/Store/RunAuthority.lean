import BirdCode.Store.AdmittedLogs

/-! The state and the claim that each kind of event needs of its run when it is appended. -/
namespace BirdCode.Store

variable {documents : PlanningDocuments} {env : Environment} {log log' : EventLog}
  {event : EventEnvelope} {admission : EventAdmission}

namespace EventPayload

/-- The kinds that say something of a run without being part of its work. -/
def isTelemetry : EventPayload → Bool
  | .userInput _ | .backendEvent .. | .artifactStored _ => true
  | _ => false

/-- The kinds that every append path needs a running run for. -/
def needsRunning : EventPayload → Bool
  | .sessionCreated _ | .userInput _ | .runCreated _ | .runStateChanged .. | .runClaimed _
  | .cancellationRequested _ | .repositorySnapshotCaptureClaimAdopted _
  | .repositorySnapshotLeaseReleased _ | .repositorySnapshotRecovery .. | .backendEvent ..
  | .artifactStored _ => false
  | _ => true

end EventPayload

/-- The event belongs to a running run. -/
def Running (log : EventLog) (event : EventEnvelope) (runId : RunId) : Prop :=
  event.runId = some runId ∧ requireRunningRun log event runId = .ok ()

/-- The event comes from the holder of the run's latest claim, before the claim expires. -/
def Owned (log : EventLog) (event : EventEnvelope) (runId : RunId) (stored : StoredClaim) : Prop :=
  event.runId = some runId ∧ requireActiveClaimOwner log event runId = .ok stored

/-- Both. -/
def RunningOwned (log : EventLog) (event : EventEnvelope) : Prop :=
  ∃ runId stored, Running log event runId ∧ Owned log event runId stored

/-- An event of a stored run is in the run's session. -/
theorem Appended.session {run : Run} (h : Appended documents env log event admission log')
    (hrun : storedRun log run.id = some run) (hrunId : event.runId = some run.id)
    (hcreated : event.payload.createdRun = none) : event.sessionId = run.spec.sessionId := by
  obtain ⟨other, hother, hsession⟩ := h.bound hcreated run.id hrunId
  obtain rfl : other = run := Option.some.inj (hother.symm.trans hrun)
  exact hsession.symm

theorem readClaim_eq_ok {claimEvent : EventEnvelope} {stored : StoredClaim} :
    readClaim claimEvent = .ok stored ↔
      stored.event = claimEvent ∧ claimEvent.payload = .runClaimed stored.claim := by
  obtain ⟨storedEvent, claim⟩ := stored
  unfold readClaim
  cases claimEvent.payload
  case runClaimed other =>
    simp only [Except.ok.injEq, StoredClaim.mk.injEq, EventPayload.runClaimed.injEq]
    exact ⟨fun ⟨hevent, hclaim⟩ => ⟨hevent.symm, hclaim⟩,
      fun ⟨hevent, hclaim⟩ => ⟨hevent.symm, hclaim⟩⟩
  all_goals simp

theorem requireActiveClaimOwner_eq_ok {runId : RunId} {stored : StoredClaim}
    (h : requireActiveClaimOwner log event runId = .ok stored) :
    latestClaimForRun log event.sessionId runId = some stored.event ∧
      stored.event.payload = .runClaimed stored.claim ∧
      stored.event ∈ runEvents log event.sessionId runId ∧
      stored.event.actorId = event.actorId ∧ event.occurredAt < stored.claim.leaseExpiresAt := by
  simp only [requireActiveClaimOwner, bind_eq_ok, expect_eq_ok, ensure_eq_ok] at h
  obtain ⟨claimEvent, hlatest, read, hread, _, ⟨hactor, hlease⟩, hstored⟩ := h
  cases hstored
  obtain ⟨hevent, hpayload⟩ := readClaim_eq_ok.mp hread
  rw [hevent]
  exact ⟨hlatest, hpayload, (latest_mem hlatest).1, hactor, hlease⟩

theorem requireCurrentClaimOwner_eq_ok {runId : RunId} {stored : StoredClaim} {generation : UInt64}
    (h : requireCurrentClaimOwner log event runId generation = .ok stored) :
    requireActiveClaimOwner log event runId = .ok stored ∧
      stored.claim.cancellationGeneration = generation ∧
      latestCancellationGeneration log event.sessionId runId = generation := by
  simp only [requireCurrentClaimOwner, bind_eq_ok, ensure_eq_ok] at h
  obtain ⟨owner, howner, _, hgeneration, hstored⟩ := h
  cases hstored
  exact ⟨howner, hgeneration⟩

theorem requireLatestClaimOwner_eq_ok {runId : RunId} {stored : StoredClaim}
    (h : requireLatestClaimOwner log event runId = .ok stored) :
    requireActiveClaimOwner log event runId = .ok stored ∧
      stored.claim.cancellationGeneration =
        latestCancellationGeneration log event.sessionId runId := by
  simp only [requireLatestClaimOwner, bind_eq_ok, ensure_eq_ok] at h
  obtain ⟨held, hactive, _, hgeneration, heq⟩ := h
  cases heq
  exact ⟨hactive, hgeneration⟩

theorem plannerRunId_eq_ok {runId : RunId} :
    plannerRunId event = .ok runId ↔ event.runId = some runId := by
  unfold plannerRunId
  exact expect_eq_ok

section Planning

variable {runId : RunId}

theorem rootPlanningFailed_owned {failure : RootPlanningFailed}
    (h : validateRootPlanningFailed documents env log event failure = .ok ()) :
    RunningOwned log event := by
  simp only [validateRootPlanningFailed, bind_eq_ok, plannerRunId_eq_ok] at h
  obtain ⟨runId, hrun, _, hrunning, _, _, _, _, stored, howner, _⟩ := h
  exact ⟨runId, stored, ⟨hrun, hrunning⟩, hrun, (requireCurrentClaimOwner_eq_ok howner).1⟩

theorem rootPlanningStageFailed_owned {failure : RootPlanningStageFailed}
    (h : validateRootPlanningStageFailed documents env log event failure = .ok ()) :
    RunningOwned log event := by
  simp only [validateRootPlanningStageFailed, bind_eq_ok, plannerRunId_eq_ok] at h
  obtain ⟨runId, hrun, _, _, _, _, _, hrunning, _, _, _, _, _, _, stored, howner, _⟩ := h
  exact ⟨runId, stored, ⟨hrun, hrunning⟩, hrun, (requireCurrentClaimOwner_eq_ok howner).1⟩

theorem plannerInferencePrepared_owned {prepared : PlannerInferencePrepared}
    (h : validatePlannerInferencePrepared documents env log event prepared = .ok ()) :
    RunningOwned log event := by
  simp only [validatePlannerInferencePrepared, bind_eq_ok, plannerRunId_eq_ok] at h
  obtain ⟨runId, hrun, _, hrunning, _, _, _, _, stored, howner, _⟩ := h
  exact ⟨runId, stored, ⟨hrun, hrunning⟩, hrun, (requireCurrentClaimOwner_eq_ok howner).1⟩

theorem plannerInferenceObserved_owned {observed : PlannerInferenceObserved}
    (h : validatePlannerInferenceObserved documents log event observed = .ok ()) :
    RunningOwned log event := by
  simp only [validatePlannerInferenceObserved, bind_eq_ok, plannerRunId_eq_ok] at h
  obtain ⟨runId, hrun, _, hrunning, _, _, _, _, stored, howner, _⟩ := h
  exact ⟨runId, stored, ⟨hrun, hrunning⟩, hrun, howner⟩

theorem plannerInferenceUnknown_owned {unknown : PlannerInferenceOutcomeUnknown}
    (h : validatePlannerInferenceUnknown documents env log event unknown = .ok ()) :
    RunningOwned log event := by
  simp only [validatePlannerInferenceUnknown, bind_eq_ok, plannerRunId_eq_ok] at h
  obtain ⟨runId, hrun, _, hrunning, _, _, stored, howner, _⟩ := h
  exact ⟨runId, stored, ⟨hrun, hrunning⟩, hrun, (requireCurrentClaimOwner_eq_ok howner).1⟩

theorem readOperationPrepared_owned {prepared : ReadOperationPrepared}
    (h : validateReadOperationPrepared log event prepared = .ok ()) : RunningOwned log event := by
  simp only [validateReadOperationPrepared, bind_eq_ok, plannerRunId_eq_ok] at h
  obtain ⟨runId, hrun, _, hrunning, _, _, _, _, stored, howner, _⟩ := h
  exact ⟨runId, stored, ⟨hrun, hrunning⟩, hrun, (requireCurrentClaimOwner_eq_ok howner).1⟩

theorem readOperationObserved_owned {observed : ReadOperationObserved}
    (h : validateReadOperationObserved log event observed = .ok ()) : RunningOwned log event := by
  simp only [validateReadOperationObserved, bind_eq_ok, plannerRunId_eq_ok] at h
  obtain ⟨runId, hrun, _, hrunning, preparedEvent, _, h⟩ := h
  split at h
  case h_1 =>
    simp only [bind_eq_ok] at h
    obtain ⟨_, _, stored, howner, _⟩ := h
    exact ⟨runId, stored, ⟨hrun, hrunning⟩, hrun, howner⟩
  case h_2 => cases h

theorem proposalForDecision_owned {observedEventId : EventId} {attemptId : InferenceAttemptId}
    {decided : DecidedProposal} (hrun : event.runId = some runId)
    (h : proposalForDecision log event runId observedEventId attemptId = .ok decided) :
    RunningOwned log event := by
  simp only [proposalForDecision, bind_eq_ok] at h
  obtain ⟨_, hrunning, _, _, _, _, _, _, stored, howner, _⟩ := h
  exact ⟨runId, stored, ⟨hrun, hrunning⟩, hrun, (requireCurrentClaimOwner_eq_ok howner).1⟩

theorem planProposalRejected_owned {rejected : PlanProposalRejected}
    (h : validatePlanProposalRejected documents log event rejected = .ok ()) :
    RunningOwned log event := by
  simp only [validatePlanProposalRejected, bind_eq_ok, plannerRunId_eq_ok] at h
  obtain ⟨runId, hrun, decided, hdecided, _⟩ := h
  exact proposalForDecision_owned hrun hdecided

theorem planProposalAccepted_owned {accepted : PlanProposalAccepted}
    (h : validatePlanProposalAccepted documents log event accepted = .ok ()) :
    RunningOwned log event := by
  simp only [validatePlanProposalAccepted, bind_eq_ok, plannerRunId_eq_ok] at h
  obtain ⟨runId, hrun, decided, hdecided, _⟩ := h
  exact proposalForDecision_owned hrun hdecided

theorem semanticReviewCommon_owned {attemptId : InferenceAttemptId} {observedEventId : EventId}
    {candidate : PlanCandidateBinding} {critique evidence : ArtifactRef}
    {result : PlannerStageContext × PlanSemanticReviewValidationReceipt}
    (h : validateSemanticReviewCommon documents log event attemptId observedEventId candidate
      critique evidence = .ok result) : RunningOwned log event := by
  simp only [validateSemanticReviewCommon, bind_eq_ok, plannerRunId_eq_ok] at h
  obtain ⟨runId, hrun, _, hrunning, _, _, _, _, _, _, _, _, _, _, _, _, _, _, _, _, stored,
    howner, _⟩ := h
  exact ⟨runId, stored, ⟨hrun, hrunning⟩, hrun, (requireCurrentClaimOwner_eq_ok howner).1⟩

theorem planSemanticReviewAccepted_owned {accepted : PlanSemanticReviewAccepted}
    (h : validatePlanSemanticReviewAccepted documents log event accepted = .ok ()) :
    RunningOwned log event := by
  simp only [validatePlanSemanticReviewAccepted, bind_eq_ok] at h
  obtain ⟨_, hcommon, _⟩ := h
  exact semanticReviewCommon_owned hcommon

theorem planSemanticReviewRejected_owned {rejected : PlanSemanticReviewRejected}
    (h : validatePlanSemanticReviewRejected documents log event rejected = .ok ()) :
    RunningOwned log event := by
  simp only [validatePlanSemanticReviewRejected, bind_eq_ok] at h
  obtain ⟨_, hcommon, _⟩ := h
  exact semanticReviewCommon_owned hcommon

theorem plannerTurnPrepared_owned {prepared : PlannerTurnPrepared}
    (h : validatePlannerTurnPrepared documents env log event prepared = .ok ()) :
    RunningOwned log event := by
  simp only [validatePlannerTurnPrepared, bind_eq_ok, plannerRunId_eq_ok] at h
  obtain ⟨runId, hrun, _, hrunning, _, _, _, _, stored, howner, _⟩ := h
  exact ⟨runId, stored, ⟨hrun, hrunning⟩, hrun, (requireCurrentClaimOwner_eq_ok howner).1⟩

theorem reconCompletionGateAccepted_owned {gate : ReconCompletionGateAccepted}
    (h : validateReconCompletionGateAccepted documents env log event gate = .ok ()) :
    RunningOwned log event := by
  simp only [validateReconCompletionGateAccepted, bind_eq_ok, plannerRunId_eq_ok] at h
  obtain ⟨runId, hrun, _, hrunning, _, _, stored, howner, _⟩ := h
  exact ⟨runId, stored, ⟨hrun, hrunning⟩, hrun, (requireCurrentClaimOwner_eq_ok howner).1⟩

end Planning

section TurnTerminals

theorem plannerTurnObserved_running {observed : PlannerTurnObserved}
    (h : validatePlannerTurnObserved documents log event observed = .ok ()) :
    ∃ runId, Running log event runId := by
  simp only [validatePlannerTurnObserved, bind_eq_ok, plannerRunId_eq_ok] at h
  obtain ⟨runId, hrun, _, hrunning, _⟩ := h
  exact ⟨runId, hrun, hrunning⟩

theorem plannerTurnUnknown_running {unknown : PlannerTurnUnknown}
    (h : validatePlannerTurnUnknown documents env log event unknown = .ok ()) :
    ∃ runId, Running log event runId := by
  simp only [validatePlannerTurnUnknown, bind_eq_ok, plannerRunId_eq_ok] at h
  obtain ⟨runId, hrun, _, hrunning, _⟩ := h
  exact ⟨runId, hrun, hrunning⟩

theorem observedTurnForDecision_running {decision : TurnDecision}
    {result : StoredTurn × PlannerTurnObserved}
    (h : observedTurnForDecision log event decision = .ok result) :
    ∃ runId, Running log event runId := by
  simp only [observedTurnForDecision, bind_eq_ok, plannerRunId_eq_ok] at h
  obtain ⟨runId, hrun, _, hrunning, _⟩ := h
  exact ⟨runId, hrun, hrunning⟩

end TurnTerminals

section Repository

theorem writerLeaseRevoked_owned {revoked : RepositoryWriterLeaseRevoked}
    (h : validateRepositoryWriterLeaseRevoked env log event revoked = .ok ()) :
    RunningOwned log event := by
  simp only [validateRepositoryWriterLeaseRevoked, bind_eq_ok, plannerRunId_eq_ok] at h
  obtain ⟨runId, hrun, _, _, _, hrunning, stored, howner, _⟩ := h
  exact ⟨runId, stored, ⟨hrun, hrunning⟩, hrun, (requireCurrentClaimOwner_eq_ok howner).1⟩

theorem snapshotLeaseIssued_owned {issued : RepositorySnapshotLeaseIssued}
    (h : validateRepositorySnapshotLeaseIssued env log event issued = .ok ()) :
    RunningOwned log event := by
  simp only [validateRepositorySnapshotLeaseIssued, bind_eq_ok, plannerRunId_eq_ok] at h
  obtain ⟨runId, hrun, _, _, _, hrunning, stored, howner, _⟩ := h
  exact ⟨runId, stored, ⟨hrun, hrunning⟩, hrun, (requireCurrentClaimOwner_eq_ok howner).1⟩

theorem brokerEpochActivated_owned {activated : RepositoryBrokerEpochActivated}
    (h : validateRepositoryBrokerEpochActivated log event activated = .ok ()) :
    RunningOwned log event := by
  simp only [validateRepositoryBrokerEpochActivated, bind_eq_ok, plannerRunId_eq_ok] at h
  obtain ⟨runId, hrun, _, hrunning, _, _, stored, howner, _⟩ := h
  exact ⟨runId, stored, ⟨hrun, hrunning⟩, hrun, (requireLatestClaimOwner_eq_ok howner).1⟩

end Repository

section Children

theorem delegationCommon_owned {authorized : ChildDelegation} {run : Run}
    (h : validateDelegationCommon env log event authorized = .ok run) :
    RunningOwned log event := by
  simp only [validateDelegationCommon, bind_eq_ok, plannerRunId_eq_ok] at h
  obtain ⟨runId, hrun, _, hrunning, stored, howner, _⟩ := h
  exact ⟨runId, stored, ⟨hrun, hrunning⟩, hrun, (requireCurrentClaimOwner_eq_ok howner).1⟩

theorem childDelegationAuthorized_owned {authorized : ChildDelegationAuthorized}
    (h : validateChildDelegationAuthorized documents env log event authorized = .ok ()) :
    RunningOwned log event := by
  simp only [validateChildDelegationAuthorized, bind_eq_ok] at h
  obtain ⟨_, hcommon, _⟩ := h
  exact delegationCommon_owned hcommon

theorem childDelegationAuthorizedV2_owned {authorized : ChildDelegationAuthorizedV2}
    (h : validateChildDelegationAuthorizedV2 documents env log event authorized = .ok ()) :
    RunningOwned log event := by
  simp only [validateChildDelegationAuthorizedV2, bind_eq_ok] at h
  obtain ⟨_, hcommon, _⟩ := h
  exact delegationCommon_owned hcommon

theorem childReconnaissanceEvent_running
    (h : validateChildReconnaissanceEvent env log event = .ok ()) :
    ∃ runId, Running log event runId := by
  simp only [validateChildReconnaissanceEvent, bind_eq_ok, plannerRunId_eq_ok] at h
  obtain ⟨runId, hrun, _, hrunning, _⟩ := h
  exact ⟨runId, hrun, hrunning⟩

end Children

section Kinds

/-- What the kinds that need it find of their run: it is running. -/
theorem Appended.running (h : Appended documents env log event admission log')
    (hneeds : event.payload.needsRunning = true) : ∃ runId, Running log event runId := by
  have howned {log : EventLog} (h : RunningOwned log event) : ∃ runId, Running log event runId := by
    obtain ⟨runId, _, hrunning, _⟩ := h
    exact ⟨runId, hrunning⟩
  have hgeneric := h.generic (by cases hp : event.payload <;> simp_all [EventPayload.needsRunning,
    EventPayload.createdSession]) (by cases hp : event.payload <;> simp_all
      [EventPayload.needsRunning, EventPayload.createdRun])
  simp only [validateGenericEvent, bind_eq_ok] at hgeneric
  obtain ⟨_, _, _, _, hkind⟩ := hgeneric
  cases hp : event.payload <;>
    simp only [hp, EventPayload.needsRunning, Bool.false_eq_true] at hneeds hkind
  case rootPlanningFailed => exact howned (rootPlanningFailed_owned hkind)
  case rootPlanningStageFailed => exact howned (rootPlanningStageFailed_owned hkind)
  case plannerInferencePrepared => exact howned (plannerInferencePrepared_owned hkind)
  case plannerInferenceObserved => exact howned (plannerInferenceObserved_owned hkind)
  case plannerInferenceOutcomeUnknown => exact howned (plannerInferenceUnknown_owned hkind)
  case readOperationPrepared => exact howned (readOperationPrepared_owned hkind)
  case readOperationObserved => exact howned (readOperationObserved_owned hkind)
  case planProposalRejected => exact howned (planProposalRejected_owned hkind)
  case planProposalAccepted => exact howned (planProposalAccepted_owned hkind)
  case planSemanticReviewAccepted => exact howned (planSemanticReviewAccepted_owned hkind)
  case planSemanticReviewRejected => exact howned (planSemanticReviewRejected_owned hkind)
  case plannerTurnPrepared => exact howned (plannerTurnPrepared_owned hkind)
  case plannerTurnObserved => exact plannerTurnObserved_running hkind
  case plannerTurnUnknown => exact plannerTurnUnknown_running hkind
  case plannerTurnAccepted =>
    simp only [validatePlannerTurnAccepted, bind_eq_ok] at hkind
    obtain ⟨_, hdecided, _⟩ := hkind
    exact observedTurnForDecision_running hdecided
  case plannerTurnRejected =>
    simp only [validatePlannerTurnRejected, bind_eq_ok] at hkind
    obtain ⟨_, hdecided, _⟩ := hkind
    exact observedTurnForDecision_running hdecided
  case reconCompletionGateAccepted => exact howned (reconCompletionGateAccepted_owned hkind)
  case repositoryWriterLeaseRevoked => exact howned (writerLeaseRevoked_owned hkind)
  case repositorySnapshotLeaseIssued => exact howned (snapshotLeaseIssued_owned hkind)
  case repositoryBrokerEpochActivated => exact howned (brokerEpochActivated_owned hkind)
  case childDelegationAuthorized =>
    simp only [bind_eq_ok] at hkind
    obtain ⟨_, _, hkind⟩ := hkind
    exact howned (childDelegationAuthorized_owned hkind)
  case childDelegationAuthorizedV2 =>
    simp only [bind_eq_ok] at hkind
    obtain ⟨_, _, hkind⟩ := hkind
    exact howned (childDelegationAuthorizedV2_owned hkind)
  all_goals first
    | exact childReconnaissanceEvent_running hkind
    | (simp only [bind_eq_ok] at hkind
       obtain ⟨_, _, hkind⟩ := hkind
       exact childReconnaissanceEvent_running hkind)

end Kinds

end BirdCode.Store
