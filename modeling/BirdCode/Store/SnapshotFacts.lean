import BirdCode.Store.AdmittedLogs

/-! What the admission of each snapshot event establishes, and what the transitions of the replay
keep when the log is continued. -/
namespace BirdCode.Store

open Lib (Persists)

variable {documents : PlanningDocuments} {env : Environment} {log log' : EventLog} {run : Run}
  {event : EventEnvelope} {admission : EventAdmission}

section Admission

/-- What the append of a writer revocation establishes. -/
structure RevocationAdmitted (env : Environment) (log : EventLog) (event : EventEnvelope)
    (revoked : RepositoryWriterLeaseRevoked) (run : Run) : Prop where
  owner : ∃ runId, event.runId = some runId ∧ storedRun log runId = some run
  unnamed : identityCount log (EventPayload.namesLease revoked.capture.leaseId) = 0
  replayed : run.isParallelRecon = true →
    replayRepositorySnapshotLifecycle env log run = .ok .none ∧
      ∃ capture, replaySnapshotWriterRevocation env log run event revoked = .ok capture

theorem Appended.revocation (h : Appended documents env log event admission log')
    {revoked : RepositoryWriterLeaseRevoked}
    (hp : event.payload = .repositoryWriterLeaseRevoked revoked) :
    ∃ run, RevocationAdmitted env log event revoked run := by
  have hgeneric := h.generic (by simp [hp, EventPayload.createdSession])
    (by simp [hp, EventPayload.createdRun])
  simp only [validateGenericEvent, hp, validateRepositoryWriterLeaseRevoked, plannerRunId,
    durableRunForClaimRefresh, bind_eq_ok, expect_eq_ok, ensure_eq_ok,
    whenever_eq_ok] at hgeneric
  obtain ⟨_, _, _, _, runId, hrunId, run, hrun, _, _, _, _, _, _, _, _, _, _, _, hfacts, _,
    hrecon, _⟩ := hgeneric
  obtain ⟨_, _, _, _, _, _, _, _, _, _, _, _, _, _, _, hunnamed, _⟩ := hfacts
  refine ⟨run, ⟨runId, hrunId, hrun⟩, hunnamed, fun hparallel => ?_⟩
  obtain ⟨lifecycle, hlifecycle, _, hnone, capture, hcapture, _⟩ := hrecon hparallel
  cases lifecycle with
  | none => exact ⟨hlifecycle, capture, hcapture⟩
  | _ => cases hnone

/-- What the append of a capture adoption establishes. -/
theorem Appended.captureAdoption (h : Appended documents env log event admission log')
    {adopted : RepositorySnapshotCaptureClaimAdopted}
    (hp : event.payload = .repositorySnapshotCaptureClaimAdopted adopted) :
    ∃ runId run capture next, event.runId = some runId ∧ storedRun log runId = some run ∧
      run.isParallelRecon = true ∧
      replayRepositorySnapshotLifecycle env log run = .ok (.openCapture capture) ∧
      validateSnapshotCaptureAdoptionTransition log run event adopted capture false =
        .ok next := by
  have hgeneric := h.generic (by simp [hp, EventPayload.createdSession])
    (by simp [hp, EventPayload.createdRun])
  simp only [validateGenericEvent, hp, validateRepositorySnapshotCaptureClaimAdopted,
    plannerRunId, durableRunForClaimRefresh, bind_eq_ok, expect_eq_ok, ensure_eq_ok] at hgeneric
  obtain ⟨_, _, _, _, _, _, runId, hrunId, run, hrun, _, hrecon, lifecycle, hlifecycle,
    capture, hopen, next, hnext, _⟩ := hgeneric
  cases lifecycle with
  | openCapture replay =>
    obtain rfl : replay = capture := Option.some.inj hopen
    exact ⟨runId, run, replay, next, hrunId, hrun, hrecon, hlifecycle, hnext⟩
  | _ => cases hopen

/-- What the append of a lease establishes. -/
structure LeaseAdmitted (env : Environment) (log : EventLog) (event : EventEnvelope)
    (issued : RepositorySnapshotLeaseIssued) (run : Run) : Prop where
  owner : ∃ runId, event.runId = some runId ∧ storedRun log runId = some run
  unissued : identityCount log
    (EventPayload.carriesIssuedLease issued.snapshot.immutabilityLease.leaseId) = 0
  replayed : run.isParallelRecon = true → ∃ capture,
    replayRepositorySnapshotLifecycle env log run = .ok (.openCapture capture) ∧
      validateSnapshotLeaseTransition env log run event issued capture = .ok ()

theorem Appended.lease (h : Appended documents env log event admission log')
    {issued : RepositorySnapshotLeaseIssued}
    (hp : event.payload = .repositorySnapshotLeaseIssued issued) :
    ∃ run, LeaseAdmitted env log event issued run := by
  have hgeneric := h.generic (by simp [hp, EventPayload.createdSession])
    (by simp [hp, EventPayload.createdRun])
  simp only [validateGenericEvent, hp, validateRepositorySnapshotLeaseIssued, plannerRunId,
    durableRunForClaimRefresh, bind_eq_ok, expect_eq_ok, ensure_eq_ok, whenever_eq_ok]
    at hgeneric
  obtain ⟨_, _, _, _, runId, hrunId, run, hrun, _, _, _, _, _, _, retained, _, _, hrecon,
    writerEvent, _, hwriter⟩ := hgeneric
  refine ⟨run, ⟨runId, hrunId, hrun⟩, ?_, fun hparallel => ?_⟩
  · split at hwriter
    case h_1 =>
      simp only [bind_eq_ok, ensure_eq_ok] at hwriter
      obtain ⟨_, _, _, _, _, hfacts, _⟩ := hwriter
      obtain ⟨_, _, _, _, _, _, _, _, _, _, _, _, _, _, _, _, _, _, _, _, hunissued⟩ := hfacts
      exact hunissued
    case h_2 => cases hwriter
  · obtain ⟨lifecycle, hlifecycle, capture, hopen, htransition⟩ := hrecon hparallel
    cases lifecycle with
    | openCapture replay =>
      obtain rfl : replay = capture := Option.some.inj hopen
      exact ⟨replay, hlifecycle, htransition⟩
    | _ => cases hopen

end Admission

section Continuation

/-- The identities that the replay of a committed event counts are counted alike by both logs. -/
structure CountedAlike (log log' : EventLog) (event : EventEnvelope) : Prop where
  adoption : ∀ adopted, event.payload = .repositorySnapshotCaptureClaimAdopted adopted →
    identityCount log' (EventPayload.carriesCaptureAdoption adopted.adoptionId) =
      identityCount log (EventPayload.carriesCaptureAdoption adopted.adoptionId)
  lease : ∀ issued, event.payload = .repositorySnapshotLeaseIssued issued →
    identityCount log' (EventPayload.namesLease issued.snapshot.immutabilityLease.leaseId) =
      identityCount log (EventPayload.namesLease issued.snapshot.immutabilityLease.leaseId)
  committed : log'.events.countP (fun stored => stored.id = event.id) =
    log.events.countP fun stored => stored.id = event.id

/-- Admission refuses an identity that a committed event carries. -/
theorem Appended.countedAlike (h : Appended documents env log event admission log')
    {stored : EventEnvelope} (hmem : stored ∈ log.events) : CountedAlike log log' stored := by
  have hcount (carries : EventPayload → Bool) (hno : carries event.payload = false) :
      identityCount log' carries = identityCount log carries := by
    rw [identityCount_append h.events, List.countP_singleton, if_neg (by simp [hno]),
      Nat.add_zero]
  refine ⟨fun adopted hp => hcount _ ?_, fun issued hp => hcount _ ?_, ?_⟩
  · cases hevent : event.payload with
    | repositorySnapshotCaptureClaimAdopted other =>
      obtain ⟨_, _, _, _, _, _, _, _, htransition⟩ := h.captureAdoption hevent
      simp only [validateSnapshotCaptureAdoptionTransition, bind_eq_ok, ensure_eq_ok]
        at htransition
      obtain ⟨_, _, _, _, _, _, _, _, _, _, _, _, _, ⟨hnew, _⟩, _⟩ := htransition
      rw [if_neg Bool.false_ne_true] at hnew
      have hother := not_carries_of_identityCount_eq_zero hnew hmem
      rw [hp] at hother
      have hne : adopted.adoptionId ≠ other.adoptionId := of_decide_eq_false hother
      exact decide_eq_false fun heq => hne heq.symm
    | _ => rfl
  · cases hevent : event.payload with
    | repositoryWriterLeaseRevoked revoked =>
      obtain ⟨run, hadmitted⟩ := h.revocation hevent
      have hother := not_carries_of_identityCount_eq_zero hadmitted.unnamed hmem
      rw [hp] at hother
      have hne : issued.snapshot.immutabilityLease.leaseId ≠ revoked.capture.leaseId :=
        of_decide_eq_false hother
      exact decide_eq_false fun heq => hne heq.symm
    | repositorySnapshotLeaseIssued other =>
      obtain ⟨run, hadmitted⟩ := h.lease hevent
      have hother := not_carries_of_identityCount_eq_zero hadmitted.unissued hmem
      rw [hp] at hother
      have hne : issued.snapshot.immutabilityLease.leaseId ≠
          other.snapshot.immutabilityLease.leaseId := of_decide_eq_false hother
      exact decide_eq_false fun heq => hne heq.symm
    | _ => rfl
  · rw [h.events, List.countP_append, List.countP_singleton,
      if_neg (by simpa using (h.fresh stored hmem).symm), Nat.add_zero]

variable {capture : RepositorySnapshotOpenReplay}

theorem snapshotClaimEvent_persists (hkept : log.events <+: log'.events) (eventId : EventId) :
    Persists (snapshotClaimEvent log run eventId) (snapshotClaimEvent log' run eventId) := by
  unfold snapshotClaimEvent
  exact (storedEventForRun_persists hkept eventId).bind_left

theorem replaySnapshotWriterRevocation_persists
    (h : ContinuedFrom log log' run.spec.sessionId event.sequence)
    (revoked : RepositoryWriterLeaseRevoked) :
    Persists (replaySnapshotWriterRevocation env log run event revoked)
      (replaySnapshotWriterRevocation env log' run event revoked) := by
  unfold replaySnapshotWriterRevocation
  simp only [latestClaimForRunBefore_continued h]
  refine (snapshotClaimEvent_persists h.kept _).bind fun stored _ => ?_
  refine .bind_right fun latestClaim _ => .bind_right fun evidence _ => ?_
  exact (durableSessionWorkspaceRoot_persists h.kept).bind_left

/-- The adoption's identity is new to the table before the append and counted once after it. -/
theorem validateSnapshotCaptureAdoptionTransition_persists
    (h : ContinuedFrom log log' run.spec.sessionId event.sequence)
    {adopted : RepositorySnapshotCaptureClaimAdopted} {committed committed' : Bool}
    (hcount : identityCount log (EventPayload.carriesCaptureAdoption adopted.adoptionId) =
        (if committed then 1 else 0) →
      identityCount log' (EventPayload.carriesCaptureAdoption adopted.adoptionId) =
        if committed' then 1 else 0) :
    Persists (validateSnapshotCaptureAdoptionTransition log run event adopted capture committed)
      (validateSnapshotCaptureAdoptionTransition log' run event adopted capture committed') := by
  unfold validateSnapshotCaptureAdoptionTransition
  simp only [latestClaimForRunBefore_continued h]
  refine (snapshotClaimEvent_persists h.kept _).bind fun prior _ => ?_
  refine (snapshotClaimEvent_persists h.kept _).bind fun next _ => ?_
  refine .bind_right fun latestClaim _ => .bind_right fun expectedGeneration _ => ?_
  refine .bind_right fun priorClock _ => .bind_right fun _ _ => ?_
  refine Persists.bind_left fun _ hidentity => ?_
  rw [ensure_eq_ok] at hidentity ⊢
  exact ⟨hcount hidentity.1, hidentity.2⟩

theorem validateSnapshotLeaseTransition_persists {issued : RepositorySnapshotLeaseIssued}
    (hcount : identityCount log
        (EventPayload.namesLease issued.snapshot.immutabilityLease.leaseId) =
          log.events.countP (fun stored => stored.id = event.id) + 1 →
      log'.events.countP (fun stored => stored.id = event.id) ≤ 1 ∧
      identityCount log'
        (EventPayload.namesLease issued.snapshot.immutabilityLease.leaseId) =
          log'.events.countP (fun stored => stored.id = event.id) + 1) :
    Persists (validateSnapshotLeaseTransition env log run event issued capture)
      (validateSnapshotLeaseTransition env log' run event issued capture) := by
  unfold validateSnapshotLeaseTransition
  refine .bind_right fun retained _ => Persists.bind_left fun _ hidentity => ?_
  rw [ensure_eq_ok] at hidentity ⊢
  exact hcount hidentity.2

theorem validateSnapshotReleaseTransition_persists
    (h : ContinuedFrom log log' run.spec.sessionId event.sequence)
    (released : RepositorySnapshotLeaseReleased) (leaseEvent : EventEnvelope) :
    Persists (validateSnapshotReleaseTransition env log run event released leaseEvent)
      (validateSnapshotReleaseTransition env log' run event released leaseEvent) := by
  unfold validateSnapshotReleaseTransition
  simp only [latestClaimForRunBefore_continued h, latestCancellationGenerationBefore_continued h]
  cases leaseEvent.payload with
  | repositorySnapshotLeaseIssued issued =>
    refine .bind_right fun release _ => ?_
    exact (snapshotClaimEvent_persists h.kept _).bind_left
  | _ => exact .rfl

/-- A committed event is replayed alike by a log that counts its identities alike. -/
theorem replaySnapshotEvent_persists
    (h : ContinuedFrom log log' run.spec.sessionId event.sequence)
    (hcounted : CountedAlike log log' event) (state : RepositorySnapshotLifecycleReplay) :
    Persists (replaySnapshotEvent env log run state event)
      (replaySnapshotEvent env log' run state event) := by
  have hadoption := hcounted.adoption
  have hlease := hcounted.lease
  unfold replaySnapshotEvent
  cases state with
  | none =>
    cases event.payload with
    | repositoryWriterLeaseRevoked revoked =>
      exact (replaySnapshotWriterRevocation_persists h revoked).bind_left
    | _ => exact .rfl
  | openCapture capture =>
    cases hp : event.payload with
    | repositorySnapshotCaptureClaimAdopted adopted =>
      refine Persists.bind_left (validateSnapshotCaptureAdoptionTransition_persists h ?_)
      intro hcount
      rw [hadoption adopted hp, hcount]
    | repositorySnapshotLeaseIssued issued =>
      refine Persists.bind_left fun _ hvalid => ?_
      have hone : log.events.countP (fun stored => stored.id = event.id) ≤ 1 := by
        simp only [validateSnapshotLeaseTransition, bind_eq_ok, ensure_eq_ok] at hvalid
        obtain ⟨_, _, _, ⟨hone, _⟩, _⟩ := hvalid
        exact hone
      refine validateSnapshotLeaseTransition_persists (fun hcount => ?_) _ hvalid
      rw [hcounted.committed, hlease issued hp]
      exact ⟨hone, hcount⟩
    | _ => exact .rfl
  | active capture leaseEvent =>
    cases event.payload with
    | repositorySnapshotLeaseReleased released =>
      exact (validateSnapshotReleaseTransition_persists h released leaseEvent).bind_left
    | _ => exact .rfl
  | closedLease => exact .rfl

end Continuation

end BirdCode.Store
