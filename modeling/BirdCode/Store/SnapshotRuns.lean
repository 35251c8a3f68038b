import BirdCode.Store.SnapshotLifecycle

/-! The snapshot lifecycle of a parallel reconnaissance run over every admitted log: each append
of a snapshot event is one move of the replayed lifecycle, and no other append moves it. -/
namespace BirdCode.Store

open Lib (Persists)

variable {documents : PlanningDocuments} {env : Environment} {log log' : EventLog} {run : Run}
  {event : EventEnvelope} {admission : EventAdmission} {runId : RunId}
  {state next : RepositorySnapshotLifecycleReplay}

/-- A snapshot event of a run. -/
def EventEnvelope.ofSnapshot (event : EventEnvelope) (runId : RunId) : Prop :=
  event.runId = some runId ∧ event.payload.isSnapshotLifecycle = true

section History

theorem replayRepositorySnapshotLifecycle_eq_ok :
    replayRepositorySnapshotLifecycle env log run = .ok state ↔
      (snapshotHistory log run).length ≤ parallelReconSnapshotLifecycleMaxEvents ∧
        (snapshotHistory log run).foldlM (replaySnapshotEvent env log run) .none = .ok state := by
  simp only [replayRepositorySnapshotLifecycle, bind_eq_ok, ensure_eq_ok, exists_const]

/-- The lifecycle of a run is the one its history leads to. -/
theorem lifecycleOf_replay (h : replayRepositorySnapshotLifecycle env log run = .ok state) :
    LifecycleOf env (snapshotHistory log run) state :=
  lifecycleOf_foldlM (replayRepositorySnapshotLifecycle_eq_ok.mp h).2

theorem mem_snapshotHistory : event ∈ snapshotHistory log run ↔
    event ∈ log.events ∧ event.sessionId = run.spec.sessionId ∧ event.ofSnapshot run.id := by
  rw [snapshotHistory, List.mem_filter, mem_runEvents, EventEnvelope.ofSnapshot]
  constructor
  · rintro ⟨⟨hlog, hsession, hrun⟩, hkind⟩
    exact ⟨hlog, hsession, hrun, hkind⟩
  · rintro ⟨hlog, hsession, hrun, hkind⟩
    exact ⟨⟨hlog, hsession, hrun⟩, hkind⟩

theorem Appended.snapshotHistory_other (h : Appended documents env log event admission log')
    (hother : ¬event.ofSnapshot run.id) : snapshotHistory log' run = snapshotHistory log run := by
  have hnone : ([event].filter fun stored => stored.sessionId = run.spec.sessionId ∧
      stored.runId = some run.id).filter (·.payload.isSnapshotLifecycle) = [] := by
    rw [List.filter_filter, List.filter_eq_nil_iff]
    intro added hadded hselected
    rw [List.mem_singleton.mp hadded] at hselected
    simp only [Bool.and_eq_true, decide_eq_true_eq] at hselected
    exact hother ⟨hselected.2.2, hselected.1⟩
  unfold snapshotHistory
  rw [runEvents_append h.events, List.filter_append, hnone, List.append_nil]

theorem createdRun_of_isSnapshotLifecycle (h : event.payload.isSnapshotLifecycle = true) :
    event.payload.createdRun = none := by
  cases hp : event.payload <;> simp_all [EventPayload.isSnapshotLifecycle, EventPayload.createdRun]

theorem Appended.snapshotHistory_own (h : Appended documents env log event admission log')
    (hrun : storedRun log run.id = some run) (hown : event.ofSnapshot run.id) :
    snapshotHistory log' run = snapshotHistory log run ++ [event] := by
  obtain ⟨hrunId, hkind⟩ := hown
  have hsession := h.session hrun hrunId (createdRun_of_isSnapshotLifecycle hkind)
  unfold snapshotHistory
  rw [runEvents_append h.events, List.filter_append]
  simp [hsession, hrunId, hkind]

/-- The committed snapshot events replay alike over the appended log. -/
theorem Appended.foldlM_snapshot (h : Appended documents env log event admission log') :
    Persists ((snapshotHistory log run).foldlM (replaySnapshotEvent env log run) .none)
      ((snapshotHistory log run).foldlM (replaySnapshotEvent env log' run) .none) := by
  refine .foldlM fun stored hstored state => ?_
  obtain ⟨hmem, hsession, _⟩ := mem_snapshotHistory.mp hstored
  exact replaySnapshotEvent_persists (hsession ▸ .of_mem h.kept hmem) (h.countedAlike hmem) state

/-- An append of an event that is not the lifecycle's leaves it as it was. -/
theorem Appended.lifecycle_other (h : Appended documents env log event admission log')
    (hother : ¬event.ofSnapshot run.id) :
    Persists (replayRepositorySnapshotLifecycle env log run)
      (replayRepositorySnapshotLifecycle env log' run) := by
  intro state hstate
  rw [replayRepositorySnapshotLifecycle_eq_ok] at hstate ⊢
  rw [h.snapshotHistory_other hother]
  exact ⟨hstate.1, h.foldlM_snapshot _ hstate.2⟩

/-- A snapshot event that replays over the appended log moves the lifecycle by one event. -/
theorem Appended.lifecycle_own (h : Appended documents env log event admission log')
    (hrun : storedRun log run.id = some run) (hown : event.ofSnapshot run.id)
    (hstate : replayRepositorySnapshotLifecycle env log run = .ok state)
    (hstep : replaySnapshotEvent env log' run state event = .ok next) :
    replayRepositorySnapshotLifecycle env log' run = .ok next := by
  have hlifecycle := (lifecycleOf_replay hstate).step hstep
  rw [replayRepositorySnapshotLifecycle_eq_ok] at hstate ⊢
  rw [h.snapshotHistory_own hrun hown]
  refine ⟨hlifecycle.length_le, ?_⟩
  rw [List.foldlM_append, h.foldlM_snapshot _ hstate.2]
  show (replaySnapshotEvent env log' run state event >>= pure) = _
  rw [hstep]
  rfl

end History

section Release

/-- What the append of a release establishes. -/
structure ReleaseAdmitted (env : Environment) (log : EventLog) (event : EventEnvelope)
    (released : RepositorySnapshotLeaseReleased) (runId : RunId) (stored : StoredClaim)
    (leaseEvent : EventEnvelope) (issued : RepositorySnapshotLeaseIssued)
    (lease : RepositorySnapshotLeaseDocument) (release : RepositorySnapshotReleaseDocument)
    (parent : EventId × ℕ) : Prop where
  owner : event.runId = some runId
  holder : requireCurrentClaimOwner log event runId released.cancellationGeneration = .ok stored
  repeated : claimRepeated stored released.claimEventId released.claimId
    released.claimGeneration released.claimRuntimeInstanceId released.cancellationGeneration
  issuer : event.actorId = released.issuerActorId
  artifact : event.provenance.rawArtifact = some released.releaseArtifact
  digest : digestMatchesArtifact released.releaseDigest released.releaseArtifact = true
  leaseStored : storedEventForRun log event.sessionId runId released.leaseEventId = .ok leaseEvent
  leasePayload : leaseEvent.payload = .repositorySnapshotLeaseIssued issued
  leaseRead : readCanonicalJsonArtifact env.root env.wires.snapshotLease
    issued.snapshot.immutabilityLease.leaseArtifact repositorySnapshotLeaseMediaType = .ok lease
  releaseRead : readCanonicalJsonArtifact env.root env.wires.snapshotRelease
    released.releaseArtifact repositorySnapshotReleaseMediaType = .ok release
  releaseLease : release.leaseId = lease.leaseId
  releaseEvent : release.leaseEventId = released.leaseEventId
  unmounted : release.unmountedVerified = true
  completedRuntime : release.detachReceipt.completedAt.runtimeInstanceId =
    stored.claim.runtimeInstanceId
  completedAfter : stored.event.occurredAt ≤ release.detachReceipt.completedAt.observedAt
  completedBefore : release.detachReceipt.completedAt.observedAt ≤ event.occurredAt
  completedWithin : release.detachReceipt.completedAt.observedAt < stored.claim.leaseExpiresAt
  children : (workOrdersUnderLease log runId event.sessionId lease.leaseId).foldlM
    (releaseAfterChild env log runId event.sessionId)
    (released.leaseEventId, leaseEvent.sequence) = .ok parent
  unreleased : ∀ earlier ∈ runEvents log event.sessionId runId, ∀ other,
    earlier.payload = .repositorySnapshotLeaseReleased other →
      other.leaseEventId ≠ released.leaseEventId

theorem Appended.release (h : Appended documents env log event admission log')
    {released : RepositorySnapshotLeaseReleased}
    (hp : event.payload = .repositorySnapshotLeaseReleased released) :
    ∃ runId stored leaseEvent issued lease release parent,
      ReleaseAdmitted env log event released runId stored leaseEvent issued lease release
        parent := by
  have hgeneric := h.generic (by simp [hp, EventPayload.createdSession])
    (by simp [hp, EventPayload.createdRun])
  simp only [validateGenericEvent, hp, validateRepositorySnapshotLeaseReleased, plannerRunId,
    bind_eq_ok, expect_eq_ok, ensure_eq_ok] at hgeneric
  obtain ⟨_, _, _, _, runId, hrunId, stored, hstored, _, hclaim, leaseEvent, hlease, hrest⟩ :=
    hgeneric
  obtain ⟨hissuer, _, hartifact, hrepeated, _, hdigest⟩ := hclaim
  split at hrest
  case h_2 => cases hrest
  case h_1 issued hissued =>
    simp only [bind_eq_ok, ensure_eq_ok] at hrest
    obtain ⟨lease, hleaseRead, release, hreleaseRead, _, hreceipt, _, _, _, _, parent, hchildren,
      hcount, _⟩ := hrest
    obtain ⟨_, hreleaseLease, hreleaseEvent, hdetached, hruntime, hafter, hbefore, hwithin⟩ :=
      hreceipt
    refine ⟨runId, stored, leaseEvent, issued, lease, release, parent, hrunId, hstored, hrepeated,
      hissuer, hartifact, hdigest, hlease, hissued, hleaseRead, hreleaseRead, hreleaseLease,
      hreleaseEvent, ?_, hruntime, hafter, hbefore, hwithin, hchildren, ?_⟩
    · simp only [detachReceiptValid, Bool.and_eq_true] at hdetached
      exact hdetached.2
    · intro earlier hearlier other hother heq
      refine List.countP_eq_zero.mp hcount earlier hearlier ?_
      rw [hother]
      exact decide_eq_true heq

/-- The admitted release takes the lease that the replay holds active. -/
theorem Appended.release_step (h : Appended documents env log event admission log')
    (hrun : storedRun log run.id = some run) (hrunId : event.runId = some run.id)
    (hstate : replayRepositorySnapshotLifecycle env log run = .ok state)
    {released : RepositorySnapshotLeaseReleased}
    (hp : event.payload = .repositorySnapshotLeaseReleased released) :
    ∃ capture leaseEvent, state = .active capture leaseEvent ∧
      replaySnapshotEvent env log' run state event =
        .ok (.closedLease capture leaseEvent event) := by
  obtain ⟨_, stored, leaseEvent, issued, lease, release, parent, hadmitted⟩ := h.release hp
  obtain rfl := Option.some.inj (hadmitted.owner.symm.trans hrunId)
  have hsession := h.session hrun hrunId (by simp [hp, EventPayload.createdRun])
  have hlifecycle := lifecycleOf_replay hstate
  obtain ⟨hleaseMem, hleaseId, hleaseRun, hleaseSession⟩ :=
    storedEventForRun_mem hadmitted.leaseStored
  have hhistory : leaseEvent ∈ snapshotHistory log run := mem_snapshotHistory.mpr
    ⟨hleaseMem, hleaseSession.trans hsession, hleaseRun, by rw [hadmitted.leasePayload]; rfl⟩
  obtain ⟨capture, rfl⟩ : ∃ capture, state = .active capture leaseEvent := by
    rcases hlifecycle.of_lease hhistory hadmitted.leasePayload with hactive | hclosed
    · exact hactive
    · obtain ⟨_, closure, other, _, hclosure, hpayload, hnamed⟩ := hclosed
      obtain ⟨hmem, hclosureSession, hclosureRun, _⟩ := mem_snapshotHistory.mp hclosure
      have hevent := mem_runEvents.mpr ⟨hmem, hclosureSession.trans hsession.symm, hclosureRun⟩
      exact absurd (hnamed.trans hleaseId) (hadmitted.unreleased closure hevent other hpayload)
  refine ⟨capture, leaseEvent, rfl, ?_⟩
  obtain ⟨hactive, hgeneration, hcancellation⟩ := requireCurrentClaimOwner_eq_ok hadmitted.holder
  obtain ⟨hlatest, hclaim, hclaimMem, hactor, hlease⟩ := requireActiveClaimOwner_eq_ok hactive
  obtain ⟨hclaimEvent, hclaimId, hclaimGeneration, hclaimRuntime, hclaimCancellation⟩ :=
    hadmitted.repeated
  obtain ⟨hclaimLog, hclaimSession, hclaimRun⟩ := mem_runEvents.mp hclaimMem
  obtain ⟨_, ⟨other, hother, retained, hretained, hretainedLease⟩, _⟩ := hlifecycle.active_mem
  obtain rfl : other = issued := EventPayload.repositorySnapshotLeaseIssued.inj
    (hother.symm.trans hadmitted.leasePayload)
  obtain rfl : retained = lease := Except.ok.inj (hretained.symm.trans hadmitted.leaseRead)
  have hbefore : ∀ earlier ∈ log.events, earlier.sessionId = run.spec.sessionId →
      earlier.sequence < event.sequence := fun earlier hearlier heq =>
    h.later earlier hearlier (heq.trans hsession.symm)
  have hvalid : validateSnapshotReleaseTransition env log run event released leaseEvent =
      .ok () := by
    simp only [validateSnapshotReleaseTransition, hother, bind_eq_ok, ensure_eq_ok, expect_eq_ok]
    refine ⟨release, hadmitted.releaseRead, stored, ?_, stored.event, ?_, ?_⟩
    · simp only [snapshotClaimEvent, bind_eq_ok, readClaim_eq_ok]
      refine ⟨stored.event, ?_, rfl, hclaim⟩
      rw [← hclaimEvent]
      exact storedEventForRun_of_mem hclaimLog (hclaimSession.trans hsession) hclaimRun
    · unfold latestClaimForRunBefore
      rw [latestBefore_eq_latest hbefore, ← hsession]
      exact hlatest
    · rw [latestCancellationGenerationBefore_eq_latest hbefore, ← hsession]
      exact ⟨hleaseId.symm, rfl, hrunId, h.later stored.event hclaimLog hclaimSession, rfl,
        hadmitted.issuer, hactor.symm, hclaimId, hclaimGeneration, hclaimRuntime,
        hclaimCancellation, hcancellation.trans hgeneration.symm, hlease,
        hadmitted.completedWithin, hadmitted.releaseLease.trans hretainedLease,
        hadmitted.releaseEvent.trans hleaseId.symm, hadmitted.unmounted,
        hadmitted.completedRuntime.trans hclaimRuntime, hadmitted.completedAfter,
        hadmitted.completedBefore, hadmitted.artifact, hadmitted.digest⟩
  have hcontinued : ContinuedFrom log log' run.spec.sessionId event.sequence :=
    hsession ▸ h.continued
  simp only [replaySnapshotEvent, hp,
    validateSnapshotReleaseTransition_persists hcontinued released leaseEvent _ hvalid]
  rfl

end Release

section Step

/-- An admitted snapshot event of a parallel reconnaissance run moves its lifecycle. -/
theorem Appended.lifecycle_step (h : Appended documents env log event admission log')
    (hrun : storedRun log run.id = some run) (hrecon : run.isParallelRecon = true)
    (hown : event.ofSnapshot run.id)
    (hstate : replayRepositorySnapshotLifecycle env log run = .ok state) :
    ∃ next, replaySnapshotEvent env log' run state event = .ok next := by
  obtain ⟨hrunId, hkind⟩ := hown
  have hsession := h.session hrun hrunId (createdRun_of_isSnapshotLifecycle hkind)
  have hcontinued : ContinuedFrom log log' run.spec.sessionId event.sequence :=
    hsession ▸ h.continued
  have hsame {other : Run} {runId : RunId} (hother : storedRun log runId = some other)
      (heq : event.runId = some runId) : other = run := by
    obtain rfl := Option.some.inj (heq.symm.trans hrunId)
    exact Option.some.inj (hother.symm.trans hrun)
  cases hp : event.payload <;> rw [hp] at hkind <;> try (cases hkind; done)
  case repositoryWriterLeaseRevoked revoked =>
    obtain ⟨other, ⟨⟨runId, hid, hother⟩, _, hreplayed⟩⟩ := h.revocation hp
    obtain rfl := hsame hother hid
    obtain ⟨hnone, capture, hcapture⟩ := hreplayed hrecon
    obtain rfl := Except.ok.inj (hstate.symm.trans hnone)
    refine ⟨.openCapture capture, ?_⟩
    simp only [replaySnapshotEvent, hp,
      replaySnapshotWriterRevocation_persists hcontinued revoked _ hcapture]
    rfl
  case repositorySnapshotCaptureClaimAdopted adopted =>
    obtain ⟨runId, other, capture, after, hid, hother, _, hopen, hafter⟩ := h.captureAdoption hp
    obtain rfl := hsame hother hid
    obtain rfl := Except.ok.inj (hstate.symm.trans hopen)
    refine ⟨.openCapture after, ?_⟩
    have hcarried : identityCount log (EventPayload.carriesCaptureAdoption adopted.adoptionId) =
          (if false then 1 else 0) →
        identityCount log' (EventPayload.carriesCaptureAdoption adopted.adoptionId) =
          if true then 1 else 0 := by
      intro hcount
      rw [identityCount_append h.events, hcount, List.countP_singleton, hp]
      simp [EventPayload.carriesCaptureAdoption]
    have hpersists := validateSnapshotCaptureAdoptionTransition_persists hcontinued hcarried _
      hafter
    simp only [replaySnapshotEvent, hp, hpersists]
    rfl
  case repositorySnapshotLeaseIssued issued =>
    obtain ⟨other, ⟨⟨runId, hid, hother⟩, _, hreplayed⟩⟩ := h.lease hp
    obtain rfl := hsame hother hid
    obtain ⟨capture, hopen, hvalid⟩ := hreplayed hrecon
    obtain rfl := Except.ok.inj (hstate.symm.trans hopen)
    refine ⟨.active capture event, ?_⟩
    have hnew : log.events.countP (fun stored => stored.id = event.id) = 0 := by
      rw [List.countP_eq_zero]
      intro stored hstored
      simpa using h.fresh stored hstored
    have hcommitted : log'.events.countP (fun stored => stored.id = event.id) = 1 := by
      rw [h.events, List.countP_append, hnew, List.countP_singleton]
      simp
    have hnamed : identityCount log
          (EventPayload.namesLease issued.snapshot.immutabilityLease.leaseId) =
            log.events.countP (fun stored => stored.id = event.id) + 1 →
        log'.events.countP (fun stored => stored.id = event.id) ≤ 1 ∧
        identityCount log' (EventPayload.namesLease issued.snapshot.immutabilityLease.leaseId) =
          log'.events.countP (fun stored => stored.id = event.id) + 1 := by
      intro hcount
      rw [hcommitted, identityCount_append h.events, hcount, hnew, List.countP_singleton, hp]
      simp [EventPayload.namesLease]
    have hpersists := validateSnapshotLeaseTransition_persists hnamed _ hvalid
    simp only [replaySnapshotEvent, hp, hpersists]
    rfl
  case repositorySnapshotLeaseReleased released =>
    obtain ⟨capture, leaseEvent, rfl, hstep⟩ := h.release_step hrun hrunId hstate hp
    exact ⟨_, hstep⟩
  case repositorySnapshotRecovery =>
    have hgeneric := h.generic (by simp [hp, EventPayload.createdSession])
      (by simp [hp, EventPayload.createdRun])
    simp only [validateGenericEvent, hp, bind_eq_ok, reduceCtorEq, and_false, exists_false]
      at hgeneric

/-- The lifecycle of a parallel reconnaissance run replays in every admitted log. -/
theorem Admitted.lifecycle (h : Admitted documents env log) (hrun : storedRun log run.id = some run)
    (hrecon : run.isParallelRecon = true) :
    ∃ state, replayRepositorySnapshotLifecycle env log run = .ok state := by
  induction h with
  | empty => cases hrun
  | @append log log' event admission hadm happly ih =>
    have happended := applyExactEventEnvelope_appended happly
    cases hbefore : storedRun log run.id with
    | none =>
      have hempty : snapshotHistory log' run = [] := by
        rw [List.eq_nil_iff_forall_not_mem]
        intro stored hstored
        obtain ⟨hmem, _, hrunId, hkind⟩ := mem_snapshotHistory.mp hstored
        rw [happended.events, List.mem_append, List.mem_singleton] at hmem
        have hbound : ∃ other, storedRun log run.id = some other := by
          rcases hmem with hmem | rfl
          · obtain ⟨other, hother, _⟩ := hadm.run_stored hmem hrunId
            exact ⟨other, hother⟩
          · obtain ⟨other, hother, _⟩ :=
              happended.bound (createdRun_of_isSnapshotLifecycle hkind) run.id hrunId
            exact ⟨other, hother⟩
        obtain ⟨other, hother⟩ := hbound
        rw [hbefore] at hother
        cases hother
      refine ⟨.none, replayRepositorySnapshotLifecycle_eq_ok.mpr ?_⟩
      rw [hempty]
      exact ⟨Nat.zero_le _, rfl⟩
    | some stored =>
      obtain rfl : stored = run :=
        Option.some.inj ((storedRun_append happended.events hbefore).symm.trans hrun)
      obtain ⟨state, hstate⟩ := ih hbefore
      by_cases hown : event.ofSnapshot stored.id
      · obtain ⟨next, hnext⟩ := happended.lifecycle_step hbefore hrecon hown hstate
        exact ⟨next, happended.lifecycle_own hbefore hown hstate hnext⟩
      · exact ⟨state, happended.lifecycle_other hown state hstate⟩

end Step

end BirdCode.Store
