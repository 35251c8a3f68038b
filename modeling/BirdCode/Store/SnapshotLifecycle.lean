import BirdCode.Store.ChildInvariant
import BirdCode.Store.ChildStability
import BirdCode.Store.RunAuthority

/-! The lifecycle of a snapshot as a relation of its own, what the replay says of the history it
accepted, and the lifecycle of a parallel reconnaissance run in every admitted log. -/
namespace BirdCode.Store

open Lib (Persists)

variable {documents : PlanningDocuments} {env : Environment} {log log' : EventLog} {run : Run}
  {event : EventEnvelope} {admission : EventAdmission}
  {state next : RepositorySnapshotLifecycleReplay}

section Relation

/-- The retained document of a lease names the lease. -/
def LeaseRetained (env : Environment) (issued : RepositorySnapshotLeaseIssued) : Prop :=
  ∃ retained, readCanonicalJsonArtifact env.root env.wires.snapshotLease
      issued.snapshot.immutabilityLease.leaseArtifact repositorySnapshotLeaseMediaType =
    .ok retained ∧ retained.leaseId = issued.snapshot.immutabilityLease.leaseId

/-- The lifecycle a history of snapshot events leads to: a revocation, the adoptions of its
claim, a lease of the last adopted claim and its release, each at most once and in this order. -/
inductive LifecycleOf (env : Environment) :
    List EventEnvelope → RepositorySnapshotLifecycleReplay → Prop
  | none : LifecycleOf env [] .none
  | revoked {event : EventEnvelope} {revoked : RepositoryWriterLeaseRevoked}
      {capture : RepositorySnapshotOpenReplay}
      (hp : event.payload = .repositoryWriterLeaseRevoked revoked)
      (hcount : capture.adoptionCount = 0)
      (hholder : capture.activeClaimEvent.id = revoked.claimEventId) :
      LifecycleOf env [event] (.openCapture capture)
  | adopted {history : List EventEnvelope} {event : EventEnvelope}
      {adopted : RepositorySnapshotCaptureClaimAdopted}
      {capture capture' : RepositorySnapshotOpenReplay}
      (h : LifecycleOf env history (.openCapture capture))
      (hp : event.payload = .repositorySnapshotCaptureClaimAdopted adopted)
      (hcount : capture'.adoptionCount.toNat = capture.adoptionCount.toNat + 1)
      (hbudget : capture.adoptionCount < parallelReconnaissanceV1MaxSnapshotClaimAdoptions)
      (hprior : capture.activeClaimEvent.id = adopted.priorClaimEventId)
      (hholder : capture'.activeClaimEvent.id = adopted.newClaimEventId) :
      LifecycleOf env (history ++ [event]) (.openCapture capture')
  | leased {history : List EventEnvelope} {event : EventEnvelope}
      {issued : RepositorySnapshotLeaseIssued} {capture : RepositorySnapshotOpenReplay}
      (h : LifecycleOf env history (.openCapture capture))
      (hp : event.payload = .repositorySnapshotLeaseIssued issued)
      (hholder : capture.activeClaimEvent.id = issued.claimEventId)
      (hretained : LeaseRetained env issued) :
      LifecycleOf env (history ++ [event]) (.active capture event)
  | released {history : List EventEnvelope} {event leaseEvent : EventEnvelope}
      {released : RepositorySnapshotLeaseReleased} {capture : RepositorySnapshotOpenReplay}
      (h : LifecycleOf env history (.active capture leaseEvent))
      (hp : event.payload = .repositorySnapshotLeaseReleased released)
      (hlease : released.leaseEventId = leaseEvent.id) :
      LifecycleOf env (history ++ [event]) (.closedLease capture leaseEvent event)

theorem snapshotClaimEvent_eq_ok {eventId : EventId} {stored : StoredClaim}
    (h : snapshotClaimEvent log run eventId = .ok stored) : stored.event.id = eventId := by
  simp only [snapshotClaimEvent, bind_eq_ok, readClaim_eq_ok] at h
  obtain ⟨claimEvent, hfound, rfl, _⟩ := h
  exact (storedEventForRun_mem hfound).2.1

/-- One replayed event is one move of the lifecycle. -/
theorem LifecycleOf.step {history : List EventEnvelope} (h : LifecycleOf env history state)
    (hreplay : replaySnapshotEvent env log run state event = .ok next) :
    LifecycleOf env (history ++ [event]) next := by
  unfold replaySnapshotEvent at hreplay
  cases state with
  | none =>
    cases hp : event.payload <;> simp only [hp, reduceCtorEq] at hreplay
    case repositoryWriterLeaseRevoked revoked =>
      cases h
      simp only [bind_eq_ok, replaySnapshotWriterRevocation, ensure_eq_ok] at hreplay
      obtain ⟨capture, ⟨stored, hstored, _, _, _, _, _, _, _, _, hcapture⟩, hnext⟩ := hreplay
      cases hcapture
      cases hnext
      exact .revoked hp rfl (snapshotClaimEvent_eq_ok hstored)
  | openCapture capture =>
    cases hp : event.payload <;> simp only [hp, reduceCtorEq] at hreplay
    case repositorySnapshotCaptureClaimAdopted adopted =>
      simp only [bind_eq_ok, validateSnapshotCaptureAdoptionTransition, ensure_eq_ok,
        expect_eq_ok] at hreplay
      obtain ⟨capture', ⟨prior, hprior, claimed, hclaimed, _, _, _, _, _, _, _, hfacts, _,
        ⟨_, hbudget⟩, _, _, count, hcount, hcapture⟩, hnext⟩ := hreplay
      obtain ⟨_, _, _, _, _, _, _, _, _, hholder, _⟩ := hfacts
      cases hcapture
      cases hnext
      refine .adopted h hp ?_ hbudget ?_ (snapshotClaimEvent_eq_ok hclaimed)
      · exact checkedSucc32_eq_some hcount
      · rw [hholder]
        exact snapshotClaimEvent_eq_ok hprior
    case repositorySnapshotLeaseIssued issued =>
      simp only [bind_eq_ok, validateSnapshotLeaseTransition, ensure_eq_ok] at hreplay
      obtain ⟨_, ⟨retained, hretained, _, _, hfacts⟩, hnext⟩ := hreplay
      obtain ⟨_, _, _, _, _, _, hholder, _, _, _, _, _, _, hlease, _⟩ := hfacts
      cases hnext
      exact .leased h hp hholder ⟨retained, hretained, hlease⟩
  | active capture leaseEvent =>
    cases hp : event.payload <;> simp only [hp, reduceCtorEq] at hreplay
    case repositorySnapshotLeaseReleased released =>
      simp only [bind_eq_ok, validateSnapshotReleaseTransition] at hreplay
      obtain ⟨_, hvalid, hnext⟩ := hreplay
      split at hvalid
      case h_2 => cases hvalid
      case h_1 =>
        simp only [bind_eq_ok, ensure_eq_ok] at hvalid
        obtain ⟨_, _, _, _, _, _, hlease, _⟩ := hvalid
        cases hnext
        exact .released h hp hlease
  | closedLease => simp at hreplay

/-- A history that replays is a history of the lifecycle it replays to. -/
theorem lifecycleOf_foldlM {history : List EventEnvelope}
    (h : history.foldlM (replaySnapshotEvent env log run) .none = .ok state) :
    LifecycleOf env history state := by
  induction history using List.reverseRecOn generalizing state with
  | nil =>
    cases h
    exact .none
  | append_singleton history event ih =>
    rw [List.foldlM_append, bind_eq_ok] at h
    obtain ⟨before, hbefore, hlast⟩ := h
    rw [List.foldlM_cons, bind_eq_ok] at hlast
    obtain ⟨after, hafter, hpure⟩ := hlast
    cases hpure
    exact (ih hbefore).step hafter

end Relation

section Shape

variable {history : List EventEnvelope} {capture : RepositorySnapshotOpenReplay}
  {leaseEvent closureEvent : EventEnvelope}

/-- How many events a capture's history has: its revocation and its adoptions. -/
theorem LifecycleOf.open_length (h : LifecycleOf env history (.openCapture capture)) :
    history.length = capture.adoptionCount.toNat + 1 ∧
      capture.adoptionCount ≤ parallelReconnaissanceV1MaxSnapshotClaimAdoptions := by
  generalize hstate : RepositorySnapshotLifecycleReplay.openCapture capture = state at h
  induction h generalizing capture with
  | none => cases hstate
  | revoked hp hcount hholder =>
    cases hstate
    rw [hcount]
    exact ⟨rfl, by decide⟩
  | @adopted history event adopted before after h hp hcount hbudget hprior hholder ih =>
    cases hstate
    obtain ⟨hlength, _⟩ := ih rfl
    rw [List.length_append, List.length_singleton, hlength, hcount]
    refine ⟨rfl, ?_⟩
    rw [UInt32.le_iff_toNat_le, hcount]
    exact UInt32.lt_iff_toNat_lt.mp hbudget
  | leased => cases hstate
  | released => cases hstate

/-- The history stays within the limit of the replay. -/
theorem LifecycleOf.length_le (h : LifecycleOf env history state) :
    history.length ≤ parallelReconSnapshotLifecycleMaxEvents := by
  have hopen {capture : RepositorySnapshotOpenReplay} {history : List EventEnvelope}
      (h : LifecycleOf env history (.openCapture capture)) : history.length ≤ 257 := by
    obtain ⟨hlength, hbudget⟩ := h.open_length
    have hle : capture.adoptionCount.toNat ≤ 256 := UInt32.le_iff_toNat_le.mp hbudget
    omega
  have hlimit : parallelReconSnapshotLifecycleMaxEvents = 278 := by decide
  cases h with
  | none => exact Nat.zero_le _
  | revoked hp hcount hholder =>
    have := hopen (.revoked hp hcount hholder)
    omega
  | adopted h hp hcount hbudget hprior hholder =>
    have := hopen (.adopted h hp hcount hbudget hprior hholder)
    omega
  | leased h hp =>
    have := hopen h
    rw [List.length_append, List.length_singleton]
    omega
  | released h hp hlease =>
    cases h with
    | leased h hp =>
      have := hopen h
      rw [List.length_append, List.length_append, List.length_singleton, List.length_singleton]
      omega

/-- An open capture has no lease and no release in its history. -/
theorem LifecycleOf.open_mem (h : LifecycleOf env history (.openCapture capture))
    (hmem : event ∈ history) :
    (∀ issued, event.payload ≠ .repositorySnapshotLeaseIssued issued) ∧
      ∀ released, event.payload ≠ .repositorySnapshotLeaseReleased released := by
  generalize hstate : RepositorySnapshotLifecycleReplay.openCapture capture = state at h
  induction h generalizing capture with
  | none => cases hmem
  | revoked hp =>
    rw [List.mem_singleton.mp hmem, hp]
    exact ⟨fun _ h => (by cases h), fun _ h => (by cases h)⟩
  | @adopted history added adopted before after h hp hcount hbudget hprior hholder ih =>
    rw [List.mem_append, List.mem_singleton] at hmem
    rcases hmem with hmem | rfl
    · exact ih hmem rfl
    · rw [hp]
      exact ⟨fun _ h => (by cases h), fun _ h => (by cases h)⟩
  | leased => cases hstate
  | released => cases hstate

/-- The lease of an active lifecycle is the one lease of its history, and there is no release. -/
theorem LifecycleOf.active_mem (h : LifecycleOf env history (.active capture leaseEvent)) :
    leaseEvent ∈ history ∧
      (∃ issued, leaseEvent.payload = .repositorySnapshotLeaseIssued issued ∧
        LeaseRetained env issued) ∧
      ∀ event ∈ history,
        (∀ issued, event.payload = .repositorySnapshotLeaseIssued issued → event = leaseEvent) ∧
        ∀ released, event.payload ≠ .repositorySnapshotLeaseReleased released := by
  cases h with
  | @leased before _ issued _ h hp hholder hretained =>
    refine ⟨List.mem_append_right _ (List.mem_singleton.mpr rfl), ⟨issued, hp, hretained⟩, ?_⟩
    intro event hmem
    rw [List.mem_append, List.mem_singleton] at hmem
    rcases hmem with hmem | rfl
    · obtain ⟨hlease, hrelease⟩ := h.open_mem hmem
      exact ⟨fun issued hp => absurd hp (hlease issued), hrelease⟩
    · refine ⟨fun _ _ => rfl, fun released h => ?_⟩
      rw [hp] at h
      cases h

/-- A history with a lease has led to an active lease or past it. -/
theorem LifecycleOf.of_lease {issued : RepositorySnapshotLeaseIssued}
    (h : LifecycleOf env history state) (hmem : event ∈ history)
    (hp : event.payload = .repositorySnapshotLeaseIssued issued) :
    (∃ capture, state = .active capture event) ∨
      ∃ capture closureEvent released, state = .closedLease capture event closureEvent ∧
        closureEvent ∈ history ∧
        closureEvent.payload = .repositorySnapshotLeaseReleased released ∧
        released.leaseEventId = event.id := by
  cases h with
  | none => cases hmem
  | revoked hrevoked =>
    rw [List.mem_singleton.mp hmem, hrevoked] at hp
    cases hp
  | adopted h hadopted hcount hbudget hprior hholder =>
    have hopen := LifecycleOf.adopted h hadopted hcount hbudget hprior hholder
    exact absurd hp ((hopen.open_mem hmem).1 issued)
  | @leased before lease leaseIssued capture h hlease hholder hretained =>
    have hactive := LifecycleOf.leased h hlease hholder hretained
    have := (hactive.active_mem.2.2 event hmem).1 issued hp
    exact .inl ⟨capture, by rw [this]⟩
  | @released before closure lease released capture h hreleased hnamed =>
    rw [List.mem_append, List.mem_singleton] at hmem
    rcases hmem with hmem | rfl
    · obtain rfl := (h.active_mem.2.2 event hmem).1 issued hp
      exact .inr ⟨capture, closure, released, rfl,
        List.mem_append_right _ (List.mem_singleton.mpr rfl), hreleased, hnamed⟩
    · rw [hp] at hreleased
      cases hreleased

end Shape

end BirdCode.Store
