import BirdCode.Lib.Persists
import BirdCode.Store.Events

/-! A log that was continued: what the events before the continuation read of it is unchanged. -/
namespace BirdCode.Store

open Lib (Persists)

variable {log log' log'' : EventLog} {sessionId : SessionId} {runId : RunId} {bound : ℕ}

/-- `log'` continues `log`, and in the session nothing before the bound was added. -/
def ContinuedFrom (log log' : EventLog) (sessionId : SessionId) (bound : ℕ) : Prop :=
  ∃ later, log'.events = log.events ++ later ∧
    ∀ event ∈ later, event.sessionId = sessionId → bound ≤ event.sequence

/-- What a log keeps of an event it holds when it is continued. -/
theorem ContinuedFrom.of_mem {event : EventEnvelope} (hkept : log.events <+: log'.events)
    (hmem : event ∈ log.events) : ContinuedFrom log log' event.sessionId event.sequence := by
  obtain ⟨later, hlater⟩ := hkept
  refine ⟨later, hlater.symm, fun added hadded hsession => ?_⟩
  have hordered := log'.ordered
  rw [← hlater] at hordered
  have hlt := (List.pairwise_append.mp hordered).2.2 event hmem added hadded hsession.symm
  exact Nat.le_of_lt hlt

theorem ContinuedFrom.kept (h : ContinuedFrom log log' sessionId bound) :
    log.events <+: log'.events := by
  obtain ⟨later, hlater, _⟩ := h
  exact ⟨later, hlater.symm⟩

/-- An event of the log is found by its identity. -/
theorem storedEventForRun_of_mem {event : EventEnvelope} (hmem : event ∈ log.events)
    (hsession : event.sessionId = sessionId) (hrun : event.runId = some runId) :
    storedEventForRun log sessionId runId event.id = .ok event := by
  rw [storedEventForRun, expect_eq_ok, List.find?_eq_some_iff_append]
  obtain ⟨before, after, hsplit⟩ := List.append_of_mem hmem
  refine ⟨by simp [hsession, hrun], before, after, hsplit, ?_⟩
  intro earlier hearlier
  have hdistinct := log.idsDistinct
  rw [hsplit, List.map_append, List.nodup_append] at hdistinct
  have hne := hdistinct.2.2 earlier.id (List.mem_map_of_mem hearlier) event.id
    (List.mem_map_of_mem (List.mem_cons_self ..))
  simp [hne]

theorem storedEventForRun_persists (hkept : log.events <+: log'.events) (eventId : EventId) :
    Persists (storedEventForRun log sessionId runId eventId)
      (storedEventForRun log' sessionId runId eventId) := by
  intro event h
  obtain ⟨later, hlater⟩ := hkept
  unfold storedEventForRun at h ⊢
  rw [expect_eq_ok] at h ⊢
  rw [← hlater, List.find?_append, h, Option.some_or]

theorem latestBefore_continued (h : ContinuedFrom log log' sessionId bound)
    (kind : EventPayload → Bool) :
    latestBefore log' sessionId runId kind bound = latestBefore log sessionId runId kind bound := by
  obtain ⟨later, hlater, hbound⟩ := h
  have hnone : (later.filter fun event => decide (event.sessionId = sessionId ∧
      event.runId = some runId ∧ event.sequence < bound ∧ kind event.payload = true)) = [] := by
    rw [List.filter_eq_nil_iff]
    intro event hevent hkind
    obtain ⟨hsession, _, hlt, _⟩ := of_decide_eq_true hkind
    have hle := hbound event hevent hsession
    omega
  unfold latestBefore
  rw [hlater, List.filter_append, hnone, List.append_nil]

theorem latestCancellationGenerationBefore_continued
    (h : ContinuedFrom log log' sessionId bound) :
    latestCancellationGenerationBefore log' sessionId runId bound =
      latestCancellationGenerationBefore log sessionId runId bound := by
  obtain ⟨later, hlater, hbound⟩ := h
  have hnone : (later.filter fun event => decide (event.sessionId = sessionId ∧
      event.runId = some runId ∧ event.sequence < bound)) = [] := by
    rw [List.filter_eq_nil_iff]
    intro event hevent hkind
    obtain ⟨hsession, _, hlt⟩ := of_decide_eq_true hkind
    have hle := hbound event hevent hsession
    omega
  unfold latestCancellationGenerationBefore
  rw [hlater, List.filter_append, hnone, List.append_nil]

end BirdCode.Store
