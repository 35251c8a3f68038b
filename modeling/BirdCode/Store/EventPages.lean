import BirdCode.Lib.Paging
import BirdCode.Store.AdmittedLogs
import BirdCode.Store.Fixtures

/-! The numbering of a session's events, and the pages in which the events of a session or of a run
are read while others are appended. -/
namespace BirdCode.Store

open Lib (Paging)

section Batches

variable (documents : PlanningDocuments) (env : Environment) (log : EventLog)

/-- The appends of one transaction: all of them are kept, or none. -/
def EventLog.attemptBatch (requests : List AppendRequest) : EventLog :=
  match requests.foldlM (fun log request =>
      applyExactEventEnvelope documents env log request.event request.admission) log with
  | .ok appended => appended
  | .error _ => log

/-- Transactions one after another, whether they succeed or not. -/
def EventLog.attemptBatches (batches : List (List AppendRequest)) : EventLog :=
  batches.foldl (EventLog.attemptBatch documents env) log

/-- The log at each of the requests of a reader, with the transactions in between. -/
def EventLog.views (between : List (List (List AppendRequest))) : List EventLog :=
  between.scanl (EventLog.attemptBatches documents env) log

end Batches

section Pages

variable (env : Environment) (log : EventLog)

/-- How much a page holds: at least one event, whatever its size. The code has one such bound,
`eventPageBounds`. -/
structure PageBounds where
  size : ℕ
  bytes : ℕ
  positive : 0 < size
  room : maxInlineEventBytes ≤ bytes

def eventPageBounds : PageBounds := ⟨512, 1024 * 1024, by decide, by decide⟩

structure EventPage where
  events : List EventEnvelope
  nextSequence : ℕ
  hasMore : Bool
  encodedBytes : ℕ

/-- What the loop over the rows has collected. -/
structure CollectedRows where
  events : List EventEnvelope
  encodedBytes : ℕ
  hasMore : Bool

variable (bounds : PageBounds) (matchesRow : EventEnvelope → EventEnvelope → Bool)

/-- The loop over the rows of a page. A row holds the JSON that was written of its event. -/
def collectRows : List EventEnvelope → CollectedRows → Except StoreError CollectedRows
  | [], collected => .ok collected
  | row :: rows, collected => do
    let json ← expect .invalidStateEvent (env.wires.event.toVec row)
    ensure (json.length ≤ maxInlineEventBytes) .eventTooLarge
    if collected.events.length = bounds.size ∨
        bounds.bytes < collected.encodedBytes + json.length then
      return { collected with hasMore := true }
    else
      let event ← expect .json (env.wires.event.fromSlice json)
      ensure (matchesRow row event = true) .invalidStateEvent
      collectRows rows ⟨collected.events ++ [event], collected.encodedBytes + json.length, false⟩

/-- One page of the rows that a query selects, `LIMIT` one more than a page holds. -/
def readPage (rows : List EventEnvelope) (sequence : ℕ) : Except StoreError EventPage := do
  ensure (sequence ≤ maxSqliteInteger) .database
  let collected ← collectRows env bounds matchesRow (rows.take (bounds.size + 1)) ⟨[], 0, false⟩
  return {
    events := collected.events
    nextSequence := (collected.events.getLast?.map EventEnvelope.sequence).getD sequence
    hasMore := collected.hasMore
    encodedBytes := collected.encodedBytes }

/-- `events_after`. -/
def eventsAfter (sessionId : SessionId) (sequence : ℕ) : Except StoreError EventPage :=
  readPage env bounds (fun row event => event.sequence = row.sequence)
    (log.events.filter fun event => event.sessionId = sessionId ∧ sequence < event.sequence)
    sequence

/-- `events_for_run_after`. -/
def eventsForRunAfter (runId : RunId) (sequence : ℕ) : Except StoreError EventPage := do
  let run ← expect .invalidStateEvent (storedRun log runId)
  readPage env bounds
    (fun row event => event.sequence = row.sequence ∧ event.runId = some runId ∧
      event.sessionId = run.spec.sessionId)
    (log.events.filter fun event => event.sessionId = run.spec.sessionId ∧
      event.runId = some runId ∧ sequence < event.sequence)
    sequence

inductive RuntimeError
  | repository (error : StoreError)
  | cursorDidNotAdvance

/-- `run_events`, each page of which is read from the log as it is by then. It has no result while
it still reads when the logs end. -/
def Runtime.runEvents (runId : RunId) :
    List EventLog → ℕ → List EventEnvelope → Except RuntimeError (Option (List EventEnvelope))
  | [], _, _ => .ok none
  | log :: later, cursor, events => do
    let page ← (eventsForRunAfter env log bounds runId cursor).mapError .repository
    let events := events ++ page.events
    if page.hasMore = false then return some events
    else if page.nextSequence ≤ cursor then throw .cursorDidNotAdvance
    else Runtime.runEvents runId later page.nextSequence events

/-- What a reader pages through. -/
inductive EventStream
  | session (sessionId : SessionId)
  | run (runId : RunId)

/-- All events of the stream. -/
def EventStream.events (log : EventLog) : EventStream → List EventEnvelope
  | .session sessionId => log.events.filter fun event => event.sessionId = sessionId
  | .run runId => log.events.filter fun event => event.runId = some runId

/-- A run has to be stored before its events can be asked for. -/
def EventStream.Known (log : EventLog) : EventStream → Prop
  | .session _ => True
  | .run runId => (storedRun log runId).isSome = true

def EventStream.page (stream : EventStream) (log : EventLog) (sequence : ℕ) :
    Except StoreError EventPage :=
  match stream with
  | .session sessionId => eventsAfter env log bounds sessionId sequence
  | .run runId => eventsForRunAfter env log bounds runId sequence

def EventStream.paging (stream : EventStream) : Paging EventLog EventPage EventEnvelope where
  whole log := stream.events log
  cursor := Paging.lastPosition EventEnvelope.sequence
  items := EventPage.events
  next := EventPage.nextSequence
  hasMore := EventPage.hasMore

end Pages

variable {documents : PlanningDocuments} {env : Environment} {log log' : EventLog}
  {event : EventEnvelope} {admission : EventAdmission} {requests : List AppendRequest}

section Numbering

/-- What an accepted append says of its event's place in the log. -/
structure Sequenced (env : Environment) (log : EventLog) (event : EventEnvelope) : Prop where
  next : event.sequence = currentSequence log event.sessionId + 1
  caused : ∀ parent, event.causalParent = some parent →
    ∃ cause ∈ log.events, cause.id = parent ∧ cause.sessionId = event.sessionId
  written : ∃ json, env.wires.event.toVec event = some json ∧ json.length ≤ maxInlineEventBytes

theorem applyExactEventEnvelope_sequenced
    (h : applyExactEventEnvelope documents env log event admission = .ok log') :
    Sequenced env log event := by
  simp only [applyExactEventEnvelope, bind_eq_ok, expect_eq_ok, ensure_eq_ok] at h
  obtain ⟨_, hexact, _, _, _, _, json, hjson, _, hlength, _⟩ := h
  simp only [validateExactEventAdmission, bind_eq_ok, ensure_eq_ok] at hexact
  obtain ⟨_, _, _, hsequence, _, _, hcausal⟩ := hexact
  refine ⟨hsequence, ?_, json, hjson, hlength⟩
  intro parent hparent
  rw [hparent, Option.all_some, List.any_eq_true] at hcausal
  obtain ⟨cause, hmem, hcause⟩ := hcausal
  exact ⟨cause, hmem, of_decide_eq_true hcause⟩

/-- The sequences of each session count its events, causes stand before what they caused, and every
event was written within the bound. -/
structure Numbered (env : Environment) (log : EventLog) : Prop where
  sequences : ∀ sessionId, ((EventStream.session sessionId).events log).map
    EventEnvelope.sequence = List.range' 1 ((EventStream.session sessionId).events log).length
  caused : ∀ event ∈ log.events, ∀ parent, event.causalParent = some parent →
    ∃ cause ∈ log.events, cause.id = parent ∧ cause.sessionId = event.sessionId ∧
      cause.sequence < event.sequence
  written : ∀ event ∈ log.events, ∃ json, env.wires.event.toVec event = some json ∧
    json.length ≤ maxInlineEventBytes

theorem foldl_max_range' (n : ℕ) : (List.range' 1 n).foldl max 0 = n := by
  induction n with
  | zero => rfl
  | succ n ih =>
    rw [List.range'_concat, List.foldl_append, ih, List.foldl_cons, List.foldl_nil]
    omega

theorem Numbered.currentSequence_eq (h : Numbered env log) (sessionId : SessionId) :
    currentSequence log sessionId = ((EventStream.session sessionId).events log).length := by
  have hsequences := h.sequences sessionId
  unfold EventStream.events at hsequences ⊢
  rw [currentSequence, hsequences, foldl_max_range']

theorem Numbered.append (h : Numbered env log) (hsequenced : Sequenced env log event)
    (happended : Appended documents env log event admission log') : Numbered env log' := by
  have hevents := happended.events
  refine ⟨?_, ?_, ?_⟩
  · intro sessionId
    have hsequences := h.sequences sessionId
    unfold EventStream.events at hsequences ⊢
    simp only [hevents, List.filter_append]
    by_cases hsession : event.sessionId = sessionId
    · have hnext := hsequenced.next
      rw [hsession, h.currentSequence_eq] at hnext
      unfold EventStream.events at hnext
      simp only [hsession, List.filter_singleton, decide_true, Bool.cond_true, List.map_append,
        hsequences, List.map_singleton, List.length_append, List.length_singleton,
        List.range'_concat, hnext]
      congr 2
      omega
    · simp [hsession, hsequences]
  · intro other hother parent hparent
    rw [hevents, List.mem_append, List.mem_singleton] at hother
    rcases hother with hother | rfl
    · obtain ⟨cause, hmem, hcause⟩ := h.caused other hother parent hparent
      exact ⟨cause, happended.kept.mem hmem, hcause⟩
    · obtain ⟨cause, hmem, hid, hsession⟩ := hsequenced.caused parent hparent
      exact ⟨cause, happended.kept.mem hmem, hid, hsession, happended.later cause hmem hsession⟩
  · intro other hother
    rw [hevents, List.mem_append, List.mem_singleton] at hother
    rcases hother with hother | rfl
    · exact h.written other hother
    · exact hsequenced.written

theorem Admitted.numbered (h : Admitted documents env log) : Numbered env log := by
  induction h with
  | empty => exact ⟨fun _ => rfl, by simp, by simp⟩
  | append _ happly ih =>
    exact ih.append (applyExactEventEnvelope_sequenced happly)
      (applyExactEventEnvelope_appended happly)

theorem Continues.foldlM {start : EventLog} (h : Continues documents env start log)
    (hfold : requests.foldlM (fun log request =>
      applyExactEventEnvelope documents env log request.event request.admission) log = .ok log') :
    Continues documents env start log' := by
  induction requests generalizing log with
  | nil =>
    cases hfold
    exact h
  | cons request rest ih =>
    rw [List.foldlM_cons, bind_eq_ok] at hfold
    obtain ⟨middle, happly, hrest⟩ := hfold
    exact ih (h.append happly) hrest

theorem Continues.attemptBatches {start : EventLog} (h : Continues documents env start log)
    (batches : List (List AppendRequest)) :
    Continues documents env start (log.attemptBatches documents env batches) := by
  unfold EventLog.attemptBatches
  induction batches generalizing log with
  | nil => exact h
  | cons batch rest ih =>
    refine ih ?_
    unfold EventLog.attemptBatch
    split
    case h_1 appended hfold => exact h.foldlM hfold
    case h_2 => exact h

theorem Admitted.attemptBatches (h : Admitted documents env log)
    (batches : List (List AppendRequest)) :
    Admitted documents env (log.attemptBatches documents env batches) :=
  h.continue (Continues.refl.attemptBatches batches)

variable (between : List (List (List AppendRequest)))

theorem Admitted.views (h : Admitted documents env log) :
    ∀ view ∈ log.views documents env between, Admitted documents env view := by
  unfold EventLog.views
  induction between generalizing log with
  | nil => simpa using h
  | cons batches rest ih =>
    rw [List.scanl_cons, List.forall_mem_cons]
    exact ⟨h, ih (h.attemptBatches batches)⟩

end Numbering

section Reading

variable {bounds : PageBounds} {matchesRow : EventEnvelope → EventEnvelope → Bool}
  {rows : List EventEnvelope} {stream : EventStream} {sequence : ℕ}

theorem EventStream.Known.kept (hknown : stream.Known log) (h : log.events <+: log'.events) :
    stream.Known log' := by
  cases stream with
  | session sessionId => trivial
  | run runId =>
    obtain ⟨run, hrun⟩ := Option.isSome_iff_exists.mp hknown
    obtain ⟨later, hlater⟩ := h
    exact Option.isSome_of_eq_some (storedRun_append hlater.symm hrun)

end Reading

section Following

variable {bounds : PageBounds} {runId : RunId} {views : List EventLog} {pages : List EventPage}
  {before events : List EventEnvelope} {cursor : ℕ}

end Following

section Sample

end Sample

end BirdCode.Store
