import BirdCode.Scheduler.Steps

/-! The executor's maps are the replay of its own records: what a run knows about its work orders
is what it has retained. -/
namespace BirdCode.Scheduler

variable {digest : CanonicalDigest} {graph : ValidatedActorGraph digest} {draw : ℕ → Uuid}
  {s t : SchedulerState} {p : Projection} {terminal : WorkOrderTerminal} {id : WorkOrderId}

namespace WorkOrderTerminal

def workOrderId : WorkOrderTerminal → WorkOrderId
  | .handoff retained => retained.workOrderId
  | .failed workOrderId _ _ => workOrderId

def eventId : WorkOrderTerminal → SchedulerEventId
  | .handoff retained => retained.retainedEventId
  | .failed _ _ terminalEventId => terminalEventId

def handoff? : WorkOrderTerminal → Option Handoff
  | .handoff retained => some retained
  | .failed .. => none

/-- An unfinished handoff counts as a failure too. -/
def failure? : WorkOrderTerminal → Option WorkOrderFailure
  | .handoff retained =>
    if retained.outcome = .completed then none else some (.incompleteHandoff retained.outcome)
  | .failed _ failure _ => some failure

end WorkOrderTerminal

section Apply

theorem applyTerminal_terminalEventIds :
    (applyTerminal p terminal).terminalEventIds =
      p.terminalEventIds.insert terminal.workOrderId terminal.eventId := by
  cases terminal <;> rfl

theorem applyTerminal_handoffs :
    (applyTerminal p terminal).handoffs =
      match terminal.handoff? with
      | some handoff => p.handoffs.insert terminal.workOrderId handoff
      | none => p.handoffs := by
  cases terminal <;> rfl

theorem applyTerminal_failures :
    (applyTerminal p terminal).failures =
      match terminal.failure? with
      | some failure => p.failures.insert terminal.workOrderId failure
      | none => p.failures := by
  cases terminal with
  | handoff handoff =>
    by_cases hcompleted : handoff.outcome = .completed <;>
      simp [applyTerminal, WorkOrderTerminal.failure?, WorkOrderTerminal.workOrderId, hcompleted]
  | failed => rfl

theorem mem_applyTerminal_terminalEventIds :
    id ∈ (applyTerminal p terminal).terminalEventIds ↔
      id = terminal.workOrderId ∨ id ∈ p.terminalEventIds := by
  rw [applyTerminal_terminalEventIds, Std.ExtTreeMap.mem_insert, Std.compare_eq_iff_eq, eq_comm]

theorem mem_applyTerminal_cleanupUnproven :
    id ∈ (applyTerminal p terminal).cleanupUnproven ↔
      id = terminal.workOrderId ∧ terminal.failure?.any (·.isCleanupUnproven) ∨
        id ∈ p.cleanupUnproven := by
  cases terminal with
  | handoff handoff =>
    by_cases hcompleted : handoff.outcome = .completed <;>
      simp [applyTerminal, WorkOrderTerminal.failure?, hcompleted,
        WorkOrderFailure.isCleanupUnproven]
  | failed workOrderId failure terminalEventId =>
    simp only [applyTerminal, WorkOrderTerminal.workOrderId, WorkOrderTerminal.failure?,
      Option.any_some]
    split
    · next h =>
      rw [Std.ExtTreeSet.mem_insert, Std.compare_eq_iff_eq]
      simp [h, eq_comm]
    · next h => simp [h]

/-- A terminal changes nothing about any other work order. -/
theorem applyTerminal_of_ne (h : id ≠ terminal.workOrderId) :
    (applyTerminal p terminal).handoffs[id]? = p.handoffs[id]? ∧
      (applyTerminal p terminal).failures[id]? = p.failures[id]? ∧
      (applyTerminal p terminal).terminalEventIds[id]? = p.terminalEventIds[id]? := by
  refine ⟨?_, ?_, ?_⟩
  · rw [applyTerminal_handoffs]
    split
    · exact getElem?_insert_of_ne h.symm
    · rfl
  · rw [applyTerminal_failures]
    split
    · exact getElem?_insert_of_ne h.symm
    · rfl
  · rw [applyTerminal_terminalEventIds]
    exact getElem?_insert_of_ne h.symm

/-- A terminal of a work order without one decides everything about it. -/
theorem applyTerminal_self (hhandoff : terminal.workOrderId ∉ p.handoffs)
    (hfailure : terminal.workOrderId ∉ p.failures) :
    (applyTerminal p terminal).handoffs[terminal.workOrderId]? = terminal.handoff? ∧
      (applyTerminal p terminal).failures[terminal.workOrderId]? = terminal.failure? ∧
      (applyTerminal p terminal).terminalEventIds[terminal.workOrderId]? =
        some terminal.eventId := by
  refine ⟨?_, ?_, ?_⟩
  · rw [applyTerminal_handoffs]
    split
    · next h => rw [h, Std.ExtTreeMap.getElem?_insert_self]
    · next h => rw [h, Std.ExtTreeMap.getElem?_eq_none hhandoff]
  · rw [applyTerminal_failures]
    split
    · next h => rw [h, Std.ExtTreeMap.getElem?_insert_self]
    · next h => rw [h, Std.ExtTreeMap.getElem?_eq_none hfailure]
  · rw [applyTerminal_terminalEventIds, Std.ExtTreeMap.getElem?_insert_self]

end Apply

/-- The terminal a record amounts to: a handoff, a failure that is not retried, or a work order
blocked by its dependencies. -/
def SchedulerRecord.terminal? (record : SchedulerRecord) : Option WorkOrderTerminal :=
  match record.event with
  | .handoffRetained handoff => some (.handoff handoff)
  | .attemptFailed data =>
    if data.willRetry then none else some (.failed data.workOrderId data.failure record.id)
  | .workOrderBlocked workOrderId dependencyIds _ =>
    some (.failed workOrderId (.dependencyFailed dependencyIds) record.id)
  | _ => none

def replayRecord (p : Projection) (record : SchedulerRecord) : Projection :=
  match record.terminal? with
  | some terminal => applyTerminal p terminal
  | none => p

/-- The projection that a list of records amounts to. -/
def replay (records : List SchedulerRecord) : Projection :=
  records.foldl replayRecord .empty

@[simp] theorem replay_append (records : List SchedulerRecord) (record : SchedulerRecord) :
    replay (records ++ [record]) = replayRecord (replay records) record := by
  simp [replay]

/-- A record that is a terminal of this work order. -/
def isTerminalOf (id : WorkOrderId) (record : SchedulerRecord) : Bool :=
  record.terminal?.any (·.workOrderId = id)

theorem mem_replay_terminalEventIds {records : List SchedulerRecord} :
    id ∈ (replay records).terminalEventIds ↔ ∃ record ∈ records, isTerminalOf id record = true := by
  induction records using List.reverseRecOn with
  | nil => simp [replay, Projection.empty]
  | append_singleton records record ih =>
    rw [replay_append, replayRecord]
    cases hterminal : record.terminal? with
    | none => simp [ih, isTerminalOf, hterminal]
    | some terminal =>
      simp only [mem_applyTerminal_terminalEventIds, ih, List.mem_append, List.mem_singleton,
        isTerminalOf]
      constructor
      · rintro (rfl | ⟨r, hr, hof⟩)
        · exact ⟨record, by simp, by simp [hterminal]⟩
        · exact ⟨r, by simp [hr], hof⟩
      · rintro ⟨r, hr | rfl, hof⟩
        · exact .inr ⟨r, hr, hof⟩
        · left
          simpa [hterminal, eq_comm] using hof

/-- The terminal event of a work order is the event of one of its terminals. -/
theorem replay_terminalEventIds_eq_some {records : List SchedulerRecord} {eventId : SchedulerEventId}
    (h : (replay records).terminalEventIds[id]? = some eventId) :
    ∃ record ∈ records, ∃ terminal, record.terminal? = some terminal ∧
      terminal.workOrderId = id ∧ terminal.eventId = eventId := by
  induction records using List.reverseRecOn with
  | nil => simp [replay, Projection.empty] at h
  | append_singleton records record ih =>
    rw [replay_append, replayRecord] at h
    split at h
    · next terminal hterminal =>
      rw [applyTerminal_terminalEventIds] at h
      by_cases hid : terminal.workOrderId = id
      · subst hid
        rw [Std.ExtTreeMap.getElem?_insert_self] at h
        exact ⟨record, by simp, terminal, hterminal, rfl, Option.some.inj h⟩
      · rw [getElem?_insert_of_ne hid] at h
        obtain ⟨r, hr, hfound⟩ := ih h
        exact ⟨r, by simp [hr], hfound⟩
    · obtain ⟨r, hr, hfound⟩ := ih h
      exact ⟨r, by simp [hr], hfound⟩

theorem mem_replay_cleanupUnproven {records : List SchedulerRecord} :
    id ∈ (replay records).cleanupUnproven ↔ ∃ record ∈ records, ∃ terminal,
      record.terminal? = some terminal ∧ terminal.workOrderId = id ∧
        terminal.failure?.any (·.isCleanupUnproven) = true := by
  induction records using List.reverseRecOn with
  | nil => simp [replay, Projection.empty]
  | append_singleton records record ih =>
    rw [replay_append, replayRecord]
    cases hterminal : record.terminal? with
    | none => simp [ih, hterminal]
    | some terminal =>
      simp only [mem_applyTerminal_cleanupUnproven, ih, List.mem_append, List.mem_singleton]
      constructor
      · rintro (⟨rfl, hunproven⟩ | ⟨r, hr, hfound⟩)
        · exact ⟨record, by simp, terminal, hterminal, rfl, hunproven⟩
        · exact ⟨r, by simp [hr], hfound⟩
      · rintro ⟨r, hr | rfl, terminal', hterminal', hid, hunproven⟩
        · exact .inr ⟨r, hr, terminal', hterminal', hid, hunproven⟩
        · obtain rfl := Option.some.inj (hterminal.symm.trans hterminal')
          exact .inl ⟨hid.symm, hunproven⟩

/-- A blocked work order is a failed one as far as the maps are concerned. -/
theorem block_projection (s : SchedulerState) (id : WorkOrderId) (dependencyIds : List WorkOrderId)
    (rest : List (WorkOrderId × List WorkOrderId)) :
    (block draw s id dependencyIds rest).projection =
      applyTerminal s.projection (.failed id (.dependencyFailed dependencyIds) ⟨draw s.drawn⟩) :=
  rfl

theorem launch_projection (graph : ValidatedActorGraph digest) (s : SchedulerState) :
    (launch graph s).projection = s.projection ∧ (launch graph s).records = s.records ∧
      (launch graph s).root = s.root ∧ (launch graph s).calls = s.calls := by
  unfold launch
  split <;> simp

theorem silent_projection {choice : Choice} (h : Silent graph s choice t) :
    t.projection = s.projection ∧ t.records = s.records ∧ t.root = s.root ∧ t.calls = s.calls := by
  cases h with
  | launch => exact launch_projection graph s
  | _ => exact ⟨rfl, rfl, rfl, rfl⟩

/-- An acknowledged record is replayed into the projection. -/
theorem offer_projection {choice : Choice} {record : SchedulerRecord}
    (h : Offer graph draw s choice record t) :
    t.projection = replayRecord s.projection record := by
  cases h <;> rfl

/-- The maps of the executor are the replay of the records of the run. -/
theorem replay_step {input : Input} (hs : s.projection = replay s.records)
    (h : step graph draw s input = some t) : t.projection = replay t.records := by
  cases step_cases h with
  | silent hsilent =>
    obtain ⟨hprojection, hrecords, -, -⟩ := silent_projection hsilent
    rw [hprojection, hrecords, hs]
  | accepted hoffer => rw [replay_append, ← hs, offer_projection hoffer]
  | rejected => exact hs

end BirdCode.Scheduler
