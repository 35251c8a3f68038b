import BirdCode.Scheduler.Progress

/-! A run over an accepting journal and proven cleanups ends with an exact account of the graph. -/
namespace BirdCode.Scheduler

open Lib

variable {digest : CanonicalDigest} {graph : ValidatedActorGraph digest} {draw : ℕ → Uuid}
  {s t : SchedulerState} {input : Input} {id : WorkOrderId} {order : WorkOrder}
  {tr : List (SchedulerState × Input)}

section Retained

/-- What the retained records say about the terminals of the work orders. -/
structure Retained (s : SchedulerState) : Prop where
  replayed : s.projection = replay s.records
  named : ∀ record ∈ s.records, ∀ terminal, record.terminal? = some terminal →
    terminal.eventId = record.id
  once : ∀ id, s.records.countP (isTerminalOf id) = if id ∈ s.projection.terminalEventIds then 1 else 0

theorem retained_start : Retained (.start graph) := by
  constructor <;> simp [SchedulerState.start, replay, Projection.empty]

/-- A retained terminal belongs to a work order without one, and is named by its record. -/
theorem offer_terminal (hs : Scheduled graph s) {choice : Choice} {record : SchedulerRecord}
    {terminal : WorkOrderTerminal} (h : Offer graph draw s choice record t)
    (hterminal : record.terminal? = some terminal) :
    terminal.workOrderId ∉ s.projection.terminalEventIds ∧ terminal.eventId = record.id := by
  cases h with
  | block hc =>
    obtain ⟨-, hpending⟩ := hs.blocked _ _ hc
    obtain rfl := Option.some.inj hterminal
    exact ⟨(hs.partition.pending_not_terminal (hpending _ (List.mem_cons_self ..))).1, rfl⟩
  | fail hc hactive =>
    obtain rfl := Option.some.inj hterminal
    exact ⟨hs.partition.terminal_fresh hactive rfl, rfl⟩
  | handoff hc hactive =>
    obtain rfl := Option.some.inj hterminal
    exact ⟨hs.partition.terminal_fresh hactive rfl, rfl⟩
  | _ => cases hterminal

theorem retained_step (hs : Scheduled graph s) (hr : Retained s)
    (h : step graph draw s input = some t) : Retained t := by
  have hreplayed := replay_step hr.replayed h
  cases step_cases h with
  | silent hsilent =>
    obtain ⟨hprojection, hrecords, -, -⟩ := silent_projection hsilent
    exact ⟨hreplayed, hrecords ▸ hr.named, hrecords ▸ hprojection ▸ hr.once⟩
  | @accepted _ record next hoffer =>
    have hprojection := offer_projection hoffer
    refine ⟨hreplayed, ?_, fun id => ?_⟩
    · intro r hmem terminal hterminal
      rcases List.mem_append.mp hmem with hmem | hmem
      · exact hr.named r hmem terminal hterminal
      · obtain rfl := List.mem_singleton.mp hmem
        exact (offer_terminal hs hoffer hterminal).2
    · have honce := hr.once id
      rw [List.countP_append, honce, hprojection, replayRecord, List.countP_singleton]
      cases hterminal : record.terminal? with
      | none => simp [isTerminalOf, hterminal]
      | some terminal =>
        obtain ⟨hfresh, -⟩ := offer_terminal hs hoffer hterminal
        simp only [mem_applyTerminal_terminalEventIds, isTerminalOf, hterminal, Option.any_some]
        by_cases hid : id = terminal.workOrderId
        · subst hid
          simp [hfresh]
        · simp [hid, Ne.symm hid]
  | rejected => exact ⟨hreplayed, hr.named, hr.once⟩

theorem retained_run (h : Run (step graph draw) (.start graph) tr s) : Retained s :=
  (h.invariant (P := fun s => Scheduled graph s ∧ Retained s)
    (fun _ _ _ hs hstep => ⟨scheduled_step hs.1 hstep, retained_step hs.1 hs.2 hstep⟩)
    ⟨scheduled_start, retained_start⟩).2

/-- The terminal event of a work order names its one terminal record. -/
theorem Retained.terminal_record (hr : Retained s) {eventId : SchedulerEventId}
    (h : s.projection.terminalEventIds[id]? = some eventId) :
    ∃ record, s.records.filter (isTerminalOf id) = [record] ∧ record.id = eventId := by
  have hmem : id ∈ s.projection.terminalEventIds :=
    Std.ExtTreeMap.mem_iff_isSome_getElem?.mpr (by simp [h])
  have hcount := hr.once id
  rw [if_pos hmem, List.countP_eq_length_filter, List.length_eq_one_iff] at hcount
  obtain ⟨only, honly⟩ := hcount
  rw [hr.replayed] at h
  obtain ⟨record, hrecord, terminal, hterminal, rfl, heventId⟩ := replay_terminalEventIds_eq_some h
  have hin : record ∈ s.records.filter (isTerminalOf terminal.workOrderId) :=
    List.mem_filter.mpr ⟨hrecord, by simp [isTerminalOf, hterminal]⟩
  rw [honly, List.mem_singleton] at hin
  subst hin
  exact ⟨record, honly, (hr.named record hrecord terminal hterminal).symm.trans heventId⟩

end Retained

section Proven

/-- A cleanup ends before its deadline and with a usable receipt. -/
def PollEvent.cleanupProven : PollEvent → Bool
  | .cleanup result =>
    (result.join.bind fun receipt => boundedReceipt receipt.cleanupReceiptId).isSome
  | _ => true

/-- The journal accepts, and a cleanup that ends is proven. -/
def Input.Proven (input : Input) : Prop :=
  input.rejection = none ∧
    ∀ index event, input.choice = .poll index event → event.cleanupProven = true

/-- Only a cleanup without a usable receipt leaves the cleanup unproven. -/
theorem Fails.isCleanupUnproven {future : WorkOrderFuture} {identity : WorkOrderIdentity}
    {attemptNumber : ℕ} {attemptId : AttemptId} {dispatched : SchedulerEventId} {event : PollEvent}
    {failure : WorkOrderFailure}
    (h : Fails graph future identity attemptNumber attemptId dispatched event failure) :
    failure.isCleanupUnproven = !event.cleanupProven := by
  cases h with
  | completion hphase hjudge =>
    unfold judgeCompletion at hjudge
    split at hjudge
    · cases hjudge
      rfl
    · split at hjudge <;> cases hjudge
      rfl
  | worker hphase hjudge =>
    unfold judgeFailure at hjudge
    split at hjudge
    · cases hjudge
      rfl
    · split at hjudge
      · cases hjudge
        rfl
      · split at hjudge <;> cases hjudge
        rfl
  | @cleanup result hphase =>
    simp only [judgeCleanup, PollEvent.cleanupProven]
    cases result.join.bind fun receipt => boundedReceipt receipt.cleanupReceiptId <;> rfl

/-- A silent step neither restarts nor ends the run, nor leaves a future between two attempts. -/
theorem silent_control (hs : Scheduled graph s) {choice : Choice} (h : Silent graph s choice t) :
    t.control ≠ .begin ∧ (∀ index, t.control ≠ .redispatching index) ∧
      ∀ result, t.control ≠ .returned result := by
  cases h with
  | launch hc =>
    rcases launch_leads_on hs.partition hs.schedule hc with ⟨hnext, -⟩ | ⟨hnext, -⟩ | ⟨hnext, -⟩
    all_goals
      refine ⟨fun hcontrol => ?_, fun index hcontrol => ?_, fun result hcontrol => ?_⟩ <;>
        cases hnext.symm.trans hcontrol
  | stall hc hactive => exact absurd hactive (hs.schedule.awaiting hc)
  | timeout hc => simp [hc]
  | _ => simp

/-- Nothing has failed the run: every cleanup is proven, and no error has been returned. -/
structure Clean (s : SchedulerState) : Prop where
  proven : s.projection.cleanupUnproven.isEmpty
  no_error : ∀ error, s.control ≠ .returned (.error error)

theorem clean_start : Clean (.start graph) := by
  constructor <;> simp [SchedulerState.start, Projection.empty]

theorem clean_step (hs : Scheduled graph s) (hclean : Clean s) (hinput : input.Proven)
    (h : step graph draw s input = some t) : Clean t := by
  obtain ⟨hproven, hnone⟩ := hclean
  cases step_cases h with
  | silent hsilent =>
    exact ⟨(silent_projection hsilent).1 ▸ hproven, fun error => (silent_control hs hsilent).2.2 _⟩
  | accepted hoffer heq =>
    cases hoffer with
    | suspend hc hunproven => simp [hproven] at hunproven
    | @fail pre post future _ _ _ _ event failure hc hactive hfails =>
      refine ⟨?_, by simp⟩
      have hevent : event.cleanupProven = true := hinput.2 _ _ (by rw [heq])
      have hfailure : failure.isCleanupUnproven = false := by rw [hfails.isCleanupUnproven, hevent]; rfl
      simpa [applyTerminal, hfailure] using hproven
    | handoff hc hactive => exact ⟨hproven, by simp⟩
    | block hc => exact ⟨hproven, by simp [block]⟩
    | _ => exact ⟨hproven, by simp⟩
  | rejected _ heq =>
    obtain ⟨hrejection, -⟩ := hinput
    rw [heq] at hrejection
    cases hrejection

theorem clean_run (h : Run (step graph draw) (.start graph) tr s)
    (hproven : ∀ p ∈ tr, p.2.Proven) : Clean s :=
  (h.invariant_of (C := fun _ input => input.Proven) (P := fun s => Scheduled graph s ∧ Clean s)
    (fun _ _ _ hinput hs hstep =>
      ⟨scheduled_step hs.1 hstep, clean_step hs.1 hs.2 hinput hstep⟩)
    hproven ⟨scheduled_start, clean_start⟩).2

end Proven

section Enabled

theorem exists_step_of_plan {choice : Choice} (h : plan graph draw s choice ≠ none) :
    ∃ t, step graph draw s ⟨choice, none⟩ = some t := by
  cases hplan : plan graph draw s choice with
  | none => exact absurd hplan h
  | some effect =>
    cases effect with
    | silent next => exact ⟨next, by simp [step, hplan]⟩
    | offer record next =>
      exact ⟨{ next with records := s.records ++ [record] }, by simp [step, hplan]⟩

/-- The event a future is waiting for at the latest: its first poll, its deadline, a receipt. -/
def Phase.due : Phase → PollEvent
  | .created => .first
  | .retrying .. => .first
  | .executing .. => .worker none
  | .cleaning .. => .cleanup (some (some ⟨"receipt"⟩))

theorem Phase.due_cleanupProven (phase : Phase) : phase.due.cleanupProven = true := by
  cases phase with
  | cleaning => exact (by decide : (boundedReceipt "receipt").isSome = true)
  | _ => rfl

/-- Every future in flight can be polled to an effect. -/
theorem plan_due (hs : Scheduled graph s) (hc : s.control = .awaiting) {index : ℕ}
    {future : WorkOrderFuture} (hfuture : s.active[index]? = some future) :
    plan graph draw s (.poll index future.phase.due) ≠ none := by
  have hidle := hs.phases.idle (by simp [hc]) (by simp [hc]) future (List.mem_of_getElem? hfuture)
  simp only [plan, hc, hfuture, Option.bind_some, pollEffect]
  cases hphase : future.phase with
  | created => simp [Phase.due, dispatchEffect, attemptStart, hphase]
  | retrying => simp [hphase, Phase.isRetrying] at hidle
  | executing => simp [Phase.due]
  | cleaning => simp [Phase.due]

/-- A run that has not returned can go on. -/
theorem exists_step (hs : Scheduled graph s) (hc : ∀ result, s.control ≠ .returned result) :
    ∃ input t, input.Proven ∧ step graph draw s input = some t := by
  have hrun (h : plan graph draw s .run ≠ none) :
      ∃ input t, input.Proven ∧ step graph draw s input = some t := by
    obtain ⟨t, ht⟩ := exists_step_of_plan h
    exact ⟨⟨.run, none⟩, t, ⟨rfl, by simp⟩, ht⟩
  cases hcontrol : s.control with
  | begin => exact hrun (by simp [plan, hcontrol])
  | looping =>
    apply hrun
    simp only [plan, hcontrol]
    split
    · simp
    · split <;> simp
  | blocking blocked madeProgress => cases blocked <;> exact hrun (by simp [plan, hcontrol])
  | launching => exact hrun (by simp [plan, hcontrol])
  | awaiting =>
    obtain ⟨future, rest, hactive⟩ := List.exists_cons_of_ne_nil (hs.schedule.awaiting hcontrol)
    have hfuture : s.active[0]? = some future := by simp [hactive]
    obtain ⟨t, ht⟩ := exists_step_of_plan (plan_due hs hcontrol hfuture)
    refine ⟨⟨.poll 0 future.phase.due, none⟩, t, ⟨rfl, ?_⟩, ht⟩
    intro index event heq
    cases heq
    exact future.phase.due_cleanupProven
  | redispatching index =>
    obtain ⟨pre, future, post, hactive, rfl, hretrying, -⟩ := hs.phases.redispatching _ hcontrol
    apply hrun
    have hfuture : s.active[pre.length]? = some future := by simp [hactive]
    simp only [plan, hcontrol, hfuture, Option.bind_some]
    cases hphase : future.phase with
    | retrying => simp [dispatchEffect, attemptStart, hphase]
    | _ => simp [hphase, Phase.isRetrying] at hretrying
  | finishing => exact hrun (by simp [plan, hcontrol])
  | returned result => exact absurd hcontrol (hc result)

end Enabled

section Complete

/-- A run's result accounts for every work order of its graph exactly. -/
structure Complete (graph : ValidatedActorGraph digest) (records : List SchedulerRecord)
    (run : ActorGraphRun) : Prop where
  keys : ∀ id, id ∈ run.terminalEventIds ↔ ∃ order ∈ graph.graph.workOrders, order.id = id
  names : ∀ (id : WorkOrderId) (eventId : SchedulerEventId),
    run.terminalEventIds[id]? = some eventId →
      ∃ record ∈ records, isTerminalOf id record = true ∧ record.id = eventId
  once : ∀ id, (records.filter (isTerminalOf id)).length ≤ 1
  dependencyFailed : ∀ order ∈ graph.graph.workOrders,
    (∃ dependencyIds, run.failures[order.id]? = some (.dependencyFailed dependencyIds)) ↔
      ∃ dependency ∈ order.dependencies, dependency ∈ run.failures
  outcome : run.outcome = .completed ↔ ∀ order ∈ graph.graph.workOrders,
    ∃ handoff, run.handoffs[order.id]? = some handoff ∧ handoff.outcome = .completed

theorem runOutcome_eq_completed (hs : Scheduled graph s)
    (hkeys : ∀ id, id ∈ s.projection.terminalEventIds ↔ id ∈ graph.orders) :
    runOutcome graph s = .completed ↔ ∀ order ∈ graph.graph.workOrders,
      ∃ handoff, s.projection.handoffs[order.id]? = some handoff ∧ handoff.outcome = .completed := by
  have hp := hs.partition
  constructor
  · intro h order horder
    unfold runOutcome at h
    split at h
    · next hall =>
      have hnone : ∀ id, id ∉ s.projection.failures := fun id => by
        rw [Std.ExtTreeMap.isEmpty_iff.mp hall.1]
        exact Std.ExtTreeMap.not_mem_empty
      have hterminal := (hkeys order.id).mpr (graph.mem_orders.mpr ⟨order, horder, rfl⟩)
      have hmem := (hp.result order.id hterminal).resolve_right (hnone _)
      obtain ⟨handoff, hhandoff⟩ := Option.isSome_iff_exists.mp
        (Std.ExtTreeMap.mem_iff_isSome_getElem?.mp hmem)
      exact ⟨handoff, hhandoff, (hp.completed _ _ hhandoff).mpr (hnone _)⟩
    · cases h
  · intro h
    have hhandoffs : ∀ id, id ∈ s.projection.handoffs ↔ id ∈ graph.orders := by
      intro id
      refine ⟨fun hid => (hkeys id).mp (hp.handoff_terminal id hid), fun hid => ?_⟩
      obtain ⟨order, horder, rfl⟩ := graph.mem_orders.mp hid
      obtain ⟨handoff, hhandoff, -⟩ := h order horder
      exact Std.ExtTreeMap.mem_iff_isSome_getElem?.mpr (by simp [hhandoff])
    have hfailures : s.projection.failures.isEmpty = true := by
      rw [Std.ExtTreeMap.isEmpty_iff, Std.ExtTreeMap.eq_empty_iff_forall_not_mem]
      intro id hid
      obtain ⟨order, horder, rfl⟩ :=
        graph.mem_orders.mp ((hkeys id).mp (hp.failure_terminal id hid))
      obtain ⟨handoff, hhandoff, hcompleted⟩ := h order horder
      exact (hp.completed _ _ hhandoff).mp hcompleted hid
    rw [runOutcome, if_pos ⟨hfailures, size_eq_of_mem_iff hhandoffs⟩]

/-- With nothing pending and nothing in flight, the terminals are those of the whole graph. -/
theorem terminal_iff_of_quiet (hs : Scheduled graph s) (hactive : s.active = [])
    (hpending : s.pending.isEmpty) (id : WorkOrderId) :
    id ∈ s.projection.terminalEventIds ↔ id ∈ graph.orders := by
  have hstatus := hs.partition.status id
  rw [statusCount, if_neg (notMem_of_isEmpty hpending id), hactive, List.countP_nil] at hstatus
  by_cases hterminal : id ∈ s.projection.terminalEventIds <;>
    by_cases hknown : id ∈ graph.orders <;> simp_all

theorem complete_of_returned (hs : Scheduled graph s) (hr : Retained s) {run : ActorGraphRun}
    (hc : s.control = .returned (.ok run)) : Complete graph s.records run := by
  obtain ⟨hactive, hpending, -, hids, hhandoffs, hfailures, houtcome⟩ := hs.schedule.finished run hc
  have hkeys := terminal_iff_of_quiet hs hactive hpending
  refine ⟨fun id => ?_, ?_, fun id => ?_, ?_, ?_⟩
  · rw [hids, hkeys, graph.mem_orders]
  · intro id eventId h
    rw [hids] at h
    obtain ⟨record, hfilter, hid⟩ := hr.terminal_record h
    have hin : record ∈ s.records.filter (isTerminalOf id) := by simp [hfilter]
    exact ⟨record, (List.mem_filter.mp hin).1, (List.mem_filter.mp hin).2, hid⟩
  · rw [← List.countP_eq_length_filter, hr.once]
    split <;> omega
  · intro order horder
    rw [hfailures]
    constructor
    · rintro ⟨ids, hfailed⟩
      rcases hs.schedule.origin order horder (notMem_of_isEmpty hpending _) with h | h
      · exact h.2
      · exact absurd hfailed (h.1 ids)
    · rintro ⟨dependency, hdep, hfailed⟩
      rcases hs.schedule.origin order horder (notMem_of_isEmpty hpending _) with h | h
      · exact h.1
      · exact absurd hfailed (h.2 dependency hdep).2
  · rw [houtcome, hhandoffs]
    exact runOutcome_eq_completed hs hkeys

/-- Over an accepting journal and proven cleanups every run ends, never with an error, and its
result is an exact account of the graph. -/
theorem execute_completes (h : Run (step graph draw) (.start graph) tr s)
    (hproven : ∀ p ∈ tr, p.2.Proven) :
    tr.length ≤ remainingSteps graph (.start graph) ∧
      ((∀ result, s.control ≠ .returned result) →
        ∃ input t, input.Proven ∧ step graph draw s input = some t) ∧
      ∀ result, s.control = .returned result →
        ∃ run, result = .ok run ∧ Complete graph s.records run := by
  have hs := scheduled_run h
  have hlength := run_length_le h
  refine ⟨by omega, exists_step hs, fun result hc => ?_⟩
  cases result with
  | error error => exact absurd hc ((clean_run h hproven).no_error error)
  | ok run => exact ⟨run, rfl, complete_of_returned hs (retained_run h) hc⟩

def sampleCompletion : AgentCompletion :=
  ⟨.completed, "summary", "execution", [], ["evidence"], ⟨some 1, 1⟩⟩

def sampleRetryableFailure : AgentFailure :=
  ⟨.retryableNoEffect, "message", ⟨some 1, 1⟩, "execution", some "effect"⟩

/-- The first order completes; the second is retried once and then completes. -/
def pairInputs : List Input :=
  [.run, .run, .run, .run, .poll 0 .first, .poll 1 .first,
    .poll 1 (.worker (some (.error sampleRetryableFailure))), .run,
    .poll 0 (.worker (some (.ok sampleCompletion))), .run, .run, .run,
    .poll 0 (.worker (some (.ok sampleCompletion))), .run, .run, .run, .run].map (⟨·, none⟩)

def Control.isOk : Control → Bool
  | .returned (.ok _) => true
  | _ => false

theorem Control.isOk_iff {control : Control} :
    control.isOk = true ↔ ∃ run, control = .returned (.ok run) := by
  unfold isOk
  split <;> simp_all

theorem pairInputs_proven : ∀ input ∈ pairInputs, input.Proven := by
  simp [pairInputs, Input.Proven, PollEvent.cleanupProven]

theorem exists_pairRun : ∃ tr s run, Run (step pairGraph sampleDraw) (.start pairGraph) tr s ∧
    tr.map Prod.snd = pairInputs ∧ s.control = .returned (.ok run) := by
  have hreturned : (execute (step pairGraph sampleDraw) (.start pairGraph) pairInputs).any
      (·.2.control.isOk) = true := by
    decide
  obtain ⟨⟨tr, s⟩, hexecute, hok⟩ := (Option.any_eq_true _ _).mp hreturned
  obtain ⟨hrun, hinputs⟩ := run_of_execute hexecute
  obtain ⟨run, hresult⟩ := Control.isOk_iff.mp hok
  exact ⟨tr, s, run, hrun, hinputs, hresult⟩

theorem execute_completes_pair : ∃ tr s run,
    Run (step pairGraph sampleDraw) (.start pairGraph) tr s ∧ s.control = .returned (.ok run) ∧
      Complete pairGraph s.records run := by
  obtain ⟨tr, s, run, hrun, hinputs, hresult⟩ := exists_pairRun
  have hproven : ∀ p ∈ tr, p.2.Proven := fun p hp =>
    pairInputs_proven p.2 (hinputs ▸ List.mem_map_of_mem hp)
  obtain ⟨run, heq, hcomplete⟩ := (execute_completes hrun hproven).2.2 _ hresult
  exact ⟨tr, s, run, hrun, heq ▸ hresult, hcomplete⟩

end Complete

end BirdCode.Scheduler
