import BirdCode.Scheduler.Completion

/-! What an unproven cleanup stops. The executor starts no pending order after it, but the orders in
flight still take their first poll and their retries, and each of these dispatches. -/
namespace BirdCode.Scheduler

open Lib

variable {digest : CanonicalDigest} {graph : ValidatedActorGraph digest} {draw : ℕ → Uuid}
  {s t : SchedulerState} {input : Input} {id : WorkOrderId}
  {tr : List (SchedulerState × Input)}

/-- A failed attempt of this work order left its cleanup unproven. -/
def isUnprovenOf (id : WorkOrderId) (record : SchedulerRecord) : Bool :=
  record.event.failed?.any fun data => data.workOrderId = id ∧ data.failure.isCleanupUnproven

def isUnproven (record : SchedulerRecord) : Bool :=
  record.event.failed?.any (·.failure.isCleanupUnproven)

def isDispatch (record : SchedulerRecord) : Bool := record.event.dispatched?.isSome

/-- `GraphFinished` or `GraphSuspended`. -/
def isClosing (record : SchedulerRecord) : Bool :=
  match record.event with
  | .graphFinished .. => true
  | .graphSuspended .. => true
  | _ => false

/-- While a cleanup is unproven, the journal accepts, no future is polled for the first time, and
no worker failure is well-formed, in budget and retryable with an attempt left. -/
def Quiet (s : SchedulerState) (input : Input) : Prop :=
  s.projection.cleanupUnproven.isEmpty = false →
    input.rejection = none ∧ (∀ index, input.choice ≠ .poll index .first) ∧
      ∀ index cause future identity attemptNumber attemptId dispatched,
        input.choice = .poll index (.worker (some (.error cause))) →
          s.active[index]? = some future →
            future.phase = .executing identity attemptNumber attemptId dispatched →
              ¬(workerFailureViolations cause = [] ∧
                usageViolation cause.usage future.order.budget false = none ∧
                cause.isRetryable = true ∧
                attemptNumber + 1 < future.order.budget.maxAttempts.toNat)

/-- The stop holds in a state: no dispatch follows an unproven cleanup, and the run can end only by
a suspension that names every unproven work order. -/
structure Stopped (s : SchedulerState) : Prop where
  unproven : ∀ id, id ∈ s.projection.cleanupUnproven ↔
    ∃ record ∈ s.records, isUnprovenOf id record = true
  no_dispatch : s.records.Pairwise fun a b => isUnproven a = true → isDispatch b = false
  redispatching : ∀ index, s.control = .redispatching index → s.projection.cleanupUnproven.isEmpty
  closing : (∀ result, s.control ≠ .returned result) →
    ∀ record ∈ s.records, isClosing record = false
  returned : ∀ result, s.control = .returned result →
    s.projection.cleanupUnproven.isEmpty = false → s.active = [] ∧
      ∃ rest record, s.records = rest ++ [record] ∧ (∀ r ∈ rest, isClosing r = false) ∧
        result = .error (.cleanupUnproven s.projection.cleanupUnproven.toList record.id) ∧
        ∃ pendingIds terminalEventIds, record.event =
          .graphSuspended s.projection.cleanupUnproven.toList pendingIds terminalEventIds

theorem stopped_start : Stopped (.start graph) := by
  constructor <;> simp [SchedulerState.start, Projection.empty]

/-- A step starts from a state that has not returned. -/
theorem not_returned_of_step (h : step graph draw s input = some t) :
    ∀ result, s.control ≠ .returned result := by
  have hoffer : ∀ {choice record next}, Offer graph draw s choice record next →
      ∀ result, s.control ≠ .returned result := by
    intro choice record next hoffer result
    cases hoffer with
    | dispatch _ hc => rcases hc with ⟨hc, -⟩ | ⟨hc, -⟩ <;> simp [hc]
    | accept hc | block hc | suspend hc | finish hc | retry hc | fail hc | handoff hc => simp [hc]
  cases step_cases h with
  | silent hsilent =>
    intro result
    cases hsilent with
    | scan hc | drain hc | scanned hc | launch hc | stall hc | timeout hc => simp [hc]
  | accepted h' => exact hoffer h'
  | rejected h' => exact hoffer h'

/-- The unproven work orders grow by those of the retained record. -/
theorem mem_cleanupUnproven_offer {choice : Choice} {record : SchedulerRecord}
    (h : Offer graph draw s choice record t) :
    id ∈ t.projection.cleanupUnproven ↔
      id ∈ s.projection.cleanupUnproven ∨ isUnprovenOf id record = true := by
  cases h with
  | fail hc hactive hfails =>
    simp only [mem_applyTerminal_cleanupUnproven, WorkOrderTerminal.workOrderId,
      WorkOrderTerminal.failure?, Option.any_some, isUnprovenOf, failRecord,
      SchedulerEvent.failed?, decide_eq_true_eq]
    tauto
  | retry hc hactive hphase hjudge =>
    obtain ⟨rfl, -⟩ := judgeFailure_eq_retry.mp hjudge
    simp [isUnprovenOf, failRecord, SchedulerEvent.failed?, WorkOrderFailure.isCleanupUnproven]
  | handoff => simp [isUnprovenOf, SchedulerEvent.failed?, applyTerminal]
  | _ =>
    simp [isUnprovenOf, SchedulerEvent.failed?, block, blockRecord, suspendRecord, finishRecord,
      dispatchRecord]

theorem Stopped.isEmpty_iff (hs : Stopped s) :
    s.projection.cleanupUnproven.isEmpty = false ↔
      ∃ record ∈ s.records, isUnproven record = true := by
  constructor
  · intro h
    obtain ⟨id, hid⟩ := exists_mem_of_isEmpty_eq_false h
    obtain ⟨record, hrecord, hof⟩ := (hs.unproven id).mp hid
    refine ⟨record, hrecord, ?_⟩
    simp only [isUnprovenOf, isUnproven, Option.any_eq_true, decide_eq_true_eq] at hof ⊢
    obtain ⟨data, hdata, -, hunproven⟩ := hof
    exact ⟨data, hdata, hunproven⟩
  · rintro ⟨record, hrecord, hunproven⟩
    simp only [isUnproven, Option.any_eq_true] at hunproven
    obtain ⟨data, hdata, hunproven⟩ := hunproven
    have hmem : data.workOrderId ∈ s.projection.cleanupUnproven :=
      (hs.unproven _).mpr ⟨record, hrecord, by simp [isUnprovenOf, hdata, hunproven]⟩
    by_contra hempty
    exact notMem_of_isEmpty (by simpa using hempty) _ hmem

/-- Under the condition a record retained after an unproven cleanup is not a dispatch. -/
theorem Stopped.offer_not_dispatch (hs : Stopped s) (hquiet : Quiet s input) {choice : Choice}
    {record : SchedulerRecord} (h : Offer graph draw s choice record t)
    (hinput : input = ⟨choice, none⟩)
    (hunproven : s.projection.cleanupUnproven.isEmpty = false) : isDispatch record = false := by
  obtain ⟨-, hfirst, -⟩ := hquiet hunproven
  cases h with
  | dispatch hactive hc =>
    exfalso
    rcases hc with ⟨-, -, rfl⟩ | ⟨hc, -⟩
    · exact hfirst _ (by rw [hinput])
    · have hempty := hs.redispatching _ hc
      rw [hunproven] at hempty
      cases hempty
  | _ => rfl

/-- Under the condition no future is left between a failure and its retry. -/
theorem redispatching_of_quiet (hquiet : Quiet s input) {choice : Choice}
    {record : SchedulerRecord} (h : Offer graph draw s choice record t)
    (hinput : input = ⟨choice, none⟩) {index : ℕ} (hcontrol : t.control = .redispatching index) :
    t.projection.cleanupUnproven.isEmpty = true := by
  cases h with
  | @retry pre post future _ _ _ _ _ _ hc hactive hphase hjudge =>
    by_contra hunproven
    obtain ⟨-, -, hretry⟩ := hquiet (by simpa using hunproven)
    exact hretry pre.length _ future _ _ _ _ (by rw [hinput]) (by simp [hactive]) hphase
      (judgeFailure_eq_retry.mp hjudge).2
  | _ => cases hcontrol

theorem stopped_step (hs : Scheduled graph s) (hst : Stopped s) (hquiet : Quiet s input)
    (h : step graph draw s input = some t) : Stopped t := by
  have hrunning := not_returned_of_step h
  have hold := hst.closing hrunning
  cases step_cases h with
  | silent hsilent =>
    obtain ⟨hprojection, hrecords, -, -⟩ := silent_projection hsilent
    obtain ⟨-, hredispatching, hreturned⟩ := silent_control hs hsilent
    exact ⟨hrecords ▸ hprojection ▸ hst.unproven, hrecords ▸ hst.no_dispatch,
      fun index hc => absurd hc (hredispatching index), fun _ => hrecords ▸ hold,
      fun result hc => absurd hc (hreturned result)⟩
  | @accepted _ record next hoffer hinput =>
    refine ⟨fun id => ?_, ?_, fun index => redispatching_of_quiet hquiet hoffer hinput, ?_, ?_⟩
    · rw [mem_cleanupUnproven_offer hoffer, hst.unproven]
      simp only [List.mem_append, List.mem_singleton, or_and_right, exists_or, exists_eq_left]
    · rw [List.pairwise_append]
      refine ⟨hst.no_dispatch, List.pairwise_singleton .., ?_⟩
      intro a ha b hb hunproven
      obtain rfl := List.mem_singleton.mp hb
      exact hst.offer_not_dispatch hquiet hoffer hinput (hst.isEmpty_iff.mpr ⟨a, ha, hunproven⟩)
    · intro hnext r hr
      rcases List.mem_append.mp hr with hr | hr
      · exact hold r hr
      · obtain rfl := List.mem_singleton.mp hr
        cases hoffer with
        | suspend => exact absurd rfl (hnext _)
        | finish => exact absurd rfl (hnext _)
        | _ => rfl
    · intro result hresult hunproven
      cases hoffer with
      | suspend hc _ hactive =>
        obtain rfl := Control.returned.inj hresult
        exact ⟨hactive, s.records, _, rfl, hold, rfl, _, _, rfl⟩
      | finish hc => simp [(hs.schedule.finishing hc).2.2] at hunproven
      | _ => cases hresult
  | rejected _ hinput =>
    refine ⟨hst.unproven, hst.no_dispatch, by simp, by simp, ?_⟩
    intro result _ hunproven
    have hrejection := (hquiet hunproven).1
    rw [hinput] at hrejection
    cases hrejection

/-- The fail-stop as it is documented: once a cleanup is unproven nothing more is dispatched, the
run does not finish, and it ends by one suspension, after a terminal of every order in flight. -/
structure FailStop (tr : List (SchedulerState × Input)) (s : SchedulerState) : Prop where
  no_dispatch : s.records.Pairwise fun a b => isUnproven a = true → isDispatch b = false
  no_finish : (∃ record ∈ s.records, isUnproven record = true) →
    ∀ record ∈ s.records, ∀ outcome terminalEventIds,
      record.event ≠ .graphFinished outcome terminalEventIds
  suspended : (∃ record ∈ s.records, isUnproven record = true) →
    ∀ result, s.control = .returned result →
      ∃ rest record workOrderIds pendingIds terminalEventIds, s.records = rest ++ [record] ∧
        record.event = .graphSuspended workOrderIds pendingIds terminalEventIds ∧
        (∀ r ∈ rest, isClosing r = false) ∧
        (∀ id, id ∈ workOrderIds ↔ ∃ r ∈ s.records, isUnprovenOf id r = true) ∧
        result = .error (.cleanupUnproven workOrderIds record.id)
  drained : (∃ record ∈ s.records, isUnproven record = true) →
    (∃ result, s.control = .returned result) → ∀ p ∈ tr, ∀ future ∈ p.1.active,
      ∃ record ∈ s.records, isTerminalOf future.order.id record = true

/-- No step makes a work order pending again. -/
theorem pending_of_step (hs : Scheduled graph s) (h : step graph draw s input = some t)
    (hid : id ∈ t.pending) : id ∈ s.pending := by
  cases moves_of_step hs.blocked h with
  | steady hpending => exact hpending ▸ hid
  | launched _ hpending => exact ((hpending id).mp hid).1
  | blocked _ _ _ hpending =>
    rw [hpending, Std.ExtTreeSet.mem_erase] at hid
    exact hid.2
  | settled _ _ _ _ _ _ _ hpending => exact hpending ▸ hid

/-- When nothing is in flight any more, all that ever was has a terminal. -/
theorem terminal_of_in_flight (h : Run (step graph draw) (.start graph) tr s)
    (hactive : s.active = []) {p : SchedulerState × Input} (hp : p ∈ tr) {future : WorkOrderFuture}
    (hfuture : future ∈ p.1.active) :
    ∃ record ∈ s.records, isTerminalOf future.order.id record = true := by
  obtain ⟨u, input⟩ := p
  obtain ⟨pre, post, v, hpre, hstep, hpost, -⟩ := h.split hp
  have hu := scheduled_run hpre
  have hnot := (hu.partition.active_not_terminal hfuture).2
  have hv : Scheduled graph v ∧ future.order.id ∉ v.pending :=
    ⟨scheduled_step hu hstep, fun hin => hnot (pending_of_step hu hstep hin)⟩
  obtain ⟨hs, hpending⟩ := hpost.invariant (P := fun s => Scheduled graph s ∧ future.order.id ∉ s.pending)
    (fun _ _ _ hs hstep =>
      ⟨scheduled_step hs.1 hstep, fun hin => hs.2 (pending_of_step hs.1 hstep hin)⟩) hv
  have hknown : future.order.id ∈ graph.orders := graph.mem_orders.mpr
    ⟨future.order, hu.partition.active_known _ (List.mem_map_of_mem hfuture), rfl⟩
  have hstatus := hs.partition.status future.order.id
  rw [statusCount, if_neg hpending, hactive, if_pos hknown] at hstatus
  have hterminal : future.order.id ∈ s.projection.terminalEventIds := by
    by_contra hnone
    simp [hnone] at hstatus
  rw [(retained_run h).replayed] at hterminal
  exact mem_replay_terminalEventIds.mp hterminal

/-- A run whose steps all meet the condition keeps the fail-stop; no run is endless, and none gets
stuck before it returns. -/
theorem failStop_of_quiet (h : Run (step graph draw) (.start graph) tr s)
    (hquiet : ∀ p ∈ tr, Quiet p.1 p.2) :
    FailStop tr s ∧ tr.length ≤ remainingSteps graph (.start graph) ∧
      ((∀ result, s.control ≠ .returned result) →
        ∃ input t, input.Proven ∧ step graph draw s input = some t) := by
  have hlength := run_length_le h
  refine ⟨?_, by omega, exists_step (scheduled_run h)⟩
  have hstopped : Stopped s :=
    (h.invariant_of (C := Quiet) (P := fun s => Scheduled graph s ∧ Stopped s)
      (fun _ _ _ hq hs hstep => ⟨scheduled_step hs.1 hstep, stopped_step hs.1 hs.2 hq hstep⟩)
      hquiet ⟨scheduled_start, stopped_start⟩).2
  refine ⟨hstopped.no_dispatch, ?_, ?_, ?_⟩
  · intro hunproven record hrecord outcome terminalEventIds hevent
    by_cases hreturned : ∃ result, s.control = .returned result
    · obtain ⟨result, hresult⟩ := hreturned
      obtain ⟨-, rest, last, hrecords, hrest, -, _, _, hlast⟩ :=
        hstopped.returned result hresult (hstopped.isEmpty_iff.mpr hunproven)
      rw [hrecords] at hrecord
      rcases List.mem_append.mp hrecord with hin | hin
      · have hopen := hrest record hin
        simp [isClosing, hevent] at hopen
      · rw [List.mem_singleton.mp hin, hlast] at hevent
        cases hevent
    · have hopen := hstopped.closing (fun result hc => hreturned ⟨result, hc⟩) record hrecord
      simp [isClosing, hevent] at hopen
  · intro hunproven result hresult
    obtain ⟨-, rest, record, hrecords, hrest, herror, pendingIds, terminalEventIds, hevent⟩ :=
      hstopped.returned result hresult (hstopped.isEmpty_iff.mpr hunproven)
    refine ⟨rest, record, _, pendingIds, terminalEventIds, hrecords, hevent, hrest, ?_, herror⟩
    intro id
    rw [Std.ExtTreeSet.mem_toList, hstopped.unproven]
  · rintro hunproven ⟨result, hresult⟩ p hp future hfuture
    obtain ⟨hactive, -⟩ := hstopped.returned result hresult (hstopped.isEmpty_iff.mpr hunproven)
    exact terminal_of_in_flight h hactive hp hfuture

section Pair

/-- The first order misses its deadline and its cleanup while the second is executing. -/
def unprovenInputs : List Input :=
  [.run, .run, .run, .run, .poll 0 .first, .poll 1 .first, .poll 0 (.worker none),
    .poll 0 (.cleanup none), .run].map (⟨·, none⟩)

/-- An input that is quiet in any state. -/
def Input.isQuiet : Input → Bool
  | ⟨.run, none⟩ => true
  | ⟨.poll _ (.worker (some (.ok _))), none⟩ => true
  | _ => false

theorem quiet_of_isQuiet
    (h : (s.projection.cleanupUnproven.isEmpty || input.isQuiet) = true) : Quiet s input := by
  intro hunproven
  rw [hunproven, Bool.false_or] at h
  unfold Input.isQuiet at h
  split at h
  · simp
  · simp
  · cases h

theorem failStop_of_quiet_pair : ∃ tr s,
    Run (step pairGraph sampleDraw) (.start pairGraph) tr s ∧
      s.records.any isUnproven = true ∧ FailStop tr s := by
  have hexecuted : (execute (step pairGraph sampleDraw) (.start pairGraph)
      (unprovenInputs ++ [.poll 0 (.worker (some (.ok sampleCompletion))), .run].map
        (⟨·, none⟩))).any (fun run => run.2.records.any isUnproven &&
          run.1.all fun p => p.1.projection.cleanupUnproven.isEmpty || p.2.isQuiet) = true := by
    decide
  obtain ⟨⟨tr, s⟩, hexecute, hall⟩ := (Option.any_eq_true _ _).mp hexecuted
  obtain ⟨hunproven, hquiet⟩ := Bool.and_eq_true_iff.mp hall
  obtain ⟨hrun, -⟩ := run_of_execute hexecute
  exact ⟨tr, s, hrun, hunproven,
    (failStop_of_quiet hrun fun p hp =>
      quiet_of_isQuiet (List.all_eq_true.mp hquiet p hp)).1⟩

/-- Without the condition the second order, retried after the unproven cleanup, is dispatched once
more. -/
theorem dispatch_after_unproven :
    ¬∀ (digest : CanonicalDigest) (graph : ValidatedActorGraph digest) (draw : ℕ → Uuid)
      (tr : List (SchedulerState × Input)) (s : SchedulerState),
      Run (step graph draw) (.start graph) tr s → (∀ p ∈ tr, p.2.rejection = none) →
        FailStop tr s := by
  intro hclaim
  have hexecuted : (execute (step pairGraph sampleDraw) (.start pairGraph)
      (unprovenInputs ++ [.poll 0 (.worker (some (.error sampleRetryableFailure))), .run].map
        (⟨·, none⟩))).any (fun run => (run.1.all fun p => p.2.rejection.isNone) &&
          (run.2.records[3]?.any isUnproven && run.2.records[5]?.any isDispatch)) = true := by
    decide
  obtain ⟨⟨tr, s⟩, hexecute, hall⟩ := (Option.any_eq_true _ _).mp hexecuted
  simp only [Bool.and_eq_true, Option.any_eq_true, List.all_eq_true, Option.isNone_iff_eq_none]
    at hall
  obtain ⟨haccepted, ⟨a, ha, hunproven⟩, b, hb, hdispatch⟩ := hall
  obtain ⟨hrun, -⟩ := run_of_execute hexecute
  have hstop := (hclaim _ _ _ tr s hrun haccepted).no_dispatch
  obtain ⟨hi, rfl⟩ := List.getElem?_eq_some_iff.mp ha
  obtain ⟨hj, rfl⟩ := List.getElem?_eq_some_iff.mp hb
  have hnone := List.pairwise_iff_getElem.mp hstop 3 5 hi hj (by decide) hunproven
  rw [hdispatch] at hnone
  cases hnone

end Pair

end BirdCode.Scheduler
