import BirdCode.Tooling.ClosedOnce

/-! What every step of the clients keeps: each call has one record, one holder and one closing. -/
namespace BirdCode.Tooling

open Store Lib

variable {Client : Type} {platform : Platform} {broker : BrokerSetup}
  {system next : System Client} {action : Action Client}

section Histories

variable {outcomes : List Outcome}

@[simp] theorem record_state : (system.record outcomes).state = system.state := rfl
@[simp] theorem record_reconciled : (system.record outcomes).reconciled = system.reconciled := rfl
@[simp] theorem record_tasks : (system.record outcomes).tasks = system.tasks := rfl

@[simp] theorem record_history : (system.record outcomes).history = system.history ++ outcomes :=
  rfl

@[simp] theorem record_holder {T : Type} (token : Task → Option T) :
    (system.record outcomes).holder token = system.holder token := rfl

theorem record_published :
    (system.record outcomes).published =
      system.published ++ outcomes.filterMap Outcome.published :=
  List.filterMap_append

theorem record_closed :
    (system.record outcomes).closed = system.closed ++ outcomes.filterMap Outcome.closed :=
  List.filterMap_append

theorem record_entered :
    (system.record outcomes).entered = system.entered ++ outcomes.filterMap Outcome.entered :=
  List.filterMap_append

theorem record_settled :
    (system.record outcomes).settled platform =
      system.settled platform ++ outcomes.filterMap (Outcome.settled platform) :=
  List.filterMap_append

theorem failure_filterMap (platform : Platform) {outcome : Outcome} (h : outcome.failure = true) :
    outcome.published = none ∧ outcome.closed = none ∧ outcome.entered = none ∧
      outcome.settled platform = none := by
  cases outcome with
  | prepareFailed | notStarted | interruptionFailed | reconciliationFailed =>
    exact ⟨rfl, rfl, rfl, rfl⟩
  | prepared | accessed | executed | indeterminate | interrupted | reconciled => cases h

theorem accesses_entered (call : PreparedRepositoryToolCallV2) :
    (accesses call).filterMap Outcome.entered = [] ∨
      (accesses call).filterMap Outcome.entered = [call.receipt.toolCallId] := by
  unfold accesses
  split
  · exact .inr rfl
  · exact .inl rfl

theorem accesses_filterMap (platform : Platform) (call : PreparedRepositoryToolCallV2) :
    (accesses call).filterMap Outcome.published = [] ∧
      (accesses call).filterMap Outcome.closed = [] ∧
      (accesses call).filterMap (Outcome.settled platform) = [] := by
  unfold accesses
  split
  · exact ⟨rfl, rfl, rfl⟩
  · exact ⟨rfl, rfl, rfl⟩

end Histories

section Accounting

/-- Spent, held and closed calls agree, and so do marked and reconciled ones. -/
structure Accounting (platform : Platform) (system : System Client) : Prop where
  spending : OneShot system.state.spent (system.holder Task.spending) system.closed
  accounted : Accounted system.state.spent (system.holder Task.spending) system.closed
  access : OneShot system.state.spent (fun _ : Client => none) system.entered
  marking : OneShot (· ∈ system.reconciled) (system.holder (Task.marking platform))
    (system.settled platform)
  bundles : ∀ client input, system.tasks client = some (.reconciling input) →
    ∃ parameters, ExactBundle platform input.prepared parameters

theorem accounting_start : Accounting platform (System.start : System Client) := by
  have hspent : ∀ id, False ↔ (System.start : System Client).state.spent id := by
    intro id
    simp [System.start, BrokerPrepareState.start, BrokerPrepareState.spent]
  refine ⟨OneShot.start.congr hspent, ?_, OneShot.start.congr hspent, ?_, ?_⟩
  · intro id hid
    exact ((hspent id).mpr hid).elim
  · exact OneShot.start.congr (fun key => by simp [System.start])
  · intro client input h
    cases h

/-- A step that touches no token keeps the accounts. -/
theorem Accounting.quiet (h : Accounting platform system)
    (hspent : ∀ id, system.state.spent id ↔ next.state.spent id)
    (hreconciled : next.reconciled = system.reconciled)
    (hspending : next.holder Task.spending = system.holder Task.spending)
    (hmarking : next.holder (Task.marking platform) = system.holder (Task.marking platform))
    (hclosed : next.closed = system.closed) (hentered : next.entered = system.entered)
    (hsettled : next.settled platform = system.settled platform)
    (hbundles : ∀ client input, next.tasks client = some (.reconciling input) →
      system.tasks client = some (.reconciling input)) : Accounting platform next := by
  refine ⟨?_, ?_, ?_, ?_, ?_⟩
  · rw [hspending, hclosed]
    exact h.spending.congr hspent
  · rw [hspending, hclosed]
    intro id hid
    exact h.accounted id ((hspent id).mpr hid)
  · rw [hentered]
    exact h.access.congr hspent
  · rw [hreconciled, hmarking, hsettled]
    exact h.marking
  · intro client input htask
    exact h.bundles client input (hbundles client input htask)

end Accounting

variable [DecidableEq Client]

section Moves

/-- A task that has neither consumed nor marked a call. -/
def Task.harmless (platform : Platform) (task : Task) : Prop :=
  task.spending = none ∧ task.marking platform = none

theorem none_harmless (platform : Platform) (new : Task) (h : none = some new) :
    new.harmless platform := by
  cases h

/-- The effects a step can have. -/
inductive Moves (platform : Platform) (broker : BrokerSetup) (system : System Client) :
    Action Client → System Client → Prop
  | publish {client input nanos call state}
      (h : prepare platform broker system.state input nanos = .ok (call, state)) :
      Moves platform broker system (.prepare client input nanos)
        ({ system with state }.record [.prepared input call])
  | refuse {action outcome} (hfailure : outcome.failure = true) :
      Moves platform broker system action (system.record [outcome])
  | start {action client task} (hidle : system.tasks client = none)
      (hharmless : task.harmless platform) :
      Moves platform broker system action (system.setTask client (some task))
  | consume {client input state} (hold : system.tasks client = some (.executing input))
      (h : consume system.state input.prepared = .ok state) :
      Moves platform broker system (.consume client)
        (({ system with state }.setTask client (some (.consumed input))).record
          (accesses input.prepared))
  | lose {action client task outcome} (hold : system.tasks client = some task)
      (hharmless : task.harmless platform) (hfailure : outcome.failure = true)
      (hprepare : ∀ error, outcome ≠ .prepareFailed error) :
      Moves platform broker system action ((system.setTask client none).record [outcome])
  | finish {client input clock nanos result outcome}
      (hold : system.tasks client = some (.consumed input))
      (h : (∃ terminal, outcome = .executed input.prepared terminal) ∨
        ∃ error, outcome = .indeterminate input.prepared error) :
      Moves platform broker system (.finish client clock nanos result)
        ((system.setTask client none).record [outcome])
  | close {client input terminal state}
      (hold : system.tasks client = some (.interrupting input terminal))
      (h : consume system.state input.prepared = .ok state) :
      Moves platform broker system (.close client)
        (({ system with state }.setTask client none).record [.interrupted input.prepared terminal])
  | mark {client input reconciled} (hidle : system.tasks client = none)
      (h : beginReconciliation platform broker system.reconciled input = .ok reconciled) :
      Moves platform broker system (.reconcile client input)
        ({ system with reconciled }.setTask client (some (.reconciling input)))
  | settle {client input terminal} (hold : system.tasks client = some (.reconciling input))
      (h : reconciliationTerminal platform input = .ok terminal) :
      Moves platform broker system (.settle client)
        ((system.setTask client none).record [.reconciled input.prepared terminal])
  | strand {client input error} (hold : system.tasks client = some (.reconciling input))
      (h : reconciliationTerminal platform input = .error error) :
      Moves platform broker system (.settle client)
        ((system.setTask client none).record [.reconciliationFailed input.prepared error])

theorem eq_none_of_isSome_false {T : Type} {value : Option T} (h : ¬value.isSome) :
    value = none := by
  simpa using h

theorem step_moves (h : step platform broker system action = some next) :
    Moves platform broker system action next := by
  cases action with
  | prepare client input nanos =>
    simp only [step] at h
    split at h
    · cases h
    · split at h
      · next hprepare =>
        cases h
        exact .publish hprepare
      · cases h
        exact .refuse rfl
  | execute client input =>
    simp only [step] at h
    split at h
    · cases h
    · next hidle =>
      split at h
      · cases h
        exact .start (eq_none_of_isSome_false hidle) ⟨rfl, rfl⟩
      · cases h
        exact .refuse rfl
  | consume client =>
    simp only [step] at h
    split at h
    · next hold =>
      split at h
      · next hconsume =>
        cases h
        exact .consume hold hconsume
      · cases h
        exact .lose hold ⟨rfl, rfl⟩ rfl (fun _ => by simp)
    · cases h
  | finish client clock nanos result =>
    simp only [step] at h
    split at h
    · next hold =>
      split at h
      · cases h
        exact .finish hold (.inl ⟨_, rfl⟩)
      · cases h
        exact .finish hold (.inr ⟨_, rfl⟩)
    · cases h
  | interrupt client input nanos =>
    simp only [step] at h
    split at h
    · cases h
    · next hidle =>
      split at h
      · cases h
        exact .start (eq_none_of_isSome_false hidle) ⟨rfl, rfl⟩
      · cases h
        exact .refuse rfl
  | close client =>
    simp only [step] at h
    split at h
    · next hold =>
      split at h
      · next hconsume =>
        cases h
        exact .close hold hconsume
      · cases h
        exact .lose hold ⟨rfl, rfl⟩ rfl (fun _ => by simp)
    · cases h
  | reconcile client input =>
    simp only [step] at h
    split at h
    · cases h
    · next hidle =>
      split at h
      · next hmark =>
        cases h
        exact .mark (eq_none_of_isSome_false hidle) hmark
      · cases h
        exact .refuse rfl
  | settle client =>
    simp only [step] at h
    split at h
    · next hold =>
      split at h
      · next hterminal =>
        cases h
        exact .settle hold hterminal
      · next hterminal =>
        cases h
        exact .strand hold hterminal
    · cases h

end Moves

section Tasks

variable {T : Type} (token : Task → Option T)

theorem holder_setTask (client : Client) (task : Option Task) :
    (system.setTask client task).holder token =
      Function.update (system.holder token) client (task.bind token) := by
  funext other
  by_cases hother : other = client
  · subst hother
    simp [System.holder, System.setTask]
  · simp [System.holder, System.setTask, hother]

/-- Tasks without a token come and go unnoticed. -/
theorem holder_setTask_of_none {client : Client} {task : Option Task}
    (hold : system.holder token client = none) (hnew : task.bind token = none) :
    (system.setTask client task).holder token = system.holder token := by
  rw [holder_setTask, hnew, ← hold, Function.update_eq_self]

theorem setTask_reconciling {client other : Client} {task : Option Task}
    {input : RepositoryToolInterruptionInputV2}
    (hharmless : ∀ new, task = some new → new.harmless platform)
    (h : (system.setTask client task).tasks other = some (.reconciling input)) :
    system.tasks other = some (.reconciling input) := by
  by_cases hother : other = client
  · subst hother
    simp only [System.setTask, Function.update_self] at h
    have hnone := (hharmless _ h).2
    cases hnone
  · simpa only [System.setTask, Function.update_of_ne hother] using h

end Tasks

section Steps

omit [DecidableEq Client] in
theorem Accounting.publish (h : Accounting platform system) {state : BrokerPrepareState}
    {input : RepositoryToolPrepareInputV2} {nanos : UInt64} {call : PreparedRepositoryToolCallV2}
    (hprepare : prepare platform broker system.state input nanos = .ok (call, state)) :
    Accounting platform ({ system with state }.record [.prepared input call]) := by
  refine h.quiet (prepare_eq_ok hprepare).spent rfl rfl rfl ?_ ?_ ?_ ?_
  · simp [Outcome.closed, System.closed]
  · simp [Outcome.entered, System.entered]
  · simp [Outcome.settled, System.settled]
  · intro client found hfound
    exact hfound

omit [DecidableEq Client] in
theorem Accounting.refuse (h : Accounting platform system) {outcome : Outcome}
    (hfailure : outcome.failure = true) : Accounting platform (system.record [outcome]) := by
  obtain ⟨_, hclosed, hentered, hsettled⟩ := failure_filterMap platform hfailure
  refine h.quiet (fun id => Iff.rfl) rfl rfl rfl ?_ ?_ ?_ ?_
  · simp [record_closed, hclosed]
  · simp [record_entered, hentered]
  · simp [record_settled, hsettled]
  · intro client found hfound
    exact hfound

/-- A client takes up or drops a task that has touched no call. -/
theorem Accounting.retask (h : Accounting platform system) {client : Client}
    {task : Option Task} (hold : ∀ old, system.tasks client = some old → old.harmless platform)
    (hnew : ∀ new, task = some new → new.harmless platform) :
    Accounting platform (system.setTask client task) := by
  refine h.quiet (fun id => Iff.rfl) rfl ?_ ?_ rfl rfl rfl ?_
  · apply holder_setTask_of_none
    · exact Option.bind_eq_none_iff.mpr fun old hmem => (hold old hmem).1
    · exact Option.bind_eq_none_iff.mpr fun new hmem => (hnew new hmem).1
  · apply holder_setTask_of_none
    · exact Option.bind_eq_none_iff.mpr fun old hmem => (hold old hmem).2
    · exact Option.bind_eq_none_iff.mpr fun new hmem => (hnew new hmem).2
  · intro other input hfound
    exact setTask_reconciling hnew hfound

theorem Accounting.consume (h : Accounting platform system) {client : Client}
    {input : RepositoryToolExecuteInputV2} {state : BrokerPrepareState}
    (hold : system.tasks client = some (.executing input))
    (hconsume : consume system.state input.prepared = .ok state) :
    Accounting platform (({ system with state }.setTask client (some (.consumed input))).record
      (accesses input.prepared)) := by
  obtain ⟨hfresh, hspent⟩ := consume_spent hconsume
  obtain ⟨_, hclosed, hsettled⟩ := accesses_filterMap platform input.prepared
  have hmarking : ({ system with state }.setTask client (some (.consumed input))).holder
      (Task.marking platform) = system.holder (Task.marking platform) := by
    apply holder_setTask_of_none
    · simp [System.holder, hold, Task.marking]
    · rfl
  have hspending : ({ system with state }.setTask client (some (.consumed input))).holder
      Task.spending = Function.update (system.holder Task.spending) client
        (some input.prepared.receipt.toolCallId) := holder_setTask ..
  refine ⟨?_, ?_, ?_, ?_, ?_⟩
  · rw [record_closed, hclosed, List.append_nil, record_holder, hspending]
    exact h.spending.take hfresh hspent
  · rw [record_closed, hclosed, List.append_nil, record_holder, hspending]
    apply h.accounted.take _ hspent
    simp [System.holder, hold, Task.spending]
  · rw [record_entered]
    exact h.access.spend hfresh hspent (accesses_entered input.prepared)
  · rw [record_settled, hsettled, List.append_nil, record_holder, hmarking]
    exact h.marking
  · intro other found hfound
    by_cases hother : other = client
    · subst hother
      simp [System.setTask] at hfound
    · apply h.bundles other found
      simpa [System.setTask, hother] using hfound

theorem Accounting.finish (h : Accounting platform system) {client : Client}
    {input : RepositoryToolExecuteInputV2} {outcome : Outcome}
    (hold : system.tasks client = some (.consumed input))
    (houtcome : (∃ terminal, outcome = .executed input.prepared terminal) ∨
      ∃ error, outcome = .indeterminate input.prepared error) :
    Accounting platform ((system.setTask client none).record [outcome]) := by
  have hclosed : [outcome].filterMap Outcome.closed = [input.prepared.receipt.toolCallId] := by
    rcases houtcome with ⟨terminal, rfl⟩ | ⟨error, rfl⟩
    · rfl
    · rfl
  have hentered : [outcome].filterMap Outcome.entered = [] := by
    rcases houtcome with ⟨terminal, rfl⟩ | ⟨error, rfl⟩
    · rfl
    · rfl
  have hsettled : [outcome].filterMap (Outcome.settled platform) = [] := by
    rcases houtcome with ⟨terminal, rfl⟩ | ⟨error, rfl⟩
    · rfl
    · rfl
  have hheld : system.holder Task.spending client = some input.prepared.receipt.toolCallId := by
    simp [System.holder, hold, Task.spending]
  have hmarking : (system.setTask client none).holder (Task.marking platform) =
      system.holder (Task.marking platform) := by
    apply holder_setTask_of_none
    · simp [System.holder, hold, Task.marking]
    · rfl
  have hspending : (system.setTask client none).holder Task.spending =
      Function.update (system.holder Task.spending) client none := holder_setTask ..
  refine ⟨?_, ?_, ?_, ?_, ?_⟩
  · rw [record_closed, hclosed, record_holder, hspending]
    exact h.spending.settle hheld
  · rw [record_closed, hclosed, record_holder, hspending]
    exact h.accounted.settle hheld
  · rw [record_entered, hentered, List.append_nil]
    exact h.access
  · rw [record_settled, hsettled, List.append_nil, record_holder, hmarking]
    exact h.marking
  · intro other found hfound
    exact h.bundles other found (setTask_reconciling (none_harmless platform) hfound)

theorem Accounting.close (h : Accounting platform system) {client : Client}
    {input : RepositoryToolInterruptionInputV2} {terminal : RepositoryToolTerminalV2}
    {state : BrokerPrepareState}
    (hold : system.tasks client = some (.interrupting input terminal))
    (hconsume : Tooling.consume system.state input.prepared = .ok state) :
    Accounting platform (({ system with state }.setTask client none).record
      [.interrupted input.prepared terminal]) := by
  obtain ⟨hfresh, hspent⟩ := consume_spent hconsume
  have hholder : ∀ {T : Type} (token : Task → Option T),
      token (.interrupting input terminal) = none →
        ({ system with state }.setTask client none).holder token = system.holder token := by
    intro T token htoken
    apply holder_setTask_of_none
    · simp [System.holder, hold, htoken]
    · rfl
  refine ⟨?_, ?_, ?_, ?_, ?_⟩
  · rw [record_closed, record_holder, hholder Task.spending rfl]
    exact h.spending.spend hfresh hspent (.inr rfl)
  · rw [record_closed, record_holder, hholder Task.spending rfl]
    exact h.accounted.spend hspent
  · rw [record_entered]
    exact h.access.spend hfresh hspent (.inl rfl)
  · rw [record_settled, record_holder, hholder (Task.marking platform) rfl]
    exact (List.append_nil (system.settled platform)).symm ▸ h.marking
  · intro other found hfound
    exact h.bundles other found (setTask_reconciling (none_harmless platform) hfound)

theorem markReconciled_eq_ok {reconciled reconciled' : List ReconciliationKey}
    {prepared : PreparedRepositoryToolCallV2}
    (h : markReconciled platform reconciled prepared = .ok reconciled') :
    reconciliationKey platform prepared ∉ reconciled ∧
      reconciled' = reconciliationKey platform prepared :: reconciled := by
  simp only [markReconciled, bind_eq_ok, ensure_eq_ok, pure, Except.pure, Except.ok.injEq] at h
  obtain ⟨_, hfresh, rfl⟩ := h
  exact ⟨hfresh, rfl⟩

theorem beginReconciliation_eq_ok {reconciled reconciled' : List ReconciliationKey}
    {input : RepositoryToolInterruptionInputV2}
    (h : beginReconciliation platform broker reconciled input = .ok reconciled') :
    (∃ parameters, ExactBundle platform input.prepared parameters) ∧
      reconciliationKey platform input.prepared ∉ reconciled ∧
      reconciled' = reconciliationKey platform input.prepared :: reconciled := by
  simp only [beginReconciliation, validateAbandoned, validatePreparedBundle, bind_eq_ok,
    ensure_eq_ok] at h
  obtain ⟨_, ⟨_, _, _, ⟨parameters, hdecode, _⟩, _⟩, hmark⟩ := h
  exact ⟨⟨parameters, decodeExact_eq_ok hdecode⟩, markReconciled_eq_ok hmark⟩

theorem Accounting.mark (h : Accounting platform system) {client : Client}
    {input : RepositoryToolInterruptionInputV2} {reconciled : List ReconciliationKey}
    (hidle : system.tasks client = none)
    (hmark : beginReconciliation platform broker system.reconciled input = .ok reconciled) :
    Accounting platform
      ({ system with reconciled }.setTask client (some (.reconciling input))) := by
  obtain ⟨hbundle, hfresh, rfl⟩ := beginReconciliation_eq_ok hmark
  have hspending : ({ system with
      reconciled := reconciliationKey platform input.prepared :: system.reconciled }.setTask client
        (some (.reconciling input))).holder Task.spending = system.holder Task.spending := by
    apply holder_setTask_of_none
    · simp [System.holder, hidle]
    · rfl
  have hmarking : ({ system with
      reconciled := reconciliationKey platform input.prepared :: system.reconciled }.setTask client
        (some (.reconciling input))).holder (Task.marking platform) =
      Function.update (system.holder (Task.marking platform)) client
        (some (reconciliationKey platform input.prepared)) := holder_setTask ..
  refine ⟨?_, ?_, h.access, ?_, ?_⟩
  · rw [hspending]
    exact h.spending
  · rw [hspending]
    exact h.accounted
  · rw [hmarking]
    exact h.marking.take hfresh (fun key => List.mem_cons)
  · intro other found hfound
    by_cases hother : other = client
    · subst hother
      simp only [System.setTask, Function.update_self, Option.some.injEq,
        Task.reconciling.injEq] at hfound
      subst hfound
      exact hbundle
    · apply h.bundles other found
      simpa [System.setTask, hother] using hfound

theorem Accounting.settle (h : Accounting platform system) {client : Client}
    {input : RepositoryToolInterruptionInputV2} {terminal : RepositoryToolTerminalV2}
    (hold : system.tasks client = some (.reconciling input)) :
    Accounting platform
      ((system.setTask client none).record [.reconciled input.prepared terminal]) := by
  have hheld : system.holder (Task.marking platform) client =
      some (reconciliationKey platform input.prepared) := by
    simp [System.holder, hold, Task.marking]
  have hspending : (system.setTask client none).holder Task.spending =
      system.holder Task.spending := by
    apply holder_setTask_of_none
    · simp [System.holder, hold, Task.spending]
    · rfl
  have hmarking : (system.setTask client none).holder (Task.marking platform) =
      Function.update (system.holder (Task.marking platform)) client none := holder_setTask ..
  refine ⟨?_, ?_, ?_, ?_, ?_⟩
  · rw [record_closed, record_holder, hspending]
    exact (List.append_nil system.closed).symm ▸ h.spending
  · rw [record_closed, record_holder, hspending]
    exact (List.append_nil system.closed).symm ▸ h.accounted
  · rw [record_entered]
    exact (List.append_nil system.entered).symm ▸ h.access
  · rw [record_settled, record_holder, hmarking]
    exact h.marking.settle hheld
  · intro other found hfound
    exact h.bundles other found (setTask_reconciling (none_harmless platform) hfound)

theorem Accounting.step (hclock : ∀ time, (Json.string (platform.rfc3339 time)).length ≤ 40)
    (h : Accounting platform system) (hstep : step platform broker system action = some next) :
    Accounting platform next := by
  cases step_moves hstep with
  | publish hprepare => exact h.publish hprepare
  | refuse hfailure => exact h.refuse hfailure
  | start hidle hharmless =>
    apply h.retask
    · intro old hold
      rw [hidle] at hold
      cases hold
    · intro new hnew
      cases hnew
      exact hharmless
  | consume hold hconsume => exact h.consume hold hconsume
  | lose hold hharmless hfailure _ =>
    apply Accounting.refuse _ hfailure
    apply h.retask
    · intro old hfound
      rw [hold] at hfound
      cases hfound
      exact hharmless
    · exact none_harmless platform
  | finish hold houtcome => exact h.finish hold houtcome
  | close hold hconsume => exact h.close hold hconsume
  | mark hidle hmark => exact h.mark hidle hmark
  | settle hold _ => exact h.settle hold
  | strand hold herror =>
    obtain ⟨parameters, hbundle⟩ := h.bundles _ _ hold
    obtain ⟨terminal, hterminal⟩ := unknown_eq_ok _ _ _ hclock hbundle
    rw [reconciliationTerminal, hterminal] at herror
    cases herror

end Steps

end BirdCode.Tooling
