import BirdCode.Scheduler.Completion

/-! What the records of a run cost never exceeds what validation reserved: each pending order holds
its whole reservation, an order in flight what its remaining attempts may cost. -/
namespace BirdCode.Scheduler

open Lib

variable {digest : CanonicalDigest} {graph : ValidatedActorGraph digest} {draw : ℕ → Uuid}
  {s t : SchedulerState} {input : Input} {id : WorkOrderId}
  {tr : List (SchedulerState × Input)}

/-- A way to charge records against reservations: a step that retains a record releases at least
what the record costs. -/
structure Account (graph : ValidatedActorGraph digest) (draw : ℕ → Uuid) where
  weight : WorkOrder → ℕ
  held : WorkOrderFuture → ℕ
  cost : SchedulerRecord → ℕ
  created : ∀ handoffs order, held (createFuture handoffs order) = weight order
  timeout : ∀ (future : WorkOrderFuture) (identity : WorkOrderIdentity) (attemptNumber : ℕ)
    (attemptId : AttemptId) (dispatched : SchedulerEventId),
    future.phase = .executing identity attemptNumber attemptId dispatched →
      held { future with phase := .cleaning identity attemptNumber attemptId dispatched } =
        held future
  offer : ∀ (s : SchedulerState) (choice : Choice) (record : SchedulerRecord) (t : SchedulerState),
    Phases s → Offer graph draw s choice record t →
      cost record + (t.active.map held).sum ≤ (s.active.map held).sum

namespace Account

variable (account : Account graph draw)

/-- What has been spent and what is still reserved. -/
def total (s : SchedulerState) : ℕ :=
  (s.records.map account.cost).sum + pendingSum graph account.weight s.pending +
    (s.active.map account.held).sum

theorem sum_held_created (handoffs : BTreeMap WorkOrderId Handoff) (orders : List WorkOrder) :
    ((orders.map (createFuture handoffs)).map account.held).sum =
      (orders.map account.weight).sum := by
  rw [List.map_map]
  exact congrArg List.sum (List.map_congr_left fun order _ => account.created handoffs order)

theorem pendingSum_le_of_offer {choice : Choice} {record : SchedulerRecord}
    (h : Offer graph draw s choice record t) :
    pendingSum graph account.weight t.pending ≤ pendingSum graph account.weight s.pending := by
  cases h with
  | block hc =>
    refine List.sum_le_sum fun order _ => ?_
    simp only [block, Std.ExtTreeSet.mem_erase]
    split
    · next herased => rw [if_pos herased.2]
    · exact Nat.zero_le _
  | _ => exact le_refl _

/-- No step increases what is spent and reserved together. -/
theorem total_step (hs : Scheduled graph s) (h : step graph draw s input = some t) :
    account.total t ≤ account.total s := by
  cases step_cases h with
  | silent hsilent =>
    cases hsilent with
    | launch hc =>
      have hsplit := pendingSum_launch graph account.weight s
      have hheld := account.sum_held_created s.projection.handoffs (launched graph s)
      simp only [total, (launch_projection graph s).2.1, launch_active, List.map_append,
        List.sum_append]
      omega
    | timeout hc hactive hphase =>
      have hheld := account.timeout _ _ _ _ _ hphase
      simp only [total, hactive, List.map_append, List.map_cons, List.sum_append, List.sum_cons]
      omega
    | _ => exact le_refl _
  | accepted hoffer =>
    have hpending := account.pendingSum_le_of_offer hoffer
    have hactive := account.offer _ _ _ _ hs.phases hoffer
    simp only [total, List.map_append, List.map_singleton, List.sum_append, List.sum_singleton]
    omega
  | rejected => exact le_refl _

/-- The records of a run cost at most what the graph reserves. -/
theorem cost_le (h : Run (step graph draw) (.start graph) tr s) :
    (s.records.map account.cost).sum ≤ (graph.graph.workOrders.map account.weight).sum := by
  have htotal : account.total s ≤ account.total (.start graph) :=
    (h.invariant (P := fun s => Scheduled graph s ∧ account.total s ≤ account.total (.start graph))
      (fun _ _ _ hs hstep =>
        ⟨scheduled_step hs.1 hstep, (account.total_step hs.1 hstep).trans hs.2⟩)
      ⟨scheduled_start, le_refl _⟩).2
  have hstart : account.total (.start graph) = (graph.graph.workOrders.map account.weight).sum := by
    rw [total, pendingSum_start]
    simp [SchedulerState.start]
  rw [hstart] at htotal
  simp only [total] at htotal
  omega

end Account

section Attempts

/-- The number of dispatches behind a phase. -/
def Phase.dispatches : Phase → ℕ
  | .created => 0
  | .retrying _ attemptNumber _ _ => attemptNumber
  | .executing _ attemptNumber _ _ => attemptNumber + 1
  | .cleaning _ attemptNumber _ _ => attemptNumber + 1

def isDispatchOf (select : WorkOrderId → Bool) (record : SchedulerRecord) : Bool :=
  record.event.dispatched?.any fun data => select data.workOrderId

theorem attemptStart_dispatches {future : WorkOrderFuture} {start : AttemptStart}
    (h : attemptStart draw s future = some start) :
    start.attemptNumber = future.phase.dispatches ∧ start.attemptNumber = future.phase.attempt := by
  cases starts_of_attemptStart h with
  | first hphase => simp [hphase, Phase.dispatches, Phase.attempt]
  | retry hphase => simp [hphase, Phase.dispatches, Phase.attempt]

def attemptsHeld (select : WorkOrderId → Bool) (future : WorkOrderFuture) : ℕ :=
  if select future.order.id then
    future.order.budget.maxAttempts.toNat - future.phase.dispatches
  else 0

/-- A dispatch uses up one of the attempts that its order still holds. -/
theorem attemptsHeld_dispatch (select : WorkOrderId → Bool) {future : WorkOrderFuture}
    {start : AttemptStart} (attemptId : AttemptId) (dispatched : SchedulerEventId)
    (hbound : future.phase.attempt < future.order.budget.maxAttempts.toNat)
    (hstart : attemptStart draw s future = some start) :
    (if select future.order.id then 1 else 0) +
      attemptsHeld select { future with
        phase := .executing start.identity start.attemptNumber attemptId dispatched } ≤
      attemptsHeld select future := by
  obtain ⟨hdispatches, hattempt⟩ := attemptStart_dispatches hstart
  unfold attemptsHeld
  rw [← hdispatches]
  simp only [Phase.dispatches]
  by_cases hselect : select future.order.id = true
  · simp only [hselect, if_true]
    omega
  · simp [hselect]

/-- Each dispatch of a selected order costs one of its attempts. -/
def attemptsAccount (graph : ValidatedActorGraph digest) (draw : ℕ → Uuid)
    (select : WorkOrderId → Bool) : Account graph draw where
  weight order := if select order.id then order.budget.maxAttempts.toNat else 0
  held := attemptsHeld select
  cost record := if isDispatchOf select record then 1 else 0
  created handoffs order := by simp [attemptsHeld, createFuture, Phase.dispatches]
  timeout future identity attemptNumber attemptId dispatched hphase := by
    simp [attemptsHeld, hphase, Phase.dispatches]
  offer s choice record t hs h := by
    cases h with
    | @dispatch pre post future start _ hactive hc hstart =>
      have hbound := hs.bound future (by simp [hactive])
      have hpaid := attemptsHeld_dispatch select ⟨draw start.drawn⟩ ⟨draw (start.drawn + 1)⟩
        hbound hstart
      have hcost : isDispatchOf select (dispatchRecord graph draw s future start) =
        select future.order.id := rfl
      simp only [hcost, hactive, List.map_append, List.map_cons, List.sum_append, List.sum_cons]
      omega
    | retry hc hactive hphase =>
      simp [isDispatchOf, SchedulerEvent.dispatched?, failRecord, attemptsHeld, hactive, hphase, Phase.dispatches]
    | fail hc hactive =>
      simp [isDispatchOf, SchedulerEvent.dispatched?, failRecord, hactive]
    | handoff hc hactive =>
      simp [isDispatchOf, SchedulerEvent.dispatched?, hactive]
    | _ => simp [isDispatchOf, SchedulerEvent.dispatched?, blockRecord, block, suspendRecord, finishRecord]

end Attempts

section Usage

/-- Usage that a failure reports inside the budget. -/
def WorkOrderFailure.usage? : WorkOrderFailure → Option Usage
  | .worker failure => some failure.usage
  | _ => none

/-- The usage of a retained handoff or of a worker failure, retried or not. -/
def SchedulerRecord.usage? (record : SchedulerRecord) : Option Usage :=
  match record.event with
  | .handoffRetained handoff => some handoff.usage
  | .attemptFailed data => data.failure.usage?
  | _ => none

theorem Fails.usage_within {future : WorkOrderFuture} {identity : WorkOrderIdentity}
    {attemptNumber : ℕ} {attemptId : AttemptId} {dispatched : SchedulerEventId} {event : PollEvent}
    {failure : WorkOrderFailure}
    (h : Fails graph future identity attemptNumber attemptId dispatched event failure) {usage : Usage}
    (husage : failure.usage? = some usage) :
    usageViolation usage future.order.budget false = none := by
  cases h with
  | completion hphase hjudge =>
    unfold judgeCompletion at hjudge
    split at hjudge
    · cases hjudge
      cases husage
    · split at hjudge
      · cases hjudge
        cases husage
      · cases hjudge
  | worker hphase hjudge =>
    unfold judgeFailure at hjudge
    split at hjudge
    · cases hjudge
      cases husage
    · split at hjudge
      · cases hjudge
        cases husage
      · next hwithin =>
        split at hjudge
        · cases hjudge
        · cases hjudge
          cases husage
          exact hwithin
  | cleanup hphase =>
    unfold judgeCleanup at husage
    split at husage <;> cases husage

section Measure

variable (amount : AgentBudget → ℕ) (measure : Usage → ℕ)

def usageHeld (future : WorkOrderFuture) : ℕ :=
  amount future.order.budget * (future.order.budget.maxAttempts.toNat - future.phase.attempt)

@[simp] theorem usageHeld_phase (future : WorkOrderFuture) (phase : Phase) :
    usageHeld amount { future with phase := phase } = amount future.order.budget *
      (future.order.budget.maxAttempts.toNat - phase.attempt) := rfl

def usageCost (record : SchedulerRecord) : ℕ := record.usage?.elim 0 measure

variable {amount} {measure} (hmeasure : ∀ usage budget require,
  usageViolation usage budget require = none → measure usage ≤ amount budget)

include hmeasure

/-- A result inside the budget of one attempt is paid for by an attempt that is still held. -/
theorem usageHeld_settle {future : WorkOrderFuture} {usage : Usage} {require : Bool}
    (hbound : future.phase.attempt < future.order.budget.maxAttempts.toNat)
    (hwithin : usageViolation usage future.order.budget require = none) :
    measure usage + amount future.order.budget *
      (future.order.budget.maxAttempts.toNat - (future.phase.attempt + 1)) ≤
        usageHeld amount future := by
  have hle := hmeasure usage future.order.budget require hwithin
  have hsucc : future.order.budget.maxAttempts.toNat - future.phase.attempt =
      future.order.budget.maxAttempts.toNat - (future.phase.attempt + 1) + 1 := by
    omega
  rw [usageHeld, hsucc, Nat.mul_succ]
  omega

theorem usageCost_failRecord {future : WorkOrderFuture} {identity identity' : WorkOrderIdentity}
    {attemptNumber : ℕ} {attemptId attemptId' : AttemptId} {dispatched dispatched' : SchedulerEventId}
    {event : PollEvent} {failure : WorkOrderFailure}
    (hbound : future.phase.attempt < future.order.budget.maxAttempts.toNat)
    (h : Fails graph future identity attemptNumber attemptId dispatched event failure) :
    usageCost measure (failRecord draw s future identity' attemptId' dispatched' failure false) ≤
      usageHeld amount future := by
  have hcost : usageCost measure
      (failRecord draw s future identity' attemptId' dispatched' failure false) =
        failure.usage?.elim 0 measure := rfl
  rw [hcost]
  cases husage : failure.usage? with
  | none => exact Nat.zero_le _
  | some usage =>
    have hpaid := usageHeld_settle hmeasure hbound (h.usage_within husage)
    rw [Option.elim_some]
    omega

/-- Each in-budget result costs what it reports, out of the budget of one attempt. -/
def usageAccount (graph : ValidatedActorGraph digest) (draw : ℕ → Uuid) : Account graph draw where
  weight order := amount order.budget * order.budget.maxAttempts.toNat
  held := usageHeld amount
  cost := usageCost measure
  created handoffs order := by simp [usageHeld, createFuture, Phase.attempt]
  timeout future identity attemptNumber attemptId dispatched hphase := by
    simp [usageHeld, hphase, Phase.attempt]
  offer s choice record t hs h := by
    cases h with
    | dispatch hactive hc hstart =>
      have hattempt := attemptStart_attempt hstart
      simp [usageCost, SchedulerRecord.usage?, dispatchRecord, usageHeld, hactive, Phase.attempt,
        hattempt]
    | @retry pre post future _ attemptNumber _ _ cause failure hc hactive hphase hjudge =>
      obtain ⟨rfl, -, hwithin, -⟩ := judgeFailure_eq_retry.mp hjudge
      have hbound := hs.bound _ (hactive ▸ List.mem_append_right _ (List.mem_cons_self ..))
      have hpaid := usageHeld_settle hmeasure hbound hwithin
      rw [hphase, Phase.attempt] at hpaid
      simp only [usageCost, SchedulerRecord.usage?, failRecord, WorkOrderFailure.usage?,
        Option.elim_some, hactive, List.map_append, List.map_cons, List.sum_append, List.sum_cons,
        usageHeld_phase, Phase.attempt]
      omega
    | fail hc hactive hfails =>
      have hbound := hs.bound _ (hactive ▸ List.mem_append_right _ (List.mem_cons_self ..))
      refine (Nat.add_le_add_right (usageCost_failRecord hmeasure hbound hfails) _).trans ?_
      simp only [hactive, List.map_append, List.map_cons, List.sum_append, List.sum_cons]
      omega
    | handoff hc hactive hphase hjudge =>
      obtain ⟨-, -, hwithin⟩ := judgeCompletion_eq_handoff hjudge
      have hbound := hs.bound _ (hactive ▸ List.mem_append_right _ (List.mem_cons_self ..))
      have hpaid := usageHeld_settle hmeasure hbound hwithin
      simp only [usageCost, SchedulerRecord.usage?, retainedHandoff, Option.elim_some, hactive,
        List.map_append, List.map_cons, List.sum_append, List.sum_cons]
      omega
    | _ => simp [usageCost, SchedulerRecord.usage?, blockRecord, block, suspendRecord, finishRecord]

end Measure

end Usage

section Bounds

/-- At most `max_parallel` orders are in flight. -/
theorem active_length_le (h : Run (step graph draw) (.start graph) tr s) :
    s.active.length ≤ graph.policy.limits.maxParallel.toNat := by
  refine h.invariant (P := fun s => s.active.length ≤ graph.policy.limits.maxParallel.toNat)
    (fun s _ t hs hstep => ?_) (Nat.zero_le _)
  cases step_cases hstep with
  | silent hsilent =>
    cases hsilent with
    | launch hc =>
      have htake : (launched graph s).length ≤ slots graph s := List.length_take_le ..
      rw [slots] at htake
      simp only [launch_active, List.length_append, List.length_map]
      omega
    | timeout hc hactive => simpa [hactive] using hs
    | _ => exact hs
  | accepted hoffer =>
    cases hoffer with
    | dispatch hactive => simpa [hactive] using hs
    | retry hc hactive => simpa [hactive] using hs
    | fail hc hactive | handoff hc hactive =>
      simp only [hactive, List.length_append, List.length_cons] at hs ⊢
      omega
    | _ => exact hs
  | rejected => exact hs

/-- A dispatch record attests an accepted order of the graph. -/
def Attested (graph : ValidatedActorGraph digest) (data : AttemptDispatched) : Prop :=
  ∃ order ∈ graph.graph.workOrders, order.id = data.workOrderId ∧
    data.attestation = dispatchAttestation digest graph.digestSha256 order ∧
      ValidatedActorGraph.OrderAccepted graph.policy order

theorem attested_of_run (h : Run (step graph draw) (.start graph) tr s) :
    ∀ record ∈ s.records, ∀ data, record.event = .attemptDispatched data → Attested graph data := by
  refine (h.invariant (P := fun s => Scheduled graph s ∧ ∀ record ∈ s.records, ∀ data,
    record.event = .attemptDispatched data → Attested graph data)
    (fun s _ t hs hstep => ⟨scheduled_step hs.1 hstep, ?_⟩)
    ⟨scheduled_start, by simp [SchedulerState.start]⟩).2
  obtain ⟨hs, hattested⟩ := hs
  cases step_cases hstep with
  | silent hsilent => exact (silent_projection hsilent).2.1 ▸ hattested
  | accepted hoffer =>
    intro record hrecord data hdata
    rcases List.mem_append.mp hrecord with hold | hnew
    · exact hattested record hold data hdata
    · obtain rfl := List.mem_singleton.mp hnew
      cases hoffer with
      | @dispatch pre post future start _ hactive =>
        obtain rfl := SchedulerEvent.attemptDispatched.inj hdata
        have hknown : future.order ∈ graph.graph.workOrders :=
          hs.partition.active_known _ (List.mem_map_of_mem (by simp [hactive]))
        exact ⟨future.order, hknown, rfl, rfl, graph.orderAccepted hknown⟩
      | _ => cases hdata
  | rejected => exact hattested

/-- No run leaves the envelope of its policy, whatever the workers do and the journal answers. -/
theorem run_within_envelope (h : Run (step graph draw) (.start graph) tr s) :
    s.records.countP (isDispatchOf fun _ => true) ≤
        graph.policy.limits.maxTotalAttempts.toNat ∧
      s.active.length ≤ graph.policy.limits.maxParallel.toNat ∧
      (s.records.map (usageCost fun usage => (usage.outputTokens.getD 0).toNat)).sum ≤
        graph.policy.limits.maxTotalOutputTokens.toNat ∧
      (s.records.map (usageCost fun usage => usage.toolCalls.toNat)).sum ≤
        graph.policy.limits.maxTotalToolCalls.toNat ∧
      (∀ record ∈ s.records, ∀ data, record.event = .attemptDispatched data →
        Attested graph data) ∧
      ExactTotals (admitOrders graph.policy graph.graph.workOrders) graph.graph.workOrders := by
  obtain ⟨hattempts, houtput, htool, -⟩ := graph.envelope_le
  have htokens : ∀ usage budget require, usageViolation usage budget require = none →
      (usage.outputTokens.getD 0).toNat ≤ budget.maxOutputTokens.toNat :=
    fun _ _ _ hw => (usage_le_of_usageViolation_eq_none hw).1
  have hcalls : ∀ usage budget require, usageViolation usage budget require = none →
      usage.toolCalls.toNat ≤ budget.maxToolCalls.toNat :=
    fun _ _ _ hw => (usage_le_of_usageViolation_eq_none hw).2
  refine ⟨?_, active_length_le h, ?_, ?_, attested_of_run h, graph.exactTotals⟩
  · have hcost := (attemptsAccount graph draw fun _ => true).cost_le h
    simp only [attemptsAccount, sum_map_ite_eq_countP] at hcost
    refine hcost.trans (le_trans (le_of_eq ?_) hattempts)
    simp [envelope]
  · exact ((usageAccount htokens graph draw).cost_le h).trans houtput
  · exact ((usageAccount hcalls graph draw).cost_le h).trans htool

theorem run_within_envelope_pair : ∃ tr s run,
    Run (step pairGraph sampleDraw) (.start pairGraph) tr s ∧ s.control = .returned (.ok run) ∧
      s.records.countP (isDispatchOf fun _ => true) ≤ 4 := by
  obtain ⟨tr, s, run, hrun, -, hresult⟩ := exists_pairRun
  exact ⟨tr, s, run, hrun, hresult, (run_within_envelope hrun).1⟩

/-- An order is dispatched at most as often as its budget has attempts. -/
theorem dispatches_le {order : WorkOrder} (horder : order ∈ graph.graph.workOrders)
    (h : Run (step graph draw) (.start graph) tr s) :
    s.records.countP (isDispatchOf (· = order.id)) ≤ order.budget.maxAttempts.toNat := by
  have hcost := (attemptsAccount graph draw (· = order.id)).cost_le h
  simp only [attemptsAccount, sum_map_ite_eq_countP] at hcost
  refine hcost.trans (le_of_eq ?_)
  have hsingle := List.sum_map_eq_nsmul_single order
    (fun other : WorkOrder => if decide (other.id = order.id) = true then
      other.budget.maxAttempts.toNat else 0) (l := graph.graph.workOrders) ?_
  · rw [hsingle, List.count_eq_one_of_mem graph.workOrders_nodup horder]
    simp
  · intro other hne hother
    have hid : other.id ≠ order.id := fun hid => hne (graph.eq_of_id_eq hother horder hid)
    simp [hid]

/-- Two dispatches that name one lease, one of them for writing, are one record. -/
theorem write_lease_used_once (h : Run (step graph draw) (.start graph) tr s) {i j : ℕ}
    {a b : SchedulerRecord} {x y : AttemptDispatched} (hi : s.records[i]? = some a)
    (hj : s.records[j]? = some b) (ha : a.event = .attemptDispatched x)
    (hb : b.event = .attemptDispatched y)
    (hlease : x.attestation.workspace.leaseId = y.attestation.workspace.leaseId)
    (hwrite : x.attestation.workspace.access = .write ∨
      y.attestation.workspace.access = .write) : i = j := by
  have hattested := attested_of_run h
  obtain ⟨order, horder, hid, hx, haccepted⟩ := hattested a (List.mem_of_getElem? hi) x ha
  obtain ⟨other, hother, hid', hy, haccepted'⟩ := hattested b (List.mem_of_getElem? hj) y hb
  rw [hx, hy] at hlease hwrite
  -- validation leaves one order on the lease, and that order one attempt
  have hsame : order = other := by
    rcases hwrite with hwrite | hwrite
    · exact graph.writer_lease_exclusive horder hother hlease hwrite
    · exact (graph.writer_lease_exclusive hother horder hlease.symm hwrite).symm
  subst hsame
  have hone : order.budget.maxAttempts = 1 := by
    rcases hwrite with hwrite | hwrite
    · exact (haccepted.single_write hwrite).1
    · exact (haccepted.single_write hwrite).1
  have hcount := dispatches_le horder h
  rw [hone] at hcount
  exact eq_of_countP_le_one hcount hi hj (by simp [isDispatchOf, SchedulerEvent.dispatched?, ha, hid])
    (by simp [isDispatchOf, SchedulerEvent.dispatched?, hb, hid'])

/-- One order that writes a Git checkout. -/
def writeGraph : ValidatedActorGraph constantDigest where
  graph := ⟨actorGraphSchemaVersion, sampleSha256, [{ sampleOrder ⟨1⟩ ⟨"writer", by decide⟩ 1 [] with
    workspace := ⟨⟨"writer", by decide⟩, .gitCleanCommittedHeadV1 sampleSha256, .write⟩ }]⟩
  policy := { samplePolicy [] 1 with
    workspaceLeases := toMap [(⟨"writer", by decide⟩,
      ⟨.gitCleanCommittedHeadV1 sampleSha256, .write⟩)] }
  digestSha256 := "graph"
  sorted := by decide
  accepted := by decide +kernel
  digest_eq := rfl

theorem write_lease_used_once_writer : ∃ tr s record data,
    Run (step writeGraph sampleDraw) (.start writeGraph) tr s ∧ s.records[1]? = some record ∧
      record.event = .attemptDispatched data ∧ data.attestation.workspace.access = .write ∧
      ∀ j, s.records[j]? = some record → 1 = j := by
  have hdispatched : (execute (step writeGraph sampleDraw) (.start writeGraph)
      ([.run, .run, .run, .run, .poll 0 .first].map (⟨·, none⟩))).any (fun run =>
        run.2.records[1]?.any fun record =>
          record.event.dispatched?.any (·.attestation.workspace.access = .write)) = true := by
    decide
  simp only [Option.any_eq_true, dispatched?_eq_some, decide_eq_true_eq] at hdispatched
  obtain ⟨⟨tr, s⟩, hexecute, record, hrecord, data, hdata, hwrite⟩ := hdispatched
  obtain ⟨hrun, -⟩ := run_of_execute hexecute
  exact ⟨tr, s, record, data, hrun, hrecord, hdata, hwrite,
    fun j hj => write_lease_used_once hrun hrecord hj hdata hdata rfl (.inl hwrite)⟩

end Bounds

end BirdCode.Scheduler
