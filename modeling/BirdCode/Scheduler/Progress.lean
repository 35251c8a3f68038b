import BirdCode.Scheduler.Schedule

/-! Every run ends: a measure decreases with each step, and a run that has not returned can step. -/
namespace BirdCode.Scheduler

open Lib

variable {digest : CanonicalDigest} {graph : ValidatedActorGraph digest} {draw : ℕ → Uuid}
  {s t : SchedulerState} {input : Input} {id : WorkOrderId} {order : WorkOrder}

/-- The number of the attempt a future is in or about to start. -/
def Phase.attempt : Phase → ℕ
  | .created => 0
  | .retrying _ attemptNumber _ _ => attemptNumber
  | .executing _ attemptNumber _ _ => attemptNumber
  | .cleaning _ attemptNumber _ _ => attemptNumber

def Phase.isRetrying : Phase → Bool
  | .retrying .. => true
  | _ => false

/-- Attempts stay inside the budget, and a future is between a retried failure and the next
dispatch only while the executor is about to make that dispatch. -/
structure Phases (s : SchedulerState) : Prop where
  bound : ∀ future ∈ s.active, future.phase.attempt < future.order.budget.maxAttempts.toNat
  idle : (∀ index, s.control ≠ .redispatching index) →
    (∀ result, s.control ≠ .returned result) → ∀ future ∈ s.active, future.phase.isRetrying = false
  redispatching : ∀ index, s.control = .redispatching index → ∃ pre future post,
    s.active = pre ++ future :: post ∧ pre.length = index ∧ future.phase.isRetrying = true ∧
      ∀ other ∈ pre ++ post, other.phase.isRetrying = false

theorem phases_start : Phases (.start graph) := by
  constructor <;> simp [SchedulerState.start]

theorem attemptStart_attempt {future : WorkOrderFuture} {start : AttemptStart}
    (h : attemptStart draw s future = some start) :
    start.attemptNumber = future.phase.attempt := by
  cases starts_of_attemptStart h with
  | first hphase => simp [hphase, Phase.attempt]
  | retry hphase => simp [hphase, Phase.attempt]

/-- Futures other than the polled one are not between attempts. -/
theorem Phases.others (hs : Phases s) {pre post : List WorkOrderFuture} {future : WorkOrderFuture}
    (hactive : s.active = pre ++ future :: post)
    (hc : s.control = .awaiting ∨ s.control = .redispatching pre.length) :
    ∀ other ∈ pre ++ post, other.phase.isRetrying = false := by
  intro other hother
  rcases hc with hc | hc
  · refine hs.idle (by simp [hc]) (by simp [hc]) other ?_
    rw [hactive]
    simp only [List.mem_append, List.mem_cons] at hother ⊢
    tauto
  · obtain ⟨pre', future', post', hactive', hlen, -, hothers⟩ := hs.redispatching _ hc
    rw [hactive] at hactive'
    obtain ⟨rfl, hrest⟩ := List.append_inj hactive' hlen.symm
    obtain ⟨-, rfl⟩ := List.cons.inj hrest
    exact hothers other hother

theorem phases_of_active_eq (hs : Phases s) (hactive : t.active = s.active)
    (hsource : (∀ index, s.control ≠ .redispatching index) ∧ ∀ result, s.control ≠ .returned result)
    (htarget : ∀ index, t.control ≠ .redispatching index) : Phases t := by
  refine ⟨hactive ▸ hs.bound, fun _ _ => hactive ▸ hs.idle hsource.1 hsource.2, ?_⟩
  intro index h
  exact absurd h (htarget index)

theorem phases_step (hs : Phases s) (h : step graph draw s input = some t) : Phases t := by
  cases step_cases h with
  | silent hsilent =>
    cases hsilent with
    | scan hc => exact phases_of_active_eq hs rfl (by simp [hc]) (by simp)
    | drain hc => exact phases_of_active_eq hs rfl (by simp [hc]) (by simp)
    | scanned hc => exact phases_of_active_eq hs rfl (by simp [hc]) (by simp)
    | stall hc => exact phases_of_active_eq hs rfl (by simp [hc]) (by simp)
    | launch hc =>
      refine ⟨?_, ?_, ?_⟩
      · intro future hfuture
        simp only [launch_active, List.mem_append, List.mem_map] at hfuture
        rcases hfuture with hfuture | ⟨order, horder, rfl⟩
        · exact hs.bound future hfuture
        · exact (graph.orderAccepted (mem_launched horder).2.1).attempts_pos
      · intro _ _ future hfuture
        simp only [launch_active, List.mem_append, List.mem_map] at hfuture
        rcases hfuture with hfuture | ⟨order, horder, rfl⟩
        · exact hs.idle (by simp [hc]) (by simp [hc]) future hfuture
        · rfl
      · intro index hcontrol
        rcases afterLaunch_cases (launch graph s) (_ || launched graph s ≠ [])
          with ⟨hnext, -⟩ | ⟨hnext, -⟩ | ⟨hnext, -⟩ | ⟨hnext, -⟩ <;>
          exact Control.noConfusion (hcontrol.symm.trans hnext)
    | timeout hc hactive hphase =>
      have hothers := hs.others hactive (.inl hc)
      have hbound := hs.bound
      rw [hactive] at hbound
      simp only [List.forall_mem_append, List.forall_mem_cons] at hbound hothers
      obtain ⟨hpre, hfuture, hpost⟩ := hbound
      refine ⟨?_, fun _ _ => ?_, by simp [hc]⟩
      · simp only [List.forall_mem_append, List.forall_mem_cons]
        exact ⟨hpre, by simpa [hphase, Phase.attempt] using hfuture, hpost⟩
      · simp only [List.forall_mem_append, List.forall_mem_cons]
        exact ⟨hothers.1, rfl, hothers.2⟩
  | accepted hoffer =>
    cases hoffer with
    | accept hc => exact phases_of_active_eq hs rfl (by simp [hc]) (by simp)
    | block hc => exact phases_of_active_eq hs rfl (by simp [hc]) (by simp [block])
    | suspend hc => exact phases_of_active_eq hs rfl (by simp [hc]) (by simp)
    | finish hc => exact phases_of_active_eq hs rfl (by simp [hc]) (by simp)
    | dispatch hactive hc hstart =>
      have hothers := hs.others hactive (hc.imp (·.1) (·.1))
      have hbound := hs.bound
      rw [hactive] at hbound
      simp only [List.forall_mem_append, List.forall_mem_cons] at hbound hothers
      obtain ⟨hpre, hfuture, hpost⟩ := hbound
      refine ⟨?_, fun _ _ => ?_, by simp⟩
      · simp only [List.forall_mem_append, List.forall_mem_cons]
        exact ⟨hpre, by simpa [Phase.attempt, attemptStart_attempt hstart] using hfuture, hpost⟩
      · simp only [List.forall_mem_append, List.forall_mem_cons]
        exact ⟨hothers.1, rfl, hothers.2⟩
    | @retry pre post future _ _ _ _ _ _ hc hactive hphase hjudge =>
      have hothers := hs.others hactive (.inl hc)
      have hbound := hs.bound
      rw [hactive] at hbound
      simp only [List.forall_mem_append, List.forall_mem_cons] at hbound
      obtain ⟨hpre, hfuture, hpost⟩ := hbound
      have hlast := (judgeFailure_eq_retry.mp hjudge).2.2.2.2
      refine ⟨?_, by simp, ?_⟩
      · simp only [List.forall_mem_append, List.forall_mem_cons]
        exact ⟨hpre, hlast, hpost⟩
      · intro index hcontrol
        obtain rfl : pre.length = index := by simpa using hcontrol
        exact ⟨pre, _, post, rfl, rfl, rfl, hothers⟩
    | fail hc hactive | handoff hc hactive =>
      have hothers := hs.others hactive (.inl hc)
      have hbound := hs.bound
      rw [hactive] at hbound
      simp only [List.forall_mem_append, List.forall_mem_cons] at hbound
      obtain ⟨hpre, -, hpost⟩ := hbound
      exact ⟨List.forall_mem_append.mpr ⟨hpre, hpost⟩, fun _ _ => hothers, by simp⟩
  | rejected => exact ⟨hs.bound, by simp, by simp⟩

/-- The invariants that scheduling rests on, together. -/
structure Scheduled (graph : ValidatedActorGraph digest) (s : SchedulerState) : Prop where
  blocked : BlockedPending s
  partition : Partition graph s
  schedule : Schedule graph s
  phases : Phases s

theorem scheduled_start : Scheduled graph (.start graph) :=
  ⟨by simp [BlockedPending, SchedulerState.start], partition_start, schedule_start, phases_start⟩

theorem scheduled_step (hs : Scheduled graph s) (h : step graph draw s input = some t) :
    Scheduled graph t :=
  ⟨blockedPending_step hs.blocked h, partition_step hs.blocked hs.partition h,
    schedule_step hs.blocked hs.partition hs.schedule h, phases_step hs.phases h⟩

theorem scheduled_run {tr : List (SchedulerState × Input)}
    (h : Run (step graph draw) (.start graph) tr s) : Scheduled graph s :=
  h.invariant (fun _ _ _ => scheduled_step) scheduled_start

section Pending

variable (graph) (weight : WorkOrder → ℕ)

/-- What the pending orders weigh together. -/
def pendingSum (pending : BTreeSet WorkOrderId) : ℕ :=
  (graph.graph.workOrders.map fun order => if order.id ∈ pending then weight order else 0).sum

/-- At the start every order of the graph is pending. -/
theorem pendingSum_start :
    pendingSum graph weight (SchedulerState.start graph).pending =
      (graph.graph.workOrders.map weight).sum := by
  refine congrArg List.sum (List.map_congr_left fun order horder => if_pos ?_)
  simpa [SchedulerState.start] using graph.mem_orders.mpr ⟨order, horder, rfl⟩

/-- Orders that leave the pending set take their weight with them. -/
theorem pendingSum_split {pending pending' : BTreeSet WorkOrderId} {orders : List WorkOrder}
    (hnd : (orders.map (·.id)).Nodup)
    (horders : ∀ order ∈ orders, order ∈ graph.graph.workOrders ∧ order.id ∈ pending)
    (h : ∀ id, id ∈ pending' ↔ id ∈ pending ∧ id ∉ orders.map (·.id)) :
    pendingSum graph weight pending' + (orders.map weight).sum = pendingSum graph weight pending := by
  have hperm : (graph.graph.workOrders.filter fun order => order.id ∈ orders.map (·.id)).Perm
      orders := by
    refine (List.perm_ext_iff_of_nodup (graph.workOrders_nodup.filter _) hnd.of_map).mpr ?_
    intro order
    rw [List.mem_filter, decide_eq_true_iff, List.mem_map]
    constructor
    · rintro ⟨hmem, found, hfound, hid⟩
      exact graph.eq_of_id_eq (horders found hfound).1 hmem hid ▸ hfound
    · intro h
      exact ⟨(horders order h).1, order, h, rfl⟩
  rw [← (hperm.map weight).sum_eq, pendingSum, pendingSum]
  have hids : ∀ id ∈ orders.map (·.id), id ∈ pending := by
    intro id hid
    obtain ⟨order, horder, rfl⟩ := List.mem_map.mp hid
    exact (horders order horder).2
  clear hperm horders
  induction graph.graph.workOrders with
  | nil => simp
  | cons order rest ih =>
    simp only [List.map_cons, List.sum_cons, List.filter_cons]
    by_cases hin : order.id ∈ orders.map (·.id)
    · rw [if_pos (decide_eq_true hin), if_neg (fun hp => ((h _).mp hp).2 hin),
        if_pos (hids _ hin), List.map_cons, List.sum_cons]
      omega
    · rw [if_neg (show ¬decide (order.id ∈ orders.map (·.id)) = true by simpa using hin)]
      by_cases hp : order.id ∈ pending
      · rw [if_pos ((h _).mpr ⟨hp, hin⟩), if_pos hp]
        omega
      · rw [if_neg (fun hp' => hp ((h _).mp hp').1), if_neg hp]
        omega

theorem pendingSum_erase {pending : BTreeSet WorkOrderId} (horder : order ∈ graph.graph.workOrders)
    (hpending : order.id ∈ pending) :
    pendingSum graph weight (pending.erase order.id) + weight order =
      pendingSum graph weight pending := by
  have h : ∀ other, other ∈ pending.erase order.id ↔
      other ∈ pending ∧ other ∉ [order].map (·.id) := by
    intro other
    simp only [Std.ExtTreeSet.mem_erase, Ne, Std.compare_eq_iff_eq, List.map_cons, List.map_nil,
      List.mem_singleton]
    tauto
  have hleaves : ∀ leaving ∈ [order], leaving ∈ graph.graph.workOrders ∧ leaving.id ∈ pending := by
    simpa using ⟨horder, hpending⟩
  simpa using pendingSum_split graph weight (by simp) hleaves h

theorem pendingSum_launch (s : SchedulerState) :
    pendingSum graph weight (launch graph s).pending + ((launched graph s).map weight).sum =
      pendingSum graph weight s.pending :=
  pendingSum_split graph weight launched_ids_nodup
    (fun _ h => ⟨(mem_launched h).2.1, (mem_launched h).1⟩) fun _ => mem_launch_pending

end Pending

section Measure

/-- How many steps the attempts of a future can still take. -/
def Phase.remaining (maxAttempts : ℕ) : Phase → ℕ
  | .created => 3 * maxAttempts + 1
  | .retrying _ attemptNumber _ _ => 3 * (maxAttempts - attemptNumber) + 1
  | .executing _ attemptNumber _ _ => 3 * (maxAttempts - attemptNumber)
  | .cleaning _ attemptNumber _ _ => 3 * (maxAttempts - attemptNumber) - 1

/-- A work order in flight pays for its attempts and for one turn of the loop after it. -/
def futureWeight (future : WorkOrderFuture) : ℕ :=
  8 + future.phase.remaining future.order.budget.maxAttempts.toNat

def orderWeight (order : WorkOrder) : ℕ := 10 + 3 * order.budget.maxAttempts.toNat

/-- How far one turn of the loop has come; a turn that made progress may be followed by another. -/
def controlRank : Control → ℕ
  | .begin => 6
  | .looping => 5
  | .blocking _ madeProgress => if madeProgress then 7 else 4
  | .launching madeProgress => if madeProgress then 6 else 3
  | .finishing => 2
  | .awaiting => 1
  | .redispatching _ => 1
  | .returned _ => 0

def remainingSteps (graph : ValidatedActorGraph digest) (s : SchedulerState) : ℕ :=
  pendingSum graph orderWeight s.pending + (s.active.map futureWeight).sum + controlRank s.control

theorem futureWeight_created (handoffs : BTreeMap WorkOrderId Handoff) (order : WorkOrder) :
    futureWeight (createFuture handoffs order) + 1 = orderWeight order := by
  simp only [futureWeight, createFuture, Phase.remaining, orderWeight]
  omega

theorem sum_futureWeight_created (handoffs : BTreeMap WorkOrderId Handoff)
    (orders : List WorkOrder) :
    ((orders.map (createFuture handoffs)).map futureWeight).sum + orders.length =
      (orders.map orderWeight).sum := by
  induction orders with
  | nil => rfl
  | cons order orders ih =>
    have := futureWeight_created handoffs order
    simp only [List.map_cons, List.sum_cons, List.length_cons] at ih ⊢
    omega

/-- A launch without progress before it waits or finishes, so that no launch repeats for free. -/
theorem launch_remainingSteps (hs : Scheduled graph s) {madeProgress : Bool}
    (hc : s.control = .launching madeProgress) :
    remainingSteps graph { launch graph s with
      control := afterLaunch (launch graph s) (madeProgress || launched graph s ≠ []) } <
      remainingSteps graph s := by
  have hsplit := pendingSum_launch graph orderWeight s
  have hweight := sum_futureWeight_created s.projection.handoffs (launched graph s)
  have hleads := launch_leads_on hs.partition hs.schedule hc
  simp only [remainingSteps, launch_active, List.map_append, List.sum_append, hc]
  rcases hleads with ⟨hnext, -⟩ | ⟨hnext, hactive, -⟩ | ⟨hnext, hactive, hprogress⟩
  · rw [hnext]
    simp only [controlRank]
    split <;> omega
  · rw [hnext]
    simp only [controlRank]
    split <;> omega
  · cases madeProgress with
    | true =>
      rw [hnext]
      simp only [controlRank, if_true]
      omega
    | false =>
      -- another turn without a blocked order would need a launch, and a launch leads to waiting
      have hnone : launched graph s = [] := by
        rw [launch_active] at hactive
        exact List.map_eq_nil_iff.mp (List.append_eq_nil_iff.mp hactive).2
      simp [hnone] at hprogress

theorem remainingSteps_step (hs : Scheduled graph s) (h : step graph draw s input = some t) :
    remainingSteps graph t < remainingSteps graph s := by
  cases step_cases h with
  | silent hsilent =>
    cases hsilent with
    | launch hc => exact launch_remainingSteps hs hc
    | scan hc => simp [remainingSteps, pendingSum, hc, controlRank]
    | drain hc => simp [remainingSteps, pendingSum, hc, controlRank]
    | scanned hc =>
      simp only [remainingSteps, pendingSum, hc, controlRank]
      split <;> omega
    | stall hc => simp [remainingSteps, pendingSum, hc, controlRank]
    | timeout hc hactive hphase =>
      have hbound := hs.phases.bound _ (hactive ▸ List.mem_append_right _ (List.mem_cons_self ..))
      simp only [remainingSteps, pendingSum, hactive, List.map_append, List.map_cons,
        List.sum_append, List.sum_cons, futureWeight, hphase, Phase.remaining, Phase.attempt]
        at hbound ⊢
      omega
  | accepted hoffer =>
    cases hoffer with
    | accept hc => simp [remainingSteps, pendingSum, hc, controlRank]
    | suspend hc => simp [remainingSteps, pendingSum, hc, controlRank]
    | finish hc => simp [remainingSteps, pendingSum, hc, controlRank]
    | @block id dependencyIds rest madeProgress hc =>
      obtain ⟨-, hpending⟩ := hs.blocked _ _ hc
      obtain ⟨order, horder, hid, -⟩ := (hs.schedule.blocking _ _ hc).2.1 _ (List.mem_cons_self ..)
      have hmem : id ∈ s.pending := hpending id (by simp)
      obtain rfl : order.id = id := hid
      have hsplit := pendingSum_erase graph orderWeight horder hmem
      rw [orderWeight] at hsplit
      simp only [remainingSteps, hc]
      simp only [block, controlRank] at hsplit ⊢
      split <;> omega
    | dispatch hactive hc hstart =>
      have hbound := hs.phases.bound _ (hactive ▸ List.mem_append_right _ (List.mem_cons_self ..))
      have hrank : controlRank s.control = 1 := by
        rcases hc with ⟨hc, -⟩ | ⟨hc, -⟩ <;> simp [hc, controlRank]
      simp only [remainingSteps, hrank, pendingSum, hactive, List.map_append, List.map_cons,
        List.sum_append, List.sum_cons, futureWeight]
      simp only [Phase.attempt, controlRank] at hbound ⊢
      cases starts_of_attemptStart hstart with
      | first hphase =>
        simp only [hphase, Phase.remaining] at hbound ⊢
        omega
      | retry hphase =>
        simp only [hphase, Phase.remaining] at hbound ⊢
        omega
    | retry hc hactive hphase hjudge =>
      have hbound := (judgeFailure_eq_retry.mp hjudge).2.2.2.2
      simp only [remainingSteps, pendingSum, hactive, List.map_append, List.map_cons,
        List.sum_append, List.sum_cons, futureWeight, hphase, Phase.remaining, hc, controlRank]
      omega
    | fail hc hactive | handoff hc hactive =>
      simp only [remainingSteps, pendingSum, hactive, List.map_append, List.map_cons,
        List.sum_append, List.sum_cons, futureWeight, hc, controlRank]
      omega
  | rejected hoffer =>
    have hpos : 0 < controlRank s.control := by
      cases hoffer with
      | dispatch _ hc => rcases hc with ⟨hc, -⟩ | ⟨hc, -⟩ <;> simp [hc, controlRank]
      | block hc =>
        simp only [hc, controlRank]
        split <;> omega
      | _ => simp_all [controlRank]
    exact Nat.add_lt_add_left hpos _

/-- No run is longer than what the graph reserves. -/
theorem run_length_le {tr : List (SchedulerState × Input)}
    (h : Run (step graph draw) (.start graph) tr s) :
    tr.length + remainingSteps graph s ≤ remainingSteps graph (.start graph) :=
  h.length_add_measure (P := Scheduled graph) (fun _ _ _ => scheduled_step)
    (fun _ _ _ => remainingSteps_step) scheduled_start

end Measure

end BirdCode.Scheduler
