import BirdCode.Scheduler.Ledger

/-! Every work order is pending, in flight or terminal, in exactly one of the three ways, in every
state of every run. -/
namespace BirdCode.Scheduler

variable {digest : CanonicalDigest} {graph : ValidatedActorGraph digest} {draw : ℕ → Uuid}
  {s t : SchedulerState} {input : Input} {id : WorkOrderId} {order : WorkOrder}

section Ready

variable {pending : BTreeSet WorkOrderId} {handoffs : BTreeMap WorkOrderId Handoff}

theorem mem_readyOrders :
    order ∈ readyOrders graph pending handoffs ↔
      order.id ∈ pending ∧ order ∈ graph.graph.workOrders ∧
        ∀ dependency ∈ order.dependencies, dependency ∈ handoffs := by
  rw [readyOrders, List.mem_insertionSort, List.mem_filter, List.mem_filterMap]
  simp only [List.all_eq_true, Std.ExtTreeSet.mem_toList, Std.ExtTreeMap.contains_iff_mem]
  constructor
  · rintro ⟨⟨key, hkey, hfound⟩, hdeps⟩
    obtain ⟨hmem, rfl⟩ := graph.orders_getElem?.mp hfound
    exact ⟨hkey, hmem, hdeps⟩
  · rintro ⟨hkey, hmem, hdeps⟩
    exact ⟨⟨order.id, hkey, graph.orders_getElem?.mpr ⟨hmem, rfl⟩⟩, hdeps⟩

theorem readyOrders_ids_nodup : ((readyOrders graph pending handoffs).map (·.id)).Nodup := by
  have hperm := (List.perm_insertionSort dispatchesBefore
    ((pending.toList.filterMap (graph.orders[·]?)).filter fun order =>
      order.dependencies.toList.all fun dependency => handoffs.contains dependency)).map (·.id)
  refine hperm.nodup_iff.mpr ?_
  refine List.Sublist.nodup ((List.filter_sublist).map _) ?_
  exact (map_filterMap_sublist (fun _ _ h => (graph.orders_getElem?.mp h).2) _).nodup
    (nodup_toList pending)

end Ready

theorem mem_launched (h : order ∈ launched graph s) :
    order.id ∈ s.pending ∧ order ∈ graph.graph.workOrders ∧
      ∀ dependency ∈ order.dependencies, dependency ∈ s.projection.handoffs :=
  mem_readyOrders.mp (List.mem_of_mem_take h)

theorem launched_ids_nodup : ((launched graph s).map (·.id)).Nodup := by
  rw [launched, List.map_take]
  exact (List.take_sublist _ _).nodup readyOrders_ids_nodup

theorem launch_active : (launch graph s).active =
    s.active ++ (launched graph s).map (createFuture s.projection.handoffs) := by
  unfold launch
  split
  · rfl
  · next hslots => simp [launched, Nat.eq_zero_of_not_pos hslots]

theorem mem_foldl_erase {orders : List WorkOrder} {pending : BTreeSet WorkOrderId} :
    id ∈ orders.foldl (fun pending order => pending.erase order.id) pending ↔
      id ∈ pending ∧ id ∉ orders.map (·.id) := by
  induction orders generalizing pending with
  | nil => simp
  | cons order orders ih =>
    rw [List.foldl_cons, ih, Std.ExtTreeSet.mem_erase, Ne, Std.compare_eq_iff_eq]
    simp only [List.map_cons, List.mem_cons]
    constructor
    · rintro ⟨⟨hne, hid⟩, hnot⟩
      exact ⟨hid, by rintro (rfl | h); exacts [hne rfl, hnot h]⟩
    · rintro ⟨hid, hnot⟩
      exact ⟨⟨fun heq => hnot (.inl heq.symm), hid⟩, fun h => hnot (.inr h)⟩

theorem mem_launch_pending : id ∈ (launch graph s).pending ↔
    id ∈ s.pending ∧ id ∉ (launched graph s).map (·.id) := by
  unfold launch
  split
  · exact mem_foldl_erase
  · next hslots => simp [launched, Nat.eq_zero_of_not_pos hslots]

theorem mem_blockedOrders {pending : BTreeSet WorkOrderId}
    {failures : BTreeMap WorkOrderId WorkOrderFailure} {entry : WorkOrderId × List WorkOrderId} :
    entry ∈ blockedOrders graph pending failures ↔
      entry.1 ∈ pending ∧ ∃ order ∈ graph.graph.workOrders, order.id = entry.1 ∧
        entry.2 = failedDependencies failures order ∧ entry.2 ≠ [] := by
  obtain ⟨id, failed⟩ := entry
  rw [blockedOrders, List.mem_filterMap]
  simp only [Std.ExtTreeSet.mem_toList, Option.bind_eq_some_iff, graph.orders_getElem?]
  constructor
  · rintro ⟨key, hkey, order, ⟨hmem, rfl⟩, h⟩
    split at h
    · next hne =>
      obtain ⟨rfl, rfl⟩ := Prod.mk.inj (Option.some.inj h)
      exact ⟨hkey, order, hmem, rfl, rfl, hne⟩
    · cases h
  · rintro ⟨hkey, order, hmem, rfl, rfl, hne⟩
    exact ⟨order.id, hkey, order, ⟨hmem, rfl⟩, if_pos hne⟩

theorem blockedOrders_ids_nodup {pending : BTreeSet WorkOrderId}
    {failures : BTreeMap WorkOrderId WorkOrderFailure} :
    ((blockedOrders graph pending failures).map Prod.fst).Nodup := by
  refine (map_filterMap_sublist (fun id entry h => ?_) pending.toList).nodup (nodup_toList pending)
  obtain ⟨order, -, h⟩ := Option.bind_eq_some_iff.mp h
  split at h
  · cases h
    rfl
  · cases h

/-- The orders still to be blocked are pending, each once. -/
def BlockedPending (s : SchedulerState) : Prop :=
  ∀ blocked madeProgress, s.control = .blocking blocked madeProgress →
    (blocked.map Prod.fst).Nodup ∧ ∀ id ∈ blocked.map Prod.fst, id ∈ s.pending

theorem blockedPending_step (hs : BlockedPending s) (h : step graph draw s input = some t) :
    BlockedPending t := by
  intro blocked madeProgress hcontrol
  cases step_cases h with
  | silent hsilent =>
    cases hsilent with
    | scan hc =>
      cases hcontrol
      refine ⟨blockedOrders_ids_nodup, fun id hid => ?_⟩
      obtain ⟨entry, hentry, rfl⟩ := List.mem_map.mp hid
      exact (mem_blockedOrders.mp hentry).1
    | launch hc =>
      simp only [afterLaunch] at hcontrol
      split at hcontrol
      · cases hcontrol
      · split at hcontrol
        · cases hcontrol
        · split at hcontrol <;> cases hcontrol
    | timeout hc => simp [hc] at hcontrol
    | _ => cases hcontrol
  | accepted hoffer =>
    cases hoffer with
    | block hc =>
      obtain ⟨hnd, hpending⟩ := hs _ _ hc
      simp only [block, Control.blocking.injEq] at hcontrol
      obtain ⟨rfl, -⟩ := hcontrol
      obtain ⟨hfresh, hnd⟩ := List.nodup_cons.mp hnd
      refine ⟨hnd, fun id hid => ?_⟩
      rw [block, Std.ExtTreeSet.mem_erase, Ne, Std.compare_eq_iff_eq]
      exact ⟨fun heq => hfresh (heq ▸ hid), hpending id (List.mem_cons_of_mem _ hid)⟩
    | _ => cases hcontrol
  | rejected => cases hcontrol

/-- What a step does to the three sets a work order can be in. -/
inductive Moves (graph : ValidatedActorGraph digest) (s t : SchedulerState) : Prop
  | steady (hpending : t.pending = s.pending)
      (hactive : t.active.map (·.order) = s.active.map (·.order))
      (hprojection : t.projection = s.projection)
  | launched (hc : ∃ madeProgress, s.control = .launching madeProgress)
      (hpending : ∀ id, id ∈ t.pending ↔ id ∈ s.pending ∧ id ∉ (launched graph s).map (·.id))
      (hactive : t.active = s.active ++
        (launched graph s).map (createFuture s.projection.handoffs))
      (hprojection : t.projection = s.projection)
  | blocked (terminal : WorkOrderTerminal) (hid : terminal.workOrderId ∈ s.pending)
      (hc : ∃ dependencyIds rest madeProgress,
        s.control = .blocking ((terminal.workOrderId, dependencyIds) :: rest) madeProgress ∧
          terminal.failure? = some (.dependencyFailed dependencyIds))
      (hpending : t.pending = s.pending.erase terminal.workOrderId) (hactive : t.active = s.active)
      (hprojection : t.projection = applyTerminal s.projection terminal)
  | settled (terminal : WorkOrderTerminal) (pre post : List WorkOrderFuture)
      (future : WorkOrderFuture) (hactive : s.active = pre ++ future :: post)
      (hid : terminal.workOrderId = future.order.id)
      (hcause : ∀ dependencyIds, terminal.failure? ≠ some (.dependencyFailed dependencyIds))
      (hpending : t.pending = s.pending) (hactive' : t.active = pre ++ post)
      (hprojection : t.projection = applyTerminal s.projection terminal)

theorem moves_of_step (hs : BlockedPending s) (h : step graph draw s input = some t) :
    Moves graph s t := by
  cases step_cases h with
  | silent hsilent =>
    cases hsilent with
    | launch hc =>
      exact .launched ⟨_, hc⟩ (fun _ => mem_launch_pending) launch_active
        (launch_projection graph s).1
    | timeout hc hactive => exact .steady rfl (by simp [hactive]) rfl
    | _ => exact .steady rfl rfl rfl
  | accepted hoffer =>
    cases hoffer with
    | @block id dependencyIds rest _ hc =>
      obtain ⟨-, hpending⟩ := hs _ _ hc
      exact .blocked (.failed id (.dependencyFailed dependencyIds) ⟨draw s.drawn⟩)
        (hpending id (List.mem_cons_self ..)) ⟨dependencyIds, rest, _, hc, rfl⟩ rfl rfl rfl
    | dispatch hactive => exact .steady rfl (by simp [hactive]) rfl
    | retry hc hactive => exact .steady rfl (by simp [hactive]) rfl
    | @fail pre post future _ _ _ _ _ failure hc hactive hfails =>
      exact .settled (.failed future.order.id failure ⟨draw s.drawn⟩) pre post future hactive rfl
        (fun ids heq => hfails.ne_dependencyFailed ids (Option.some.inj heq)) rfl rfl rfl
    | @handoff pre post future identity _ attemptId _ completion hc hactive =>
      refine .settled (.handoff (retainedHandoff draw s future identity attemptId completion)) pre
        post future hactive rfl (fun ids heq => ?_) rfl rfl rfl
      simp only [WorkOrderTerminal.failure?] at heq
      split at heq <;> cases heq
    | _ => exact .steady rfl rfl rfl
  | rejected => exact .steady rfl rfl rfl

/-- In how many ways a work order is accounted for. -/
def statusCount (s : SchedulerState) (id : WorkOrderId) : ℕ :=
  (if id ∈ s.pending then 1 else 0) + s.active.countP (·.order.id = id) +
    if id ∈ s.projection.terminalEventIds then 1 else 0

/-- Each order of the graph is accounted for once and nothing else is; the maps agree. -/
structure Partition (graph : ValidatedActorGraph digest) (s : SchedulerState) : Prop where
  status : ∀ id, statusCount s id = if id ∈ graph.orders then 1 else 0
  active_known : ∀ order ∈ s.active.map (·.order), order ∈ graph.graph.workOrders
  handoff_terminal : ∀ id ∈ s.projection.handoffs, id ∈ s.projection.terminalEventIds
  failure_terminal : ∀ id ∈ s.projection.failures, id ∈ s.projection.terminalEventIds
  result : ∀ id ∈ s.projection.terminalEventIds,
    id ∈ s.projection.handoffs ∨ id ∈ s.projection.failures
  handoff_id : ∀ (id : WorkOrderId) (handoff : Handoff),
    s.projection.handoffs[id]? = some handoff → handoff.workOrderId = id
  completed : ∀ (id : WorkOrderId) (handoff : Handoff),
    s.projection.handoffs[id]? = some handoff → (handoff.outcome = .completed ↔ id ∉ s.projection.failures)

theorem partition_start : Partition graph (.start graph) := by
  constructor <;> simp [SchedulerState.start, Projection.empty, statusCount]

theorem Partition.statusCount_le (hs : Partition graph s) (id : WorkOrderId) :
    statusCount s id ≤ 1 := by
  rw [hs.status]
  split <;> omega

theorem Partition.pending_not_terminal (hs : Partition graph s) (h : id ∈ s.pending) :
    id ∉ s.projection.terminalEventIds ∧ ∀ future ∈ s.active, future.order.id ≠ id := by
  have hstatus := hs.statusCount_le id
  rw [statusCount, if_pos h] at hstatus
  constructor
  · intro hterminal
    rw [if_pos hterminal] at hstatus
    omega
  · intro future hfuture heq
    have : 0 < s.active.countP (·.order.id = id) :=
      List.countP_pos_iff.mpr ⟨future, hfuture, by simpa using heq⟩
    omega

theorem Partition.active_not_terminal (hs : Partition graph s) {future : WorkOrderFuture}
    (h : future ∈ s.active) : future.order.id ∉ s.projection.terminalEventIds ∧
      future.order.id ∉ s.pending := by
  have hstatus := hs.statusCount_le future.order.id
  have : 0 < s.active.countP (·.order.id = future.order.id) :=
    List.countP_pos_iff.mpr ⟨future, h, by simp⟩
  constructor
  · intro hterminal
    rw [statusCount, if_pos hterminal] at hstatus
    omega
  · intro hpending
    rw [statusCount, if_pos hpending] at hstatus
    omega

/-- A work order that becomes terminal had neither a handoff nor a failure. -/
theorem Partition.fresh (hs : Partition graph s)
    (h : id ∉ s.projection.terminalEventIds) :
    id ∉ s.projection.handoffs ∧ id ∉ s.projection.failures :=
  ⟨fun hh => h (hs.handoff_terminal id hh), fun hf => h (hs.failure_terminal id hf)⟩

/-- The terminal that a step applies belongs to a work order that had none. -/
theorem Partition.terminal_fresh (hs : Partition graph s) {terminal : WorkOrderTerminal}
    {pre post : List WorkOrderFuture} {future : WorkOrderFuture}
    (hactive : s.active = pre ++ future :: post) (hid : terminal.workOrderId = future.order.id) :
    terminal.workOrderId ∉ s.projection.terminalEventIds := by
  rw [hid]
  exact (hs.active_not_terminal (by simp [hactive])).1

/-- Applying the terminal of a fresh work order keeps the maps in agreement. -/
theorem Partition.agree_applyTerminal (hs : Partition graph s) {terminal : WorkOrderTerminal}
    (hfresh : terminal.workOrderId ∉ s.projection.terminalEventIds)
    (hprojection : t.projection = applyTerminal s.projection terminal)
    (hstatus : ∀ id, statusCount t id = if id ∈ graph.orders then 1 else 0)
    (hactive : ∀ order ∈ t.active.map (·.order), order ∈ graph.graph.workOrders) :
    Partition graph t := by
  obtain ⟨hhandoff, hfailure⟩ := hs.fresh hfresh
  obtain ⟨hself, hselfFailure, hselfEvent⟩ := applyTerminal_self hhandoff hfailure
  have hother (id) (hne : id ≠ terminal.workOrderId) :=
    applyTerminal_of_ne (p := s.projection) hne
  refine ⟨hstatus, hactive, ?_, ?_, ?_, ?_, ?_⟩ <;> rw [hprojection]
  · intro id hid
    rw [mem_applyTerminal_terminalEventIds]
    by_cases hne : id = terminal.workOrderId
    · exact .inl hne
    · rw [Std.ExtTreeMap.mem_iff_isSome_getElem?, (hother id hne).1,
        ← Std.ExtTreeMap.mem_iff_isSome_getElem?] at hid
      exact .inr (hs.handoff_terminal id hid)
  · intro id hid
    rw [mem_applyTerminal_terminalEventIds]
    by_cases hne : id = terminal.workOrderId
    · exact .inl hne
    · rw [Std.ExtTreeMap.mem_iff_isSome_getElem?, (hother id hne).2.1,
        ← Std.ExtTreeMap.mem_iff_isSome_getElem?] at hid
      exact .inr (hs.failure_terminal id hid)
  · intro id hid
    rw [Std.ExtTreeMap.mem_iff_isSome_getElem?, Std.ExtTreeMap.mem_iff_isSome_getElem?]
    by_cases hne : id = terminal.workOrderId
    · subst hne
      rw [hself, hselfFailure]
      cases terminal <;> simp [WorkOrderTerminal.handoff?, WorkOrderTerminal.failure?]
    · rw [(hother id hne).1, (hother id hne).2.1, ← Std.ExtTreeMap.mem_iff_isSome_getElem?,
        ← Std.ExtTreeMap.mem_iff_isSome_getElem?]
      rw [mem_applyTerminal_terminalEventIds] at hid
      exact hs.result id (hid.resolve_left hne)
  · intro id handoff h
    by_cases hne : id = terminal.workOrderId
    · subst hne
      rw [hself] at h
      cases terminal with
      | handoff retained =>
        obtain rfl := Option.some.inj h
        rfl
      | failed => cases h
    · rw [(hother id hne).1] at h
      exact hs.handoff_id id handoff h
  · intro id handoff h
    rw [Std.ExtTreeMap.mem_iff_isSome_getElem?]
    by_cases hne : id = terminal.workOrderId
    · subst hne
      rw [hself] at h
      rw [hselfFailure]
      cases terminal with
      | handoff retained =>
        obtain rfl := Option.some.inj h
        by_cases hcompleted : retained.outcome = .completed <;>
          simp [WorkOrderTerminal.failure?, hcompleted]
      | failed => cases h
    · rw [(hother id hne).1] at h
      rw [(hother id hne).2.1, ← Std.ExtTreeMap.mem_iff_isSome_getElem?]
      exact hs.completed id handoff h

theorem countP_order_id {active : List WorkOrderFuture} :
    active.countP (·.order.id = id) = (active.map (·.order)).countP (·.id = id) := by
  rw [List.countP_map]
  rfl

/-- Every step moves work orders between the three sets and loses or repeats none. -/
theorem partition_step (hb : BlockedPending s) (hs : Partition graph s)
    (h : step graph draw s input = some t) : Partition graph t := by
  cases moves_of_step hb h with
  | steady hpending hactive hprojection =>
    refine ⟨fun id => ?_, hactive ▸ hs.active_known, hprojection ▸ hs.handoff_terminal,
      hprojection ▸ hs.failure_terminal, hprojection ▸ hs.result, hprojection ▸ hs.handoff_id,
      hprojection ▸ hs.completed⟩
    rw [← hs.status id, statusCount, statusCount, countP_order_id, countP_order_id, hpending,
      hactive, hprojection]
  | launched _ hpending hactive hprojection =>
    refine ⟨fun id => ?_, ?_, hprojection ▸ hs.handoff_terminal, hprojection ▸ hs.failure_terminal,
      hprojection ▸ hs.result, hprojection ▸ hs.handoff_id, hprojection ▸ hs.completed⟩
    · have hcount : ((launched graph s).map (createFuture s.projection.handoffs)).countP
          (·.order.id = id) = if id ∈ (launched graph s).map (·.id) then 1 else 0 := by
        rw [← List.Nodup.count launched_ids_nodup, List.count, List.countP_map, List.countP_map]
        refine List.countP_congr fun order _ => ?_
        simp only [Function.comp_apply, createFuture, beq_iff_eq]
        exact decide_eq_true_iff
      have hsubset : id ∈ (launched graph s).map (·.id) → id ∈ s.pending := by
        intro hid
        obtain ⟨order, horder, rfl⟩ := List.mem_map.mp hid
        exact (mem_launched horder).1
      have hold := hs.status id
      rw [statusCount] at hold ⊢
      rw [hactive, List.countP_append, hcount, hprojection, ← hold]
      by_cases hin : id ∈ (launched graph s).map (·.id)
      · rw [if_neg (fun hp => ((hpending id).mp hp).2 hin), if_pos hin, if_pos (hsubset hin)]
        omega
      · by_cases hp : id ∈ s.pending
        · rw [if_pos ((hpending id).mpr ⟨hp, hin⟩), if_neg hin, if_pos hp]
          omega
        · rw [if_neg (fun hp' => hp ((hpending id).mp hp').1), if_neg hin, if_neg hp]
          omega
    · intro order horder
      rw [hactive, List.map_append, List.mem_append] at horder
      rcases horder with horder | horder
      · exact hs.active_known order horder
      · simp only [List.map_map, List.mem_map] at horder
        obtain ⟨found, hfound, rfl⟩ := horder
        exact (mem_launched hfound).2.1
  | blocked terminal hid _ hpending hactive hprojection =>
    obtain ⟨hfresh, hnotActive⟩ := hs.pending_not_terminal hid
    refine hs.agree_applyTerminal hfresh hprojection (fun id => ?_) (hactive ▸ hs.active_known)
    have hold := hs.status id
    rw [statusCount] at hold ⊢
    rw [← hold, hpending, hactive, hprojection]
    simp only [mem_applyTerminal_terminalEventIds, Std.ExtTreeSet.mem_erase, Ne,
      Std.compare_eq_iff_eq]
    by_cases heq : id = terminal.workOrderId
    · subst heq
      simp [hid, hfresh]
      omega
    · simp [heq, Ne.symm heq]
  | settled terminal pre post future hactive hid _ hpending hactive' hprojection =>
    have hfresh := hs.terminal_fresh hactive hid
    refine hs.agree_applyTerminal hfresh hprojection (fun id => ?_) ?_
    · have hold := hs.status id
      rw [statusCount] at hold ⊢
      rw [← hold, hpending, hactive, hactive', hprojection]
      rw [hid] at hfresh
      simp only [mem_applyTerminal_terminalEventIds, hid, List.countP_append, List.countP_cons]
      by_cases heq : id = future.order.id
      · subst heq
        simp [hfresh]
        omega
      · simp [heq, Ne.symm heq]
    · intro order horder
      refine hs.active_known order ?_
      rw [hactive] at *
      rw [hactive'] at horder
      simp only [List.map_append, List.map_cons, List.mem_append, List.mem_cons] at horder ⊢
      tauto

end BirdCode.Scheduler
