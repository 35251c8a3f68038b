import BirdCode.Scheduler.Partition

/-! Why a work order left the pending set, and what each control state promises: a started order has
only completed dependencies, and the scheduler never stalls. -/
namespace BirdCode.Scheduler

variable {digest : CanonicalDigest} {graph : ValidatedActorGraph digest} {draw : ℕ → Uuid}
  {s t : SchedulerState} {input : Input} {id : WorkOrderId} {order : WorkOrder}

/-- A step changes nothing about a work order that is terminal already. -/
theorem terminal_stable (hb : BlockedPending s) (hp : Partition graph s)
    (h : step graph draw s input = some t) (hid : id ∈ s.projection.terminalEventIds) :
    t.projection.handoffs[id]? = s.projection.handoffs[id]? ∧
      t.projection.failures[id]? = s.projection.failures[id]? ∧
      t.projection.terminalEventIds[id]? = s.projection.terminalEventIds[id]? := by
  cases moves_of_step hb h with
  | steady _ _ hprojection => simp [hprojection]
  | launched _ _ _ hprojection => simp [hprojection]
  | blocked terminal hpending _ _ _ hprojection =>
    rw [hprojection]
    refine applyTerminal_of_ne fun heq => ?_
    exact (hp.pending_not_terminal hpending).1 (heq ▸ hid)
  | settled terminal pre post future hactive hterminal _ _ _ hprojection =>
    rw [hprojection]
    refine applyTerminal_of_ne fun heq => ?_
    exact hp.terminal_fresh hactive hterminal (heq ▸ hid)

section Stable

variable (hb : BlockedPending s) (hp : Partition graph s) (h : step graph draw s input = some t)

include hb hp h

theorem handoff_stable {handoff : Handoff} (hid : s.projection.handoffs[id]? = some handoff) :
    t.projection.handoffs[id]? = some handoff := by
  have hmem : id ∈ s.projection.handoffs :=
    Std.ExtTreeMap.mem_iff_isSome_getElem?.mpr (by simp [hid])
  rw [(terminal_stable hb hp h (hp.handoff_terminal id hmem)).1, hid]

theorem failure_stable (hid : id ∈ s.projection.failures) :
    t.projection.failures[id]? = s.projection.failures[id]? :=
  (terminal_stable hb hp h (hp.failure_terminal id hid)).2.1

theorem mem_failures_stable (hid : id ∈ s.projection.failures) : id ∈ t.projection.failures := by
  rw [Std.ExtTreeMap.mem_iff_isSome_getElem?, failure_stable hb hp h hid,
    ← Std.ExtTreeMap.mem_iff_isSome_getElem?]
  exact hid

/-- A dependency with a handoff and no failure keeps both. -/
theorem succeeded_stable (hid : id ∈ s.projection.handoffs ∧ id ∉ s.projection.failures) :
    id ∈ t.projection.handoffs ∧ id ∉ t.projection.failures := by
  have hstable := terminal_stable hb hp h (hp.handoff_terminal id hid.1)
  rw [Std.ExtTreeMap.mem_iff_isSome_getElem?, Std.ExtTreeMap.mem_iff_isSome_getElem?, hstable.1,
    hstable.2.1, ← Std.ExtTreeMap.mem_iff_isSome_getElem?,
    ← Std.ExtTreeMap.mem_iff_isSome_getElem?]
  exact hid

end Stable

/-- All dependencies have a handoff. -/
def Satisfied (s : SchedulerState) (order : WorkOrder) : Prop :=
  ∀ dependency ∈ order.dependencies, dependency ∈ s.projection.handoffs

/-- No dependency has failed. -/
def Unfailed (s : SchedulerState) (order : WorkOrder) : Prop :=
  ∀ dependency ∈ order.dependencies, dependency ∉ s.projection.failures

/-- A work order was blocked by the failure of a dependency. -/
def Blocked (s : SchedulerState) (order : WorkOrder) : Prop :=
  (∃ dependencyIds, s.projection.failures[order.id]? = some (.dependencyFailed dependencyIds)) ∧
    ∃ dependency ∈ order.dependencies, dependency ∈ s.projection.failures

/-- A work order was launched over completed dependencies. -/
def Launched (s : SchedulerState) (order : WorkOrder) : Prop :=
  (∀ dependencyIds, s.projection.failures[order.id]? ≠ some (.dependencyFailed dependencyIds)) ∧
    ∀ dependency ∈ order.dependencies,
      dependency ∈ s.projection.handoffs ∧ dependency ∉ s.projection.failures

/-- What the loop relies on between its phases. -/
structure Schedule (graph : ValidatedActorGraph digest) (s : SchedulerState) : Prop where
  origin : ∀ order ∈ graph.graph.workOrders, order.id ∉ s.pending → Blocked s order ∨ Launched s order
  blocking : ∀ blocked madeProgress, s.control = .blocking blocked madeProgress →
    s.projection.cleanupUnproven.isEmpty ∧
    (∀ entry ∈ blocked, ∃ order ∈ graph.graph.workOrders, order.id = entry.1 ∧
      ∃ dependency ∈ order.dependencies, dependency ∈ s.projection.failures) ∧
    (∀ order ∈ graph.graph.workOrders, order.id ∈ s.pending → order.id ∉ blocked.map Prod.fst →
      (Satisfied s order → Unfailed s order) ∧ (madeProgress = false → Unfailed s order))
  launching : ∀ madeProgress, s.control = .launching madeProgress →
    s.projection.cleanupUnproven.isEmpty ∧
    ∀ order ∈ graph.graph.workOrders, order.id ∈ s.pending →
      (Satisfied s order → Unfailed s order) ∧ (madeProgress = false → Unfailed s order)
  awaiting : s.control = .awaiting → s.active ≠ []
  finishing : s.control = .finishing →
    s.active = [] ∧ s.pending.isEmpty ∧ s.projection.cleanupUnproven.isEmpty
  no_stall : ∀ pending, s.control ≠ .returned (.error (.schedulerInvariant pending))
  finished : ∀ run, s.control = .returned (.ok run) →
    s.active = [] ∧ s.pending.isEmpty ∧ s.projection.cleanupUnproven.isEmpty ∧
      run.terminalEventIds = s.projection.terminalEventIds ∧
      run.handoffs = s.projection.handoffs ∧ run.failures = s.projection.failures ∧
      run.outcome = runOutcome graph s

theorem schedule_start : Schedule graph (.start graph) := by
  constructor
  · intro order horder hpending
    have hmem : order.id ∈ graph.orders := graph.mem_orders.mpr ⟨order, horder, rfl⟩
    simp [SchedulerState.start, hmem] at hpending
  all_goals simp [SchedulerState.start]

/-- A work order that leaves the pending set is blocked by a failure or launched over completed
dependencies, and stays so. -/
theorem origin_step (hb : BlockedPending s) (hp : Partition graph s) (hs : Schedule graph s)
    (h : step graph draw s input = some t) :
    ∀ order ∈ graph.graph.workOrders, order.id ∉ t.pending → Blocked t order ∨ Launched t order := by
  intro order horder hpending
  by_cases hold : order.id ∈ s.pending
  · -- the order leaves the pending set in this step
    obtain ⟨hterminal, -⟩ := hp.pending_not_terminal hold
    obtain ⟨-, hfresh⟩ := hp.fresh hterminal
    cases moves_of_step hb h with
    | steady hpending' => exact absurd (hpending' ▸ hold) hpending
    | settled _ _ _ _ _ _ _ hpending' => exact absurd (hpending' ▸ hold) hpending
    | launched hc hpending' _ hprojection =>
      obtain ⟨madeProgress, hc⟩ := hc
      have hin : order.id ∈ (launched graph s).map (·.id) := by
        by_contra hnot
        exact hpending ((hpending' order.id).mpr ⟨hold, hnot⟩)
      obtain ⟨found, hfound, hid⟩ := List.mem_map.mp hin
      obtain ⟨-, hmem, hsatisfied⟩ := mem_launched hfound
      obtain rfl := graph.eq_of_id_eq hmem horder hid
      have hunfailed := ((hs.launching _ hc).2 found horder hold).1 hsatisfied
      right
      rw [Launched, hprojection]
      refine ⟨fun ids heq => hfresh ?_, fun d hd => ⟨hsatisfied d hd, hunfailed d hd⟩⟩
      exact Std.ExtTreeMap.mem_iff_isSome_getElem?.mpr (by simp [heq])
    | blocked terminal hid hc hpending' _ hprojection =>
      obtain ⟨dependencyIds, rest, madeProgress, hc, hfailure⟩ := hc
      have heq : order.id = terminal.workOrderId := by
        by_contra hne
        rw [hpending', Std.ExtTreeSet.mem_erase, Ne, Std.compare_eq_iff_eq] at hpending
        exact hpending ⟨fun h => hne h.symm, hold⟩
      obtain ⟨found, hfound, hfoundId, d, hd, hdf⟩ :=
        (hs.blocking _ _ hc).2.1 _ (List.mem_cons_self ..)
      obtain rfl := graph.eq_of_id_eq hfound horder (hfoundId.trans heq.symm)
      obtain ⟨hhandoff, hnot⟩ := hp.fresh hterminal
      rw [heq] at hhandoff hnot
      refine .inl ⟨⟨dependencyIds, ?_⟩, d, hd, mem_failures_stable hb hp h hdf⟩
      rw [hprojection, heq, (applyTerminal_self hhandoff hnot).2.1, hfailure]
  · rcases hs.origin order horder hold with ⟨⟨ids, hids⟩, d, hd, hdf⟩ | ⟨hnot, hdeps⟩
    · have hmem : order.id ∈ s.projection.failures :=
        Std.ExtTreeMap.mem_iff_isSome_getElem?.mpr (by simp [hids])
      exact .inl ⟨⟨ids, (failure_stable hb hp h hmem).trans hids⟩, d, hd,
        mem_failures_stable hb hp h hdf⟩
    · refine .inr ⟨fun ids => ?_, fun d hd => succeeded_stable hb hp h (hdeps d hd)⟩
      by_cases hterminal : order.id ∈ s.projection.terminalEventIds
      · rw [(terminal_stable hb hp h hterminal).2.1]
        exact hnot ids
      · obtain ⟨hhandoff, hfresh⟩ := hp.fresh hterminal
        cases moves_of_step hb h with
        | steady _ _ hprojection => exact hprojection ▸ hnot ids
        | launched _ _ _ hprojection => exact hprojection ▸ hnot ids
        | blocked terminal hid _ _ _ hprojection =>
          have hne : order.id ≠ terminal.workOrderId := fun heq => hold (heq ▸ hid)
          rw [hprojection, (applyTerminal_of_ne hne).2.1]
          exact hnot ids
        | settled terminal pre post future _ hid hcause _ _ hprojection =>
          rw [hprojection]
          by_cases heq : order.id = terminal.workOrderId
          · rw [heq] at hhandoff hfresh ⊢
            rw [(applyTerminal_self hhandoff hfresh).2.1]
            exact hcause ids
          · rw [(applyTerminal_of_ne heq).2.1]
            exact hnot ids

/-- Among pending orders, accessibility of the dependency relation finds one whose dependencies
have all left the pending set. -/
theorem exists_minimal_pending (hp : Partition graph s) (hid : id ∈ s.pending) :
    ∃ order ∈ graph.graph.workOrders, order.id ∈ s.pending ∧
      ∀ dependency ∈ order.dependencies, dependency ∉ s.pending := by
  have hknown : id ∈ graph.orders := by
    by_contra hnot
    have hstatus := hp.status id
    rw [statusCount, if_pos hid, if_neg hnot] at hstatus
    omega
  induction graph.acc_dependencies id hknown with
  | intro id _ ih =>
    obtain ⟨order, horder, rfl⟩ := graph.mem_orders.mp hknown
    by_cases hdeps : ∀ dependency ∈ order.dependencies, dependency ∉ s.pending
    · exact ⟨order, horder, hid, hdeps⟩
    · push Not at hdeps
      obtain ⟨dependency, hdep, hpending⟩ := hdeps
      exact ih dependency ⟨order, horder, rfl, hdep⟩ hpending (graph.dependency_mem horder hdep).1

/-- With nothing in flight and no failed dependency, some pending order is launched. -/
theorem launched_ne_nil (hp : Partition graph s) (hactive : s.active = []) (hid : id ∈ s.pending)
    (hunfailed : ∀ order ∈ graph.graph.workOrders, order.id ∈ s.pending → Unfailed s order) :
    launched graph s ≠ [] := by
  obtain ⟨order, horder, hpending, hdeps⟩ := exists_minimal_pending hp hid
  have hready : order ∈ readyOrders graph s.pending s.projection.handoffs := by
    refine mem_readyOrders.mpr ⟨hpending, horder, fun dependency hdep => ?_⟩
    have hstatus := hp.status dependency
    rw [statusCount, if_neg (hdeps dependency hdep), hactive,
      if_pos (graph.dependency_mem horder hdep).1] at hstatus
    have hterminal : dependency ∈ s.projection.terminalEventIds := by
      by_contra hnot
      simp [hnot] at hstatus
    exact (hp.result dependency hterminal).resolve_right (hunfailed order horder hpending _ hdep)
  have hslots : 0 < slots graph s := by
    rw [slots, hactive]
    exact graph.maxParallel_pos
  rw [launched, ← List.length_pos_iff, List.length_take]
  exact Nat.lt_min.mpr ⟨hslots, List.length_pos_of_mem hready⟩

theorem afterLaunch_cases (s : SchedulerState) (madeProgress : Bool) :
    (afterLaunch s madeProgress = .awaiting ∧ s.active ≠ []) ∨
    (afterLaunch s madeProgress = .finishing ∧ s.active = [] ∧ s.pending.isEmpty) ∨
    (afterLaunch s madeProgress = .looping ∧ s.active = [] ∧ madeProgress = true) ∨
    (afterLaunch s madeProgress = .returned (.error (.schedulerInvariant s.pending.toList)) ∧
      s.active = [] ∧ s.pending.isEmpty = false ∧ madeProgress = false) := by
  unfold afterLaunch
  split
  · next h => exact .inl ⟨rfl, h⟩
  · next h =>
    rw [ne_eq, not_not] at h
    split
    · next hempty => exact .inr (.inl ⟨rfl, h, hempty⟩)
    · next hempty =>
      split
      · next hprogress => exact .inr (.inr (.inl ⟨rfl, h, hprogress⟩))
      · next hprogress =>
        exact .inr (.inr (.inr ⟨rfl, h, by simpa using hempty, by simpa using hprogress⟩))

/-- The launch leads on: to waiting for work in flight, to another turn after progress, or to the
end. -/
theorem launch_leads_on (hp : Partition graph s) (hs : Schedule graph s) {madeProgress : Bool}
    (hc : s.control = .launching madeProgress) :
    let next := launch graph s
    let control := afterLaunch next (madeProgress || launched graph s ≠ [])
    (control = .awaiting ∧ next.active ≠ []) ∨
      (control = .finishing ∧ next.active = [] ∧ next.pending.isEmpty) ∨
      (control = .looping ∧ next.active = [] ∧ (madeProgress || launched graph s ≠ []) = true) := by
  intro next control
  rcases afterLaunch_cases next (madeProgress || launched graph s ≠ [])
    with h | h | h | ⟨-, hactive, hpending, hprogress⟩
  · exact .inl h
  · exact .inr (.inl h)
  · exact .inr (.inr h)
  · exfalso
    rw [Bool.or_eq_false_iff] at hprogress
    obtain ⟨rfl, hnone⟩ := hprogress
    obtain ⟨id, hid⟩ := exists_mem_of_isEmpty_eq_false hpending
    have hold : s.active = [] := by
      rw [launch_active] at hactive
      exact (List.append_eq_nil_iff.mp hactive).1
    have hne := launched_ne_nil hp hold (mem_launch_pending.mp hid).1
      fun order horder hpend => ((hs.launching _ hc).2 order horder hpend).2 rfl
    simp [hne] at hnone

section Control

variable (horigin : ∀ order ∈ graph.graph.workOrders, order.id ∉ t.pending →
  Blocked t order ∨ Launched t order)

include horigin

theorem schedule_of_looping (hc : t.control = .looping) : Schedule graph t :=
  ⟨horigin, by simp [hc], by simp [hc], by simp [hc], by simp [hc], by simp [hc], by simp [hc]⟩

theorem schedule_of_awaiting (hc : t.control = .awaiting) (hactive : t.active ≠ []) :
    Schedule graph t :=
  ⟨horigin, by simp [hc], by simp [hc], fun _ => hactive, by simp [hc], by simp [hc], by simp [hc]⟩

theorem schedule_of_finishing (hc : t.control = .finishing) (hactive : t.active = [])
    (hpending : t.pending.isEmpty) (hclean : t.projection.cleanupUnproven.isEmpty) :
    Schedule graph t :=
  ⟨horigin, by simp [hc], by simp [hc], by simp [hc], fun _ => ⟨hactive, hpending, hclean⟩,
    by simp [hc], by simp [hc]⟩

theorem schedule_of_redispatching {index : ℕ} (hc : t.control = .redispatching index) :
    Schedule graph t :=
  ⟨horigin, by simp [hc], by simp [hc], by simp [hc], by simp [hc], by simp [hc], by simp [hc]⟩

theorem schedule_of_error {error : ActorGraphExecutionError}
    (hc : t.control = .returned (.error error)) (hne : ∀ pending, error ≠ .schedulerInvariant pending) :
    Schedule graph t :=
  ⟨horigin, by simp [hc], by simp [hc], by simp [hc], by simp [hc],
    fun pending h => hne pending (by simpa [hc] using h), by simp [hc]⟩

end Control

theorem schedule_step (hb : BlockedPending s) (hp : Partition graph s) (hs : Schedule graph s)
    (h : step graph draw s input = some t) : Schedule graph t := by
  have horigin := origin_step hb hp hs h
  cases step_cases h with
  | silent hsilent =>
    cases hsilent with
    | scan hc hclean =>
      refine ⟨horigin, ?_, by simp, by simp, by simp, by simp, by simp⟩
      intro blocked madeProgress hcontrol
      obtain ⟨rfl, rfl⟩ : _ ∧ _ := by simpa using hcontrol
      refine ⟨hclean, fun entry hentry => ?_, fun order horder hpending hnot => ?_⟩
      · obtain ⟨-, order, horder, hid, hdeps, hne⟩ := mem_blockedOrders.mp hentry
        obtain ⟨dependency, hdep⟩ := List.exists_mem_of_ne_nil _ hne
        rw [hdeps, failedDependencies, List.mem_filter] at hdep
        exact ⟨order, horder, hid, dependency, Std.ExtTreeSet.mem_toList.mp hdep.1,
          Std.ExtTreeMap.contains_iff_mem.mp hdep.2⟩
      · have hunfailed : Unfailed s order := by
          intro dependency hdep hfailed
          refine hnot (List.mem_map.mpr
            ⟨(order.id, failedDependencies s.projection.failures order), ?_, rfl⟩)
          refine mem_blockedOrders.mpr ⟨hpending, order, horder, rfl, rfl, ?_⟩
          refine List.ne_nil_of_mem (a := dependency) (List.mem_filter.mpr ⟨?_, ?_⟩)
          · exact Std.ExtTreeSet.mem_toList.mpr hdep
          · exact Std.ExtTreeMap.contains_iff_mem.mpr hfailed
        exact ⟨fun _ => hunfailed, fun _ => hunfailed⟩
    | drain hc hunproven hactive =>
      exact schedule_of_awaiting horigin rfl hactive
    | scanned hc =>
      refine ⟨horigin, by simp, ?_, by simp, by simp, by simp, by simp⟩
      intro madeProgress hcontrol
      obtain rfl : _ = madeProgress := by simpa using hcontrol
      obtain ⟨hclean, -, hrest⟩ := hs.blocking _ _ hc
      exact ⟨hclean, fun order horder hpending => hrest order horder hpending (by simp)⟩
    | launch hc =>
      obtain ⟨hclean, -⟩ := hs.launching _ hc
      rw [← (launch_projection graph s).1] at hclean
      rcases launch_leads_on hp hs hc with ⟨hnext, hactive⟩ | ⟨hnext, hactive, hpending⟩ | ⟨hnext, -⟩
      · exact schedule_of_awaiting horigin hnext hactive
      · exact schedule_of_finishing horigin hnext hactive hpending hclean
      · exact schedule_of_looping horigin hnext
    | stall hc hactive => exact absurd hactive (hs.awaiting hc)
    | timeout hc => exact schedule_of_awaiting horigin hc (by simp)
  | accepted hoffer =>
    cases hoffer with
    | accept | fail | handoff => exact schedule_of_looping horigin rfl
    | retry => exact schedule_of_redispatching horigin rfl
    | suspend => exact schedule_of_error horigin rfl (by simp)
    | @block id dependencyIds rest _ hc =>
      refine ⟨horigin, ?_, by simp [block], by simp [block], by simp [block], by simp [block],
        by simp [block]⟩
      intro blocked madeProgress hcontrol
      obtain ⟨rfl, rfl⟩ : rest = blocked ∧ true = madeProgress := by simpa [block] using hcontrol
      obtain ⟨hclean, hcauses, hrest⟩ := hs.blocking _ _ hc
      obtain ⟨-, hlisted⟩ := hb _ _ hc
      refine ⟨hclean, fun entry hentry => ?_, fun order horder hpending hnot => ?_⟩
      · obtain ⟨order, horder, hid, d, hd, hdf⟩ := hcauses entry (List.mem_cons_of_mem _ hentry)
        exact ⟨order, horder, hid, d, hd, mem_failures_stable hb hp h hdf⟩
      · simp only [block, Std.ExtTreeSet.mem_erase, Ne, Std.compare_eq_iff_eq] at hpending
        obtain ⟨hne, hpending⟩ := hpending
        have hunfailed := (hrest order horder hpending (by
          rintro (- | ⟨-, hin⟩)
          · exact hne rfl
          · exact hnot hin)).1
        refine ⟨fun hsatisfied d hd => ?_, by simp⟩
        have hold : d ∈ s.projection.handoffs := hsatisfied d hd
        have hfresh := (hp.fresh (hp.pending_not_terminal (hlisted id (by simp))).1).1
        simp only [block, Std.ExtTreeMap.mem_insert, Std.compare_eq_iff_eq, not_or]
        exact ⟨fun heq => hfresh (heq ▸ hold), hunfailed hsatisfied d hd⟩
    | finish hc =>
      obtain ⟨hactive, hpending, hclean⟩ := hs.finishing hc
      refine ⟨horigin, by simp, by simp, by simp, by simp, by simp, fun run hrun => ?_⟩
      obtain rfl : _ = run := by simpa using hrun
      exact ⟨hactive, hpending, hclean, rfl, rfl, rfl, rfl⟩
    | dispatch => exact schedule_of_awaiting horigin rfl (by simp)
  | rejected => exact schedule_of_error horigin rfl (by simp)

end BirdCode.Scheduler
