import BirdCode.Scheduler.Evidence

/-! Executors that share one journal, in any interleaving of their steps: each dispatch that a
worker is handed is verified against the journal as it is then and ever after. -/
namespace BirdCode.Scheduler

open Lib

variable {digest : CanonicalDigest}

section Step

variable {graph : ValidatedActorGraph digest} {draw : ℕ → Uuid} {s t : SchedulerState}
  {input : Input}

/-- What a step retains, with the ids that it draws for it. -/
inductive Retains (draw : ℕ → Uuid) (s t : SchedulerState) : Prop
  | nothing (hrecords : t.records = s.records) (hdrawn : s.drawn ≤ t.drawn)
  | record (record : SchedulerRecord) (n : ℕ) (hrecords : t.records = s.records ++ [record])
      (hid : record.id = ⟨draw n⟩) (hle : s.drawn ≤ n) (hlt : n < t.drawn)
      (hattempt : ∀ data, record.event = .attemptDispatched data →
        ∃ m, data.attemptId = ⟨draw m⟩ ∧ s.drawn ≤ m ∧ m < t.drawn)

theorem Retains.drawn_le (h : Retains draw s t) : s.drawn ≤ t.drawn := by
  cases h with
  | nothing _ hdrawn => exact hdrawn
  | record _ n _ _ hle hlt => omega

theorem retains_of_step (h : step graph draw s input = some t) : Retains draw s t := by
  cases step_cases h with
  | silent hsilent =>
    refine .nothing (silent_projection hsilent).2.1 ?_
    cases hsilent with
    | launch =>
      unfold launch
      split <;> exact Nat.le_refl _
    | _ => exact Nat.le_refl _
  | rejected => exact .nothing rfl (Nat.le_refl _)
  | accepted hoffer =>
    cases hoffer with
    | @dispatch _ _ _ start _ _ _ hstart =>
      have hle : s.drawn ≤ start.drawn := by
        cases starts_of_attemptStart hstart with
        | first => exact Nat.le_add_right _ _
        | retry => exact Nat.le_refl _
      refine .record _ (start.drawn + 1) rfl rfl ?_ ?_ fun data hdata => ?_
      · exact Nat.le_succ_of_le hle
      · exact Nat.lt_succ_self _
      · obtain rfl := SchedulerEvent.attemptDispatched.inj hdata
        exact ⟨start.drawn, rfl, hle, Nat.lt_add_of_pos_right (by decide)⟩
    | handoff =>
      refine .record _ s.drawn rfl rfl (Nat.le_refl _) (Nat.lt_add_of_pos_right (by decide)) ?_
      exact fun _ hdata => SchedulerEvent.noConfusion hdata
    | _ =>
      refine .record _ s.drawn rfl rfl (Nat.le_refl _) (Nat.lt_succ_self _) ?_
      exact fun _ hdata => SchedulerEvent.noConfusion hdata

/-- What a worker has been handed is never taken back. -/
theorem calls_of_step (h : step graph draw s input = some t) : s.calls ⊆ t.calls := by
  cases step_cases h with
  | silent hsilent => exact (silent_projection hsilent).2.2.2 ▸ List.Subset.refl _
  | rejected => exact List.Subset.refl _
  | accepted hoffer =>
    cases hoffer with
    | dispatch => exact List.subset_append_left _ _
    | _ => exact List.Subset.refl _

end Step

/-- An executor's graph and the random ids that it draws. -/
structure Client (digest : CanonicalDigest) where
  graph : ValidatedActorGraph digest
  draw : ℕ → Uuid

/-- The executors on one journal, with the records of all of them in the order of their
acknowledgement. -/
structure SharedState (ι : Type*) where
  states : ι → SchedulerState
  journal : List SchedulerRecord

variable {ι : Type*} (clients : ι → Client digest)

def SharedState.start : SharedState ι := ⟨fun i => .start (clients i).graph, []⟩

/-- One executor takes a step, and a record that it retains goes to the journal. -/
def sharedStep [DecidableEq ι] (s : SharedState ι) (input : ι × Input) : Option (SharedState ι) :=
  (step (clients input.1).graph (clients input.1).draw (s.states input.1) input.2).map fun next =>
    { states := Function.update s.states input.1 next
      journal := s.journal ++ next.records.drop (s.states input.1).records.length }

/-- No two draws, of one executor or of two, have given the same id. -/
def Fresh (s : SharedState ι) : Prop :=
  ∀ i j m n, m < (s.states i).drawn → n < (s.states j).drawn →
    (clients i).draw m = (clients j).draw n → i = j ∧ m = n

/-- Each id comes from a draw of its own. -/
def Drawn (s : SharedState ι) (ids : List Uuid) : Prop :=
  ∃ keys : List (ι × ℕ), keys.Nodup ∧ (∀ key ∈ keys, key.2 < (s.states key.1).drawn) ∧
    ids = keys.map fun key => (clients key.1).draw key.2

/-- The journal is what the executors' records interleave to. -/
structure Shared (s : SharedState ι) : Prop where
  scheduled : ∀ i, Scheduled (clients i).graph (s.states i)
  evident : ∀ i, Evident (clients i).graph (s.states i)
  sublist : ∀ i, (s.states i).records.Sublist s.journal
  ids : Drawn clients s (s.journal.map (·.id.uuid))
  attempts : Drawn clients s ((attemptIds s.journal).map (·.uuid))

variable {clients} {s t : SharedState ι} {input : ι × Input} {ids : List Uuid}

theorem Drawn.nodup (hfresh : Fresh clients s) (h : Drawn clients s ids) : ids.Nodup := by
  obtain ⟨keys, hkeys, hdrawn, rfl⟩ := h
  refine hkeys.map_on fun a ha b hb heq => ?_
  obtain ⟨hclient, hindex⟩ := hfresh _ _ _ _ (hdrawn a ha) (hdrawn b hb) heq
  exact Prod.ext hclient hindex

theorem Drawn.mono (hle : ∀ i, (s.states i).drawn ≤ (t.states i).drawn)
    (h : Drawn clients s ids) : Drawn clients t ids := by
  obtain ⟨keys, hkeys, hdrawn, hids⟩ := h
  exact ⟨keys, hkeys, fun key hkey => Nat.lt_of_lt_of_le (hdrawn key hkey) (hle key.1), hids⟩

/-- A draw after all those of the state before gives a further id. -/
theorem Drawn.append (hle : ∀ i, (s.states i).drawn ≤ (t.states i).drawn)
    (h : Drawn clients s ids) {i : ι} {n : ℕ} (hold : (s.states i).drawn ≤ n)
    (hnew : n < (t.states i).drawn) : Drawn clients t (ids ++ [(clients i).draw n]) := by
  obtain ⟨keys, hkeys, hdrawn, rfl⟩ := h
  refine ⟨keys ++ [(i, n)], ?_, ?_, by simp⟩
  · refine hkeys.append (List.nodup_singleton _) ?_
    rintro key hkey hmem
    obtain rfl := List.mem_singleton.mp hmem
    exact absurd (hdrawn _ hkey) (Nat.not_lt.mpr hold)
  · intro key hkey
    rcases List.mem_append.mp hkey with hkey | hkey
    · exact Nat.lt_of_lt_of_le (hdrawn key hkey) (hle key.1)
    · obtain rfl := List.mem_singleton.mp hkey
      exact hnew

theorem attemptIds_append (journal added : List SchedulerRecord) :
    attemptIds (journal ++ added) = attemptIds journal ++ attemptIds added :=
  List.filterMap_append

theorem shared_start : Shared clients (.start clients) where
  scheduled _ := scheduled_start
  evident _ := evident_start
  sublist _ := List.Sublist.refl _
  ids := ⟨[], List.nodup_nil, by simp, rfl⟩
  attempts := ⟨[], List.nodup_nil, by simp, rfl⟩

variable [DecidableEq ι]

theorem sharedStep_eq_some : sharedStep clients s input = some t ↔
    ∃ next, step (clients input.1).graph (clients input.1).draw (s.states input.1) input.2 =
      some next ∧ t.states = Function.update s.states input.1 next ∧
        t.journal = s.journal ++ next.records.drop (s.states input.1).records.length := by
  rw [sharedStep, Option.map_eq_some_iff]
  constructor
  · rintro ⟨next, hnext, rfl⟩
    exact ⟨next, hnext, rfl, rfl⟩
  · rintro ⟨next, hnext, hstates, hjournal⟩
    refine ⟨next, hnext, ?_⟩
    cases t
    rw [SharedState.mk.injEq]
    exact ⟨hstates.symm, hjournal.symm⟩

/-- What a step of its own preserves about an executor, a step of the system preserves about all. -/
theorem forall_update {P : ι → SchedulerState → Prop} {i : ι} {next : SchedulerState}
    (h : ∀ i, P i (s.states i)) (hnext : P i next)
    (hstates : t.states = Function.update s.states i next) (j : ι) : P j (t.states j) := by
  rw [hstates]
  by_cases hj : j = i
  · subst hj
    rw [Function.update_self]
    exact hnext
  · rw [Function.update_of_ne hj]
    exact h j

theorem shared_step (hs : Shared clients s) (h : sharedStep clients s input = some t) :
    Shared clients t := by
  obtain ⟨i, choice⟩ := input
  obtain ⟨next, hnext, hstates, hjournal⟩ := sharedStep_eq_some.mp h
  have hretains := retains_of_step hnext
  have hself : t.states i = next := by rw [hstates, Function.update_self]
  have hdrawn : ∀ j, (s.states j).drawn ≤ (t.states j).drawn := fun j =>
    forall_update (P := fun j state => (s.states j).drawn ≤ state.drawn) (fun _ => Nat.le_refl _)
      hretains.drawn_le hstates j
  have hscheduled := forall_update hs.scheduled (scheduled_step (hs.scheduled i) hnext) hstates
  have hevident := forall_update hs.evident
    (evident_step (hs.scheduled i) (hs.evident i) hnext) hstates
  cases hretains with
  | nothing hrecords _ =>
    rw [hrecords, List.drop_length, List.append_nil] at hjournal
    refine ⟨hscheduled, hevident, ?_, ?_, ?_⟩ <;> rw [hjournal]
    · exact forall_update (P := fun _ state => state.records.Sublist s.journal) hs.sublist
        (hrecords ▸ hs.sublist i) hstates
    · exact hs.ids.mono hdrawn
    · exact hs.attempts.mono hdrawn
  | record record n hrecords hid hle hlt hattempt =>
    rw [hrecords, List.drop_left] at hjournal
    refine ⟨hscheduled, hevident, ?_, ?_, ?_⟩ <;> rw [hjournal]
    · refine forall_update (P := fun _ state => state.records.Sublist (s.journal ++ [record]))
        (fun j => (hs.sublist j).trans (List.sublist_append_left _ _)) ?_ hstates
      rw [hrecords]
      exact (hs.sublist i).append_right _
    · rw [List.map_append, List.map_singleton, hid]
      exact hs.ids.append hdrawn hle (hself ▸ hlt)
    · rw [attemptIds_append, List.map_append]
      cases hevent : record.event.dispatched? with
      | none => simpa [attemptIds, hevent] using hs.attempts.mono hdrawn
      | some data =>
        obtain ⟨m, hm, hmle, hmlt⟩ := hattempt data (dispatched?_eq_some.mp hevent)
        simpa [attemptIds, hevent, hm] using hs.attempts.append hdrawn hmle (hself ▸ hmlt)

theorem shared_run {tr : List (SharedState ι × ι × Input)}
    (h : Run (sharedStep clients) (.start clients) tr s) : Shared clients s :=
  h.invariant (fun _ _ _ => shared_step) shared_start

theorem calls_run {tr : List (SharedState ι × ι × Input)} (h : Run (sharedStep clients) s tr t)
    (i : ι) : (s.states i).calls ⊆ (t.states i).calls := by
  refine h.relates (R := fun s t => (s.states i).calls ⊆ (t.states i).calls)
    (fun _ => List.Subset.refl _) (fun s t input u hst hu => List.Subset.trans hst ?_)
  obtain ⟨next, hnext, hstates, -⟩ := sharedStep_eq_some.mp hu
  exact forall_update (P := fun j state => (t.states j).calls ⊆ state.calls)
    (fun _ => List.Subset.refl _) (calls_of_step hnext) hstates i

/-- A dispatch that a worker is handed is verified then, and at every later state of the journal,
with exactly its dependencies, each bound to the dispatch that produced its handoff. -/
theorem dispatch_verified {tr later : List (SharedState ι × ι × Input)}
    (h : Run (sharedStep clients) (.start clients) tr s)
    (hlater : Run (sharedStep clients) s later t) (hfresh : Fresh clients t) (i : ι)
    (dispatch : AgentDispatch) (hdispatch : dispatch ∈ (s.states i).calls) :
    ∃ verified, verifyDispatch digest t.journal dispatch = .ok verified ∧
      (∀ id, id ∈ verified.dependencies ↔ id ∈ dispatch.workOrder.dependencies) ∧
      ∀ (id : WorkOrderId) (dependency : VerifiedSchedulerDependencyV1),
        verified.dependencies[id]? = some dependency →
          ∃ handoff retained producer data, dispatch.dependencyHandoffs[id]? = some handoff ∧
            BoundTo t.journal id handoff dependency retained producer data := by
  have hs := hlater.invariant (fun _ _ _ => shared_step) (shared_run h)
  have hevidence := (hs.evident i).evidence
  obtain ⟨hroot, hsha, position, record, data, hsupported⟩ :=
    hevidence.calls dispatch (calls_run hlater i hdispatch)
  have hids : (t.journal.map (·.id)).Nodup := by
    refine List.Nodup.of_map (·.uuid) ?_
    rw [List.map_map]
    exact hs.ids.nodup hfresh
  obtain ⟨verified, hverified, -, hkeys, hbound⟩ := verifyDispatch_of_supported (hs.sublist i) hids
    (List.Nodup.of_map _ (hs.attempts.nodup hfresh)) (hroot ▸ hsha ▸ hevidence.dispatched) hsupported
  exact ⟨verified, hverified, hkeys, hbound⟩

section Sample

/-- The second order depends on the first, which may be retried. -/
def chainGraph : ValidatedActorGraph constantDigest where
  graph := ⟨actorGraphSchemaVersion, sampleSha256,
    [sampleOrder ⟨1⟩ firstLease 2 [], sampleOrder ⟨2⟩ secondLease 1 [⟨1⟩]]⟩
  policy := samplePolicy [firstLease, secondLease] 2
  digestSha256 := "graph"
  sorted := by decide
  accepted := by decide +kernel
  digest_eq := rfl

def chainClients (even : Bool) : Client constantDigest where
  graph := chainGraph
  draw n := Fin.ofNat _ (2 * n + if even then 10 else 11)

theorem chainClients_fresh {s : SharedState Bool} (hdrawn : ∀ i, (s.states i).drawn < 100) :
    Fresh chainClients s := by
  intro i j m n hm hn heq
  have hi := hdrawn i
  have hj := hdrawn j
  rw [chainClients, Fin.ext_iff] at heq
  simp only [chainClients, Fin.ofNat] at heq
  rw [Nat.mod_eq_of_lt (by split <;> omega), Nat.mod_eq_of_lt (by split <;> omega)] at heq
  cases i <;> cases j <;> simp at heq ⊢ <;> omega

/-- One executor retries its first order and dispatches the second over its handoff; the other
retains its root and its first dispatch in between. -/
def chainInputs : List (Bool × Input) :=
  [(true, .run), (false, .run), (true, .run), (true, .run), (true, .run), (true, .poll 0 .first),
    (false, .run), (true, .poll 0 (.worker (some (.error sampleRetryableFailure)))), (true, .run),
    (false, .run), (false, .run), (false, .poll 0 .first),
    (true, .poll 0 (.worker (some (.ok sampleCompletion)))), (true, .run), (true, .run),
    (true, .run), (true, .poll 0 .first)].map fun input => (input.1, ⟨input.2, none⟩)

theorem dispatch_verified_chain : ∃ tr s dispatch verified,
    Run (sharedStep chainClients) (.start chainClients) tr s ∧
      dispatch ∈ (s.states true).calls ∧ dispatch.workOrder.dependencies ≠ ∅ ∧
      verifyDispatch constantDigest s.journal dispatch = .ok verified ∧
      ∀ id, id ∈ verified.dependencies ↔ id ∈ dispatch.workOrder.dependencies := by
  have hreached : (execute (sharedStep chainClients) (.start chainClients) chainInputs).any
      (fun run => (run.2.states true).calls.any (·.workOrder.dependencies.isEmpty = false) ∧
        (run.2.states true).drawn < 100 ∧ (run.2.states false).drawn < 100) = true := by
    decide
  obtain ⟨⟨tr, s⟩, hexecute, hs⟩ := (Option.any_eq_true _ _).mp hreached
  obtain ⟨hcalls, htrue, hfalse⟩ := of_decide_eq_true hs
  obtain ⟨dispatch, hdispatch, hdependent⟩ := List.any_eq_true.mp hcalls
  have hrun := (run_of_execute hexecute).1
  obtain ⟨verified, hverified, hkeys, -⟩ := dispatch_verified hrun .nil
    (chainClients_fresh (by rintro (_ | _) <;> assumption)) true dispatch hdispatch
  refine ⟨tr, s, dispatch, verified, hrun, hdispatch, fun hempty => ?_, hverified, hkeys⟩
  rw [hempty] at hdependent
  exact absurd hdependent (by decide)

end Sample

end BirdCode.Scheduler
