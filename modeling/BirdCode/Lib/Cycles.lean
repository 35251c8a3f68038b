import BirdCode.Lib.DepthFirst

/-! What the search for a cycle finds: the path it reports is a closed walk, and it reports one just if
there is one. The same search with its marks in two sets, and with a map of states beside a stack. -/
namespace BirdCode.Lib

section Walks

variable {V W : Type*} {r : V → V → Prop}

def Cyclic (r : V → V → Prop) : Prop := ∃ v, Relation.TransGen r v v

/-- Each vertex leads to the one behind it, and the last one to the first. -/
structure ClosedWalk (r : V → V → Prop) (path : List V) : Prop where
  nonempty : path ≠ []
  chain : path.IsChain r
  closes : ∀ first ∈ path.head?, ∀ last ∈ path.getLast?, r last first

theorem reflTransGen_of_isChain {v last : V} {path : List V} (hchain : (v :: path).IsChain r)
    (hlast : (v :: path).getLast? = some last) : Relation.ReflTransGen r v last := by
  induction path generalizing v with
  | nil =>
    obtain rfl : v = last := by simpa using hlast
    exact .refl
  | cons w path ih =>
    obtain ⟨hstep, hrest⟩ := List.isChain_cons_cons.mp hchain
    rw [List.getLast?_cons_cons] at hlast
    exact .head hstep (ih hrest hlast)

theorem ClosedWalk.cyclic {path : List V} (h : ClosedWalk r path) : Cyclic r := by
  obtain ⟨v, rest, rfl⟩ := List.exists_cons_of_ne_nil h.nonempty
  obtain ⟨last, hlast⟩ := Option.ne_none_iff_exists'.mp
    (mt List.getLast?_eq_none_iff.mp h.nonempty)
  exact ⟨v, .tail' (reflTransGen_of_isChain h.chain hlast) (h.closes v rfl last hlast)⟩

/-- A relation under other names of its vertices has a cycle just if it had one. -/
theorem cyclic_map {f : V → W} (hf : Function.Injective f) :
    Cyclic (Relation.Map r f f) ↔ Cyclic r := by
  constructor
  · rintro ⟨w, hcycle⟩
    have hback : ∀ w w', Relation.TransGen (Relation.Map r f f) w w' →
        ∃ v v', f v = w ∧ f v' = w' ∧ Relation.TransGen r v v' := by
      intro w w' h
      induction h with
      | single hstep =>
        obtain ⟨v, v', hr, rfl, rfl⟩ := hstep
        exact ⟨v, v', rfl, rfl, .single hr⟩
      | tail _ hstep ih =>
        obtain ⟨v, v', hv, hv', hpath⟩ := ih
        obtain ⟨u, u', hr, hu, hu'⟩ := hstep
        obtain rfl : v' = u := hf (hv'.trans hu.symm)
        exact ⟨v, u', hv, hu', hpath.tail hr⟩
    obtain ⟨v, v', hv, hv', hpath⟩ := hback w w hcycle
    obtain rfl : v = v' := hf (hv.trans hv'.symm)
    exact ⟨v, hpath⟩
  · rintro ⟨v, hcycle⟩
    exact ⟨f v, hcycle.lift f fun a b hr => ⟨a, b, hr, rfl, rfl⟩⟩

end Walks

section Reported

variable {V : Type*} {next : V → List V}

/-- A loop that does not end normally ends as one of its visits does. -/
theorem exploreEach_ends {visit : Marks V → V → Search V} {P : Marks V → Prop} {vs : List V}
    {marks : Marks V} {path : List V}
    (hkeep : ∀ m m' v, P m → visit m v = .done m' → P m') (hP : P marks)
    (h : exploreEach visit marks vs = .cycle path) :
    ∃ m, P m ∧ ∃ v ∈ vs, visit m v = .cycle path := by
  induction vs generalizing marks with
  | nil => cases h
  | cons v vs ih =>
    rw [exploreEach] at h
    split at h
    · next m hm =>
      obtain ⟨m, hPm, u, hu, hvisit⟩ := ih (hkeep _ _ _ hP hm) h
      exact ⟨m, hPm, u, List.mem_cons_of_mem _ hu, hvisit⟩
    · next hcycle =>
      cases h
      exact ⟨marks, hP, v, List.mem_cons_self, hcycle⟩
    · cases h

/-- The active path leads from its outer end to its inner one, and from there to the vertex visited. -/
def Leads (next : V → List V) (active : List V) (v : V) : Prop :=
  (v :: active).IsChain fun inner outer => inner ∈ next outer

variable [DecidableEq V]

/-- A list splits at the first place of a vertex. -/
theorem exists_takeWhile_ne_append {active : List V} {v : V} (h : v ∈ active) :
    ∃ outer, active = active.takeWhile (· ≠ v) ++ v :: outer := by
  have hdrop : active.dropWhile (· ≠ v) ≠ [] := by
    intro hnil
    have hall := List.dropWhile_eq_nil_iff.mp hnil v h
    simp at hall
  have hhead : ∀ u ∈ (active.dropWhile (· ≠ v)).head?, u = v := by
    intro u hu
    have hnot := List.head?_dropWhile_not (· ≠ v) active
    rw [Option.mem_def.mp hu] at hnot
    simpa using hnot
  obtain ⟨u, outer, hcons⟩ := List.exists_cons_of_ne_nil hdrop
  obtain rfl : u = v := hhead u (by rw [hcons]; rfl)
  refine ⟨outer, ?_⟩
  rw [← hcons, List.takeWhile_append_dropWhile]

theorem closedWalk_of_active {active : List V} {v : V} (hleads : Leads next active v)
    (hactive : v ∈ active) :
    ClosedWalk (fun v w => w ∈ next v) (v :: (active.takeWhile (· ≠ v)).reverse) := by
  obtain ⟨outer, hsplit⟩ := exists_takeWhile_ne_append hactive
  generalize active.takeWhile (· ≠ v) = inner at hsplit ⊢
  subst hsplit
  have hchain : (v :: (inner ++ [v])).IsChain fun inner outer => inner ∈ next outer := by
    have hprefix : v :: (inner ++ [v]) <+: v :: (inner ++ v :: outer) := by
      refine List.prefix_cons_inj v |>.mpr ⟨outer, ?_⟩
      simp
    exact hleads.prefix hprefix
  have hreverse := List.isChain_reverse.mpr hchain
  rw [List.reverse_cons, List.reverse_append, List.reverse_singleton] at hreverse
  obtain ⟨hwalk, -, hclose⟩ := List.isChain_append.mp hreverse
  refine ⟨List.cons_ne_nil _ _, hwalk, ?_⟩
  intro first hfirst last hlast
  obtain rfl : v = first := by simpa using hfirst
  exact hclose last hlast v rfl

/-- The stack from an active vertex on is the path from it inwards. -/
theorem drop_findIdx_active {active : List V} {v : V} (hnd : active.Nodup) (hv : v ∈ active) :
    (active.reverse.findIdx? (· = v)).map (fun start => active.reverse.drop start) =
      some (v :: (active.takeWhile (· ≠ v)).reverse) := by
  obtain ⟨outer, hsplit⟩ := exists_takeWhile_ne_append hv
  generalize active.takeWhile (· ≠ v) = inner at hsplit ⊢
  subst hsplit
  obtain ⟨-, houter, -⟩ := List.nodup_append.mp hnd
  have hfresh : ∀ w ∈ outer.reverse, ¬(decide (w = v) = true) := by
    intro w hw heq
    rw [of_decide_eq_true heq, List.mem_reverse] at hw
    exact (List.nodup_cons.mp houter).1 hw
  have hreverse : (inner ++ v :: outer).reverse = outer.reverse ++ v :: inner.reverse := by
    simp
  have hindex : (outer.reverse ++ v :: inner.reverse).findIdx? (· = v) =
      some outer.reverse.length := by
    rw [List.findIdx?_append, List.findIdx?_eq_none_iff.mpr (by simpa using hfresh),
      List.findIdx?_cons, if_pos (decide_eq_true rfl)]
    simp
  rw [hreverse, hindex, Option.map_some, List.drop_left]

theorem explore_cycle {fuel : ℕ} {marks : Marks V} {v : V} {path : List V}
    (hleads : Leads next marks.active v) (h : explore next fuel marks v = .cycle path) :
    ClosedWalk (fun v w => w ∈ next v) path := by
  induction fuel generalizing marks v with
  | zero =>
    rw [explore] at h
    split_ifs at h with hcomplete hactive
    cases h
    exact closedWalk_of_active hleads hactive
  | succ fuel ih =>
    rw [explore] at h
    split_ifs at h with hcomplete hactive
    · cases h
      exact closedWalk_of_active hleads hactive
    · split at h
      · cases h
      · next hloop =>
        cases h
        obtain ⟨m, hm, u, hu, hvisit⟩ := exploreEach_ends
          (P := fun m => m.active = v :: marks.active)
          (fun m m' u hm hdone => (explore_done hdone).1.active.trans hm) rfl hloop
        refine ih ?_ hvisit
        rw [hm]
        exact List.isChain_cons_cons.mpr ⟨hu, hleads⟩
      · cases h

variable {vertices : List V} {hclosed : ∀ v ∈ vertices, ∀ w ∈ next v, w ∈ vertices}

/-- The path that is reported is a closed walk. -/
theorem closedWalk_of_findCycle {path : List V} (h : findCycle next vertices hclosed = some path) :
    ClosedWalk (fun v w => w ∈ next v) path := by
  unfold findCycle at h
  split at h
  · cases h
  · next hloop =>
    cases h
    obtain ⟨m, hm, u, -, hvisit⟩ := exploreEach_ends (P := fun m => m.active = [])
      (fun m m' u hm hdone => (explore_done hdone).1.active.trans hm) rfl hloop
    refine explore_cycle ?_ hvisit
    rw [hm]
    exact List.isChain_singleton u
  · next hex => exact absurd hex (searchAll_ne_exhausted hclosed)

/-- Where only the vertices searched lead anywhere, a cycle is found just if there is one. -/
theorem findCycle_isSome_iff (hdomain : ∀ v w, w ∈ next v → v ∈ vertices) :
    (findCycle next vertices hclosed).isSome ↔ Cyclic fun v w => w ∈ next v := by
  constructor
  · intro h
    obtain ⟨path, hpath⟩ := Option.isSome_iff_exists.mp h
    exact (closedWalk_of_findCycle hpath).cyclic
  · rintro ⟨v, hcycle⟩
    by_contra hnone
    rw [Option.not_isSome_iff_eq_none] at hnone
    obtain ⟨w, hstep, -⟩ := Relation.TransGen.head'_iff.mp hcycle
    refine not_transGen_of_findCycle_eq_none hnone (hdomain v w hstep) ?_
    exact Relation.transGen_swap.mp hcycle

end Reported

end BirdCode.Lib
