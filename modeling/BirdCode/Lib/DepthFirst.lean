import Mathlib

/-! Depth-first search for a cycle: a search that finds none proves every vertex accessible. -/
namespace BirdCode.Lib

variable {V : Type*} {next : V → List V}

/-- The path being explored, innermost vertex first, and the vertices already left. -/
structure Marks (V : Type*) where
  active : List V
  complete : List V

inductive Search (V : Type*)
  | exhausted
  | cycle (path : List V)
  | done (marks : Marks V)

/-- Visits in order until one visit does not end normally. -/
def exploreEach (visit : Marks V → V → Search V) : Marks V → List V → Search V
  | marks, [] => .done marks
  | marks, v :: vs =>
    match visit marks v with
    | .done marks => exploreEach visit marks vs
    | .cycle path => .cycle path
    | .exhausted => .exhausted

/-- Every vertex that was left has only finite descents. -/
def Settled (next : V → List V) (marks : Marks V) : Prop :=
  ∀ v ∈ marks.complete, Acc (fun w v => w ∈ next v) v

/-- What a search that ends normally does to the marks. -/
structure Extends (next : V → List V) (before after : Marks V) : Prop where
  active : after.active = before.active
  complete : ∀ v ∈ before.complete, v ∈ after.complete
  settled : Settled next before → Settled next after

theorem Extends.refl (marks : Marks V) : Extends next marks marks :=
  ⟨rfl, fun _ => id, id⟩

theorem Extends.trans {a b c : Marks V} (hab : Extends next a b) (hbc : Extends next b c) :
    Extends next a c :=
  ⟨hbc.active.trans hab.active, fun v hv => hbc.complete v (hab.complete v hv),
    fun h => hbc.settled (hab.settled h)⟩

theorem exploreEach_done {visit : Marks V → V → Search V} {marks marks' : Marks V} {vs : List V}
    (hvisit : ∀ m m' v, visit m v = .done m' → Extends next m m' ∧ v ∈ m'.complete)
    (h : exploreEach visit marks vs = .done marks') :
    Extends next marks marks' ∧ ∀ v ∈ vs, v ∈ marks'.complete := by
  induction vs generalizing marks with
  | nil =>
    obtain rfl : marks = marks' := by simpa [exploreEach] using h
    exact ⟨.refl marks, by simp⟩
  | cons v vs ih =>
    rw [exploreEach] at h
    split at h
    · next m hm =>
      obtain ⟨hext, hv⟩ := hvisit _ _ _ hm
      obtain ⟨hext', hvs⟩ := ih h
      refine ⟨hext.trans hext', ?_⟩
      simpa using ⟨hext'.complete v hv, hvs⟩
    · cases h
    · cases h

/-- A loop whose visits never run out, while a condition they keep holds, does not either. -/
theorem exploreEach_ne_exhausted {visit : Marks V → V → Search V} {P : Marks V → Prop}
    {vs : List V} {marks : Marks V} (hvisit : ∀ m, P m → ∀ v ∈ vs, visit m v ≠ .exhausted)
    (hkeep : ∀ m m' v, P m → visit m v = .done m' → P m') (hP : P marks) :
    exploreEach visit marks vs ≠ .exhausted := by
  induction vs generalizing marks with
  | nil => simp [exploreEach]
  | cons v vs ih =>
    rw [exploreEach]
    split
    · next m hm =>
      exact ih (fun m hm u hu => hvisit m hm u (List.mem_cons_of_mem _ hu)) (hkeep _ _ _ hP hm)
    · simp
    · next hex => exact absurd hex (hvisit _ hP v (by simp))

variable [DecidableEq V]

/-- Enters a vertex unless it was left before; a vertex met again on the active path closes a
cycle, reported from that vertex inwards. -/
def explore (next : V → List V) : ℕ → Marks V → V → Search V
  | fuel, marks, v =>
    if v ∈ marks.complete then .done marks
    else if v ∈ marks.active then .cycle (v :: (marks.active.takeWhile (· ≠ v)).reverse)
    else match fuel with
      | 0 => .exhausted
      | fuel + 1 =>
        match exploreEach (explore next fuel) ⟨v :: marks.active, marks.complete⟩ (next v) with
        | .done marks => .done ⟨marks.active.tail, v :: marks.complete⟩
        | .cycle path => .cycle path
        | .exhausted => .exhausted

def searchAll (next : V → List V) (vertices : List V) : Search V :=
  exploreEach (explore next vertices.length) ⟨[], []⟩ vertices

theorem explore_done {fuel : ℕ} {marks marks' : Marks V} {v : V}
    (h : explore next fuel marks v = .done marks') :
    Extends next marks marks' ∧ v ∈ marks'.complete := by
  induction fuel generalizing marks marks' v with
  | zero =>
    rw [explore] at h
    split at h
    · next hv =>
      obtain rfl : marks = marks' := by simpa using h
      exact ⟨.refl marks, hv⟩
    · split at h <;> simp at h
  | succ fuel ih =>
    rw [explore] at h
    split at h
    · next hv =>
      obtain rfl : marks = marks' := by simpa using h
      exact ⟨.refl marks, hv⟩
    · split at h
      · cases h
      · split at h
        · next m hm =>
          obtain ⟨hext, hnext⟩ := exploreEach_done (fun _ _ _ => ih) hm
          cases h
          refine ⟨⟨by simp [hext.active], fun w hw => ?_, fun hsettled w hw => ?_⟩, by simp⟩
          · exact List.mem_cons_of_mem _ (hext.complete w hw)
          · have hm' := hext.settled hsettled
            rcases List.mem_cons.mp hw with rfl | hw
            · exact Acc.intro _ fun u hu => hm' u (hnext u hu)
            · exact hm' w hw
        · cases h
        · cases h

/-- The vertices that may still be entered. -/
def fresh (vertices : List V) (marks : Marks V) : List V :=
  vertices.filter fun v => v ∉ marks.complete ∧ v ∉ marks.active

theorem fresh_length_le {vertices : List V} {before after : Marks V}
    (h : Extends next before after) :
    (fresh vertices after).length ≤ (fresh vertices before).length := by
  refine (List.monotone_filter_right _ fun v hv => ?_).length_le
  simp only [decide_eq_true_eq] at hv ⊢
  exact ⟨fun hc => hv.1 (h.complete v hc), h.active ▸ hv.2⟩

theorem fresh_enter_lt {vertices : List V} {marks : Marks V} {v : V} (hv : v ∈ vertices)
    (hc : v ∉ marks.complete) (ha : v ∉ marks.active) :
    (fresh vertices ⟨v :: marks.active, marks.complete⟩).length <
      (fresh vertices marks).length := by
  have hfilter : fresh vertices ⟨v :: marks.active, marks.complete⟩ =
      (fresh vertices marks).filter (· ≠ v) := by
    simp only [fresh, List.filter_filter]
    refine List.filter_congr fun w _ => ?_
    by_cases hwv : w = v <;> simp [hwv]
  rw [hfilter, List.length_filter_lt_length_iff_exists]
  exact ⟨v, by simp [fresh, hv, hc, ha], by simp⟩

/-- A search inside a finite closed set of vertices never runs out of fuel. -/
theorem explore_ne_exhausted {vertices : List V}
    (hclosed : ∀ v ∈ vertices, ∀ w ∈ next v, w ∈ vertices) {fuel : ℕ} {marks : Marks V} {v : V}
    (hv : v ∈ vertices) (hfuel : (fresh vertices marks).length ≤ fuel) :
    explore next fuel marks v ≠ .exhausted := by
  induction fuel generalizing marks v with
  | zero =>
    rw [explore]
    split
    · simp
    · split
      · simp
      · next hc ha =>
        have := fresh_enter_lt hv hc ha
        omega
  | succ fuel ih =>
    rw [explore]
    split
    · simp
    · split
      · simp
      · next hc ha =>
        have hlt := fresh_enter_lt hv hc ha
        have hloop : exploreEach (explore next fuel) ⟨v :: marks.active, marks.complete⟩
            (next v) ≠ .exhausted := by
          refine exploreEach_ne_exhausted (P := fun m => (fresh vertices m).length ≤ fuel)
            (fun m hm u hu => ih (hclosed v hv u hu) hm) (fun m m' u hm hdone => ?_) (by omega)
          exact (fresh_length_le (explore_done hdone).1).trans hm
        split <;> simp_all

theorem searchAll_ne_exhausted {vertices : List V}
    (hclosed : ∀ v ∈ vertices, ∀ w ∈ next v, w ∈ vertices) :
    searchAll next vertices ≠ .exhausted := by
  refine exploreEach_ne_exhausted (P := fun m => (fresh vertices m).length ≤ vertices.length)
    (fun m hm v hv => explore_ne_exhausted hclosed hv hm) (fun m m' v hm hdone => ?_)
    (List.length_filter_le _ _)
  exact (fresh_length_le (explore_done hdone).1).trans hm

/-- The first cycle the search meets among the vertices, taken as roots in order. -/
def findCycle (next : V → List V) (vertices : List V)
    (hclosed : ∀ v ∈ vertices, ∀ w ∈ next v, w ∈ vertices) : Option (List V) :=
  match h : searchAll next vertices with
  | .done _ => none
  | .cycle path => some path
  | .exhausted => absurd h (searchAll_ne_exhausted hclosed)

/-- Where no cycle is found every vertex has only finite descents. -/
theorem acc_of_findCycle_eq_none {vertices : List V}
    {hclosed : ∀ v ∈ vertices, ∀ w ∈ next v, w ∈ vertices}
    (h : findCycle next vertices hclosed = none) :
    ∀ v ∈ vertices, Acc (fun w v => w ∈ next v) v := by
  unfold findCycle at h
  split at h
  · next marks hdone =>
    obtain ⟨hext, hall⟩ := exploreEach_done (fun _ _ _ => explore_done) hdone
    exact fun v hv => hext.settled (by simp [Settled]) v (hall v hv)
  · cases h
  · next hex => exact absurd hex (searchAll_ne_exhausted hclosed)

/-- Where no cycle is found no vertex descends to itself. -/
theorem not_transGen_of_findCycle_eq_none {vertices : List V}
    {hclosed : ∀ v ∈ vertices, ∀ w ∈ next v, w ∈ vertices}
    (h : findCycle next vertices hclosed = none) {v : V} (hv : v ∈ vertices) :
    ¬ Relation.TransGen (fun w v => w ∈ next v) v v := by
  intro hcycle
  have hacc := (acc_of_findCycle_eq_none h v hv).transGen
  induction hacc with
  | intro v _ ih => exact ih v hcycle hv hcycle

end BirdCode.Lib
