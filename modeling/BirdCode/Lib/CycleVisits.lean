import BirdCode.Lib.Cycles

/-! The search for a cycle as programs write it: with the marks in two sets, and with a map of states
beside a stack. Both end, and find what the search over lists finds. -/
namespace BirdCode.Lib

open Std

variable {K : Type*} [Ord K] [TransOrd K] {next : K → List K} {fuel : ℕ} {v : K}
  {vs vertices : List K} {marks : Marks K}

section Sets

/-- The vertices being explored, and those that were left. -/
structure VisitSets (K : Type*) [Ord K] where
  active : ExtTreeSet K compare
  complete : ExtTreeSet K compare

/-- The loop ends at the first visit that meets a cycle. -/
def visitEach (visit : VisitSets K → K → Option (Bool × VisitSets K)) :
    VisitSets K → List K → Option (Bool × VisitSets K)
  | sets, [] => some (false, sets)
  | sets, v :: vs =>
    match visit sets v with
    | some (false, sets) => visitEach visit sets vs
    | result => result

/-- A visit of an active vertex has met a cycle. `none` means that the fuel ran out. -/
def visit (next : K → List K) : ℕ → VisitSets K → K → Option (Bool × VisitSets K)
  | fuel, sets, v =>
    if sets.complete.contains v then some (false, sets)
    else if sets.active.contains v then some (true, sets)
    else match fuel with
      | 0 => none
      | fuel + 1 =>
        match visitEach (visit next fuel) ⟨sets.active.insert v, sets.complete⟩ (next v) with
        | some (false, sets) => some (false, ⟨sets.active.erase v, sets.complete.insert v⟩)
        | result => result

/-- Whether some visit met a cycle, the vertices taken as roots in order. -/
def visitAll (next : K → List K) (vertices : List K) : Option Bool :=
  (visitEach (visit next vertices.length) ⟨∅, ∅⟩ vertices).map Prod.fst

structure SameSets (marks : Marks K) (sets : VisitSets K) : Prop where
  active : ∀ v, v ∈ sets.active ↔ v ∈ marks.active
  complete : ∀ v, v ∈ sets.complete ↔ v ∈ marks.complete

/-- Both searches ended in the same way. -/
def SameVisit : Search K → Option (Bool × VisitSets K) → Prop
  | .done marks, some (false, sets) => SameSets marks sets
  | .cycle _, some (true, _) => True
  | .exhausted, none => True
  | _, _ => False

theorem sameVisit_each {explore : Marks K → K → Search K}
    {visit : VisitSets K → K → Option (Bool × VisitSets K)}
    (hvisit : ∀ marks sets, SameSets marks sets → ∀ v,
      SameVisit (explore marks v) (visit sets v)) {sets : VisitSets K} (h : SameSets marks sets) :
    SameVisit (exploreEach explore marks vs) (visitEach visit sets vs) := by
  induction vs generalizing marks sets with
  | nil => exact h
  | cons v vs ih =>
    have hv := hvisit marks sets h v
    rw [exploreEach, visitEach]
    generalize explore marks v = search at hv ⊢
    generalize visit sets v = found at hv ⊢
    rcases search with _ | path | marks <;> rcases found with _ | ⟨_ | _, sets⟩
    case done.some.false => exact ih hv
    all_goals first | exact hv.elim | trivial

variable [LawfulEqOrd K]

theorem SameSets.enter {sets : VisitSets K} (h : SameSets marks sets) (v : K) :
    SameSets ⟨v :: marks.active, marks.complete⟩ ⟨sets.active.insert v, sets.complete⟩ := by
  refine ⟨fun w => ?_, h.complete⟩
  rw [ExtTreeSet.mem_insert, Std.compare_eq_iff_eq, h.active, List.mem_cons, eq_comm]

theorem SameSets.leave {sets : VisitSets K} {outer : List K} (h : SameSets marks sets)
    (hactive : marks.active = v :: outer) (hv : v ∉ outer) :
    SameSets ⟨marks.active.tail, v :: marks.complete⟩
      ⟨sets.active.erase v, sets.complete.insert v⟩ := by
  refine ⟨fun w => ?_, fun w => ?_⟩
  · rw [ExtTreeSet.mem_erase, Ne, Std.compare_eq_iff_eq, h.active, hactive, List.mem_cons, List.tail_cons]
    constructor
    · rintro ⟨hne, rfl | hw⟩
      · exact absurd rfl hne
      · exact hw
    · intro hw
      refine ⟨?_, Or.inr hw⟩
      rintro rfl
      exact hv hw
  · rw [ExtTreeSet.mem_insert, Std.compare_eq_iff_eq, h.complete, List.mem_cons, eq_comm]

variable [DecidableEq K]

theorem sameVisit {sets : VisitSets K} (h : SameSets marks sets) :
    SameVisit (explore next fuel marks v) (visit next fuel sets v) := by
  have hcomplete : sets.complete.contains v = true ↔ v ∈ marks.complete := by
    rw [ExtTreeSet.contains_iff_mem]
    exact h.complete v
  have hactive : sets.active.contains v = true ↔ v ∈ marks.active := by
    rw [ExtTreeSet.contains_iff_mem]
    exact h.active v
  induction fuel generalizing marks sets v with
  | zero =>
    rw [explore, visit]
    by_cases hc : v ∈ marks.complete
    · rw [if_pos hc, if_pos (hcomplete.mpr hc)]
      exact h
    · rw [if_neg hc, if_neg (mt hcomplete.mp hc)]
      by_cases ha : v ∈ marks.active
      · rw [if_pos ha, if_pos (hactive.mpr ha)]
        trivial
      · rw [if_neg ha, if_neg (mt hactive.mp ha)]
        trivial
  | succ fuel ih =>
    rw [explore, visit]
    by_cases hc : v ∈ marks.complete
    · rw [if_pos hc, if_pos (hcomplete.mpr hc)]
      exact h
    · rw [if_neg hc, if_neg (mt hcomplete.mp hc)]
      by_cases ha : v ∈ marks.active
      · rw [if_pos ha, if_pos (hactive.mpr ha)]
        trivial
      · rw [if_neg ha, if_neg (mt hactive.mp ha)]
        have hloop : SameVisit
            (exploreEach (explore next fuel) ⟨v :: marks.active, marks.complete⟩ (next v))
            (visitEach (visit next fuel) ⟨sets.active.insert v, sets.complete⟩ (next v)) := by
          refine sameVisit_each ?_ (h.enter v)
          intro marks sets hsame w
          refine ih hsame ?_ ?_
          · rw [ExtTreeSet.contains_iff_mem]
            exact hsame.complete w
          · rw [ExtTreeSet.contains_iff_mem]
            exact hsame.active w
        have hkept : ∀ after, exploreEach (explore next fuel) ⟨v :: marks.active, marks.complete⟩
            (next v) = .done after → after.active = v :: marks.active :=
          fun after hdone => (exploreEach_done (fun _ _ _ => explore_done) hdone).1.active
        generalize exploreEach (explore next fuel) ⟨v :: marks.active, marks.complete⟩ (next v) =
          search at hloop hkept ⊢
        generalize visitEach (visit next fuel) ⟨sets.active.insert v, sets.complete⟩ (next v) =
          found at hloop ⊢
        rcases search with _ | path | after <;> rcases found with _ | ⟨_ | _, left⟩
        case done.some.false => exact hloop.leave (hkept after rfl) ha
        all_goals first | exact hloop.elim | trivial

/-- The search with two sets ends, and has met a cycle just if the search over lists finds one. -/
theorem visitAll_eq {hclosed : ∀ v ∈ vertices, ∀ w ∈ next v, w ∈ vertices} :
    visitAll next vertices = some (findCycle next vertices hclosed).isSome := by
  have hstart : SameSets (⟨[], []⟩ : Marks K) ⟨∅, ∅⟩ := by
    constructor <;> simp
  have hsame : SameVisit (searchAll next vertices)
      (visitEach (visit next vertices.length) ⟨∅, ∅⟩ vertices) := by
    refine sameVisit_each ?_ hstart
    intro marks sets h v
    exact sameVisit h
  unfold visitAll findCycle
  generalize visitEach (visit next vertices.length) ⟨∅, ∅⟩ vertices = found at hsame ⊢
  split
  · next marks hdone =>
    rw [hdone] at hsame
    rcases found with _ | ⟨_ | _, sets⟩
    · exact hsame.elim
    · rfl
    · exact hsame.elim
  · next path hcycle =>
    rw [hcycle] at hsame
    rcases found with _ | ⟨_ | _, sets⟩
    · exact hsame.elim
    · exact hsame.elim
    · rfl
  · next hex => exact absurd hex (searchAll_ne_exhausted hclosed)

end Sets

section Stack

inductive VisitState
  | visiting | visited
  deriving DecidableEq

/-- The state of each vertex met, and the vertices being explored, the innermost last. -/
structure VisitStack (K : Type*) [Ord K] where
  states : ExtTreeMap K VisitState compare
  stack : List K

/-- A loop over the vertices next to one comes to its end, or returns from the visit around it. -/
inductive VisitLoop (K : Type*) [Ord K]
  | finished (marks : VisitStack K)
  | returned (cycle : Option (List K)) (marks : VisitStack K)

/-- Where the stack lacks a vertex under exploration the visit returns nothing. -/
def descendEach [DecidableEq K]
    (descend : VisitStack K → K → Option (Option (List K) × VisitStack K)) :
    VisitStack K → List K → Option (VisitLoop K)
  | marks, [] => some (.finished marks)
  | marks, v :: vs =>
    match marks.states[v]? with
    | some .visiting =>
      some (.returned ((marks.stack.findIdx? (· = v)).map fun start => marks.stack.drop start) marks)
    | some .visited => descendEach descend marks vs
    | none =>
      match descend marks v with
      | none => none
      | some (some cycle, marks) => some (.returned (some cycle) marks)
      | some (none, marks) => descendEach descend marks vs

/-- `none` means that the fuel ran out. -/
def descend [DecidableEq K] (next : K → List K) :
    ℕ → VisitStack K → K → Option (Option (List K) × VisitStack K)
  | 0, _, _ => none
  | fuel + 1, marks, v =>
    match descendEach (descend next fuel) ⟨marks.states.insert v .visiting, marks.stack ++ [v]⟩
      (next v) with
    | none => none
    | some (.returned cycle marks) => some (cycle, marks)
    | some (.finished marks) => some (none, ⟨marks.states.insert v .visited, marks.stack.dropLast⟩)

/-- The vertices not met so far, taken as roots in order. -/
def descendRoots (descend : VisitStack K → K → Option (Option (List K) × VisitStack K)) :
    VisitStack K → List K → Option (Option (List K))
  | _, [] => some none
  | marks, v :: vs =>
    if marks.states.contains v then descendRoots descend marks vs
    else
      match descend marks v with
      | none => none
      | some (some cycle, _) => some (some cycle)
      | some (none, marks) => descendRoots descend marks vs

def descendAll [DecidableEq K] (next : K → List K) (vertices : List K) : Option (Option (List K)) :=
  descendRoots (descend next vertices.length) ⟨∅, []⟩ vertices

variable [DecidableEq K]

structure SameStack (marks : Marks K) (found : VisitStack K) : Prop where
  states : ∀ v, found.states[v]? = if v ∈ marks.complete then some .visited
    else if v ∈ marks.active then some .visiting else none
  stack : found.stack = marks.active.reverse
  nodup : marks.active.Nodup
  disjoint : ∀ v ∈ marks.active, v ∉ marks.complete

/-- Both searches ended in the same way, with the same cycle if with one. -/
def SameDescent : Search K → Option (Option (List K) × VisitStack K) → Prop
  | .done marks, some (none, found) => SameStack marks found
  | .cycle path, some (some cycle, _) => cycle = path
  | .exhausted, none => True
  | _, _ => False

def SameLoop : Search K → Option (VisitLoop K) → Prop
  | .done marks, some (.finished found) => SameStack marks found
  | .cycle path, some (.returned cycle _) => cycle = some path
  | .exhausted, none => True
  | _, _ => False

/-- A visit of a vertex that was not met before goes like the one of the search over lists. -/
def SameEntry (explore : Marks K → K → Search K)
    (descend : VisitStack K → K → Option (Option (List K) × VisitStack K)) : Prop :=
  ∀ marks found, SameStack marks found → ∀ v, v ∉ marks.complete → v ∉ marks.active →
    SameDescent (explore marks v) (descend found v)

theorem sameLoop_each {descend : VisitStack K → K → Option (Option (List K) × VisitStack K)}
    (hentry : SameEntry (explore next fuel) descend) {found : VisitStack K}
    (h : SameStack marks found) :
    SameLoop (exploreEach (explore next fuel) marks vs) (descendEach descend found vs) := by
  induction vs generalizing marks found with
  | nil => exact h
  | cons v vs ih =>
    have hstate := h.states v
    rw [exploreEach, descendEach]
    by_cases hc : v ∈ marks.complete
    · rw [if_pos hc] at hstate
      have hdone : explore next fuel marks v = .done marks := by
        cases fuel <;> rw [explore, if_pos hc]
      rw [hstate, hdone]
      exact ih h
    · rw [if_neg hc] at hstate
      by_cases ha : v ∈ marks.active
      · rw [if_pos ha] at hstate
        have hcycle : explore next fuel marks v =
            .cycle (v :: (marks.active.takeWhile (· ≠ v)).reverse) := by
          cases fuel <;> rw [explore, if_neg hc, if_pos ha]
        rw [hstate, hcycle, h.stack]
        exact drop_findIdx_active h.nodup ha
      · rw [if_neg ha] at hstate
        have hv := hentry marks found h v hc ha
        rw [hstate]
        generalize explore next fuel marks v = search at hv ⊢
        generalize descend found v = visited at hv ⊢
        rcases search with _ | path | marks <;> rcases visited with _ | ⟨_ | cycle, left⟩
        case done.some.none => exact ih hv
        case cycle.some.some => exact congrArg some hv
        all_goals first | exact hv.elim | trivial

variable [LawfulEqOrd K]

theorem SameStack.enter {found : VisitStack K} (h : SameStack marks found)
    (hc : v ∉ marks.complete) (ha : v ∉ marks.active) :
    SameStack ⟨v :: marks.active, marks.complete⟩
      ⟨found.states.insert v .visiting, found.stack ++ [v]⟩ := by
  refine ⟨fun w => ?_, ?_, List.nodup_cons.mpr ⟨ha, h.nodup⟩, ?_⟩
  · rw [ExtTreeMap.getElem?_insert]
    by_cases hw : v = w
    · subst hw
      simp [hc]
    · have hw' : ¬w = v := fun heq => hw heq.symm
      simp only [Std.compare_eq_iff_eq, hw, if_false, h.states w, List.mem_cons, hw', false_or]
  · rw [h.stack, List.reverse_cons]
  · intro w hw
    rcases List.mem_cons.mp hw with rfl | hw
    · exact hc
    · exact h.disjoint w hw

theorem SameStack.leave {found : VisitStack K} {outer : List K} (h : SameStack marks found)
    (hactive : marks.active = v :: outer) :
    SameStack ⟨marks.active.tail, v :: marks.complete⟩
      ⟨found.states.insert v .visited, found.stack.dropLast⟩ := by
  have hnd := h.nodup
  rw [hactive] at hnd
  obtain ⟨hv, houter⟩ := List.nodup_cons.mp hnd
  rw [hactive, List.tail_cons]
  refine ⟨fun w => ?_, ?_, houter, ?_⟩
  · rw [ExtTreeMap.getElem?_insert]
    by_cases hw : v = w
    · subst hw
      simp
    · have hw' : ¬w = v := fun heq => hw heq.symm
      simp only [Std.compare_eq_iff_eq, hw, if_false, h.states w, hactive, List.mem_cons, hw',
        false_or]
  · rw [h.stack, hactive, List.reverse_cons, List.dropLast_concat]
  · intro w hw hcomplete
    rcases List.mem_cons.mp hcomplete with rfl | hcomplete
    · exact hv hw
    · exact h.disjoint w (by rw [hactive]; exact List.mem_cons_of_mem _ hw) hcomplete

theorem sameEntry : SameEntry (explore next fuel) (descend next fuel) := by
  induction fuel with
  | zero =>
    intro marks found _ v hc ha
    rw [explore, if_neg hc, if_neg ha]
    trivial
  | succ fuel ih =>
    intro marks found h v hc ha
    rw [explore, descend, if_neg hc, if_neg ha]
    have hloop : SameLoop
        (exploreEach (explore next fuel) ⟨v :: marks.active, marks.complete⟩ (next v))
        (descendEach (descend next fuel) ⟨found.states.insert v .visiting, found.stack ++ [v]⟩
          (next v)) := sameLoop_each ih (h.enter hc ha)
    have hkept : ∀ after, exploreEach (explore next fuel) ⟨v :: marks.active, marks.complete⟩
        (next v) = .done after → after.active = v :: marks.active :=
      fun after hdone => (exploreEach_done (fun _ _ _ => explore_done) hdone).1.active
    generalize exploreEach (explore next fuel) ⟨v :: marks.active, marks.complete⟩ (next v) =
      search at hloop hkept ⊢
    generalize descendEach (descend next fuel)
      ⟨found.states.insert v .visiting, found.stack ++ [v]⟩ (next v) = loop at hloop ⊢
    rcases search with _ | path | after <;> rcases loop with _ | left | ⟨cycle, left⟩
    case done.some.finished => exact hloop.leave (hkept after rfl)
    case cycle.some.returned =>
      obtain rfl : cycle = some path := hloop
      rfl
    all_goals first | exact hloop.elim | trivial

/-- The root vertices that were met before are skipped, as a visit of them would do nothing. -/
theorem descendRoots_eq {found : VisitStack K} (h : SameStack marks found)
    (hactive : marks.active = []) :
    descendRoots (descend next fuel) found vs =
      match exploreEach (explore next fuel) marks vs with
      | .done _ => some none
      | .cycle path => some (some path)
      | .exhausted => none := by
  induction vs generalizing marks found with
  | nil => rfl
  | cons v vs ih =>
    have hstate := h.states v
    have ha : v ∉ marks.active := by
      rw [hactive]
      exact List.not_mem_nil
    rw [descendRoots, exploreEach, ExtTreeMap.contains_eq_isSome_getElem?, hstate]
    by_cases hc : v ∈ marks.complete
    · have hdone : explore next fuel marks v = .done marks := by
        cases fuel <;> rw [explore, if_pos hc]
      rw [if_pos hc, hdone]
      exact ih h hactive
    · rw [if_neg hc, if_neg ha]
      have hv : SameDescent (explore next fuel marks v) (descend next fuel found v) :=
        sameEntry marks found h v hc ha
      have hkept : ∀ after, explore next fuel marks v = .done after → after.active = [] :=
        fun after hdone => (explore_done hdone).1.active.trans hactive
      generalize explore next fuel marks v = search at hv hkept ⊢
      generalize descend next fuel found v = visited at hv ⊢
      rcases search with _ | path | after <;> rcases visited with _ | ⟨_ | cycle, left⟩
      case done.some.none => exact ih hv (hkept after rfl)
      case cycle.some.some =>
        obtain rfl : cycle = path := hv
        rfl
      all_goals first | exact hv.elim | rfl

/-- The search with a map and a stack ends, with the cycle the search over lists finds if any. -/
theorem descendAll_eq {hclosed : ∀ v ∈ vertices, ∀ w ∈ next v, w ∈ vertices} :
    descendAll next vertices = some (findCycle next vertices hclosed) := by
  have hstart : SameStack (⟨[], []⟩ : Marks K) ⟨∅, []⟩ := by
    constructor <;> simp
  have hroots : descendAll next vertices =
      match searchAll next vertices with
      | .done _ => some none
      | .cycle path => some (some path)
      | .exhausted => none := descendRoots_eq hstart rfl
  rw [hroots]
  unfold findCycle
  split
  · next hdone => split <;> simp_all
  · next hcycle => split <;> simp_all
  · next hex => exact absurd hex (searchAll_ne_exhausted hclosed)

end Stack

end BirdCode.Lib
