import Mathlib

/-! Lists sorted by a key. Sorting loses nothing but the order, and entries of distinct keys come out
in one strict order, whichever order they came in. -/
namespace BirdCode.Lib

open Std

variable {A K : Type*} [Ord K] {key : A → K} {l l' : List A}

def sortBy (key : A → K) (l : List A) : List A :=
  l.mergeSort fun a b => (compare (key a) (key b)).isLE

/-- Every entry comes before those behind it. -/
def StrictlySorted (key : A → K) (l : List A) : Prop :=
  l.Pairwise fun a b => compare (key a) (key b) = .lt

theorem sortBy_nil : sortBy key [] = [] := List.mergeSort_nil

theorem sortBy_perm (key : A → K) (l : List A) : (sortBy key l).Perm l := List.mergeSort_perm ..

theorem mem_sortBy {a : A} : a ∈ sortBy key l ↔ a ∈ l := (sortBy_perm key l).mem_iff

variable [TransOrd K]

theorem sortBy_pairwise (key : A → K) (l : List A) :
    (sortBy key l).Pairwise fun a b => (compare (key a) (key b)).isLE := by
  apply List.pairwise_mergeSort
  · intro a b c hab hbc
    exact TransCmp.isLE_trans hab hbc
  · intro a b
    rw [Bool.or_eq_true]
    have hswap : compare (key b) (key a) = (compare (key a) (key b)).swap := OrientedCmp.eq_swap
    rw [hswap, Ordering.isLE_swap]
    cases compare (key a) (key b) <;> simp

theorem StrictlySorted.eq_of_perm (h : StrictlySorted key l) (h' : StrictlySorted key l')
    (hperm : l.Perm l') : l = l' := by
  apply hperm.eq_of_pairwise ?_ h h'
  intro a b _ _ hab hba
  have hswap : compare (key a) (key b) = (compare (key b) (key a)).swap := OrientedCmp.eq_swap
  rw [hswap, hba] at hab
  cases hab

variable [LawfulEqOrd K]

theorem sortBy_strictlySorted (h : (l.map key).Nodup) : StrictlySorted key (sortBy key l) := by
  have hnodup : ((sortBy key l).map key).Nodup := ((sortBy_perm key l).map key).nodup_iff.mpr h
  refine ((sortBy_pairwise key l).and (List.pairwise_map.mp hnodup)).imp ?_
  rintro a b ⟨hle, hne⟩
  cases hcompare : compare (key a) (key b) with
  | lt => rfl
  | eq => exact absurd (LawfulEqCmp.eq_of_compare hcompare) hne
  | gt => rw [hcompare] at hle; cases hle

omit [TransOrd K] in
theorem StrictlySorted.nodup (h : StrictlySorted key l) : (l.map key).Nodup := by
  rw [List.Nodup, List.pairwise_map]
  refine h.imp ?_
  intro a b hlt heq
  have hself : compare (key b) (key b) = .eq := ReflCmp.compare_self
  rw [heq, hself] at hlt
  cases hlt

/-- A sorted list in which no two neighbours have the same key has distinct keys. -/
theorem nodup_of_sortBy_isChain (h : (sortBy key l).IsChain fun a b => key a ≠ key b) :
    (l.map key).Nodup := by
  have hle := (sortBy_pairwise key l).isChain
  have hlt : (sortBy key l).IsChain fun a b => compare (key a) (key b) = .lt := by
    rw [List.isChain_iff_getElem] at h hle ⊢
    intro i hi
    cases hcompare : compare (key (sortBy key l)[i]) (key (sortBy key l)[i + 1]) with
    | lt => rfl
    | eq => exact absurd (LawfulEqCmp.eq_of_compare hcompare) (h i hi)
    | gt =>
      have hordered := hle i hi
      rw [hcompare] at hordered
      cases hordered
  have hsorted : StrictlySorted key (sortBy key l) := by
    have : IsTrans A fun a b => compare (key a) (key b) = .lt :=
      ⟨fun a b c hab hbc => TransCmp.lt_trans hab hbc⟩
    exact List.isChain_iff_pairwise.mp hlt
  exact ((sortBy_perm key l).map key).nodup_iff.mp hsorted.nodup

theorem StrictlySorted.eq_sortBy (h : StrictlySorted key l) : sortBy key l = l :=
  (sortBy_strictlySorted h.nodup).eq_of_perm h (sortBy_perm key l)

/-- Entries of distinct keys are sorted the same, whichever order they came in. -/
theorem sortBy_eq_of_perm (hperm : l.Perm l') (h : (l.map key).Nodup) :
    sortBy key l = sortBy key l' := by
  have h' : (l'.map key).Nodup := (hperm.map key).nodup_iff.mp h
  refine (sortBy_strictlySorted h).eq_of_perm (sortBy_strictlySorted h') ?_
  exact (sortBy_perm key l).trans (hperm.trans (sortBy_perm key l').symm)

end BirdCode.Lib
