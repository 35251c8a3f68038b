import BirdCode.Lib.SortedBy

/-! Lists that are checked element by element, each against those before it. -/
namespace BirdCode.Lib

open Std

variable {A V K : Type*} {l : List A}

/-- No element stands behind an equal one. -/
theorem nodup_iff_not_mem_take :
    l.Nodup ↔ ∀ (index : ℕ) (a : A), l[index]? = some a → a ∉ l.take index := by
  constructor
  · intro h index a hindex hmem
    obtain ⟨before, hbefore, heq⟩ := List.mem_iff_getElem.mp hmem
    rw [List.length_take] at hbefore
    rw [List.getElem_take] at heq
    have hlt : index < l.length := (List.getElem?_eq_some_iff.mp hindex).1
    have hsame : l[before]? = l[index]? := by
      rw [hindex, List.getElem?_eq_getElem (by omega), heq]
    have hequal := (List.getElem?_inj (by omega) h).mp hsame
    omega
  · intro h
    rw [List.nodup_iff_injective_get]
    rintro ⟨i, hi⟩ ⟨j, hj⟩ heq
    have hbefore : ∀ i j (hi : i < l.length) (hj : j < l.length), l.get ⟨i, hi⟩ = l.get ⟨j, hj⟩ →
        ¬i < j := by
      intro i j hi hj heq hlt
      refine h j (l.get ⟨j, hj⟩) (List.getElem?_eq_getElem hj) ?_
      rw [← heq]
      exact List.mem_take_iff_getElem.mpr ⟨i, by omega, rfl⟩
    have hij := hbefore i j hi hj heq
    have hji := hbefore j i hj hi heq.symm
    exact Fin.ext (by
      dsimp only
      omega)

/-- Each of the elements passes its check at its place. -/
theorem zipIdx_flatMap_eq_nil {check : A × ℕ → List V} :
    l.zipIdx.flatMap check = [] ↔
      ∀ (index : ℕ) (a : A), l[index]? = some a → check (a, index) = [] := by
  rw [List.flatMap_eq_nil_iff]
  constructor
  · intro h index a hindex
    exact h (a, index) (List.mk_mem_zipIdx_iff_getElem?.mpr hindex)
  · rintro h ⟨a, index⟩ hmem
    exact h index a (List.mk_mem_zipIdx_iff_getElem?.mp hmem)

theorem forall_getElem? {P : A → Prop} :
    (∀ (index : ℕ) (a : A), l[index]? = some a → P a) ↔ ∀ a ∈ l, P a := by
  constructor
  · intro h a hmem
    obtain ⟨index, hindex⟩ := List.mem_iff_getElem?.mp hmem
    exact h index a hindex
  · intro h index a hindex
    exact h a (List.mem_of_getElem? hindex)

/-- The keys of the elements are distinct if none stands behind an equal one. -/
theorem nodup_map_iff {key : A → K} : (l.map key).Nodup ↔
    ∀ (index : ℕ) (a : A), l[index]? = some a → key a ∉ (l.map key).take index := by
  rw [nodup_iff_not_mem_take]
  constructor
  · intro h index a hindex
    exact h index (key a) (by rw [List.getElem?_map, hindex, Option.map_some])
  · intro h index k hindex
    rw [List.getElem?_map] at hindex
    obtain ⟨a, ha, rfl⟩ := Option.map_eq_some_iff.mp hindex
    exact h index a ha

section Neighbours

variable [Ord K] [TransOrd K] {key : A → K}

/-- A list is sorted if every element comes after the one right before it. -/
theorem strictlySorted_iff : StrictlySorted key l ↔
    ∀ (index : ℕ) (a : A), l[index]? = some a →
      ∀ before ∈ (l.take index).getLast?, compare (key before) (key a) = .lt := by
  have htrans : IsTrans A fun a b => compare (key a) (key b) = .lt :=
    ⟨fun a b c hab hbc => TransCmp.lt_trans hab hbc⟩
  rw [StrictlySorted, ← List.isChain_iff_pairwise, List.isChain_iff_getElem]
  constructor
  · intro h index a hindex before hbefore
    obtain ⟨hlt, rfl⟩ := List.getElem?_eq_some_iff.mp hindex
    cases index with
    | zero => simp at hbefore
    | succ index =>
      rw [List.getLast?_take, if_neg (Nat.succ_ne_zero index), Nat.add_sub_cancel,
        List.getElem?_eq_getElem (by omega), Option.some_or, Option.mem_some] at hbefore
      subst hbefore
      exact h index hlt
  · intro h index hindex
    refine h (index + 1) _ (List.getElem?_eq_getElem hindex) _ ?_
    rw [List.getLast?_take, if_neg (Nat.succ_ne_zero index), Nat.add_sub_cancel,
      List.getElem?_eq_getElem (by omega)]
    rfl

end Neighbours

end BirdCode.Lib
