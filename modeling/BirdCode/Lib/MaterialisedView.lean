import Mathlib

/-! A table kept beside an append-only log: one row for each key, whose state is what the fold
over the key's own entries leaves. An insert, an update and an unrelated entry keep that. -/
namespace BirdCode.Lib

variable {E K R S : Type*} [DecidableEq K] {keyOf : E → Option K} {apply : Option S → E → Option S}
  {rowKey : R → K} {rowState : R → S} {entries : List E} {rows : List R} {entry : E} {row : R}
  {key : K}

/-- The state that a key's entries fold to. -/
def foldKey (keyOf : E → Option K) (apply : Option S → E → Option S) (entries : List E) (key : K) :
    Option S := (entries.filter fun entry => keyOf entry = some key).foldl apply none

def rowAt (rowKey : R → K) (rows : List R) (key : K) : Option R :=
  rows.find? fun row => rowKey row = key

/-- The table agrees with the log. -/
structure Materialises (keyOf : E → Option K) (apply : Option S → E → Option S) (rowKey : R → K)
    (rowState : R → S) (entries : List E) (rows : List R) : Prop where
  distinct : (rows.map rowKey).Nodup
  agrees : ∀ key, (rowAt rowKey rows key).map rowState = foldKey keyOf apply entries key

theorem foldKey_append_own (h : keyOf entry = some key) :
    foldKey keyOf apply (entries ++ [entry]) key =
      apply (foldKey keyOf apply entries key) entry := by
  simp [foldKey, h]

theorem foldKey_append_other (h : keyOf entry ≠ some key) :
    foldKey keyOf apply (entries ++ [entry]) key = foldKey keyOf apply entries key := by
  simp [foldKey, h]

theorem rowAt_mem (h : rowAt rowKey rows key = some row) : row ∈ rows ∧ rowKey row = key :=
  ⟨List.mem_of_find?_eq_some h, by simpa using List.find?_some h⟩

theorem rowAt_of_mem (hdistinct : (rows.map rowKey).Nodup) (h : row ∈ rows) :
    rowAt rowKey rows (rowKey row) = some row := by
  induction rows with
  | nil => cases h
  | cons first rest ih =>
    rw [List.map_cons, List.nodup_cons] at hdistinct
    unfold rowAt
    rw [List.find?_cons]
    by_cases hkey : rowKey first = rowKey row
    · obtain rfl | hrest := List.mem_cons.mp h
      · simp
      · exact absurd (hkey ▸ List.mem_map_of_mem hrest) hdistinct.1
    · obtain rfl | hrest := List.mem_cons.mp h
      · exact absurd rfl hkey
      · simpa [hkey, rowAt] using ih hdistinct.2 hrest

theorem rowAt_append_singleton (h : rowAt rowKey rows (rowKey row) = none) :
    rowAt rowKey (rows ++ [row]) key =
      if rowKey row = key then some row else rowAt rowKey rows key := by
  unfold rowAt at h ⊢
  rw [List.find?_append]
  split
  case isTrue hkey =>
    subst hkey
    simp [h]
  case isFalse hkey => simp [hkey]

/-- An update of rows that keeps their keys. -/
theorem rowAt_map {update : R → R} (h : ∀ row, rowKey (update row) = rowKey row) :
    rowAt rowKey (rows.map update) key = (rowAt rowKey rows key).map update := by
  unfold rowAt
  rw [List.find?_map]
  congr 2
  funext row
  simp [h]

namespace Materialises

/-- An entry of no key. -/
theorem unkeyed (h : Materialises keyOf apply rowKey rowState entries rows)
    (hentry : keyOf entry = none) :
    Materialises keyOf apply rowKey rowState (entries ++ [entry]) rows := by
  refine ⟨h.distinct, fun key => ?_⟩
  rw [foldKey_append_other (by simp [hentry])]
  exact h.agrees key

/-- An entry that leaves the state of its key. -/
theorem skip (h : Materialises keyOf apply rowKey rowState entries rows)
    (hentry : ∀ state, apply state entry = state) :
    Materialises keyOf apply rowKey rowState (entries ++ [entry]) rows := by
  refine ⟨h.distinct, fun key => ?_⟩
  by_cases hkey : keyOf entry = some key
  · rw [foldKey_append_own hkey, hentry]
    exact h.agrees key
  · rw [foldKey_append_other hkey]
    exact h.agrees key

/-- A row for a key that had none. -/
theorem insert (h : Materialises keyOf apply rowKey rowState entries rows)
    (hkey : keyOf entry = some (rowKey row)) (hnew : ∀ other ∈ rows, rowKey other ≠ rowKey row)
    (hstate : apply none entry = some (rowState row)) :
    Materialises keyOf apply rowKey rowState (entries ++ [entry]) (rows ++ [row]) := by
  have hnone : rowAt rowKey rows (rowKey row) = none := by
    rw [rowAt, List.find?_eq_none]
    intro other hother
    simpa using hnew other hother
  refine ⟨?_, fun key => ?_⟩
  · rw [List.map_append, List.map_singleton]
    refine List.nodup_append.mpr ⟨h.distinct, List.nodup_singleton _, ?_⟩
    intro a ha b hb hab
    obtain ⟨other, hother, rfl⟩ := List.mem_map.mp ha
    exact hnew other hother (hab.trans (List.mem_singleton.mp hb))
  · rw [rowAt_append_singleton hnone]
    split
    case isTrue hsame =>
      subst hsame
      rw [foldKey_append_own hkey, ← h.agrees, hnone, Option.map_none, hstate, Option.map_some]
    case isFalse hother =>
      rw [foldKey_append_other fun hsame => hother (Option.some.inj (hkey.symm.trans hsame))]
      exact h.agrees key

/-- An update of the one row of its key. -/
theorem update {change : R → R} (h : Materialises keyOf apply rowKey rowState entries rows)
    (hkeys : ∀ row, rowKey (change row) = rowKey row) (hkey : keyOf entry = some (rowKey row))
    (hrow : row ∈ rows) (hothers : ∀ other ∈ rows, rowKey other ≠ rowKey row →
      change other = other)
    (hstate : apply (some (rowState row)) entry = some (rowState (change row))) :
    Materialises keyOf apply rowKey rowState (entries ++ [entry]) (rows.map change) := by
  refine ⟨?_, fun key => ?_⟩
  · rw [List.map_map]
    convert h.distinct using 2
    funext other
    exact hkeys other
  · rw [rowAt_map hkeys]
    by_cases hsame : rowKey row = key
    · subst hsame
      rw [foldKey_append_own hkey, ← h.agrees, rowAt_of_mem h.distinct hrow]
      exact hstate.symm
    · rw [foldKey_append_other fun heq => hsame (Option.some.inj (hkey.symm.trans heq)),
        ← h.agrees]
      cases hat : rowAt rowKey rows key with
      | none => rfl
      | some other =>
        obtain ⟨hmem, hother⟩ := rowAt_mem hat
        rw [Option.map_some, hothers other hmem fun heq => hsame (heq.symm.trans hother)]

end Materialises

end BirdCode.Lib
