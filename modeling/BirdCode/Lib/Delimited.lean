import Mathlib

/-! Sequences of words that each end in a delimiter, and words joined by one. -/
namespace BirdCode.Lib

variable {A : Type*} {sep : A} {words : List (List A)} {l : List A}

/-- Every word, with the delimiter behind it. -/
def terminated (sep : A) (words : List (List A)) : List A :=
  (words.map fun word => word ++ [sep]).flatten

theorem terminated_cons {word : List A} :
    terminated sep (word :: words) = word ++ sep :: terminated sep words := by
  simp [terminated]

theorem length_terminated :
    (terminated sep words).length = (words.map List.length).sum + words.length := by
  induction words with
  | nil => rfl
  | cons word rest ih =>
    rw [terminated_cons, List.length_append, List.length_cons, ih, List.map_cons, List.sum_cons,
      List.length_cons]
    omega

theorem mem_terminated {a : A} (h : a ∈ terminated sep words) :
    a = sep ∨ ∃ word ∈ words, a ∈ word := by
  obtain ⟨part, hpart, ha⟩ := List.mem_flatten.mp h
  obtain ⟨word, hword, rfl⟩ := List.mem_map.mp hpart
  rcases List.mem_append.mp ha with ha | ha
  · exact .inr ⟨word, hword, ha⟩
  · exact .inl (List.mem_singleton.mp ha)

theorem terminated_perm_length {words' : List (List A)} (h : words.Perm words') :
    (terminated sep words).length = (terminated sep words').length :=
  (h.map _).flatten.length_eq

theorem terminated_eq_intercalate (h : words ≠ []) :
    terminated sep words = [sep].intercalate words ++ [sep] := by
  induction words with
  | nil => exact absurd rfl h
  | cons word rest ih =>
    rw [terminated, List.map_cons, List.flatten_cons, ← terminated]
    by_cases hrest : rest = []
    · simp [hrest, terminated]
    · rw [ih hrest, List.intercalate_cons_of_ne_nil hrest]
      simp

variable [DecidableEq A]

/-- The part before the last element, when that is the delimiter. -/
def stripFinal (sep : A) (l : List A) : Option (List A) :=
  if l.getLast? = some sep then some l.dropLast else none

theorem stripFinal_eq_some {l' : List A} : stripFinal sep l = some l' ↔ l = l' ++ [sep] := by
  unfold stripFinal
  constructor
  · intro h
    split at h
    · next hlast =>
      cases h
      exact (List.dropLast_append_getLast? sep hlast).symm
    · cases h
  · rintro rfl
    simp

/-- A text that ends in the delimiter is made of the words between its delimiters. -/
theorem terminated_splitOn (l : List A) : terminated sep (l.splitOn sep) = l ++ [sep] := by
  rw [terminated_eq_intercalate (List.splitOn_ne_nil sep l), List.intercalate_splitOn]

theorem splitOn_not_mem {word : List A} (h : word ∈ l.splitOn sep) : sep ∉ word := by
  induction l generalizing word with
  | nil =>
    rw [List.splitOn_nil, List.mem_singleton] at h
    rw [h]
    exact List.not_mem_nil
  | cons a l ih =>
    rw [List.splitOn_cons_eq_if_modifyHead] at h
    split at h
    · rcases List.mem_cons.mp h with rfl | h
      · exact List.not_mem_nil
      · exact ih h
    · next ha =>
      rcases hsplit : l.splitOn sep with _ | ⟨head, tail⟩
      · exact absurd hsplit (List.splitOn_ne_nil sep l)
      · rw [hsplit] at h
        rw [List.modifyHead_cons] at h
        rcases List.mem_cons.mp h with rfl | h
        · have hhead := ih (hsplit ▸ List.mem_cons_self)
          rw [List.mem_cons, not_or]
          exact ⟨fun heq => ha (by simp [heq]), hhead⟩
        · exact ih (hsplit ▸ List.mem_cons_of_mem _ h)

end BirdCode.Lib
