import Mathlib

/-! The first occurrences of the elements of a list, in the order in which they occur: what a loop
keeps that asks of each element whether a set has seen it. -/
namespace BirdCode.Lib

variable {A : Type*} [DecidableEq A] {seen l : List A} {a : A}

/-- The elements that `seen.insert` finds new. -/
def unseen (seen : List A) : List A → List A
  | [] => []
  | a :: l => if a ∈ seen then unseen seen l else a :: unseen (a :: seen) l

def firstOccurrences (l : List A) : List A := unseen [] l

theorem mem_unseen : a ∈ unseen seen l ↔ a ∈ l ∧ a ∉ seen := by
  induction l generalizing seen with
  | nil => simp [unseen]
  | cons b l ih =>
    unfold unseen
    by_cases hb : b ∈ seen
    · rw [if_pos hb, ih, List.mem_cons]
      constructor
      · rintro ⟨hmem, hnew⟩
        exact ⟨.inr hmem, hnew⟩
      · rintro ⟨rfl | hmem, hnew⟩
        · exact absurd hb hnew
        · exact ⟨hmem, hnew⟩
    · rw [if_neg hb, List.mem_cons, ih, List.mem_cons, List.mem_cons]
      constructor
      · rintro (rfl | ⟨hmem, hnew⟩)
        · exact ⟨.inl rfl, hb⟩
        · exact ⟨.inr hmem, fun h => hnew (.inr h)⟩
      · rintro ⟨rfl | hmem, hnew⟩
        · exact .inl rfl
        · by_cases heq : a = b
          · exact .inl heq
          · exact .inr ⟨hmem, fun h => h.elim heq hnew⟩

theorem nodup_unseen : (unseen seen l).Nodup := by
  induction l generalizing seen with
  | nil => exact .nil
  | cons b l ih =>
    unfold unseen
    split
    · exact ih
    · refine List.nodup_cons.mpr ⟨?_, ih⟩
      intro h
      exact (mem_unseen.mp h).2 List.mem_cons_self

@[simp] theorem mem_firstOccurrences : a ∈ firstOccurrences l ↔ a ∈ l := by
  rw [firstOccurrences, mem_unseen]
  simp

theorem nodup_firstOccurrences : (firstOccurrences l).Nodup := nodup_unseen

/-- What was seen decides only by what it holds. -/
theorem unseen_congr {seen' : List A} (h : ∀ a ∈ l, a ∈ seen ↔ a ∈ seen') :
    unseen seen l = unseen seen' l := by
  induction l generalizing seen seen' with
  | nil => rfl
  | cons b l ih =>
    have hb := h b List.mem_cons_self
    have hrest : ∀ a ∈ l, a ∈ seen ↔ a ∈ seen' := fun a ha => h a (List.mem_cons_of_mem b ha)
    unfold unseen
    by_cases hmem : b ∈ seen
    · rw [if_pos hmem, if_pos (hb.mp hmem), ih hrest]
    · rw [if_neg hmem, if_neg fun h => hmem (hb.mpr h)]
      congr 1
      apply ih
      intro a ha
      rw [List.mem_cons, List.mem_cons, hrest a ha]

end BirdCode.Lib
