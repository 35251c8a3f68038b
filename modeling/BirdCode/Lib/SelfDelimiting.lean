import Mathlib

/-! Encodings whose end can be told from what they begin with. Such encodings stay readable when they are
written one after the other, and a list of them once its length is known. -/
namespace BirdCode.Lib

variable {A B : Type*} {encode : A → List B} {rest rest' : List B}

/-- Two encodings followed by anything are equal only if they and what follows are. -/
def SelfDelimiting (encode : A → List B) : Prop :=
  ∀ a a' rest rest', encode a ++ rest = encode a' ++ rest' → a = a' ∧ rest = rest'

theorem selfDelimiting_of_length {n : ℕ} (hlength : ∀ a, (encode a).length = n)
    (hinj : Function.Injective encode) : SelfDelimiting encode := by
  intro a a' rest rest' h
  obtain ⟨hencode, hrest⟩ := List.append_inj h (by rw [hlength, hlength])
  exact ⟨hinj hencode, hrest⟩

theorem SelfDelimiting.injective (h : SelfDelimiting encode) : Function.Injective encode := by
  intro a a' heq
  exact (h a a' [] [] (by rw [heq])).1

/-- Lists of the same length are read back item by item. -/
theorem SelfDelimiting.flatMap_inj (h : SelfDelimiting encode) {l l' : List A}
    (hlength : l.length = l'.length) (heq : l.flatMap encode ++ rest = l'.flatMap encode ++ rest') :
    l = l' ∧ rest = rest' := by
  induction l generalizing l' with
  | nil =>
    obtain rfl := List.eq_nil_of_length_eq_zero hlength.symm
    exact ⟨rfl, heq⟩
  | cons a l ih =>
    obtain _ | ⟨a', l'⟩ := l'
    · cases hlength
    · rw [List.flatMap_cons, List.flatMap_cons, List.append_assoc, List.append_assoc] at heq
      obtain ⟨rfl, htail⟩ := h _ _ _ _ heq
      obtain ⟨rfl, hrest⟩ := ih (Nat.succ.inj hlength) htail
      exact ⟨rfl, hrest⟩

/-- The `width` low bytes of a number, the most significant first. -/
def beBytes : (width value : ℕ) → List UInt8
  | 0, _ => []
  | width + 1, value => beBytes width (value / 256) ++ [UInt8.ofNat value]

@[simp] theorem length_beBytes (width value : ℕ) : (beBytes width value).length = width := by
  induction width generalizing value with
  | zero => rfl
  | succ width ih => rw [beBytes, List.length_append, ih, List.length_singleton]

/-- Numbers of the width are told apart by their bytes. -/
theorem beBytes_inj {width a b : ℕ} (ha : a < 256 ^ width) (hb : b < 256 ^ width)
    (h : beBytes width a = beBytes width b) : a = b := by
  induction width generalizing a b with
  | zero => omega
  | succ width ih =>
    obtain ⟨hhigh, hlow⟩ := List.append_inj' h rfl
    have hdiv : a / 256 = b / 256 := by
      refine ih ?_ ?_ hhigh
      · rw [Nat.pow_succ] at ha
        omega
      · rw [Nat.pow_succ] at hb
        omega
    have hmod : a % 256 = b % 256 := by
      have hbyte := congrArg UInt8.toNat (List.head_eq_of_cons_eq hlow)
      rwa [UInt8.toNat_ofNat', UInt8.toNat_ofNat'] at hbyte
    omega

theorem beBytes_append_inj {width a b : ℕ} (ha : a < 256 ^ width) (hb : b < 256 ^ width)
    {rest rest' : List UInt8} (h : beBytes width a ++ rest = beBytes width b ++ rest') :
    a = b ∧ rest = rest' := by
  obtain ⟨hbytes, hrest⟩ := List.append_inj h (by simp)
  exact ⟨beBytes_inj ha hb hbytes, hrest⟩

/-- Distinct numbers below a bound are no more than the bound. -/
theorem length_le_of_lt {l : List ℕ} {bound : ℕ} (hnodup : l.Nodup) (hlt : ∀ n ∈ l, n < bound) :
    l.length ≤ bound := by
  have hsub : l ⊆ List.range bound := fun n hn => List.mem_range.mpr (hlt n hn)
  have hle := (List.subperm_of_subset hnodup hsub).length_le
  rwa [List.length_range] at hle

end BirdCode.Lib
