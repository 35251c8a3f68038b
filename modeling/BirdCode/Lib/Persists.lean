import Mathlib

/-! Fallible computations that return at least what another returns: the relation between a
query of a store and the same query of the store with more in it. -/
namespace BirdCode.Lib

variable {E A B S : Type} {x y z : Except E A} {f g : A → Except E B}

/-- Whatever `x` returns, `y` returns. -/
def Persists (x y : Except E A) : Prop := ∀ a, x = .ok a → y = .ok a

namespace Persists

theorem rfl : Persists x x := fun _ h => h

theorem of_eq (h : x = y) : Persists x y := fun _ hx => h ▸ hx

theorem trans (hxy : Persists x y) (hyz : Persists y z) : Persists x z :=
  fun a hx => hyz a (hxy a hx)

theorem error {e : E} : Persists (.error e : Except E A) y := by
  intro a h
  cases h

theorem bind (h : Persists x y) (hfg : ∀ a, x = .ok a → Persists (f a) (g a)) :
    Persists (x >>= f) (y >>= g) := by
  intro b hb
  cases hx : x with
  | error e =>
    rw [hx] at hb
    cases hb
  | ok a =>
    rw [h a hx]
    rw [hx] at hb
    exact hfg a hx b hb

/-- A step that the other store changes, followed by the same rest. -/
theorem bind_left (h : Persists x y) : Persists (x >>= f) (y >>= f) := h.bind fun _ _ => rfl

/-- The same step, followed by a rest that the other store changes. -/
theorem bind_right (h : ∀ a, x = .ok a → Persists (f a) (g a)) : Persists (x >>= f) (x >>= g) :=
  rfl.bind h

theorem list_mapM {f g : S → Except E A} {l : List S}
    (h : ∀ s ∈ l, Persists (f s) (g s)) : Persists (l.mapM f) (l.mapM g) := by
  induction l with
  | nil => exact rfl
  | cons s l ih =>
    rw [List.mapM_cons, List.mapM_cons]
    have hl : Persists (l.mapM f) (l.mapM g) := ih fun t ht => h t (List.mem_cons_of_mem s ht)
    exact Persists.bind (h s List.mem_cons_self) fun _ _ => hl.bind_left

theorem option_mapM {f g : S → Except E A} {o : Option S}
    (h : ∀ s ∈ o, Persists (f s) (g s)) : Persists (o.mapM f) (o.mapM g) := by
  cases o with
  | none => exact rfl
  | some s => exact Persists.bind_left (h s (Option.mem_some.mpr (Eq.refl s)))

theorem foldlM {f g : S → A → Except E S} {l : List A} {s : S}
    (h : ∀ a ∈ l, ∀ s, Persists (f s a) (g s a)) : Persists (l.foldlM f s) (l.foldlM g s) := by
  induction l generalizing s with
  | nil => exact rfl
  | cons a l ih =>
    rw [List.foldlM_cons, List.foldlM_cons]
    exact Persists.bind (h a List.mem_cons_self s) fun _ _ =>
      ih fun b hb => h b (List.mem_cons_of_mem a hb)

end Persists

end BirdCode.Lib
