import Mathlib

/-! Commands that change a state and may fail half way, where a failure keeps the state it came
to. A command is judged by what it leaves behind when it returns and when it fails. -/
namespace BirdCode.Lib

abbrev Command (S E A : Type) := ExceptT E (StateM S) A

variable {S E A B : Type} {P P' : S → Prop} {Q M : A → S → Prop} {Q' : A → S → Prop}
  {N : B → S → Prop} {R R' : E → S → Prop} {c : Command S E A} {f : A → Command S E B}

namespace Command

/-- The outcome of a command and the state it leaves. -/
def apply (c : Command S E A) (s : S) : Except E A × S := c.run.run s

/-- A look at the state that changes nothing. -/
def observe (read : S → Except E A) : Command S E A := fun s => (read s, s)

def update (change : S → S) : Command S E Unit := fun s => (.ok (), change s)

/-- An operation on the state that may change it and still fail. -/
def perform (operation : S → Except E A × S) : Command S E A := operation

/-- A failure of the command is reported under another error, after the state is closed. -/
def closing (close : S → S) (error : E → E) (c : Command S E A) : Command S E A :=
  tryCatch c fun e => do
    update close
    throw (error e)

variable {c : Command S E A} {f : A → Command S E B} {handler : E → Command S E A} {s : S}

theorem apply_bind : (c >>= f).apply s = match c.apply s with
    | (.ok a, t) => (f a).apply t
    | (.error e, t) => (.error e, t) := by
  change ((ExceptT.bindCont f (c.apply s).1 : StateM S _) (c.apply s).2) = _
  rcases c.apply s with ⟨_ | a, t⟩
  · rfl
  · rfl

theorem apply_tryCatch : (tryCatch c handler : Command S E A).apply s = match c.apply s with
    | (.ok a, t) => (.ok a, t)
    | (.error e, t) => (handler e).apply t := by
  simp only [apply, tryCatch, tryCatchThe, MonadExceptOf.tryCatch, ExceptT.tryCatch, ExceptT.run,
    ExceptT.mk, StateT.run, bind, StateT.bind]
  rcases c s with ⟨_ | a, t⟩
  · rfl
  · rfl

end Command

open Command

/-- Started where `P` holds, the command returns where `Q` holds or fails where `R` holds. -/
def Meets (P : S → Prop) (c : Command S E A) (Q : A → S → Prop) (R : E → S → Prop) : Prop :=
  ∀ s, P s → (∀ a t, c.apply s = (.ok a, t) → Q a t) ∧ ∀ e t, c.apply s = (.error e, t) → R e t

namespace Meets

theorem pure {a : A} (h : ∀ s, P s → Q a s) : Meets P (Pure.pure a : Command S E A) Q R := by
  intro s hs
  refine ⟨?_, ?_⟩
  · intro b t hrun
    cases hrun
    exact h s hs
  · intro e t hrun
    cases hrun

theorem throw {e : E} (h : ∀ s, P s → R e s) : Meets P (MonadExcept.throw e : Command S E A) Q R := by
  intro s hs
  refine ⟨?_, ?_⟩
  · intro a t hrun
    cases hrun
  · intro e' t hrun
    cases hrun
    exact h s hs

theorem observe {read : S → Except E A} (hok : ∀ s a, P s → read s = .ok a → Q a s)
    (herror : ∀ s e, P s → read s = .error e → R e s) : Meets P (Command.observe read) Q R := by
  intro s hs
  refine ⟨?_, ?_⟩
  · intro a t hrun
    obtain ⟨hread, rfl⟩ := Prod.mk.inj hrun
    exact hok s a hs hread
  · intro e t hrun
    obtain ⟨hread, rfl⟩ := Prod.mk.inj hrun
    exact herror s e hs hread

theorem update {change : S → S} {Q : Unit → S → Prop} (h : ∀ s, P s → Q () (change s)) :
    Meets P (Command.update change : Command S E Unit) Q R := by
  intro s hs
  refine ⟨?_, ?_⟩
  · intro _ t hrun
    cases hrun
    exact h s hs
  · intro e t hrun
    cases hrun

theorem perform {operation : S → Except E A × S}
    (hok : ∀ s a t, P s → operation s = (.ok a, t) → Q a t)
    (herror : ∀ s e t, P s → operation s = (.error e, t) → R e t) :
    Meets P (Command.perform operation) Q R := by
  intro s hs
  exact ⟨fun a t hrun => hok s a t hs hrun, fun e t hrun => herror s e t hs hrun⟩

theorem bind (hc : Meets P c M R) (hf : ∀ a, Meets (M a) (f a) N R) : Meets P (c >>= f) N R := by
  intro s hs
  obtain ⟨hok, herror⟩ := hc s hs
  rw [apply_bind]
  cases heq : c.apply s with
  | mk outcome t =>
    cases outcome with
    | error e =>
      refine ⟨?_, ?_⟩
      · intro b u hb
        cases hb
      · intro e' u hb
        cases hb
        exact herror e t heq
    | ok a => exact hf a t (hok a t heq)

theorem weaken (h : Meets P c Q R) (hP : ∀ s, P' s → P s) (hQ : ∀ a s, Q a s → Q' a s)
    (hR : ∀ e s, R e s → R' e s) : Meets P' c Q' R' := by
  intro s hs
  obtain ⟨hok, herror⟩ := h s (hP s hs)
  exact ⟨fun a t hrun => hQ a t (hok a t hrun), fun e t hrun => hR e t (herror e t hrun)⟩

theorem given {p : Prop} (h : p → Meets P c Q R) : Meets (fun s => p ∧ P s) c Q R := by
  rintro s ⟨hp, hs⟩
  exact h hp s hs

theorem tryCatch {handler : E → Command S E A} (hc : Meets P c Q R')
    (hhandler : ∀ e, Meets (R' e) (handler e) Q R) : Meets P (MonadExcept.tryCatch c handler) Q R := by
  intro s hs
  obtain ⟨hok, herror⟩ := hc s hs
  rw [apply_tryCatch]
  cases heq : c.apply s with
  | mk outcome t =>
    cases outcome with
    | error e => exact hhandler e t (herror e t heq)
    | ok a =>
      refine ⟨?_, ?_⟩
      · intro b u hb
        cases hb
        exact hok a t heq
      · intro e' u hb
        cases hb

theorem closing {close : S → S} {error : E → E} (hc : Meets P c Q R')
    (hclose : ∀ e s, R' e s → R (error e) (close s)) :
    Meets P (Command.closing close error c) Q R :=
  hc.tryCatch fun e => (update (Q := fun _ => R (error e)) (hclose e)).bind fun _ =>
    throw fun _ h => h

end Meets

end BirdCode.Lib
