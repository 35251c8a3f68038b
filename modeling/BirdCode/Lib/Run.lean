import Mathlib

/-! Finite runs of a partial step function, with the source state of every step kept in the
trace. Invariants, conditions on steps and termination measures are transported along them. -/
namespace BirdCode.Lib

variable {S I : Type*} {step : S → I → Option S} {s t u : S} {tr : List (S × I)}

/-- The trace pairs each input with the state that accepted it. -/
inductive Run (step : S → I → Option S) (s : S) : List (S × I) → S → Prop
  | nil : Run step s [] s
  | snoc {t u : S} {i : I} {tr : List (S × I)} (h : Run step s tr t)
      (hs : step t i = some u) : Run step s (tr ++ [(t, i)]) u

/-- What every step preserves under a condition on its source and input, a run whose steps
all meet the condition preserves. -/
theorem Run.invariant_of {C : S → I → Prop} {P : S → Prop}
    (hstep : ∀ s i t, C s i → P s → step s i = some t → P t)
    (h : Run step s tr t) (hc : ∀ p ∈ tr, C p.1 p.2) (hs : P s) : P t := by
  induction h with
  | nil => exact hs
  | snoc _ hs' ih =>
    have hpre := ih (fun p hp => hc p (List.mem_append_left _ hp))
    exact hstep _ _ _ (hc (_, _) (List.mem_append_right _ (List.mem_singleton.mpr rfl))) hpre hs'

theorem Run.invariant {P : S → Prop} (hstep : ∀ s i t, P s → step s i = some t → P t)
    (h : Run step s tr t) (hs : P s) : P t :=
  h.invariant_of (C := fun _ _ => True) (fun s i t _ => hstep s i t) (fun _ _ => trivial) hs

/-- A relation to the start of the run, reflexive and transitive along steps. -/
theorem Run.relates {R : S → S → Prop} (hrefl : ∀ s, R s s)
    (hstep : ∀ s t i u, R s t → step t i = some u → R s u) (h : Run step s tr t) : R s t := by
  induction h with
  | nil => exact hrefl _
  | snoc _ hs' ih => exact hstep _ _ _ _ ih hs'

/-- A measure every step decreases, under an invariant, bounds the length of a run. -/
theorem Run.length_add_measure {P : S → Prop} {measure : S → ℕ}
    (hstep : ∀ s i t, P s → step s i = some t → P t)
    (hdec : ∀ s i t, P s → step s i = some t → measure t < measure s)
    (h : Run step s tr t) (hs : P s) : tr.length + measure t ≤ measure s := by
  induction h with
  | nil => simp
  | snoc hr hs' ih =>
    have hlt := hdec _ _ _ (hr.invariant hstep hs) hs'
    simp only [List.length_append, List.length_singleton]
    omega

/-- A run goes on from where another one ended. -/
theorem Run.append {tr' : List (S × I)} (h : Run step s tr t) (h' : Run step t tr' u) :
    Run step s (tr ++ tr') u := by
  induction h' with
  | nil => rwa [List.append_nil]
  | snoc _ hs ih =>
    rw [← List.append_assoc]
    exact ih.snoc hs

/-- A step inside a trace splits the run around it. -/
theorem Run.split {i : I} (h : Run step s tr u) (hm : (t, i) ∈ tr) :
    ∃ pre post v, Run step s pre t ∧ step t i = some v ∧ Run step v post u ∧
      tr = pre ++ (t, i) :: post := by
  induction h with
  | nil => simp at hm
  | @snoc v w j tr hr hs ih =>
    rcases List.mem_append.mp hm with hm | hm
    · obtain ⟨pre, post, x, hpre, hx, hpost, rfl⟩ := ih hm
      exact ⟨pre, post ++ [(v, j)], x, hpre, hx, hpost.snoc hs, by simp⟩
    · obtain ⟨rfl, rfl⟩ := Prod.mk.inj (List.mem_singleton.mp hm)
      exact ⟨tr, [], w, hr, hs, .nil, rfl⟩

/-- A position of a trace splits the run around it. -/
theorem Run.at_index {n : ℕ} {i : I} (h : Run step s tr u) (hn : tr[n]? = some (t, i)) :
    ∃ v, Run step s (tr.take n) t ∧ step t i = some v ∧ Run step v (tr.drop (n + 1)) u := by
  induction h with
  | nil => cases hn
  | @snoc v w j tr hr hs ih =>
    rcases Nat.lt_or_ge n tr.length with hlt | hge
    · rw [List.getElem?_append_left hlt] at hn
      obtain ⟨x, hpre, hx, hpost⟩ := ih hn
      refine ⟨x, ?_, hx, ?_⟩
      · rwa [List.take_append_of_le_length (Nat.le_of_lt hlt)]
      · rw [List.drop_append_of_le_length hlt]
        exact hpost.snoc hs
    · rw [List.getElem?_append_right hge, List.getElem?_singleton] at hn
      split at hn
      · next hzero =>
        obtain rfl : n = tr.length := by omega
        obtain ⟨rfl, rfl⟩ := Prod.mk.inj (Option.some.inj hn)
        refine ⟨w, by rwa [List.take_left], hs, ?_⟩
        rw [List.drop_of_length_le (by simp)]
        exact .nil
      · cases hn

/-- Inputs folded through the step function, with the trace, for running a model on concrete
inputs. -/
def execute (step : S → I → Option S) (s : S) (inputs : List I) : Option (List (S × I) × S) :=
  inputs.foldlM (fun run i => (step run.2 i).map fun t => (run.1 ++ [(run.2, i)], t)) ([], s)

theorem run_of_execute {inputs : List I} (h : execute step s inputs = some (tr, t)) :
    Run step s tr t ∧ tr.map Prod.snd = inputs := by
  induction inputs using List.reverseRecOn generalizing tr t with
  | nil =>
    cases h
    exact ⟨.nil, rfl⟩
  | append_singleton inputs i ih =>
    rw [execute, List.foldlM_append] at h
    obtain ⟨⟨pre, v⟩, hv, hi⟩ := Option.bind_eq_some_iff.mp h
    obtain ⟨hr, hinputs⟩ := ih hv
    simp only [List.foldlM_cons, List.foldlM_nil, Option.pure_def, Option.bind_eq_bind,
      Option.bind_eq_some_iff, Option.map_eq_some_iff, Option.some.injEq] at hi
    obtain ⟨_, ⟨w, hw, rfl⟩, heq⟩ := hi
    obtain ⟨rfl, rfl⟩ := Prod.mk.inj heq
    exact ⟨hr.snoc hw, by rw [List.map_append, hinputs, List.map_singleton]⟩

end BirdCode.Lib
