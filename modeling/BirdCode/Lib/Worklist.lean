import Mathlib

/-! A last-in first-out worklist that visits every vertex once and may fail at any visit. -/
namespace BirdCode.Lib

variable {V E : Type*} [DecidableEq V] {visit : V → Except E (List V)}

/-- Pops the head of `pending`, skips what was seen, and pushes what the visit returns, the
last of it on top. `none` means that the fuel ran out. -/
def drain (visit : V → Except E (List V)) :
    ℕ → List V → List V → Option (Except E (List V))
  | _, [], seen => some (.ok seen)
  | 0, _ :: _, _ => none
  | fuel + 1, v :: pending, seen =>
    if v ∈ seen then drain visit fuel pending seen
    else match visit v with
      | .error error => some (.error error)
      | .ok next => drain visit fuel (next.reverse ++ pending) (v :: seen)

/-- How many vertices a visit pushes. -/
def pushes (visit : V → Except E (List V)) (v : V) : ℕ :=
  match visit v with
  | .ok next => next.length
  | .error _ => 0

/-- What the vertices not yet seen can still push. -/
def unseenPushes (visit : V → Except E (List V)) (vertices seen : List V) : ℕ :=
  ((vertices.filter (· ∉ seen)).map (pushes visit)).sum

/-- One visit of each vertex that pushes anything pays for everything that is ever popped. -/
def drainFuel (visit : V → Except E (List V)) (vertices pending : List V) : ℕ :=
  pending.length + unseenPushes visit vertices []

theorem unseenPushes_cons_of_mem {vertices seen : List V} {v : V} (hnd : vertices.Nodup)
    (hv : v ∈ vertices) (hseen : v ∉ seen) :
    unseenPushes visit vertices (v :: seen) + pushes visit v =
      unseenPushes visit vertices seen := by
  unfold unseenPushes
  induction vertices with
  | nil => simp at hv
  | cons u vertices ih =>
    obtain ⟨hu, hnd⟩ := List.nodup_cons.mp hnd
    rcases List.mem_cons.mp hv with rfl | hv
    · have hkeep : vertices.filter (· ∉ v :: seen) = vertices.filter (· ∉ seen) := by
        refine List.filter_congr fun w hw => ?_
        have : w ≠ v := fun h => hu (h ▸ hw)
        simp [this]
      simp only [List.filter_cons, hkeep, hseen]
      simp [Nat.add_comm]
    · have hne : u ≠ v := fun h => hu (h ▸ hv)
      have := ih hnd hv
      by_cases hus : u ∈ seen
      · simpa [List.filter_cons, hne, hus] using this
      · simp only [List.filter_cons, List.mem_cons, hne, hus, false_or, not_false_eq_true,
          decide_true, if_true, List.map_cons, List.sum_cons] at this ⊢
        omega

theorem unseenPushes_cons_le {vertices seen : List V} (v : V) :
    unseenPushes visit vertices (v :: seen) ≤ unseenPushes visit vertices seen := by
  unfold unseenPushes
  refine List.Sublist.sum_le_sum (List.Sublist.map _ ?_) (by simp)
  exact List.monotone_filter_right _ fun w hw => by simp_all

/-- A walk whose pushing vertices lie in a duplicate-free list never runs out of fuel. -/
theorem drain_isSome {vertices : List V} (hnd : vertices.Nodup)
    (hpush : ∀ v next, visit v = .ok next → next ≠ [] → v ∈ vertices) (fuel : ℕ)
    (pending seen : List V)
    (hfuel : pending.length + unseenPushes visit vertices seen ≤ fuel) :
    (drain visit fuel pending seen).isSome := by
  induction fuel generalizing pending seen with
  | zero =>
    cases pending with
    | nil => simp [drain]
    | cons v pending => simp at hfuel
  | succ fuel ih =>
    cases pending with
    | nil => simp [drain]
    | cons v pending =>
      rw [drain]
      split
      · exact ih _ _ (by simp at hfuel; omega)
      · next hseen =>
        split
        · rfl
        · next next hvisit =>
          refine ih _ _ ?_
          simp only [List.length_cons, List.length_append, List.length_reverse] at hfuel ⊢
          have hp : pushes visit v = next.length := by simp [pushes, hvisit]
          by_cases hnil : next = []
          · have hle : unseenPushes visit vertices (v :: seen) ≤ unseenPushes visit vertices seen :=
              unseenPushes_cons_le v
            subst hnil
            simp at hp ⊢
            omega
          · have hpaid : unseenPushes visit vertices (v :: seen) + pushes visit v =
                unseenPushes visit vertices seen :=
              unseenPushes_cons_of_mem hnd (hpush v next hvisit hnil) hseen
            omega

/-- More fuel gives the same result. -/
theorem drain_mono {fuel fuel' : ℕ} {pending seen : List V} {r : Except E (List V)}
    (h : drain visit fuel pending seen = some r) (hle : fuel ≤ fuel') :
    drain visit fuel' pending seen = some r := by
  induction fuel generalizing fuel' pending seen with
  | zero =>
    cases pending with
    | nil => simpa [drain] using h
    | cons v pending => simp [drain] at h
  | succ fuel ih =>
    cases pending with
    | nil => simpa [drain] using h
    | cons v pending =>
      obtain ⟨fuel', rfl⟩ : ∃ k, fuel' = k + 1 := ⟨fuel' - 1, by omega⟩
      rw [drain] at h ⊢
      split at h
      · next hseen => rw [if_pos hseen]; exact ih h (by omega)
      · next hseen =>
        rw [if_neg hseen]
        split at h
        · exact h
        · exact ih h (by omega)

/-- Every vertex of a set was visited without error and pushed only vertices of the set. -/
def Closed (visit : V → Except E (List V)) (seen : List V) : Prop :=
  ∀ v ∈ seen, ∃ next, visit v = .ok next ∧ ∀ w ∈ next, w ∈ seen

/-- A walk that ends without error has visited what it started from, and the vertices it has
seen are closed under its pushes. -/
theorem drain_ok {fuel : ℕ} {pending seen result : List V}
    (h : drain visit fuel pending seen = some (.ok result))
    (hseen : ∀ v ∈ seen, ∃ next, visit v = .ok next ∧ ∀ w ∈ next, w ∈ seen ∨ w ∈ pending) :
    Closed visit result ∧ (∀ v ∈ pending, v ∈ result) ∧ ∀ v ∈ seen, v ∈ result := by
  induction fuel generalizing pending seen with
  | zero =>
    cases pending with
    | nil =>
      obtain rfl : seen = result := by simpa [drain] using h
      exact ⟨fun v hv => by simpa using hseen v hv, by simp, fun _ => id⟩
    | cons v pending => simp [drain] at h
  | succ fuel ih =>
    cases pending with
    | nil =>
      obtain rfl : seen = result := by simpa [drain] using h
      exact ⟨fun v hv => by simpa using hseen v hv, by simp, fun _ => id⟩
    | cons v pending =>
      rw [drain] at h
      split at h
      · next hv =>
        obtain ⟨hcl, hpend, hsub⟩ := ih h fun u hu => by
          obtain ⟨next, hnext, hw⟩ := hseen u hu
          refine ⟨next, hnext, fun w hwn => ?_⟩
          rcases hw w hwn with hw | hw
          · exact .inl hw
          · rcases List.mem_cons.mp hw with rfl | hw
            · exact .inl hv
            · exact .inr hw
        exact ⟨hcl, by simpa using ⟨hsub v hv, hpend⟩, hsub⟩
      · split at h
        · simp at h
        · next next hvisit =>
          obtain ⟨hcl, hpend, hsub⟩ := ih h fun u hu => by
            rcases List.mem_cons.mp hu with rfl | hu
            · exact ⟨next, hvisit, fun w hw => by simp [hw]⟩
            · obtain ⟨next', hnext', hw⟩ := hseen u hu
              refine ⟨next', hnext', fun w hwn => ?_⟩
              rcases hw w hwn with hw | hw
              · simp [hw]
              · rcases List.mem_cons.mp hw with rfl | hw <;> simp [*]
          refine ⟨hcl, ?_, fun w hw => hsub w (by simp [hw])⟩
          simpa using ⟨hsub v (by simp), fun w hw => hpend w (by simp [hw])⟩

/-- A walk inside a set whose visits all succeed and stay in the set ends without error. -/
theorem drain_ne_error {P : V → Prop} {fuel : ℕ} {pending seen : List V} {error : E}
    (hP : ∀ v, P v → ∃ next, visit v = .ok next ∧ ∀ w ∈ next, P w)
    (hpending : ∀ v ∈ pending, P v) :
    drain visit fuel pending seen ≠ some (.error error) := by
  induction fuel generalizing pending seen with
  | zero => cases pending <;> simp [drain]
  | succ fuel ih =>
    cases pending with
    | nil => simp [drain]
    | cons v pending =>
      rw [drain]
      split
      · exact ih fun w hw => hpending w (by simp [hw])
      · obtain ⟨next, hnext, hin⟩ := hP v (hpending v (by simp))
        simp only [hnext]
        refine ih fun w hw => ?_
        rcases List.mem_append.mp hw with hw | hw
        · exact hin w (List.mem_reverse.mp hw)
        · exact hpending w (by simp [hw])

section Exhaust

variable {vertices : List V} (hnd : vertices.Nodup)
  (hpush : ∀ v next, visit v = .ok next → next ≠ [] → v ∈ vertices)

/-- The whole walk from one vertex, with the fuel that is known to suffice. -/
def exhaust (visit : V → Except E (List V)) (vertices : List V) (hnd : vertices.Nodup)
    (hpush : ∀ v next, visit v = .ok next → next ≠ [] → v ∈ vertices) (start : V) :
    Except E (List V) :=
  (drain visit (drainFuel visit vertices [start]) [start] []).get
    (drain_isSome hnd hpush _ _ _ le_rfl)

theorem drain_eq_exhaust {start : V} {fuel : ℕ}
    (hfuel : drainFuel visit vertices [start] ≤ fuel) :
    drain visit fuel [start] [] = some (exhaust visit vertices hnd hpush start) :=
  drain_mono (Option.some_get _).symm hfuel

theorem exhaust_ok {start : V} {result : List V}
    (h : exhaust visit vertices hnd hpush start = .ok result) :
    Closed visit result ∧ start ∈ result := by
  have hrun : drain visit (drainFuel visit vertices [start]) [start] [] = _ :=
    drain_eq_exhaust hnd hpush le_rfl
  rw [h] at hrun
  obtain ⟨hcl, hstart, -⟩ := drain_ok hrun (by simp)
  exact ⟨hcl, hstart start (by simp)⟩

theorem exhaust_eq_ok {P : V → Prop} {start : V}
    (hP : ∀ v, P v → ∃ next, visit v = .ok next ∧ ∀ w ∈ next, P w) (hstart : P start) :
    ∃ result, exhaust visit vertices hnd hpush start = .ok result := by
  cases h : exhaust visit vertices hnd hpush start with
  | ok result => exact ⟨result, rfl⟩
  | error error =>
    have hrun : drain visit (drainFuel visit vertices [start]) [start] [] = _ :=
      drain_eq_exhaust hnd hpush le_rfl
    rw [h] at hrun
    exact absurd hrun (drain_ne_error hP (by simpa using hstart))

end Exhaust

end BirdCode.Lib
