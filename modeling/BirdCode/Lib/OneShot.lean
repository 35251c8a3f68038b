import Mathlib

/-! Tokens that are spent once: a token goes to one holder, or straight to the list of the settled
ones, and from its holder to that list. -/
namespace BirdCode.Lib

variable {T C : Type*} {spent spent' : T → Prop} {holder : C → Option T}
  {settled : List T} {token : T} {client : C}

structure OneShot (spent : T → Prop) (holder : C → Option T) (settled : List T) : Prop where
  once : settled.Nodup
  held : ∀ client token, holder client = some token → spent token ∧ token ∉ settled
  exclusive : ∀ first second token, holder first = some token → holder second = some token →
    first = second
  settled_spent : ∀ token ∈ settled, spent token

theorem OneShot.start : OneShot (fun _ : T => False) (fun _ : C => none) [] := by
  refine ⟨List.nodup_nil, ?_, ?_, ?_⟩
  · intro client token h
    cases h
  · intro first second token h
    cases h
  · intro token h
    cases h

theorem OneShot.congr (h : OneShot spent holder settled)
    (hspent : ∀ token, spent token ↔ spent' token) :
    OneShot spent' holder settled := by
  obtain rfl : spent = spent' := funext fun token => propext (hspent token)
  exact h

/-- Other clients' moves leave what a client holds. -/
theorem OneShot.rehold {holder' : C → Option T} (h : OneShot spent holder settled)
    (hholder : ∀ client, holder' client = holder client) : OneShot spent holder' settled := by
  obtain rfl : holder' = holder := funext hholder
  exact h

/-- A client that held nothing takes a token nobody spent. -/
theorem OneShot.take [DecidableEq C] (h : OneShot spent holder settled) (hfresh : ¬spent token)
    (hspent : ∀ other, spent' other ↔ other = token ∨ spent other) :
    OneShot spent' (Function.update holder client (some token)) settled := by
  refine ⟨h.once, ?_, ?_, ?_⟩
  · intro other found hfound
    by_cases hother : other = client
    · subst hother
      rw [Function.update_self] at hfound
      cases hfound
      exact ⟨(hspent _).mpr (.inl rfl), fun hmem => hfresh (h.settled_spent _ hmem)⟩
    · rw [Function.update_of_ne hother] at hfound
      obtain ⟨hold, hopen⟩ := h.held other found hfound
      exact ⟨(hspent _).mpr (.inr hold), hopen⟩
  · intro first second found hfirst hsecond
    by_cases hone : first = client
    · by_cases htwo : second = client
      · rw [hone, htwo]
      · subst hone
        rw [Function.update_self] at hfirst
        rw [Function.update_of_ne htwo] at hsecond
        cases hfirst
        exact absurd (h.held second _ hsecond).1 hfresh
    · rw [Function.update_of_ne hone] at hfirst
      by_cases htwo : second = client
      · subst htwo
        rw [Function.update_self] at hsecond
        cases hsecond
        exact absurd (h.held first _ hfirst).1 hfresh
      · rw [Function.update_of_ne htwo] at hsecond
        exact h.exclusive first second found hfirst hsecond
  · intro found hfound
    exact (hspent found).mpr (.inr (h.settled_spent found hfound))

/-- A token nobody spent is spent, and settled at once or not at all. -/
theorem OneShot.spend (h : OneShot spent holder settled) (hfresh : ¬spent token)
    (hspent : ∀ other, spent' other ↔ other = token ∨ spent other) {done : List T}
    (hdone : done = [] ∨ done = [token]) : OneShot spent' holder (settled ++ done) := by
  have hopen : token ∉ settled := fun hmem => hfresh (h.settled_spent token hmem)
  refine ⟨?_, ?_, h.exclusive, ?_⟩
  · rcases hdone with rfl | rfl
    · rw [List.append_nil]
      exact h.once
    · rw [List.nodup_append]
      refine ⟨h.once, List.nodup_singleton token, ?_⟩
      intro found hfound other hother
      rw [List.mem_singleton.mp hother]
      rintro rfl
      exact hopen hfound
  · intro client found hfound
    obtain ⟨hold, hsettled⟩ := h.held client found hfound
    refine ⟨(hspent found).mpr (.inr hold), ?_⟩
    intro hmem
    rcases List.mem_append.mp hmem with hmem | hmem
    · exact hsettled hmem
    · rcases hdone with rfl | rfl
      · cases hmem
      · rw [List.mem_singleton.mp hmem] at hold
        exact hfresh hold
  · intro found hfound
    rcases List.mem_append.mp hfound with hmem | hmem
    · exact (hspent found).mpr (.inr (h.settled_spent found hmem))
    · rcases hdone with rfl | rfl
      · cases hmem
      · exact (hspent found).mpr (.inl (List.mem_singleton.mp hmem))

/-- The holder settles its token. -/
theorem OneShot.settle [DecidableEq C] (h : OneShot spent holder settled) (hheld : holder client = some token) :
    OneShot spent (Function.update holder client none) (settled ++ [token]) := by
  obtain ⟨htoken, hopen⟩ := h.held client token hheld
  refine ⟨?_, ?_, ?_, ?_⟩
  · rw [List.nodup_append]
    refine ⟨h.once, List.nodup_singleton token, ?_⟩
    intro found hfound other hother
    rw [List.mem_singleton.mp hother]
    rintro rfl
    exact hopen hfound
  · intro other found hfound
    by_cases hother : other = client
    · subst hother
      rw [Function.update_self] at hfound
      cases hfound
    · rw [Function.update_of_ne hother] at hfound
      obtain ⟨hold, hsettled⟩ := h.held other found hfound
      refine ⟨hold, ?_⟩
      intro hmem
      rcases List.mem_append.mp hmem with hmem | hmem
      · exact hsettled hmem
      · rw [List.mem_singleton.mp hmem] at hfound
        exact hother (h.exclusive other client token hfound hheld)
  · intro first second found hfirst hsecond
    by_cases hone : first = client
    · subst hone
      rw [Function.update_self] at hfirst
      cases hfirst
    · by_cases htwo : second = client
      · subst htwo
        rw [Function.update_self] at hsecond
        cases hsecond
      · rw [Function.update_of_ne hone] at hfirst
        rw [Function.update_of_ne htwo] at hsecond
        exact h.exclusive first second found hfirst hsecond
  · intro found hfound
    rcases List.mem_append.mp hfound with hmem | hmem
    · exact h.settled_spent found hmem
    · rw [List.mem_singleton.mp hmem]
      exact htoken

section Accounted

/-- No token is spent without a holder or a settlement. -/
def Accounted (spent : T → Prop) (holder : C → Option T) (settled : List T) : Prop :=
  ∀ token, spent token → token ∈ settled ∨ ∃ client, holder client = some token

theorem Accounted.take [DecidableEq C] (h : Accounted spent holder settled)
    (hidle : holder client = none) (hspent : ∀ other, spent' other ↔ other = token ∨ spent other) :
    Accounted spent' (Function.update holder client (some token)) settled := by
  intro found hfound
  rcases (hspent found).mp hfound with rfl | hold
  · exact .inr ⟨client, Function.update_self ..⟩
  · rcases h found hold with hsettled | ⟨other, hother⟩
    · exact .inl hsettled
    · refine .inr ⟨other, ?_⟩
      rw [Function.update_of_ne]
      · exact hother
      · rintro rfl
        rw [hidle] at hother
        cases hother

theorem Accounted.spend (h : Accounted spent holder settled)
    (hspent : ∀ other, spent' other ↔ other = token ∨ spent other) :
    Accounted spent' holder (settled ++ [token]) := by
  intro found hfound
  rcases (hspent found).mp hfound with rfl | hold
  · exact .inl (List.mem_append_right _ (List.mem_singleton_self _))
  · exact (h found hold).imp_left (List.mem_append_left _)

theorem Accounted.settle [DecidableEq C] (h : Accounted spent holder settled)
    (hheld : holder client = some token) :
    Accounted spent (Function.update holder client none) (settled ++ [token]) := by
  intro found hfound
  rcases h found hfound with hsettled | ⟨other, hother⟩
  · exact .inl (List.mem_append_left _ hsettled)
  · by_cases hclient : other = client
    · subst hclient
      rw [hheld] at hother
      cases hother
      exact .inl (List.mem_append_right _ (List.mem_singleton_self _))
    · refine .inr ⟨other, ?_⟩
      rw [Function.update_of_ne hclient]
      exact hother

end Accounted

end BirdCode.Lib
