import BirdCode.Basic

/-! Renamings between two runs of one program. A correspondence of finitely many names extends to a
permutation of them all, and outputs made item by item from related inputs are renamed item by item. -/
namespace BirdCode.Lib

section Permutations

variable {S A : Type*} {P P' : S → A → Prop}

/-- Names are paired with at most one name each way by a permutation of them all. -/
theorem exists_perm_of_biUnique [Finite A] {G : A → A → Prop} (h : Relator.BiUnique G) :
    ∃ σ : Equiv.Perm A, ∀ a b, G a b → σ a = b := by
  classical
  have := Fintype.ofFinite A
  let image (a : A) : A := if h : ∃ b, G a b then h.choose else a
  have himage : ∀ a b, G a b → image a = b := by
    intro a b hab
    have hexists : ∃ b, G a b := ⟨b, hab⟩
    have hchosen : image a = hexists.choose := dif_pos hexists
    rw [hchosen]
    exact h.2 hexists.choose_spec hab
  have hinj : Set.InjOn image {a | ∃ b, G a b} := by
    rintro a ⟨b, hab⟩ a' ⟨b', hab'⟩ heq
    rw [himage a b hab, himage a' b' hab'] at heq
    subst heq
    exact h.1 hab hab'
  obtain ⟨g, hg⟩ := Set.MapsTo.exists_equiv_extend_of_card_eq (t := Finset.univ) Finset.card_univ.symm
    (fun _ _ => Finset.mem_coe.mpr (Finset.mem_univ _)) hinj
  refine ⟨g.trans (Equiv.subtypeUnivEquiv Finset.mem_univ), ?_⟩
  intro a b hab
  have hpair := hg a ⟨b, hab⟩
  rw [himage a b hab] at hpair
  exact hpair

/-- The names two runs give to one source name correspond. -/
def Through (ρ : S → S) (P P' : S → A → Prop) (a a' : A) : Prop := ∃ s, P s a ∧ P' (ρ s) a'

theorem biUnique_through {ρ : S → S} (hρ : Function.Injective ρ) (h : Relator.BiUnique P)
    (h' : Relator.BiUnique P') : Relator.BiUnique (Through ρ P P') := by
  constructor
  · rintro a a' b ⟨s, ha, hb⟩ ⟨s', ha', hb'⟩
    obtain rfl := hρ (h'.1 hb hb')
    exact h.2 ha ha'
  · rintro a b b' ⟨s, ha, hb⟩ ⟨s', ha', hb'⟩
    obtain rfl := h.1 ha ha'
    exact h'.2 hb hb'

end Permutations

section Items

variable {E A B A' B' : Type} {R : A → B → Prop} {R' : A' → B' → Prop} {T : A → A' → Prop}
  {rename : B → B'} {items : List A} {items' : List A'} {made : List B} {made' : List B'}

/-- Items made alike from related items are renamed items. -/
theorem map_eq_of_forall₂
    (hitem : ∀ a a' b b', T a a' → R a b → R' a' b' → b' = rename b)
    (hrelated : List.Forall₂ T items items') (hmade : List.Forall₂ R items made)
    (hmade' : List.Forall₂ R' items' made') : made' = made.map rename := by
  induction hrelated generalizing made made' with
  | nil =>
    cases hmade
    cases hmade'
    rfl
  | cons hab _ ih =>
    cases hmade with
    | cons hr hrest =>
      cases hmade' with
      | cons hr' hrest' => rw [List.map_cons, hitem _ _ _ _ hab hr hr', ih hrest hrest']

theorem exists_of_forall₂ {a : A} (h : List.Forall₂ R items made) (hmem : a ∈ items) :
    ∃ b ∈ made, R a b := by
  induction h with
  | nil => cases hmem
  | cons hab _ ih =>
    rcases List.mem_cons.mp hmem with rfl | hrest
    · exact ⟨_, List.mem_cons_self, hab⟩
    · obtain ⟨b, hb, hR⟩ := ih hrest
      exact ⟨b, List.mem_cons_of_mem _ hb, hR⟩

theorem mapM_eq_ok {f : A → Except E B} :
    items.mapM f = .ok made ↔ List.Forall₂ (fun a b => f a = .ok b) items made := by
  induction items generalizing made with
  | nil =>
    rw [List.forall₂_nil_left_iff]
    constructor
    · intro h
      cases h
      rfl
    · rintro rfl
      rfl
  | cons a items ih =>
    rw [List.mapM_cons, bind_eq_ok]
    constructor
    · rintro ⟨b, hb, h⟩
      obtain ⟨rest, hrest, h⟩ := bind_eq_ok.mp h
      cases h
      exact .cons hb (ih.mp hrest)
    · intro h
      cases h with
      | cons hb hrest => exact ⟨_, hb, bind_eq_ok.mpr ⟨_, ih.mpr hrest, rfl⟩⟩

theorem exists_mapM {f : A → Except E B} (h : ∀ a ∈ items, ∃ b, f a = .ok b) :
    ∃ made, items.mapM f = .ok made := by
  induction items with
  | nil => exact ⟨[], rfl⟩
  | cons a items ih =>
    obtain ⟨b, hb⟩ := h a List.mem_cons_self
    obtain ⟨made, hmade⟩ := ih fun a ha => h a (List.mem_cons_of_mem _ ha)
    exact ⟨b :: made, mapM_eq_ok.mpr (.cons hb (mapM_eq_ok.mp hmade))⟩

/-- A fold that returned had returned before its last step. -/
theorem foldlM_concat_eq_ok {f : B → A → Except E B} {start last : B} {a : A} :
    (items ++ [a]).foldlM f start = .ok last ↔
      ∃ before, items.foldlM f start = .ok before ∧ f before a = .ok last := by
  rw [List.foldlM_append, bind_eq_ok]
  simp

end Items

end BirdCode.Lib
