import Mathlib

/-! Logs that are only appended to. Every entry stands in a relation to the entries before it, the
one that its append was checked by; what the whole log keeps to follows from that relation. -/
namespace BirdCode.Lib

variable {E F K : Type*} {R S : List E → E → Prop} {entries : List E} {entry : E}

/-- Every entry is related to the entries before it. -/
def Stepwise (R : List E → E → Prop) (entries : List E) : Prop :=
  ∀ before entry after, entries = before ++ entry :: after → R before entry

theorem Stepwise.append (h : Stepwise R entries) (hstep : R entries entry) :
    Stepwise R (entries ++ [entry]) := by
  intro before other after heq
  obtain rfl | ⟨rest, last, rfl⟩ := List.eq_nil_or_concat after
  · obtain ⟨rfl, hlast⟩ := List.append_inj' heq rfl
    obtain rfl := List.head_eq_of_cons_eq hlast
    exact hstep
  · refine h before other rest ?_
    rw [List.concat_eq_append, ← List.cons_append, ← List.append_assoc] at heq
    exact (List.append_inj' heq rfl).1

theorem Stepwise.init (h : Stepwise R (entries ++ [entry])) : Stepwise R entries := by
  intro before other after heq
  refine h before other (after ++ [entry]) ?_
  rw [heq, List.append_assoc, List.cons_append]

theorem Stepwise.last (h : Stepwise R (entries ++ [entry])) : R entries entry :=
  h entries entry [] rfl

/-- What holds of no entries and is kept by every append holds of the log. -/
theorem Stepwise.induct {P : List E → Prop} (h : Stepwise R entries) (hnil : P [])
    (hstep : ∀ before entry, P before → R before entry → P (before ++ [entry])) : P entries := by
  induction entries using List.reverseRecOn with
  | nil => exact hnil
  | append_singleton before last ih => exact hstep before last (ih h.init) h.last

theorem Stepwise.imp (h : Stepwise R entries)
    (himp : ∀ before entry, R before entry → S before entry) : Stepwise S entries := by
  intro before entry after heq
  exact himp before entry (h before entry after heq)

theorem Stepwise.of_mem (h : Stepwise R entries) (hmem : entry ∈ entries) :
    ∃ before after, entries = before ++ entry :: after ∧ R before entry := by
  obtain ⟨before, after, heq⟩ := List.append_of_mem hmem
  exact ⟨before, after, heq, h before entry after heq⟩

/-- The entries that a reading keeps are a log of their own. -/
theorem Stepwise.filterMap {read : E → Option F} {S : List F → F → Prop} (h : Stepwise R entries)
    (hread : ∀ before entry kept, R before entry → read entry = some kept →
      S (before.filterMap read) kept) : Stepwise S (entries.filterMap read) := by
  refine h.induct (P := fun entries => Stepwise S (entries.filterMap read)) ?_ ?_
  · intro before entry after heq
    simp at heq
  · intro before entry ih hstep
    rw [List.filterMap_append]
    cases hkept : read entry with
    | none => simpa [hkept] using ih
    | some kept => simpa [hkept] using ih.append (hread before entry kept hstep hkept)

theorem Stepwise.pairwise {T : E → E → Prop} (h : Stepwise R entries)
    (hstep : ∀ before entry, R before entry → ∀ earlier ∈ before, T earlier entry) :
    entries.Pairwise T := by
  refine h.induct List.Pairwise.nil ?_
  intro before entry ih hentry
  refine List.pairwise_append.mpr ⟨ih, List.pairwise_singleton _ _, ?_⟩
  intro earlier hearlier other hother
  rw [List.mem_singleton.mp hother]
  exact hstep before entry hentry earlier hearlier

/-- Keys that are new at every append are distinct. -/
theorem Stepwise.nodup {key : E → K} (h : Stepwise R entries)
    (hfresh : ∀ before entry, R before entry → ∀ earlier ∈ before, key earlier ≠ key entry) :
    (entries.map key).Nodup := List.Pairwise.map key (fun _ _ hne => hne) (h.pairwise hfresh)

/-- A total that every append fits keeps to its limit. -/
theorem Stepwise.sum_le {weight : E → ℕ} {limit : ℕ} (h : Stepwise R entries)
    (hfits : ∀ before entry, R before entry → (before.map weight).sum + weight entry ≤ limit) :
    (entries.map weight).sum ≤ limit := by
  refine h.induct (P := fun entries => (entries.map weight).sum ≤ limit) (Nat.zero_le limit) ?_
  intro before entry _ hentry
  rw [List.map_append, List.sum_append, List.map_singleton, List.sum_singleton]
  exact hfits before entry hentry

/-- The last of the entries that are numbered from one carries their number. -/
theorem number_getLast {number : E → ℕ} {last : E}
    (h : entries.map number = List.range' 1 entries.length) (hlast : entries.getLast? = some last) :
    number last = entries.length := by
  obtain ⟨rest, rfl⟩ := List.getLast?_eq_some_iff.mp hlast
  rw [List.map_append, List.length_append, List.length_singleton, List.range'_concat] at h
  have hnumber := List.append_inj_right' h rfl
  rw [List.map_singleton, List.singleton_inj] at hnumber
  rw [hnumber, List.length_append, List.length_singleton]
  omega

/-- Entries that each take the number after the last are numbered from one. -/
theorem Stepwise.numbered {number : E → ℕ} (h : Stepwise R entries)
    (hnext : ∀ before entry, R before entry →
      number entry = (before.getLast?.map number).getD 0 + 1) :
    entries.map number = List.range' 1 entries.length := by
  refine h.induct (P := fun entries => entries.map number = List.range' 1 entries.length) rfl ?_
  intro before entry ih hentry
  have hcount : (before.getLast?.map number).getD 0 = before.length := by
    cases hlast : before.getLast? with
    | none =>
      rw [List.getLast?_eq_none_iff.mp hlast]
      rfl
    | some last => exact number_getLast ih hlast
  rw [List.map_append, ih, List.map_singleton, hnext before entry hentry, hcount,
    List.length_append, List.length_singleton, List.range'_concat, Nat.one_mul, Nat.add_comm]

/-- A relation between an entry and the last one before it holds along the log. -/
theorem Stepwise.isChain {T : E → E → Prop} (h : Stepwise R entries)
    (hlast : ∀ before entry, R before entry → ∀ last ∈ before.getLast?, T last entry) :
    entries.IsChain T := by
  refine h.induct List.isChain_nil ?_
  intro before entry ih hentry
  refine List.isChain_append.mpr ⟨ih, List.isChain_singleton _, ?_⟩
  intro last hmem other hother
  obtain rfl : entry = other := by simpa using hother
  exact hlast before entry hentry last hmem

/-- Behind the last of the entries that a predicate selects there is none. -/
theorem not_selected_of_getLast {before after : List E} {last : E} {p : E → Bool}
    (hnodup : (before ++ last :: after).Nodup)
    (hlast : ((before ++ last :: after).filter p).getLast? = some last) :
    ∀ entry ∈ after, p entry = false := by
  intro entry hentry
  by_contra hselected
  have hmem : entry ∈ after.filter p := List.mem_filter.mpr ⟨hentry, by simpa using hselected⟩
  obtain ⟨rest, other, hrest⟩ := List.eq_nil_or_concat (after.filter p) |>.resolve_left
    (List.ne_nil_of_mem hmem)
  have hfilter : (last :: after).filter p = (if p last then [last] else []) ++ rest.concat other := by
    rw [List.filter_cons, hrest]
    split <;> rfl
  rw [List.filter_append, hfilter, List.concat_eq_append, ← List.append_assoc, ← List.append_assoc,
    List.getLast?_concat] at hlast
  obtain rfl := Option.some.inj hlast
  have hafter : other ∈ after := by
    refine (List.mem_filter (p := p)).mp ?_ |>.1
    rw [hrest, List.concat_eq_append]
    exact List.mem_append_right _ (List.mem_singleton.mpr rfl)
  exact (List.nodup_cons.mp (List.nodup_append.mp hnodup).2.1).1 hafter

/-- Of entries that exclude one another there is one at most. -/
theorem countP_le_one_of_pairwise {p : E → Bool}
    (h : entries.Pairwise fun first second => p first = true → p second = false) :
    entries.countP p ≤ 1 := by
  induction entries with
  | nil => exact Nat.zero_le 1
  | cons first rest ih =>
    obtain ⟨hfirst, hrest⟩ := List.pairwise_cons.mp h
    rw [List.countP_cons]
    split
    case isTrue hp =>
      have : rest.countP p = 0 := by
        rw [List.countP_eq_zero]
        intro second hsecond
        simp [hfirst second hsecond hp]
      omega
    case isFalse => exact ih hrest

end BirdCode.Lib
