import BirdCode.Lib.AppendOnly

/-! Chains of digests. Every entry carries its number, the digest of the entry before it and its own
digest; when equal digests mean equal contents, the last digest commits to the whole chain, and
entries that stood in one chain can only form a prefix of it in another. -/
namespace BirdCode.Lib

/-- How the entries of a chain are read. -/
structure ChainReading (E D : Type*) where
  number : E → ℕ
  previous : E → Option D
  digest : E → D

variable {E D : Type*} {reading : ChainReading E D} {computed computed' : E → D}
  {entries others : List E} {entry : E}

/-- The entry is numbered next, names the last entry and carries the digest of its contents. -/
def ChainReading.Follows (reading : ChainReading E D) (computed : E → D) (before : List E)
    (entry : E) : Prop :=
  reading.number entry = before.length + 1 ∧
    reading.previous entry = before.getLast?.map reading.digest ∧
    computed entry = reading.digest entry

def ChainReading.Chained (reading : ChainReading E D) (computed : E → D) (entries : List E) :
    Prop := Stepwise (reading.Follows computed) entries

theorem ChainReading.Chained.computed_eq (h : reading.Chained computed entries)
    (hmem : entry ∈ entries) : computed entry = reading.digest entry := by
  obtain ⟨_, _, _, _, _, hdigest⟩ := Stepwise.of_mem h hmem
  exact hdigest

theorem ChainReading.Chained.number_getElem {n : ℕ} (h : reading.Chained computed entries)
    (hn : entries[n]? = some entry) : reading.number entry = n + 1 := by
  obtain ⟨hlt, rfl⟩ := List.getElem?_eq_some_iff.mp hn
  have hsplit : entries = entries.take n ++ entries[n] :: entries.drop (n + 1) := by simp
  obtain ⟨hnumber, _, _⟩ := h _ _ _ hsplit
  rw [hnumber, List.length_take, Nat.min_eq_left (Nat.le_of_lt hlt)]

theorem ChainReading.Chained.numbers (h : reading.Chained computed entries) :
    entries.map reading.number = List.range' 1 entries.length := by
  refine Stepwise.induct (P := fun entries => entries.map reading.number =
    List.range' 1 entries.length) h rfl ?_
  intro before entry ih hentry
  rw [List.map_append, ih, List.length_append, List.length_singleton, List.range'_concat,
    List.map_singleton, hentry.1, Nat.one_mul, Nat.add_comm]

/-- Equal computed digests mean equal contents: all of an entry but the digest it carries. -/
def ChainReading.Binds (reading : ChainReading E D) (computed computed' : E → D)
    (entries others : List E) : Prop :=
  ∀ a ∈ entries, ∀ b ∈ others, computed a = computed' b →
    reading.previous a = reading.previous b ∧ (reading.digest a = reading.digest b → a = b)

/-- The last digest commits to every entry. -/
theorem ChainReading.Chained.eq_of_getLast (h : reading.Chained computed entries)
    (h' : reading.Chained computed' others) (hbind : reading.Binds computed computed' entries others)
    (hlast : entries.getLast?.map reading.digest = others.getLast?.map reading.digest) :
    entries = others := by
  induction entries using List.reverseRecOn generalizing others with
  | nil =>
    rw [List.getLast?_nil, Option.map_none, eq_comm, Option.map_eq_none_iff,
      List.getLast?_eq_none_iff] at hlast
    exact hlast.symm
  | append_singleton before a ih =>
    rw [List.getLast?_concat, Option.map_some, eq_comm, Option.map_eq_some_iff] at hlast
    obtain ⟨b, hb, hdigest⟩ := hlast
    obtain ⟨before', rfl⟩ := List.getLast?_eq_some_iff.mp hb
    obtain ⟨_, hprevious, hcomputed⟩ := Stepwise.last h
    obtain ⟨_, hprevious', hcomputed'⟩ := Stepwise.last h'
    have hsame : computed a = computed' b := by rw [hcomputed, hcomputed', hdigest]
    obtain ⟨hprev, heq⟩ := hbind a (by simp) b (by simp) hsame
    obtain rfl := heq hdigest.symm
    have hrest : before = before' := by
      refine ih (Stepwise.init h) (Stepwise.init h') ?_ ?_
      · intro x hx y hy
        exact hbind x (List.mem_append_left _ hx) y (List.mem_append_left _ hy)
      · rw [← hprevious, ← hprevious', hprev]
    rw [hrest]

/-- Entries of one chain that form a chain form a prefix of it. -/
theorem ChainReading.Chained.prefix_of_subset (h : reading.Chained computed entries)
    (h' : reading.Chained computed' others) (hsub : others ⊆ entries) : others <+: entries := by
  rw [List.prefix_iff_getElem?]
  intro n hn
  obtain ⟨m, hm⟩ := List.mem_iff_getElem?.mp (hsub (List.getElem_mem hn))
  have hnumber := h.number_getElem hm
  have hnumber' := h'.number_getElem (List.getElem?_eq_getElem hn)
  obtain rfl : m = n := by omega
  exact hm

end BirdCode.Lib
