import BirdCode.Lib.Json
import BirdCode.Lib.SortedBy

/-! JSON values, of which the entries of an object have distinct names in no order that counts, and their
compact text. -/
namespace BirdCode.Lib.Json

variable {N : Type}

/-- A JSON value as a writer walks it, entries in the order in which an object holds them. -/
inductive JsonTree (N : Type)
  | null
  | bool (value : Bool)
  | number (value : N)
  | string (value : String)
  | array (items : List (JsonTree N))
  | object (entries : List (String × JsonTree N))

section Recursion

variable {P : JsonTree N → Prop}

/-- What holds of a tree if it holds of its parts. -/
theorem JsonTree.induct (hnull : P .null) (hbool : ∀ value, P (.bool value))
    (hnumber : ∀ value, P (.number value)) (hstring : ∀ value, P (.string value))
    (harray : ∀ items, (∀ item ∈ items, P item) → P (.array items))
    (hobject : ∀ entries, (∀ entry ∈ entries, P entry.2) → P (.object entries)) : ∀ tree, P tree
  | .null => hnull
  | .bool value => hbool value
  | .number value => hnumber value
  | .string value => hstring value
  | .array items => harray items fun item _ =>
    JsonTree.induct hnull hbool hnumber hstring harray hobject item
  | .object entries => hobject entries fun entry _ =>
    JsonTree.induct hnull hbool hnumber hstring harray hobject entry.2
termination_by tree => sizeOf tree
decreasing_by
  · next hmem =>
    have hlt := List.sizeOf_lt_of_mem hmem
    simp only [JsonTree.array.sizeOf_spec]
    omega
  · next hmem =>
    have hlt := List.sizeOf_lt_of_mem hmem
    obtain ⟨name, value⟩ := entry
    simp only [Prod.mk.sizeOf_spec] at hlt
    simp only [JsonTree.object.sizeOf_spec]
    omega

end Recursion

section Values

mutual

/-- No object holds two entries of one name. -/
def JsonTree.distinct : JsonTree N → Bool
  | .array items => distinctItems items
  | .object entries => decide (entries.map Prod.fst).Nodup && distinctEntries entries
  | _ => true

def distinctItems : List (JsonTree N) → Bool
  | [] => true
  | item :: items => item.distinct && distinctItems items

def distinctEntries : List (String × JsonTree N) → Bool
  | [] => true
  | (_, value) :: entries => value.distinct && distinctEntries entries

end

/-- A JSON value. -/
structure Value (N : Type) where
  tree : JsonTree N
  distinct : tree.distinct = true

/-- The same value: objects of the same names, with the same values under them. -/
inductive Same : JsonTree N → JsonTree N → Prop
  | null : Same .null .null
  | bool (value : Bool) : Same (.bool value) (.bool value)
  | number (value : N) : Same (.number value) (.number value)
  | string (value : String) : Same (.string value) (.string value)
  | array {items items' : List (JsonTree N)} (h : List.Forall₂ Same items items') :
      Same (.array items) (.array items')
  | object {entries entries' : List (String × JsonTree N)}
      (hnames : ∀ name, name ∈ entries.map Prod.fst ↔ name ∈ entries'.map Prod.fst)
      (h : ∀ name value value', (name, value) ∈ entries → (name, value') ∈ entries' →
        Same value value') : Same (.object entries) (.object entries')

end Values

section Sorting

mutual

/-- The same value, the entries of every object in the order of their names. -/
def JsonTree.sorted : JsonTree N → JsonTree N
  | .array items => .array (sortedItems items)
  | .object entries => .object (sortBy Prod.fst (sortedEntries entries))
  | tree => tree

def sortedItems : List (JsonTree N) → List (JsonTree N)
  | [] => []
  | item :: items => item.sorted :: sortedItems items

def sortedEntries : List (String × JsonTree N) → List (String × JsonTree N)
  | [] => []
  | (name, value) :: entries => (name, value.sorted) :: sortedEntries entries

end

variable {items : List (JsonTree N)} {entries entries' : List (String × JsonTree N)} {a b : JsonTree N}

theorem sortedItems_eq : sortedItems items = items.map JsonTree.sorted := by
  induction items with
  | nil => rfl
  | cons item items ih => rw [sortedItems, ih, List.map_cons]

theorem sortedEntries_eq :
    sortedEntries entries = entries.map fun entry => (entry.1, entry.2.sorted) := by
  induction entries with
  | nil => rfl
  | cons entry entries ih => rw [sortedEntries, ih, List.map_cons]

theorem distinctItems_iff : distinctItems items = true ↔ ∀ item ∈ items, item.distinct = true := by
  induction items with
  | nil => simp [distinctItems]
  | cons item items ih => rw [distinctItems, Bool.and_eq_true, ih, List.forall_mem_cons]

theorem distinctEntries_iff :
    distinctEntries entries = true ↔ ∀ entry ∈ entries, entry.2.distinct = true := by
  induction entries with
  | nil => simp [distinctEntries]
  | cons entry entries ih => rw [distinctEntries, Bool.and_eq_true, ih, List.forall_mem_cons]

theorem distinct_array : (JsonTree.array items).distinct = true ↔ ∀ item ∈ items, item.distinct = true :=
  distinctItems_iff

theorem distinct_object : (JsonTree.object entries).distinct = true ↔
    (entries.map Prod.fst).Nodup ∧ ∀ entry ∈ entries, entry.2.distinct = true := by
  rw [JsonTree.distinct, Bool.and_eq_true, decide_eq_true_eq, distinctEntries_iff]

theorem names_sortedEntries : (sortedEntries entries).map Prod.fst = entries.map Prod.fst := by
  rw [sortedEntries_eq, List.map_map]
  rfl

theorem mem_sortedEntries {name : String} {value : JsonTree N} :
    (name, value) ∈ sortedEntries entries ↔ ∃ inner, (name, inner) ∈ entries ∧ value = inner.sorted := by
  rw [sortedEntries_eq, List.mem_map]
  constructor
  · rintro ⟨⟨other, inner⟩, hmem, heq⟩
    obtain ⟨rfl, rfl⟩ := Prod.mk.inj heq
    exact ⟨inner, hmem, rfl⟩
  · rintro ⟨inner, hmem, rfl⟩
    exact ⟨(name, inner), hmem, rfl⟩

theorem exists_mem_of_name {name : String} (h : name ∈ entries.map Prod.fst) :
    ∃ value, (name, value) ∈ entries := by
  obtain ⟨⟨other, value⟩, hmem, rfl⟩ := List.mem_map.mp h
  exact ⟨value, hmem⟩

theorem value_unique {name : String} {value value' : JsonTree N} (h : (entries.map Prod.fst).Nodup)
    (hmem : (name, value) ∈ entries) (hmem' : (name, value') ∈ entries) : value = value' := by
  have heq := List.inj_on_of_nodup_map h hmem hmem' rfl
  exact (Prod.mk.inj heq).2

/-- Values that are the same are sorted into the same. -/
theorem Same.sorted (h : Same a b) (ha : a.distinct = true) (hb : b.distinct = true) :
    a.sorted = b.sorted := by
  induction a using JsonTree.induct generalizing b with
  | hnull | hbool | hnumber | hstring => cases h; rfl
  | harray items ih =>
    cases h with
    | array h =>
      rw [distinct_array] at ha hb
      rw [JsonTree.sorted, JsonTree.sorted, sortedItems_eq, sortedItems_eq]
      congr 1
      induction h with
      | nil => rfl
      | cons hsame _ ih' =>
        rw [List.forall_mem_cons] at ih ha hb
        rw [List.map_cons, List.map_cons, ih.1 hsame ha.1 hb.1, ih' ih.2 ha.2 hb.2]
  | hobject entries ih =>
    cases h with
    | @object _ entries' hnames h =>
      rw [distinct_object] at ha hb
      rw [JsonTree.sorted, JsonTree.sorted]
      have hnodup : ((sortedEntries entries).map Prod.fst).Nodup := by
        rw [names_sortedEntries]
        exact ha.1
      have hnodup' : ((sortedEntries entries').map Prod.fst).Nodup := by
        rw [names_sortedEntries]
        exact hb.1
      congr 1
      refine sortBy_eq_of_perm ?_ hnodup
      refine (List.perm_ext_iff_of_nodup hnodup.of_map hnodup'.of_map).mpr ?_
      rintro ⟨name, value⟩
      rw [mem_sortedEntries, mem_sortedEntries]
      constructor
      · rintro ⟨inner, hmem, rfl⟩
        obtain ⟨inner', hmem'⟩ := exists_mem_of_name ((hnames name).mp
          (List.mem_map_of_mem (f := Prod.fst) hmem))
        exact ⟨inner', hmem', ih _ hmem (h _ _ _ hmem hmem') (ha.2 _ hmem) (hb.2 _ hmem')⟩
      · rintro ⟨inner', hmem', rfl⟩
        obtain ⟨inner, hmem⟩ := exists_mem_of_name ((hnames name).mpr
          (List.mem_map_of_mem (f := Prod.fst) hmem'))
        exact ⟨inner, hmem, (ih _ hmem (h _ _ _ hmem hmem') (ha.2 _ hmem) (hb.2 _ hmem')).symm⟩

/-- Values that are sorted into the same are the same. -/
theorem same_of_sorted (ha : a.distinct = true) (hb : b.distinct = true) (h : a.sorted = b.sorted) :
    Same a b := by
  induction a using JsonTree.induct generalizing b with
  | hnull => cases b <;> simp only [JsonTree.sorted, reduceCtorEq] at h; exact .null
  | hbool value =>
    cases b <;> simp only [JsonTree.sorted, reduceCtorEq, JsonTree.bool.injEq] at h
    exact h ▸ .bool value
  | hnumber value =>
    cases b <;> simp only [JsonTree.sorted, reduceCtorEq, JsonTree.number.injEq] at h
    exact h ▸ .number value
  | hstring value =>
    cases b <;> simp only [JsonTree.sorted, reduceCtorEq, JsonTree.string.injEq] at h
    exact h ▸ .string value
  | harray items ih =>
    cases b <;> simp only [JsonTree.sorted, reduceCtorEq, JsonTree.array.injEq] at h
    next items' =>
    rw [sortedItems_eq, sortedItems_eq] at h
    rw [distinct_array] at ha hb
    refine .array (List.forall₂_iff_get.mpr ⟨by simpa using congrArg List.length h, ?_⟩)
    intro index hlt hlt'
    have hmem := List.get_mem items ⟨index, hlt⟩
    have hmem' := List.get_mem items' ⟨index, hlt'⟩
    refine ih _ hmem (ha _ hmem) (hb _ hmem') ?_
    have hget := congrArg (fun l => l[index]?) h
    simpa [hlt, hlt'] using hget
  | hobject entries ih =>
    cases b <;> simp only [JsonTree.sorted, reduceCtorEq, JsonTree.object.injEq] at h
    next entries' =>
    rw [distinct_object] at ha hb
    have hperm : (sortedEntries entries).Perm (sortedEntries entries') := by
      refine (sortBy_perm Prod.fst _).symm.trans ?_
      rw [h]
      exact sortBy_perm Prod.fst _
    constructor
    · intro name
      have hnames := (hperm.map Prod.fst).mem_iff (a := name)
      rwa [names_sortedEntries, names_sortedEntries] at hnames
    · intro name value value' hmem hmem'
      have hsorted := hperm.mem_iff.mp (mem_sortedEntries.mpr ⟨value, hmem, rfl⟩)
      obtain ⟨inner, hinner, heq⟩ := mem_sortedEntries.mp hsorted
      obtain rfl := value_unique hb.1 hmem' hinner
      exact ih _ hmem (ha.2 _ hmem) (hb.2 _ hmem') heq

theorem distinct_sorted (h : a.distinct = true) : a.sorted.distinct = true := by
  induction a using JsonTree.induct with
  | hnull | hbool | hnumber | hstring => rfl
  | harray items ih =>
    rw [distinct_array] at h
    rw [JsonTree.sorted, distinct_array, sortedItems_eq, List.forall_mem_map]
    exact fun item hmem => ih item hmem (h item hmem)
  | hobject entries ih =>
    rw [distinct_object] at h
    rw [JsonTree.sorted, distinct_object]
    constructor
    · rw [((sortBy_perm Prod.fst (sortedEntries entries)).map Prod.fst).nodup_iff,
        names_sortedEntries]
      exact h.1
    · rintro ⟨name, value⟩ hmem
      obtain ⟨inner, hinner, rfl⟩ := mem_sortedEntries.mp (mem_sortBy.mp hmem)
      exact ih _ hinner (h.2 _ hinner)

theorem sorted_sorted (h : a.distinct = true) : a.sorted.sorted = a.sorted := by
  induction a using JsonTree.induct with
  | hnull | hbool | hnumber | hstring => rfl
  | harray items ih =>
    rw [distinct_array] at h
    rw [JsonTree.sorted, JsonTree.sorted, sortedItems_eq, sortedItems_eq, List.map_map]
    congr 1
    exact List.map_congr_left fun item hmem => ih item hmem (h item hmem)
  | hobject entries ih =>
    rw [distinct_object] at h
    rw [JsonTree.sorted, JsonTree.sorted]
    have hinner : sortedEntries (sortedEntries entries) = sortedEntries entries := by
      refine Eq.trans sortedEntries_eq ?_
      nth_rewrite 2 [← List.map_id (sortedEntries entries)]
      refine List.map_congr_left ?_
      rintro ⟨name, value⟩ hmem
      obtain ⟨inner, hmem', rfl⟩ := mem_sortedEntries.mp hmem
      exact Prod.ext rfl (ih _ hmem' (h.2 _ hmem'))
    have hperm : (sortedEntries (sortBy Prod.fst (sortedEntries entries))).Perm
        (sortedEntries entries) := by
      nth_rewrite 2 [← hinner]
      refine List.Perm.trans (.of_eq sortedEntries_eq) ?_
      refine List.Perm.trans ?_ (.of_eq sortedEntries_eq.symm)
      exact (sortBy_perm Prod.fst _).map _
    congr 1
    refine sortBy_eq_of_perm hperm ?_
    rw [(hperm.map Prod.fst).nodup_iff, names_sortedEntries]
    exact h.1

/-- A sorted value is the value. -/
theorem same_sorted (h : a.distinct = true) : Same a.sorted a :=
  same_of_sorted (distinct_sorted h) h (sorted_sorted h)

end Sorting

section Records

variable {T : Type*} {a b : JsonTree N}

@[simp] theorem same_bool {value value' : Bool} :
    Same (.bool value : JsonTree N) (.bool value') ↔ value = value' := by
  constructor
  · intro h
    cases h
    rfl
  · rintro rfl
    exact .bool value

@[simp] theorem same_number {value value' : N} :
    Same (.number value) (.number value') ↔ value = value' := by
  constructor
  · intro h
    cases h
    rfl
  · rintro rfl
    exact .number value

@[simp] theorem same_string {value value' : String} :
    Same (.string value : JsonTree N) (.string value') ↔ value = value' := by
  constructor
  · intro h
    cases h
    rfl
  · rintro rfl
    exact .string value

/-- Arrays are the same if their items are, one by one. -/
theorem same_array {write : T → JsonTree N} {items items' : List T}
    (hwrite : ∀ item item', Same (write item) (write item') ↔ item = item') :
    Same (.array (items.map write)) (.array (items'.map write)) ↔ items = items' := by
  have hitems : Same (.array (items.map write)) (.array (items'.map write)) ↔
      List.Forall₂ Same (items.map write) (items'.map write) := by
    constructor
    · intro h
      cases h with
      | array h => exact h
    · exact .array
  rw [hitems, List.forall₂_map_left_iff, List.forall₂_map_right_iff]
  simp only [hwrite, List.forall₂_eq_eq_eq]

/-- The same object has the same value under every name. -/
theorem Same.field {entries entries' : List (String × JsonTree N)}
    (h : Same (.object entries) (.object entries')) (name : String) (hmem : (name, a) ∈ entries)
    (hmem' : (name, b) ∈ entries') : Same a b := by
  cases h with
  | object _ h => exact h name a b hmem hmem'

/-- Records of the same fields are the same if their fields are, one by one. -/
theorem same_record {entries entries' : List (String × JsonTree N)}
    (hnames : entries.map Prod.fst = entries'.map Prod.fst) (hnodup : (entries.map Prod.fst).Nodup) :
    Same (.object entries) (.object entries') ↔
      List.Forall₂ (fun entry entry' => Same entry.2 entry'.2) entries entries' := by
  constructor
  · intro h
    cases h with
    | object _ h =>
      refine List.forall₂_iff_get.mpr ⟨by simpa using congrArg List.length hnames, ?_⟩
      intro index hlt hlt'
      have hname := congrArg (fun l => l[index]?) hnames
      have hequal : (entries.get ⟨index, hlt⟩).1 = (entries'.get ⟨index, hlt'⟩).1 := by
        simpa [hlt, hlt'] using hname
      exact h _ _ _ (List.get_mem entries ⟨index, hlt⟩)
        (hequal ▸ List.get_mem entries' ⟨index, hlt'⟩)
  · intro h
    refine .object (fun name => by rw [hnames]) ?_
    intro name value value' hmem hmem'
    obtain ⟨⟨index, hlt⟩, heq⟩ := List.get_of_mem hmem
    obtain ⟨⟨index', hlt'⟩, heq'⟩ := List.get_of_mem hmem'
    have hname : (entries.map Prod.fst)[index]? = some name := by
      rw [List.getElem?_map, List.getElem?_eq_getElem hlt]
      exact congrArg (fun entry => some entry.1) heq
    have hname' : (entries.map Prod.fst)[index']? = some name := by
      rw [hnames, List.getElem?_map, List.getElem?_eq_getElem hlt']
      exact congrArg (fun entry => some entry.1) heq'
    obtain rfl := (List.getElem?_inj (by simpa using hlt) hnodup).mp (hname.trans hname'.symm)
    have hsame := (List.forall₂_iff_get.mp h).2 index hlt hlt'
    rw [heq, heq'] at hsame
    exact hsame

end Records

section Writing

/-- The text of numbers: read back as the number it is written for, and told apart from what follows by
its bytes. -/
structure Numbers (N : Type) where
  natural : ℕ → N
  natural_injective : Function.Injective natural
  write : N → Text
  read : Text → Option N
  read_write : ∀ n, read (write n) = some n
  numeric : ∀ n, ∀ byte ∈ write n, (0x30 ≤ byte ∧ byte ≤ 0x39) ∨ byte ∈ [0x2b, 0x2d, 0x2e, 0x45, 0x65]
  starts : ∀ n, ∃ byte rest, write n = byte :: rest ∧ ((0x30 ≤ byte ∧ byte ≤ 0x39) ∨ byte = 0x2d)

variable (numbers : Numbers N)

mutual

/-- The compact text of a value. -/
def write : JsonTree N → Text
  | .null => null
  | .bool value => boolean value
  | .number value => numbers.write value
  | .string value => string value
  | .array items => array (writeItems items)
  | .object entries => object (writeEntries entries)

def writeItems : List (JsonTree N) → List Text
  | [] => []
  | item :: items => write item :: writeItems items

def writeEntries : List (String × JsonTree N) → List (String × Text)
  | [] => []
  | (name, value) :: entries => (name, write value) :: writeEntries entries

end

end Writing

end BirdCode.Lib.Json
