import Mathlib

/-! Identities, ordered collections, text predicates and checked counters shared by every
modelled component. -/
namespace BirdCode

open Std

/-- The 128 bits of a UUID in network order, so that `<` is the byte order of the source. -/
abbrev Uuid := Fin (2 ^ 128)

instance uuid_nonempty : NeZero (2 ^ 128) := ⟨by decide⟩

/-- The newtypes the two `uuid_id!` macros declare. -/
inductive IdKind
  | workOrder | actor | execution | attempt | handoff | schedulerEvent
  | plan | plannerExecution | plannerAttempt | budgetReservation | obligation
  | planWorkOrder | verificationTarget
  | candidateTrack | candidateSelection | event
  | session | run | eventActor | runClaim | runtimeInstance | cancellationRequest
  | childWorkOrder | childExecution | childActor | childContext | childAttempt | childLocalPlan
  | childModelCall | childToolCall | childHandoff | childValidatedAction | childClaimAdoption
  | childDelegationAuthorization | tokenReservation | repositoryToolGrant | repositoryBroker
  | repositorySnapshotLease | repositorySnapshotCaptureClaimAdoption | plannerTurn
  | inferenceAttempt | planProposal | planSemanticReview | rootPlanningStageFailure
  | readOperation | plannerEvidenceEntry | plannerDelegateDirective | reconCompletionGate
  deriving DecidableEq

structure UuidId (kind : IdKind) where
  uuid : Uuid
  deriving DecidableEq

instance uuid_lawful (kind : IdKind) : LawfulBEq (UuidId kind) := inferInstance

instance (kind : IdKind) : Ord (UuidId kind) := ⟨fun a b => compare a.uuid b.uuid⟩

instance (kind : IdKind) : TransOrd (UuidId kind) where
  eq_swap := (inferInstance : OrientedOrd Uuid).eq_swap
  isLE_trans := (inferInstance : TransOrd Uuid).isLE_trans

instance (kind : IdKind) : LawfulEqOrd (UuidId kind) where
  eq_of_compare {a b} h := by
    have : a.uuid = b.uuid := (inferInstance : LawfulEqOrd Uuid).eq_of_compare h
    cases a
    cases b
    simpa using this

instance (kind : IdKind) : Inhabited (UuidId kind) := ⟨⟨0⟩⟩

/-- The newtypes the `opaque_id!` macro declares, and the planner's evidence ids. -/
inductive OpaqueIdKind
  | capability | role | candidateGroup | workspaceLease | modelProfile | plannerEvidence
  deriving DecidableEq

/-- An opaque identifier exists only with between 1 and 512 bytes. -/
structure OpaqueId (kind : OpaqueIdKind) where
  value : String
  bounded : value.isEmpty = false ∧ value.utf8ByteSize ≤ 512
  deriving DecidableEq

instance (kind : OpaqueIdKind) : Ord (OpaqueId kind) := ⟨fun a b => compare a.value b.value⟩

instance (kind : OpaqueIdKind) : TransOrd (OpaqueId kind) where
  eq_swap := (inferInstance : OrientedOrd String).eq_swap
  isLE_trans := (inferInstance : TransOrd String).isLE_trans

instance (kind : OpaqueIdKind) : LawfulEqOrd (OpaqueId kind) where
  eq_of_compare {a b} h := by
    have : a.value = b.value :=
      (inferInstance : LawfulEqOrd String).eq_of_compare h
    cases a
    cases b
    simpa using this

abbrev BTreeMap (K V : Type) [Ord K] := ExtTreeMap K V compare
abbrev BTreeSet (K : Type) [Ord K] := ExtTreeSet K compare

/-- `BTreeMap::values()`. -/
def mapValues {K V : Type} [Ord K] [TransOrd K] (m : BTreeMap K V) : List V :=
  m.toList.map Prod.snd

/-- `BTreeMap::values().next()`: the value of the least key. -/
def firstValue {K V : Type} [Ord K] [TransOrd K] (m : BTreeMap K V) : Option V :=
  m.toList.head?.map Prod.snd

/-- `collect::<BTreeSet<_>>()`. -/
def toSet {K : Type} [Ord K] [TransOrd K] (keys : List K) : BTreeSet K :=
  keys.foldl (fun set key => set.insert key) ∅

/-- `collect::<BTreeMap<_, _>>()`: a later entry replaces an earlier one of the same key. -/
def toMap {K V : Type} [Ord K] [TransOrd K] (entries : List (K × V)) : BTreeMap K V :=
  entries.foldl (fun map entry => map.insert entry.1 entry.2) ∅

/-- The Unicode `White_Space` property, which `str::trim` strips. -/
def isWhitespace (c : Char) : Bool :=
  (9 ≤ c.toNat && c.toNat ≤ 13) || c.toNat = 0x20 || c.toNat = 0x85 || c.toNat = 0xA0 ||
  c.toNat = 0x1680 || (0x2000 ≤ c.toNat && c.toNat ≤ 0x200A) || c.toNat = 0x2028 ||
  c.toNat = 0x2029 || c.toNat = 0x202F || c.toNat = 0x205F || c.toNat = 0x3000

/-- `value.trim().is_empty()`. -/
def isBlank (value : String) : Bool := value.toList.all isWhitespace

/-- Exactly 64 bytes, each a decimal digit or one of `a..=f`. A character outside ASCII has
no byte in either range, so testing characters is testing bytes. -/
def validSha256 (value : String) : Bool :=
  value.utf8ByteSize = 64 &&
    value.toList.all fun c => ('0' ≤ c && c ≤ '9') || ('a' ≤ c && c ≤ 'f')

theorem validSha256_ofList {digits : List Char} (hlength : (digits.map Char.utf8Size).sum = 64)
    (hdigits : digits.all fun c => ('0' ≤ c && c ≤ '9') || ('a' ≤ c && c ≤ 'f')) :
    validSha256 (String.ofList digits) = true := by
  have hbytes : (String.ofList digits).utf8ByteSize = (digits.map Char.utf8Size).sum := by
    rw [← String.size_toByteArray, String.toByteArray_ofList, List.utf8Encode,
      List.size_toByteArray, List.length_flatMap]
    simp
  simp only [validSha256, hbytes, hlength, String.toList_ofList, hdigits, decide_true, Bool.and_self]

/-- `if condition { violations.push(violation) }`. -/
def report {V : Type} (condition : Prop) [Decidable condition] (violation : V) : List V :=
  if condition then [violation] else []

@[simp] theorem report_eq_nil {V : Type} {condition : Prop} [Decidable condition]
    {violation : V} : report condition violation = [] ↔ ¬condition := by
  simp [report]

@[simp] theorem mem_report {V : Type} {condition : Prop} [Decidable condition]
    {violation other : V} : other ∈ report condition violation ↔ condition ∧ other = violation := by
  unfold report
  split <;> simp_all

/-- The violations of several checks in the order the checks run. -/
def collect {V : Type} (checks : List (List V)) : List V := checks.flatten

@[simp] theorem collect_eq_nil {V : Type} {checks : List (List V)} :
    collect checks = [] ↔ ∀ check ∈ checks, check = [] := by
  simp [collect]

/-- `if !condition { return Err(error) }`. -/
def ensure {E : Type} (condition : Prop) [Decidable condition] (error : E) : Except E Unit :=
  if condition then .ok () else .error error

/-- `let Some(value) = option else { return Err(error) }`. -/
def expect {E A : Type} (error : E) : Option A → Except E A
  | some value => .ok value
  | none => .error error

@[simp] theorem ensure_eq_ok {E : Type} {condition : Prop} [Decidable condition] {error : E}
    {value : Unit} : ensure condition error = .ok value ↔ condition := by
  simp [ensure]

@[simp] theorem expect_eq_ok {E A : Type} {error : E} {option : Option A} {value : A} :
    expect error option = .ok value ↔ option = some value := by
  cases option <;> simp [expect]

/-- A computation that returned has returned at every intermediate step. -/
theorem bind_eq_ok {E A B : Type} {x : Except E A} {f : A → Except E B} {b : B} :
    (x >>= f) = .ok b ↔ ∃ a, x = .ok a ∧ f a = .ok b := by
  cases x with
  | error e => simp [bind, Except.bind]
  | ok a => simp [bind, Except.bind]

/-- A loop whose every turn succeeds succeeds. -/
theorem forM_eq_ok {E A : Type} {f : A → Except E Unit} {l : List A}
    (h : ∀ a ∈ l, f a = .ok ()) : l.forM f = .ok () := by
  induction l with
  | nil => rfl
  | cons a l ih =>
    change (f a >>= fun _ => l.forM f) = .ok ()
    rw [bind_eq_ok]
    exact ⟨(), h a (List.mem_cons_self ..), ih fun b hb => h b (List.mem_cons_of_mem _ hb)⟩

theorem exists_mapM_eq_ok {E A B : Type} {f : A → Except E B} {R : A → B → Prop} {l : List A}
    (h : ∀ a ∈ l, ∃ b, f a = .ok b ∧ R a b) : ∃ bs, l.mapM f = .ok bs ∧ List.Forall₂ R l bs := by
  induction l with
  | nil => exact ⟨[], rfl, .nil⟩
  | cons a l ih =>
    obtain ⟨b, hb, hR⟩ := h a (List.mem_cons_self ..)
    obtain ⟨bs, hbs, hall⟩ := ih fun a ha => h a (List.mem_cons_of_mem _ ha)
    refine ⟨b :: bs, ?_, .cons hR hall⟩
    rw [List.mapM_cons, hb, hbs]
    rfl

/-- `usize::saturating_add` on a 64-bit target. -/
def saturatingAdd (a b : Nat) : Nat := min (a + b) (2 ^ 64 - 1)

def checkedAdd (a b : UInt64) : Option UInt64 :=
  if a.toNat + b.toNat < 2 ^ 64 then some (a + b) else none

def checkedMul (a b : UInt64) : Option UInt64 :=
  if a.toNat * b.toNat < 2 ^ 64 then some (a * b) else none

/-- `usize::checked_add` on a 64-bit target. -/
def checkedAddUsize (a b : ℕ) : Option ℕ := if a + b < 2 ^ 64 then some (a + b) else none

/-- `u32::checked_add(1)`. -/
def checkedSucc32 (a : UInt32) : Option UInt32 := if a.toNat + 1 < 2 ^ 32 then some (a + 1) else none

theorem checkedAdd_eq_some {a b c : UInt64} (h : checkedAdd a b = some c) :
    c.toNat = a.toNat + b.toNat := by
  unfold checkedAdd at h
  split at h
  · next hlt =>
    cases h
    rw [UInt64.toNat_add, Nat.mod_eq_of_lt hlt]
  · cases h

theorem checkedMul_eq_some {a b c : UInt64} (h : checkedMul a b = some c) :
    c.toNat = a.toNat * b.toNat := by
  unfold checkedMul at h
  split at h
  · next hlt =>
    cases h
    rw [UInt64.toNat_mul, Nat.mod_eq_of_lt hlt]
  · cases h

section Lists

variable {A : Type} {p : A → Bool} {l : List A} {i j : ℕ} {a b : A}

theorem sum_map_ite_eq_countP (l : List A) (p : A → Bool) :
    (l.map fun a => if p a then 1 else 0).sum = l.countP p := by
  induction l with
  | nil => rfl
  | cons a l ih =>
    rw [List.map_cons, List.sum_cons, List.countP_cons, ih, add_comm]

theorem two_le_countP_of_lt (hlt : i < j) (hi : l[i]? = some a) (hj : l[j]? = some b)
    (ha : p a = true) (hb : p b = true) : 2 ≤ l.countP p := by
  have hleft : 0 < (l.take j).countP p :=
    List.countP_pos_iff.mpr ⟨a, List.mem_of_getElem? (by rwa [List.getElem?_take_of_lt hlt]), ha⟩
  have hright : 0 < (l.drop j).countP p :=
    List.countP_pos_iff.mpr ⟨b, List.mem_of_getElem? (i := 0) (by simpa using hj), hb⟩
  have hsplit : l.countP p = (l.take j).countP p + (l.drop j).countP p := by
    rw [← List.countP_append, List.take_append_drop]
  omega

/-- At most one position holds an element that is counted at most once. -/
theorem eq_of_countP_le_one (h : l.countP p ≤ 1) (hi : l[i]? = some a) (hj : l[j]? = some b)
    (ha : p a = true) (hb : p b = true) : i = j := by
  rcases Nat.lt_trichotomy i j with hlt | heq | hlt
  · have htwo := two_le_countP_of_lt hlt hi hj ha hb
    omega
  · exact heq
  · have htwo := two_le_countP_of_lt hlt hj hi hb ha
    omega

/-- Entries looked up by key, in the order of the keys and with the missing ones left out. -/
theorem map_filterMap_sublist {B : Type} {g : A → Option B} {k : B → A}
    (h : ∀ a b, g a = some b → k b = a) (l : List A) : ((l.filterMap g).map k).Sublist l := by
  induction l with
  | nil => exact .slnil
  | cons a l ih =>
    rw [List.filterMap_cons]
    split
    · exact ih.cons _
    · next b hb =>
      rw [List.map_cons, h a b hb]
      exact ih.cons_cons _

end Lists

section Collections

variable {K V : Type} [Ord K] [TransOrd K] [LawfulEqOrd K]

theorem mem_foldl_insert (keys : List K) (set : BTreeSet K) (k : K) :
    k ∈ keys.foldl (fun set key => set.insert key) set ↔ k ∈ keys ∨ k ∈ set := by
  induction keys generalizing set with
  | nil => simp
  | cons key keys ih =>
    simp only [List.foldl_cons, ih, ExtTreeSet.mem_insert, Std.compare_eq_iff_eq, List.mem_cons]
    constructor
    · rintro (h | rfl | h) <;> simp_all
    · rintro ((rfl | h) | h) <;> simp_all

@[simp] theorem mem_toSet {keys : List K} {k : K} : k ∈ toSet keys ↔ k ∈ keys := by
  simp [toSet, mem_foldl_insert]

/-- The least key's value belongs to the map. -/
theorem firstValue_eq_some {m : BTreeMap K V} {v : V} (h : firstValue m = some v) :
    ∃ k : K, m[k]? = some v := by
  obtain ⟨⟨k, w⟩, hkw, rfl⟩ := Option.map_eq_some_iff.mp h
  exact ⟨k, ExtTreeMap.mem_toList_iff_getElem?_eq_some.mp (List.mem_of_mem_head? hkw)⟩

omit [LawfulEqOrd K] in
theorem firstValue_eq_none {m : BTreeMap K V} : firstValue m = none ↔ m = ∅ := by
  rw [firstValue, Option.map_eq_none_iff, List.head?_eq_none_iff, ExtTreeMap.toList_eq_nil_iff]

theorem getElem?_insert_of_ne {m : BTreeMap K V} {key k : K} {v : V} (h : key ≠ k) :
    (m.insert key v)[k]? = m[k]? := by
  rw [ExtTreeMap.getElem?_insert, if_neg]
  rwa [Std.compare_eq_iff_eq]

omit [LawfulEqOrd K] in
theorem toMap_append (entries : List (K × V)) (k : K) (v : V) :
    toMap (entries ++ [(k, v)]) = (toMap entries).insert k v := by
  simp [toMap]

omit [LawfulEqOrd K] in
@[simp] theorem toMap_nil : toMap ([] : List (K × V)) = ∅ := rfl

theorem mem_toMap {entries : List (K × V)} {k : K} :
    k ∈ toMap entries ↔ k ∈ entries.map Prod.fst := by
  induction entries using List.reverseRecOn with
  | nil => simp
  | append_singleton entries entry ih =>
    rw [toMap_append, ExtTreeMap.mem_insert, Std.compare_eq_iff_eq, ih]
    simp only [List.map_append, List.map_cons, List.map_nil, List.mem_append, List.mem_singleton]
    constructor
    · rintro (rfl | h) <;> simp [*]
    · rintro (h | rfl) <;> simp [*]

/-- Collecting entries with distinct keys keeps exactly those entries. -/
theorem toMap_getElem?_eq_some {entries : List (K × V)} (hnd : (entries.map Prod.fst).Nodup)
    {k : K} {v : V} : (toMap entries)[k]? = some v ↔ (k, v) ∈ entries := by
  induction entries using List.reverseRecOn with
  | nil => simp
  | append_singleton entries entry ih =>
    obtain ⟨key, value⟩ := entry
    simp only [List.map_append, List.map_cons, List.map_nil, List.nodup_append] at hnd
    obtain ⟨hnd, -, hfresh⟩ := hnd
    rw [toMap_append]
    simp only [List.mem_append, List.mem_singleton, Prod.mk.injEq]
    by_cases hk : key = k
    · subst hk
      have hnot : ∀ w, (key, w) ∉ entries := fun w hw =>
        hfresh key (List.mem_map.mpr ⟨_, hw, rfl⟩) key (by simp) rfl
      simp [hnot, eq_comm]
    · rw [getElem?_insert_of_ne hk, ih hnd]
      simp [Ne.symm hk]

theorem mem_mapValues {m : BTreeMap K V} {v : V} : v ∈ mapValues m ↔ ∃ k : K, m[k]? = some v := by
  rw [mapValues, List.mem_map]
  constructor
  · rintro ⟨entry, hentry, rfl⟩
    exact ⟨entry.1, Std.ExtTreeMap.mem_toList_iff_getElem?_eq_some.mp hentry⟩
  · rintro ⟨k, hk⟩
    exact ⟨(k, v), Std.ExtTreeMap.mem_toList_iff_getElem?_eq_some.mpr hk, rfl⟩

theorem nodup_toList (set : BTreeSet K) : set.toList.Nodup := by
  refine ExtTreeSet.distinct_toList.imp fun hne heq => hne ?_
  rw [heq, Std.compare_eq_iff_eq]

theorem exists_mem_of_isEmpty_eq_false {set : BTreeSet K} (h : set.isEmpty = false) :
    ∃ k, k ∈ set := by
  have hne : set.toList ≠ [] := by
    intro hnil
    rw [← ExtTreeSet.isEmpty_toList, hnil] at h
    cases h
  obtain ⟨k, hk⟩ := List.exists_mem_of_ne_nil _ hne
  exact ⟨k, ExtTreeSet.mem_toList.mp hk⟩

omit [LawfulEqOrd K] in
theorem notMem_of_isEmpty {set : BTreeSet K} (h : set.isEmpty) (k : K) : k ∉ set := by
  rw [ExtTreeSet.isEmpty_iff.mp h]
  exact ExtTreeSet.not_mem_empty

/-- Maps with the same keys have the same size. -/
theorem size_eq_of_mem_iff {V' : Type} {m : BTreeMap K V} {m' : BTreeMap K V'}
    (h : ∀ k, k ∈ m ↔ k ∈ m') : m.size = m'.size := by
  have hperm : m.keys.Perm m'.keys :=
    (List.perm_ext_iff_of_nodup ExtTreeMap.nodup_keys ExtTreeMap.nodup_keys).mpr fun k => by
      rw [ExtTreeMap.mem_keys, ExtTreeMap.mem_keys, h]
  rw [← ExtTreeMap.length_keys, ← ExtTreeMap.length_keys, hperm.length_eq]

end Collections

end BirdCode
