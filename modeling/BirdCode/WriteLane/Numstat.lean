import BirdCode.Tooling.Authority
import BirdCode.WriteLane.ChangedPaths

/-! The report of changed paths is read by its grammar alone: what is accepted, and that the paths come
out canonical, whichever order Git listed them in. -/
namespace BirdCode.WriteLane

open Store Tooling Lib

section Decimals

/-- The digits of a number, with no zero before the first of them. -/
def decimalBytes (n : ℕ) : Bytes :=
  if n = 0 then [0x30] else (Nat.digits 10 n).reverse.map fun digit => .ofNat (digit + 0x30)

def CanonicalU64 (value : Bytes) : Prop := ∃ n < 2 ^ 64, value = decimalBytes n

def digitOf (byte : UInt8) : ℕ := byte.toNat - 0x30

theorem isAsciiDigit_iff {byte : UInt8} :
    isAsciiDigit byte = true ↔ 0x30 ≤ byte.toNat ∧ byte.toNat ≤ 0x39 := by
  simp [isAsciiDigit, UInt8.le_iff_toNat_le]

theorem ofNat_digitOf {byte : UInt8} (h : isAsciiDigit byte = true) :
    UInt8.ofNat (digitOf byte + 0x30) = byte := by
  obtain ⟨hlow, -⟩ := isAsciiDigit_iff.mp h
  unfold digitOf
  rw [Nat.sub_add_cancel hlow, UInt8.ofNat_toNat]

theorem toNat_ofNat_digit {digit : ℕ} (h : digit < 10) :
    (UInt8.ofNat (digit + 0x30)).toNat = digit + 0x30 := by
  rw [UInt8.toNat_ofNat', Nat.mod_eq_of_lt (by omega)]

theorem decimalValue_eq (value : Bytes) :
    decimalValue value = Nat.ofDigits 10 (value.map digitOf).reverse := by
  rw [Nat.ofDigits_eq_foldr, List.foldr_reverse, List.foldl_map]
  unfold decimalValue digitOf
  congr 1
  funext total digit
  simp [Nat.add_comm]

theorem decimalBytes_of_ne_zero {n : ℕ} (h : n ≠ 0) :
    decimalBytes n = (Nat.digits 10 n).reverse.map fun digit => .ofNat (digit + 0x30) := if_neg h

theorem digit_mem_decimalBytes {n : ℕ} {byte : UInt8} (h : byte ∈ decimalBytes n) :
    isAsciiDigit byte = true := by
  by_cases hn : n = 0
  · subst hn
    rw [decimalBytes, if_pos rfl, List.mem_singleton] at h
    subst h
    rfl
  · rw [decimalBytes_of_ne_zero hn] at h
    obtain ⟨digit, hdigit, rfl⟩ := List.mem_map.mp h
    have hlt := Nat.digits_lt_base (by decide : 1 < 10) (List.mem_reverse.mp hdigit)
    rw [isAsciiDigit_iff, toNat_ofNat_digit hlt]
    omega

theorem map_digitOf_decimal {digits : List ℕ} (h : ∀ digit ∈ digits, digit < 10) :
    (digits.map fun digit => UInt8.ofNat (digit + 0x30)).map digitOf = digits := by
  rw [List.map_map]
  refine List.map_congr_left (g := id) ?_ |>.trans (List.map_id digits)
  intro digit hdigit
  rw [Function.comp_apply, digitOf, toNat_ofNat_digit (h digit hdigit)]
  exact Nat.add_sub_cancel digit 0x30

theorem digits_reverse_lt {n : ℕ} : ∀ digit ∈ (Nat.digits 10 n).reverse, digit < 10 := by
  intro digit hdigit
  exact Nat.digits_lt_base (by decide : 1 < 10) (List.mem_reverse.mp hdigit)

theorem decimalValue_decimalBytes (n : ℕ) : decimalValue (decimalBytes n) = n := by
  by_cases hn : n = 0
  · subst hn
    rfl
  · rw [decimalValue_eq, decimalBytes_of_ne_zero hn, map_digitOf_decimal digits_reverse_lt,
      List.reverse_reverse, Nat.ofDigits_digits]

/-- Digits without a zero before the first are the digits of their own value. -/
theorem decimalBytes_decimalValue {value : Bytes} (hnonempty : value ≠ [])
    (hdigits : ∀ byte ∈ value, isAsciiDigit byte = true) (hhead : value.head? ≠ some 0x30) :
    decimalBytes (decimalValue value) = value := by
  have hlt : ∀ digit ∈ (value.map digitOf).reverse, digit < 10 := by
    intro digit hdigit
    obtain ⟨byte, hbyte, rfl⟩ := List.mem_map.mp (List.mem_reverse.mp hdigit)
    obtain ⟨hlow, hhigh⟩ := isAsciiDigit_iff.mp (hdigits byte hbyte)
    unfold digitOf
    omega
  have hlast : ∀ h : (value.map digitOf).reverse ≠ [],
      (value.map digitOf).reverse.getLast h ≠ 0 := by
    intro h
    rw [List.getLast_reverse, List.head_map]
    intro hzero
    apply hhead
    rw [List.head?_eq_some_head hnonempty]
    have hfirst := hdigits _ (List.head_mem hnonempty)
    rw [← ofNat_digitOf hfirst, hzero]
    rfl
  have hround := Nat.digits_ofDigits 10 (by decide) _ hlt hlast
  rw [← decimalValue_eq] at hround
  have hzero : decimalValue value ≠ 0 := by
    intro hzero
    rw [hzero, Nat.digits_zero] at hround
    have hnil := List.reverse_eq_nil_iff.mp hround.symm
    exact hnonempty (List.map_eq_nil_iff.mp hnil)
  rw [decimalBytes_of_ne_zero hzero, hround, List.reverse_reverse, List.map_map]
  refine (List.map_congr_left (g := id) ?_).trans (List.map_id value)
  intro byte hbyte
  exact ofNat_digitOf (hdigits byte hbyte)

theorem validCanonicalDecimal_iff {value : Bytes} :
    validCanonicalDecimal value = true ↔ CanonicalU64 value := by
  unfold validCanonicalDecimal
  simp only [Bool.and_eq_true, Bool.or_eq_true, Bool.not_eq_true', List.isEmpty_eq_false_iff,
    List.all_eq_true, decide_eq_true_eq]
  constructor
  · rintro ⟨⟨⟨hnonempty, hdigits⟩, hzero | hhead⟩, hvalue⟩
    · exact ⟨0, by decide, hzero⟩
    · exact ⟨decimalValue value, hvalue, (decimalBytes_decimalValue hnonempty hdigits hhead).symm⟩
  · rintro ⟨n, hn, rfl⟩
    refine ⟨⟨⟨?_, fun byte hbyte => digit_mem_decimalBytes hbyte⟩, ?_⟩, ?_⟩
    · by_cases hzero : n = 0
      · simp [decimalBytes, hzero]
      · rw [decimalBytes_of_ne_zero hzero]
        simpa using Nat.digits_ne_nil_iff_ne_zero.mpr hzero
    · by_cases hzero : n = 0
      · exact .inl (if_pos hzero)
      · right
        rw [decimalBytes_of_ne_zero hzero, List.head?_map, List.head?_reverse]
        rw [List.getLast?_eq_some_getLast (Nat.digits_ne_nil_iff_ne_zero.mpr hzero)]
        intro hhead
        have hlast := Nat.getLast_digit_ne_zero 10 hzero
        have hlt := Nat.digits_lt_base (by decide : 1 < 10)
          (List.getLast_mem (Nat.digits_ne_nil_iff_ne_zero.mpr hzero))
        have hbyte := congrArg UInt8.toNat (Option.some.inj hhead)
        rw [toNat_ofNat_digit hlt] at hbyte
        exact hlast (by simpa using hbyte)
    · rw [decimalValue_decimalBytes]
      exact hn

end Decimals

section Paths

/-- A component that names one entry of its directory and is no longer than a file system allows. -/
structure LegalComponent (component : Bytes) : Prop where
  plain : PlainComponent component
  length : component.length ≤ changedPathMaxComponentBytes

structure LegalPath (components : List Bytes) : Prop where
  nonempty : components ≠ []
  depth : components.length ≤ changedPathMaxComponents
  legal : ∀ component ∈ components, LegalComponent component
  length : ([0x2f].intercalate components).length ≤ changedPathMaxBytes

variable {path : RepositoryRelativePath} {components : List Bytes} {bytes : Bytes}

theorem validChangedPathComponent_iff {component : Bytes} :
    validChangedPathComponent component = true ↔ LegalComponent component := by
  simp only [validChangedPathComponent, Bool.not_eq_true', Bool.or_eq_false_iff,
    List.isEmpty_eq_false_iff, decide_eq_false_iff_not, List.contains_eq_mem, not_lt]
  constructor
  · rintro ⟨⟨⟨⟨⟨hempty, hcurrent⟩, hparent⟩, hlength⟩, hnul⟩, hslash⟩
    exact ⟨⟨hempty, hcurrent, hparent, hslash, hnul⟩, hlength⟩
  · rintro ⟨⟨hempty, hcurrent, hparent, hslash, hnul⟩, hlength⟩
    exact ⟨⟨⟨⟨⟨hempty, hcurrent⟩, hparent⟩, hlength⟩, hnul⟩, hslash⟩

/-- The bytes of a path are those of its components, and a separator between each two. -/
theorem length_intercalate (h : components ≠ []) : ([0x2f].intercalate components).length =
    (components.map List.length).sum + (components.length - 1) := by
  have hterminated : terminated (0x2f : UInt8) components =
      [0x2f].intercalate components ++ [0x2f] := terminated_eq_intercalate h
  have hlength := congrArg List.length hterminated
  rw [length_terminated, List.length_append, List.length_singleton] at hlength
  have hpositive := List.length_pos_iff.mpr h
  omega

theorem validChangedPathComponents_iff :
    validChangedPathComponents components = true ↔ LegalPath components := by
  simp only [validChangedPathComponents, Bool.and_eq_true, decide_eq_true_eq, List.all_eq_true,
    validChangedPathComponent_iff]
  constructor
  · rintro ⟨⟨⟨hnonempty, hdepth⟩, hlegal⟩, hlength⟩
    exact ⟨hnonempty, hdepth, hlegal, by rwa [length_intercalate hnonempty]⟩
  · rintro ⟨hnonempty, hdepth, hlegal, hlength⟩
    exact ⟨⟨⟨hnonempty, hdepth⟩, hlegal⟩, by rwa [length_intercalate hnonempty] at hlength⟩

theorem encodeRepositoryPath_eq_ok : encodeRepositoryPath path = .ok bytes ↔
    LegalPath path.unixComponents ∧ [0x2f].intercalate path.unixComponents = bytes := by
  simp only [encodeRepositoryPath, bind_eq_ok, ensure_eq_ok, validChangedPathComponents_iff]
  constructor
  · rintro ⟨_, hlegal, hbytes⟩
    exact ⟨hlegal, Except.ok.inj hbytes⟩
  · rintro ⟨hlegal, hbytes⟩
    exact ⟨(), hlegal, congrArg Except.ok hbytes⟩

/-- The bytes of a legal path tell its components. -/
theorem LegalPath.splitOn (h : LegalPath components) :
    ([0x2f].intercalate components).splitOn 0x2f = components := by
  apply List.splitOn_intercalate
  · intro component hmem
    exact (h.legal component hmem).plain.noSeparator
  · exact h.nonempty

theorem encodeRepositoryPath_injective {first second : RepositoryRelativePath}
    (hfirst : encodeRepositoryPath first = .ok bytes)
    (hsecond : encodeRepositoryPath second = .ok bytes) : first = second := by
  obtain ⟨hlegal, hbytes⟩ := encodeRepositoryPath_eq_ok.mp hfirst
  obtain ⟨hlegal', hbytes'⟩ := encodeRepositoryPath_eq_ok.mp hsecond
  cases first with
  | unix components =>
    cases second with
    | unix components' =>
      have hsplit := hlegal.splitOn
      rw [hbytes, ← hbytes', hlegal'.splitOn] at hsplit
      change components' = components at hsplit
      rw [hsplit]

/-- No byte of a legal path ends a record. -/
theorem LegalPath.no_nul (h : LegalPath components) : 0 ∉ [0x2f].intercalate components := by
  intro hnul
  have hmem : 0 ∈ terminated (0x2f : UInt8) components := by
    rw [terminated_eq_intercalate h.nonempty]
    exact List.mem_append_left _ hnul
  rcases mem_terminated hmem with hslash | ⟨component, hcomponent, hbyte⟩
  · cases hslash
  · exact (h.legal component hcomponent).plain.noNul hbyte

end Paths

section Records

/-- One record of the report, without the byte that ends it. -/
structure NumstatRecord where
  added : Bytes
  deleted : Bytes
  path : Bytes

def NumstatRecord.bytes (record : NumstatRecord) : Bytes :=
  record.added ++ 0x09 :: (record.deleted ++ 0x09 :: record.path)

/-- Both counts are numbers, or both are the mark of a binary file. -/
def LegalCounts (added deleted : Bytes) : Prop :=
  (added = [0x2d] ∧ deleted = [0x2d]) ∨ (CanonicalU64 added ∧ CanonicalU64 deleted)

structure NumstatRecord.Legal (record : NumstatRecord) : Prop where
  counts : LegalCounts record.added record.deleted
  path : ∃ components, LegalPath components ∧ [0x2f].intercalate components = record.path

variable {record : NumstatRecord} {path : RepositoryRelativePath} {bytes added deleted : Bytes}

theorem CanonicalU64.ne_dash (h : CanonicalU64 bytes) : bytes ≠ [0x2d] := by
  obtain ⟨n, -, rfl⟩ := h
  intro hdash
  have hdigit : isAsciiDigit 0x2d = true :=
    digit_mem_decimalBytes (hdash ▸ List.mem_singleton_self _)
  cases hdigit

theorem validNumstatCounts_iff :
    validNumstatCounts added deleted = true ↔ LegalCounts added deleted := by
  simp only [validNumstatCounts, LegalCounts, Bool.or_eq_true, Bool.and_eq_true, Bool.not_eq_true',
    decide_eq_true_eq, decide_eq_false_iff_not, validCanonicalDecimal_iff]
  constructor
  · rintro (hbinary | ⟨⟨-, hadded⟩, hdeleted⟩)
    · exact .inl hbinary
    · exact .inr ⟨hadded, hdeleted⟩
  · rintro (hbinary | ⟨hadded, hdeleted⟩)
    · exact .inl hbinary
    · exact .inr ⟨⟨⟨hadded.ne_dash, hdeleted.ne_dash⟩, hadded⟩, hdeleted⟩

/-- A count has neither a tab nor the byte that ends a record. -/
theorem LegalCounts.no_control (h : LegalCounts added deleted) {byte : UInt8}
    (hbyte : byte = 0x09 ∨ byte = 0) : byte ∉ added ∧ byte ∉ deleted := by
  have hdigits : ∀ value, CanonicalU64 value → byte ∉ value := by
    rintro value ⟨n, -, rfl⟩ hmem
    have hdigit := digit_mem_decimalBytes hmem
    rcases hbyte with rfl | rfl
    · cases hdigit
    · cases hdigit
  rcases h with ⟨rfl, rfl⟩ | ⟨hadded, hdeleted⟩
  · rcases hbyte with rfl | rfl
    · decide
    · decide
  · exact ⟨hdigits added hadded, hdigits deleted hdeleted⟩

theorem splitAtTab_eq_some {before after : Bytes} :
    splitAtTab bytes = some (before, after) ↔ 0x09 ∉ before ∧ bytes = before ++ 0x09 :: after := by
  unfold splitAtTab
  constructor
  · intro h
    split at h
    · next htab =>
      cases h
      have hrest : bytes.dropWhile (· ≠ 0x09) ≠ [] := by
        rw [ne_eq, List.dropWhile_eq_nil_iff]
        intro hall
        simpa using hall 0x09 (List.contains_iff_mem.mp htab)
      obtain ⟨byte, rest, hcons⟩ := List.exists_cons_of_ne_nil hrest
      have hbyte : byte = 0x09 := by
        have hhead := List.head?_dropWhile_not (fun byte : UInt8 => decide (byte ≠ 0x09)) bytes
        rw [hcons, List.head?_cons] at hhead
        simpa using hhead
      refine ⟨?_, ?_⟩
      · intro hmem
        simpa using List.mem_takeWhile_imp hmem
      · calc bytes = bytes.takeWhile (· ≠ 0x09) ++ bytes.dropWhile (· ≠ 0x09) :=
              List.takeWhile_append_dropWhile.symm
          _ = _ := by rw [hcons, List.tail_cons, hbyte]
    · cases h
  · rintro ⟨hno, rfl⟩
    have hbefore : ∀ byte ∈ before, decide (byte ≠ 0x09) = true := by
      intro byte hbyte
      rw [decide_eq_true_eq]
      rintro rfl
      exact hno hbyte
    rw [if_pos (by simp), List.takeWhile_append_of_pos hbefore, List.dropWhile_append_of_pos hbefore]
    simp

theorem NumstatRecord.Legal.no_nul (h : record.Legal) : 0 ∉ record.bytes := by
  obtain ⟨hadded, hdeleted⟩ := h.counts.no_control (.inr rfl)
  obtain ⟨components, hlegal, hpath⟩ := h.path
  have hnul := hlegal.no_nul
  rw [hpath] at hnul
  simp [NumstatRecord.bytes, hadded, hdeleted, hnul]

/-- A record is accepted when its counts and its path are legal, and its path is read back. -/
theorem parseNumstatRecord_eq_ok : parseNumstatRecord bytes = .ok path ↔
    ∃ record : NumstatRecord, record.Legal ∧ record.bytes = bytes ∧
      encodeRepositoryPath path = .ok record.path := by
  constructor
  · intro h
    simp only [parseNumstatRecord, bind_eq_ok, expect_eq_ok, ensure_eq_ok] at h
    obtain ⟨⟨added, rest⟩, hadded, ⟨deleted, name⟩, hdeleted, _, ⟨hcounts, -⟩, _, hvalid, hpath⟩ := h
    obtain ⟨-, rfl⟩ := splitAtTab_eq_some.mp hadded
    obtain ⟨-, rfl⟩ := splitAtTab_eq_some.mp hdeleted
    have hlegal := validChangedPathComponents_iff.mp hvalid
    cases hpath
    refine ⟨⟨added, deleted, name⟩, ⟨validNumstatCounts_iff.mp hcounts, ?_⟩, rfl, ?_⟩
    · exact ⟨name.splitOn 0x2f, hlegal, List.intercalate_splitOn 0x2f⟩
    · exact encodeRepositoryPath_eq_ok.mpr ⟨hlegal, List.intercalate_splitOn 0x2f⟩
  · rintro ⟨record, hlegal, rfl, hencode⟩
    obtain ⟨hpath, hbytes⟩ := encodeRepositoryPath_eq_ok.mp hencode
    obtain ⟨hadded, hdeleted⟩ := hlegal.counts.no_control (.inl rfl)
    simp only [parseNumstatRecord, bind_eq_ok, expect_eq_ok, ensure_eq_ok]
    refine ⟨(record.added, record.deleted ++ 0x09 :: record.path), ?_,
      (record.deleted, record.path), ?_, (), ⟨?_, ?_⟩, (), ?_, ?_⟩
    · exact splitAtTab_eq_some.mpr ⟨hadded, rfl⟩
    · exact splitAtTab_eq_some.mpr ⟨hdeleted, rfl⟩
    · exact validNumstatCounts_iff.mpr hlegal.counts
    · intro hempty
      have hsplit := hpath.splitOn
      change record.path = [] at hempty
      rw [hbytes, hempty, List.splitOn_nil] at hsplit
      exact (hpath.legal [] (hsplit ▸ List.mem_singleton_self _)).plain.nonempty rfl
    · change validChangedPathComponents (record.path.splitOn 0x2f) = true
      rw [← hbytes, hpath.splitOn]
      exact validChangedPathComponents_iff.mpr hpath
    · change Except.ok (RepositoryRelativePath.unix (record.path.splitOn 0x2f)) = Except.ok path
      rw [← hbytes, hpath.splitOn]
      rfl

end Records

section Reports

/-- A report is made of legal records of distinct paths, and keeps to its two limits. -/
structure Numstat (bytes : Bytes) (records : List NumstatRecord) : Prop where
  wire : bytes = terminated 0 (records.map NumstatRecord.bytes)
  size : bytes.length ≤ changedPathsMaxBytes.toNat
  count : records.length ≤ changedPathsMaxEntries
  legal : ∀ record ∈ records, record.Legal
  distinct : (records.map (·.path)).Nodup

/-- The paths that are read from the records, in their order. -/
def ReadAs (records : List NumstatRecord) (read : List RepositoryRelativePath) : Prop :=
  read.map encodeRepositoryPath = records.map fun record => .ok record.path

variable {record : NumstatRecord} {records records' : List NumstatRecord} {bytes : Bytes}
  {read paths : List RepositoryRelativePath} {path : RepositoryRelativePath}

theorem parseNext_eq_ok {text : Bytes} : parseNext read text = .ok paths ↔
    read.length < changedPathsMaxEntries ∧ ∃ record : NumstatRecord, record.Legal ∧
      record.bytes = text ∧ ∃ path, encodeRepositoryPath path = .ok record.path ∧
        paths = read ++ [path] := by
  simp only [parseNext, bind_eq_ok, ensure_eq_ok, parseNumstatRecord_eq_ok]
  constructor
  · rintro ⟨_, -, _, hcount, path, ⟨record, hlegal, hbytes, hread⟩, hpaths⟩
    exact ⟨hcount, record, hlegal, hbytes, path, hread, (Except.ok.inj hpaths).symm⟩
  · rintro ⟨hcount, record, hlegal, rfl, path, hread, rfl⟩
    refine ⟨(), ?_, (), hcount, path, ⟨record, hlegal, rfl, hread⟩, rfl⟩
    simp [NumstatRecord.bytes]

/-- The loop reads the records one by one, as long as there is room for their paths. -/
theorem foldlM_parseNext_eq_ok {texts : List Bytes} (hroom : read.length ≤ changedPathsMaxEntries) :
    texts.foldlM parseNext read = .ok paths ↔
      ∃ records : List NumstatRecord, (∀ record ∈ records, record.Legal) ∧
        records.map NumstatRecord.bytes = texts ∧
        read.length + records.length ≤ changedPathsMaxEntries ∧
        ∃ added, ReadAs records added ∧ paths = read ++ added := by
  induction texts generalizing read with
  | nil =>
    rw [List.foldlM_nil]
    constructor
    · intro h
      cases h
      exact ⟨[], by simp, rfl, hroom, [], rfl, (List.append_nil _).symm⟩
    · rintro ⟨records, -, hbytes, -, added, hadded, rfl⟩
      obtain rfl := List.map_eq_nil_iff.mp hbytes
      obtain rfl := List.map_eq_nil_iff.mp hadded
      rw [List.append_nil]
      rfl
  | cons text rest ih =>
    rw [List.foldlM_cons, bind_eq_ok]
    constructor
    · rintro ⟨next, hnext, hrest⟩
      obtain ⟨hcount, record, hlegal, rfl, path, hread, rfl⟩ := parseNext_eq_ok.mp hnext
      rw [ih (by simpa using hcount)] at hrest
      obtain ⟨records, hrecords, rfl, hfits, added, hadded, rfl⟩ := hrest
      refine ⟨record :: records, List.forall_mem_cons.mpr ⟨hlegal, hrecords⟩, rfl, ?_,
        path :: added, ?_, by simp⟩
      · simp only [List.length_append, List.length_cons, List.length_nil] at hfits ⊢
        omega
      · exact congrArg₂ List.cons hread hadded
    · rintro ⟨records, hrecords, hbytes, hfits, added, hadded, rfl⟩
      obtain ⟨record, records, rfl, rfl, rfl⟩ := List.map_eq_cons_iff.mp hbytes
      obtain ⟨hlegal, hrecords⟩ := List.forall_mem_cons.mp hrecords
      obtain ⟨path, added, rfl, hread, hadded⟩ := List.map_eq_cons_iff.mp hadded
      rw [List.length_cons] at hfits
      refine ⟨read ++ [path], ?_, ?_⟩
      · exact parseNext_eq_ok.mpr ⟨by omega, record, hlegal, rfl, path, hread, rfl⟩
      · rw [ih (by simp; omega)]
        refine ⟨records, hrecords, rfl, ?_, added, hadded, by simp⟩
        simp only [List.length_append, List.length_singleton]
        omega

theorem splitOn_terminated (hlegal : ∀ record ∈ records, record.Legal) (h : records ≠ []) :
    terminated 0 (records.map NumstatRecord.bytes) =
        [0].intercalate (records.map NumstatRecord.bytes) ++ [0] ∧
      ([0].intercalate (records.map NumstatRecord.bytes)).splitOn 0 =
        records.map NumstatRecord.bytes := by
  have hmap : records.map NumstatRecord.bytes ≠ [] := by simpa using h
  refine ⟨terminated_eq_intercalate hmap, List.splitOn_intercalate 0 ?_ hmap⟩
  intro text htext
  obtain ⟨record, hrecord, rfl⟩ := List.mem_map.mp htext
  exact (hlegal record hrecord).no_nul

theorem ReadAs.exists_record (h : ReadAs records read) (hpath : path ∈ read) :
    ∃ record ∈ records, encodeRepositoryPath path = .ok record.path := by
  have hmem : encodeRepositoryPath path ∈ read.map encodeRepositoryPath :=
    List.mem_map_of_mem hpath
  rw [h] at hmem
  obtain ⟨record, hrecord, heq⟩ := List.mem_map.mp hmem
  exact ⟨record, hrecord, heq.symm⟩

theorem ReadAs.exists_path (h : ReadAs records read) (hrecord : record ∈ records) :
    ∃ path ∈ read, encodeRepositoryPath path = .ok record.path := by
  have hmem : .ok record.path ∈ read.map encodeRepositoryPath := by
    rw [h]
    exact List.mem_map_of_mem hrecord
  exact List.mem_map.mp hmem

theorem unixComponents_injective : Function.Injective RepositoryRelativePath.unixComponents := by
  rintro ⟨first⟩ ⟨second⟩ heq
  exact congrArg RepositoryRelativePath.unix heq

/-- Records of distinct paths are read as distinct paths. -/
theorem ReadAs.nodup_iff (h : ReadAs records read) :
    (records.map (·.path)).Nodup ↔ (read.map RepositoryRelativePath.unixComponents).Nodup := by
  have hok : Function.Injective
      (Except.ok : Bytes → Except TemporaryGitWorktreeError Bytes) := fun _ _ => Except.ok.inj
  have hencoded : (read.map encodeRepositoryPath).Nodup ↔ read.Nodup := by
    refine ⟨List.Nodup.of_map _, fun hread => hread.map_on ?_⟩
    intro first hfirst second hsecond heq
    obtain ⟨record, -, hrecord⟩ := h.exists_record hfirst
    exact encodeRepositoryPath_injective hrecord (heq ▸ hrecord)
  rw [List.nodup_map_iff unixComponents_injective, ← hencoded, h, ← List.nodup_map_iff hok,
    List.map_map]
  rfl

/-- Sorted paths of which no two neighbours are the same are distinct. -/
theorem nodup_of_isChain (h : (sortBy RepositoryRelativePath.unixComponents read).IsChain
    fun left right => left.unixComponents ≠ right.unixComponents) :
    (read.map RepositoryRelativePath.unixComponents).Nodup := nodup_of_sortBy_isChain h

theorem parse_eq_ok : parseNumstatChangedPaths bytes = .ok paths ↔
    ∃ records, Numstat bytes records ∧ ∃ read, ReadAs records read ∧
      paths = sortBy RepositoryRelativePath.unixComponents read := by
  constructor
  · intro h
    simp only [parseNumstatChangedPaths, bind_eq_ok, ensure_eq_ok] at h
    obtain ⟨_, hsize, h⟩ := h
    rw [saturate64_le_iff (by decide)] at hsize
    split at h
    · next hempty =>
      cases h
      exact ⟨[], ⟨hempty, hsize, by decide, by simp, List.nodup_nil⟩, [], rfl, sortBy_nil.symm⟩
    · simp only [bind_eq_ok, ensure_eq_ok, expect_eq_ok] at h
      obtain ⟨text, htext, read, hread, _, hdistinct, hpaths⟩ := h
      rw [foldlM_parseNext_eq_ok (by decide)] at hread
      obtain ⟨records, hlegal, hbytes, hcount, added, hadded, hadd⟩ := hread
      obtain rfl : read = added := hadd
      refine ⟨records, ⟨?_, hsize, by simpa using hcount, hlegal, ?_⟩, read, hadded,
        (Except.ok.inj hpaths).symm⟩
      · rw [hbytes, terminated_splitOn]
        exact stripFinal_eq_some.mp htext
      · exact hadded.nodup_iff.mpr (nodup_of_isChain hdistinct)
  · rintro ⟨records, hnumstat, read, hread, rfl⟩
    simp only [parseNumstatChangedPaths, bind_eq_ok, ensure_eq_ok]
    refine ⟨(), (saturate64_le_iff (by decide)).mpr hnumstat.size, ?_⟩
    by_cases hempty : records = []
    · subst hempty
      obtain rfl := List.map_eq_nil_iff.mp hread
      rw [if_pos (by simpa [terminated] using hnumstat.wire), sortBy_nil]
      rfl
    · obtain ⟨hwire, hsplit⟩ := splitOn_terminated hnumstat.legal hempty
      rw [← hnumstat.wire] at hwire
      rw [if_neg (by rw [hwire]; simp)]
      simp only [bind_eq_ok, ensure_eq_ok, expect_eq_ok]
      refine ⟨_, stripFinal_eq_some.mpr hwire, read, ?_, (), ?_, rfl⟩
      · rw [hsplit, foldlM_parseNext_eq_ok (by decide)]
        exact ⟨records, hnumstat.legal, rfl, by simpa using hnumstat.count, read, hread, rfl⟩
      · refine (sortBy_strictlySorted (hread.nodup_iff.mp hnumstat.distinct)).isChain.imp ?_
        intro left right hlt heq
        rw [heq] at hlt
        simp at hlt

end Reports

section Canonical

variable {records records' : List NumstatRecord} {bytes : Bytes}
  {read paths : List RepositoryRelativePath} {path : RepositoryRelativePath}

/-- What a path counts for in the limit of the canonical paths: its bytes and one more. -/
def pathWeight (path : RepositoryRelativePath) : ℕ :=
  (path.unixComponents.map fun component => component.length + 1).sum

theorem toNat_componentTotal (components : List Bytes) (total : UInt64) :
    (components.foldl (fun pathTotal component =>
      saturatingAdd64 (saturatingAdd64 pathTotal (saturate64 component.length)) 1) total).toNat =
      min (total.toNat + (components.map fun component => component.length + 1).sum)
        (2 ^ 64 - 1) := by
  induction components generalizing total with
  | nil =>
    have htotal := total.toNat_lt
    simp only [List.foldl_nil, List.map_nil, List.sum_nil]
    omega
  | cons component rest ih =>
    rw [List.foldl_cons, ih, List.map_cons, List.sum_cons]
    simp only [saturatingAdd64, toNat_saturate64, UInt64.toNat_one]
    omega

theorem toNat_changedPathsEncodedBytes (paths : List RepositoryRelativePath) :
    (changedPathsEncodedBytes paths).toNat = min (paths.map pathWeight).sum (2 ^ 64 - 1) := by
  have hfold : ∀ total : UInt64, (paths.foldl (fun total path =>
      path.unixComponents.foldl (fun pathTotal component =>
        saturatingAdd64 (saturatingAdd64 pathTotal (saturate64 component.length)) 1) total)
          total).toNat = min (total.toNat + (paths.map pathWeight).sum) (2 ^ 64 - 1) := by
    induction paths with
    | nil =>
      intro total
      have htotal := total.toNat_lt
      simp only [List.foldl_nil, List.map_nil, List.sum_nil]
      omega
    | cons path rest ih =>
      intro total
      rw [List.foldl_cons, ih, toNat_componentTotal, List.map_cons, List.sum_cons, pathWeight]
      omega
  rw [changedPathsEncodedBytes, hfold, UInt64.toNat_zero, Nat.zero_add]

theorem pathWeight_of_encode (h : encodeRepositoryPath path = .ok bytes) :
    pathWeight path = bytes.length + 1 := by
  obtain ⟨hlegal, rfl⟩ := encodeRepositoryPath_eq_ok.mp h
  have hsum : pathWeight path =
      (path.unixComponents.map List.length).sum + path.unixComponents.length := by
    unfold pathWeight
    induction path.unixComponents with
    | nil => rfl
    | cons component rest ih =>
      simp only [List.map_cons, List.sum_cons, List.length_cons, ih]
      omega
  have hpositive := List.length_pos_iff.mpr hlegal.nonempty
  rw [hsum, length_intercalate hlegal.nonempty]
  omega

/-- The paths weigh less than the report they were read from. -/
theorem ReadAs.sum_pathWeight_le (h : ReadAs records read) :
    (read.map pathWeight).sum ≤ (terminated 0 (records.map NumstatRecord.bytes)).length := by
  induction records generalizing read with
  | nil =>
    obtain rfl := List.map_eq_nil_iff.mp h
    exact Nat.zero_le _
  | cons record records ih =>
    obtain ⟨path, rest, rfl, hpath, hrest⟩ := List.map_eq_cons_iff.mp h
    have hweight := pathWeight_of_encode hpath
    have hle := ih hrest
    rw [List.map_cons, List.sum_cons, hweight, List.map_cons, terminated_cons, List.length_append,
      List.length_cons]
    have hrecord : record.path.length ≤ record.bytes.length := by
      simp only [NumstatRecord.bytes, List.length_append, List.length_cons]
      omega
    omega

theorem Numstat.canonical (h : Numstat bytes records) (hread : ReadAs records read) :
    changedPathsAreCanonical (sortBy RepositoryRelativePath.unixComponents read) = true := by
  have hperm := sortBy_perm RepositoryRelativePath.unixComponents read
  have hlength : read.length = records.length := by
    have heq := congrArg List.length hread
    simpa using heq
  simp only [changedPathsAreCanonical, Bool.and_eq_true, decide_eq_true_eq, List.all_eq_true]
  refine ⟨⟨⟨?_, ?_⟩, ?_⟩, ?_⟩
  · rw [hperm.length_eq, hlength]
    exact h.count
  · intro path hpath
    obtain ⟨record, -, hencode⟩ := hread.exists_record (mem_sortBy.mp hpath)
    exact validChangedPathComponents_iff.mpr (encodeRepositoryPath_eq_ok.mp hencode).1
  · exact (sortBy_strictlySorted (hread.nodup_iff.mp h.distinct)).isChain
  · have hsum : ((sortBy RepositoryRelativePath.unixComponents read).map pathWeight).sum =
        (read.map pathWeight).sum := (hperm.map pathWeight).sum_eq
    have hle := hread.sum_pathWeight_le
    have hsize := h.size
    rw [h.wire] at hsize
    rw [UInt64.le_iff_toNat_le, toNat_changedPathsEncodedBytes, hsum]
    omega

theorem Numstat.perm (h : Numstat bytes records) (hperm : records.Perm records') :
    Numstat (terminated 0 (records'.map NumstatRecord.bytes)) records' := by
  refine ⟨rfl, ?_, hperm.length_eq ▸ h.count, fun record hmem => h.legal record (hperm.mem_iff.mpr hmem),
    (hperm.map _).nodup_iff.mp h.distinct⟩
  rw [← terminated_perm_length (hperm.map NumstatRecord.bytes), ← h.wire]
  exact h.size

theorem Numstat.exists_readAs (h : Numstat bytes records) : ∃ read, ReadAs records read := by
  have hlegal := h.legal
  clear h
  induction records with
  | nil => exact ⟨[], rfl⟩
  | cons record records ih =>
    obtain ⟨hrecord, hrest⟩ := List.forall_mem_cons.mp hlegal
    obtain ⟨components, hcomponents, hpath⟩ := hrecord.path
    obtain ⟨rest, hread⟩ := ih hrest
    refine ⟨.unix components :: rest, congrArg₂ List.cons ?_ hread⟩
    exact encodeRepositoryPath_eq_ok.mpr ⟨hcomponents, hpath⟩

theorem NumstatRecord.Legal.eq_of_bytes {first second : NumstatRecord} (hfirst : first.Legal)
    (hsecond : second.Legal) (h : first.bytes = second.bytes) : first = second := by
  obtain ⟨hadded, hdeleted⟩ := hfirst.counts.no_control (.inl rfl)
  obtain ⟨hadded', hdeleted'⟩ := hsecond.counts.no_control (.inl rfl)
  have hsplit : splitAtTab first.bytes =
      some (first.added, first.deleted ++ 0x09 :: first.path) :=
    splitAtTab_eq_some.mpr ⟨hadded, rfl⟩
  have hsplit' : splitAtTab second.bytes =
      some (second.added, second.deleted ++ 0x09 :: second.path) :=
    splitAtTab_eq_some.mpr ⟨hadded', rfl⟩
  rw [h, hsplit'] at hsplit
  obtain ⟨hadd, hrest⟩ := Prod.mk.inj (Option.some.inj hsplit)
  have hname : splitAtTab (first.deleted ++ 0x09 :: first.path) = some (first.deleted, first.path) :=
    splitAtTab_eq_some.mpr ⟨hdeleted, rfl⟩
  have hname' : splitAtTab (second.deleted ++ 0x09 :: second.path) =
      some (second.deleted, second.path) := splitAtTab_eq_some.mpr ⟨hdeleted', rfl⟩
  rw [← hrest, hname'] at hname
  obtain ⟨hdelete, hpath⟩ := Prod.mk.inj (Option.some.inj hname)
  cases first
  cases second
  rw [NumstatRecord.mk.injEq]
  exact ⟨hadd.symm, hdelete.symm, hpath.symm⟩

/-- The bytes of a report tell its records. -/
theorem Numstat.unique (h : Numstat bytes records) (h' : Numstat bytes records') :
    records = records' := by
  have hmap : records.map NumstatRecord.bytes = records'.map NumstatRecord.bytes := by
    have hwire := h.wire.symm.trans h'.wire
    by_cases hempty : records = []
    · subst hempty
      by_cases hempty' : records' = []
      · rw [hempty']
      · rw [(splitOn_terminated h'.legal hempty').1] at hwire
        simp [terminated] at hwire
    · by_cases hempty' : records' = []
      · subst hempty'
        rw [(splitOn_terminated h.legal hempty).1] at hwire
        simp [terminated] at hwire
      · obtain ⟨hleft, hsplit⟩ := splitOn_terminated h.legal hempty
        obtain ⟨hright, hsplit'⟩ := splitOn_terminated h'.legal hempty'
        rw [hleft, hright] at hwire
        rw [← hsplit, ← hsplit', List.append_cancel_right hwire]
  have hlegal := h.legal
  have hlegal' := h'.legal
  clear h h'
  induction records generalizing records' with
  | nil => exact (List.map_eq_nil_iff.mp hmap.symm).symm
  | cons record records ih =>
    obtain ⟨record', rest, rfl, hbytes, hrest⟩ := List.map_eq_cons_iff.mp hmap.symm
    obtain ⟨hrecord, hrecords⟩ := List.forall_mem_cons.mp hlegal
    obtain ⟨hrecord', hrecords'⟩ := List.forall_mem_cons.mp hlegal'
    rw [hrecord.eq_of_bytes hrecord' hbytes.symm, ih hrest.symm hrecords hrecords']

/-- Permuted records are read as the same paths, in another order. -/
theorem ReadAs.perm {read' : List RepositoryRelativePath} (h : ReadAs records read)
    (h' : ReadAs records' read') (hperm : records.Perm records')
    (hdistinct : (records.map (·.path)).Nodup) : read.Perm read' := by
  have hnodup := (List.nodup_map_iff unixComponents_injective).mp (h.nodup_iff.mp hdistinct)
  have hdistinct' := (hperm.map (·.path)).nodup_iff.mp hdistinct
  have hnodup' := (List.nodup_map_iff unixComponents_injective).mp (h'.nodup_iff.mp hdistinct')
  rw [List.perm_ext_iff_of_nodup hnodup hnodup']
  intro path
  constructor
  · intro hpath
    obtain ⟨record, hrecord, hencode⟩ := h.exists_record hpath
    obtain ⟨other, hother, hencode'⟩ := h'.exists_path (hperm.mem_iff.mp hrecord)
    rwa [encodeRepositoryPath_injective hencode hencode']
  · intro hpath
    obtain ⟨record, hrecord, hencode⟩ := h'.exists_record hpath
    obtain ⟨other, hother, hencode'⟩ := h.exists_path (hperm.mem_iff.mpr hrecord)
    rwa [encodeRepositoryPath_injective hencode hencode']

/-- The report is accepted exactly when it is made of legal records within the limits, and its paths are
then the recorded ones, in their one order, canonical, and read back as they were written. -/
theorem parseNumstatChangedPaths_exact (bytes : Bytes) :
    ((∃ paths, parseNumstatChangedPaths bytes = .ok paths) ↔ ∃ records, Numstat bytes records) ∧
    ∀ records paths, Numstat bytes records → parseNumstatChangedPaths bytes = .ok paths →
      StrictlySorted RepositoryRelativePath.unixComponents paths ∧
      (∀ path ∈ paths, ∃ record ∈ records, encodeRepositoryPath path = .ok record.path) ∧
      (∀ record ∈ records, ∃ path ∈ paths, encodeRepositoryPath path = .ok record.path) ∧
      changedPathsAreCanonical paths = true ∧
      ∀ records', records.Perm records' →
        parseNumstatChangedPaths (terminated 0 (records'.map NumstatRecord.bytes)) = .ok paths := by
  refine ⟨⟨?_, ?_⟩, ?_⟩
  · rintro ⟨paths, h⟩
    obtain ⟨records, hrecords, -⟩ := parse_eq_ok.mp h
    exact ⟨records, hrecords⟩
  · rintro ⟨records, hrecords⟩
    obtain ⟨read, hread⟩ := hrecords.exists_readAs
    exact ⟨_, parse_eq_ok.mpr ⟨records, hrecords, read, hread, rfl⟩⟩
  · intro records paths hrecords h
    obtain ⟨found, hfound, read, hread, rfl⟩ := parse_eq_ok.mp h
    obtain rfl := hrecords.unique hfound
    refine ⟨sortBy_strictlySorted (hread.nodup_iff.mp hrecords.distinct), ?_, ?_,
      hrecords.canonical hread, ?_⟩
    · intro path hpath
      exact hread.exists_record (mem_sortBy.mp hpath)
    · intro record hrecord
      obtain ⟨path, hpath, hencode⟩ := hread.exists_path hrecord
      exact ⟨path, mem_sortBy.mpr hpath, hencode⟩
    · intro records' hperm
      have hrecords' := hrecords.perm hperm
      obtain ⟨read', hread'⟩ := hrecords'.exists_readAs
      have hreads := hread.perm hread' hperm hrecords.distinct
      rw [sortBy_eq_of_perm hreads (hread.nodup_iff.mp hrecords.distinct)]
      exact parse_eq_ok.mpr ⟨records', hrecords', read', hread', rfl⟩

end Canonical

section Sample

/-- `1 TAB 0 TAB b` and a binary change of `a`. -/
def sampleRecords : List NumstatRecord := [⟨[0x31], [0x30], [0x62]⟩, ⟨[0x2d], [0x2d], [0x61]⟩]

def sampleReport : Bytes := terminated 0 (sampleRecords.map NumstatRecord.bytes)

theorem sampleReport_numstat : Numstat sampleReport sampleRecords := by
  have hpath : ∀ byte : UInt8, byte = 0x61 ∨ byte = 0x62 → LegalPath [[byte]] := by
    intro byte hbyte
    rw [← validChangedPathComponents_iff]
    rcases hbyte with rfl | rfl
    · decide
    · decide
  refine ⟨rfl, by decide, by decide, ?_, by decide⟩
  intro record hrecord
  rcases List.mem_cons.mp hrecord with rfl | hrecord
  · exact ⟨.inr ⟨⟨1, by decide, by decide⟩, 0, by decide, rfl⟩, [[0x62]],
      hpath _ (.inr rfl), rfl⟩
  · obtain rfl := List.mem_singleton.mp hrecord
    exact ⟨.inl ⟨rfl, rfl⟩, [[0x61]], hpath _ (.inl rfl), rfl⟩

/-- The report is accepted, with the paths of both records. -/
theorem parseNumstatChangedPaths_exact_sample : ∃ paths,
    parseNumstatChangedPaths sampleReport = .ok paths ∧ changedPathsAreCanonical paths = true ∧
      ∀ record ∈ sampleRecords, ∃ path ∈ paths, encodeRepositoryPath path = .ok record.path := by
  obtain ⟨haccepted, hexact⟩ := parseNumstatChangedPaths_exact sampleReport
  obtain ⟨paths, hparsed⟩ := haccepted.mpr ⟨sampleRecords, sampleReport_numstat⟩
  obtain ⟨-, -, hpaths, hcanonical, -⟩ := hexact sampleRecords paths sampleReport_numstat hparsed
  exact ⟨paths, hparsed, hcanonical, hpaths⟩

end Sample

end BirdCode.WriteLane
