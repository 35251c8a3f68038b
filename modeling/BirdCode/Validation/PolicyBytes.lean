import BirdCode.Validation.Provenance

/-! The bytes of a policy determine it. The counts in them are cut off at the largest `u32`, which the set
of all 2³² exit codes is the only one to exceed: what follows it then differs from any count. -/
namespace BirdCode.Validation

open Std Lib

variable {rest rest' : List UInt8}

section Counts

theorem asU32_lt (count : ℕ) : asU32 count < 256 ^ 4 := by
  unfold asU32
  omega

theorem countBytes_append_inj {count count' : ℕ}
    (h : countBytes count ++ rest = countBytes count' ++ rest') :
    asU32 count = asU32 count' ∧ rest = rest' := beBytes_append_inj (asU32_lt _) (asU32_lt _) h

/-- A list of values that a byte each encodes, after its length. -/
theorem counted_append_inj {A : Type} {encode : A → List UInt8} (hencode : SelfDelimiting encode)
    {l l' : List A} (hl : l.length < 2 ^ 32) (hl' : l'.length < 2 ^ 32)
    (h : countBytes l.length ++ (l.flatMap encode ++ rest) =
      countBytes l'.length ++ (l'.flatMap encode ++ rest')) : l = l' ∧ rest = rest' := by
  obtain ⟨hcount, htail⟩ := countBytes_append_inj h
  unfold asU32 at hcount
  exact hencode.flatMap_inj (by omega) htail

end Counts

section Kinds

theorem ArtifactKind.ordinal_lt (kind : ArtifactKind) : kind.ordinal < 14 := by
  cases kind <;> decide

theorem CheckKind.ordinal_lt (kind : CheckKind) : kind.ordinal < 14 := by
  cases kind <;> decide

theorem ExecutionPhase.ordinal_lt (phase : ExecutionPhase) : phase.ordinal < 12 := by
  cases phase <;> decide

theorem byte_inj {a b : ℕ} (ha : a < 256) (hb : b < 256) (h : UInt8.ofNat a = UInt8.ofNat b) :
    a = b := by
  have hnat := congrArg UInt8.toNat h
  rw [UInt8.toNat_ofNat', UInt8.toNat_ofNat'] at hnat
  omega

theorem kindByte_selfDelimiting :
    SelfDelimiting fun kind : ArtifactKind => [UInt8.ofNat kind.ordinal] := by
  refine selfDelimiting_of_length (n := 1) (fun _ => rfl) ?_
  intro a b h
  have ha := a.ordinal_lt
  have hb := b.ordinal_lt
  exact ArtifactKind.eq_of_ordinal (byte_inj (by omega) (by omega) (List.head_eq_of_cons_eq h))

theorem nodup_map_ordinal (kinds : BTreeSet ArtifactKind) :
    (kinds.toList.map ArtifactKind.ordinal).Nodup :=
  (nodup_toList kinds).map fun _ _ => ArtifactKind.eq_of_ordinal

theorem length_kinds_le (kinds : BTreeSet ArtifactKind) : kinds.toList.length ≤ 14 := by
  rw [← List.length_map (f := ArtifactKind.ordinal)]
  refine length_le_of_lt (nodup_map_ordinal kinds) ?_
  intro n hn
  obtain ⟨kind, -, rfl⟩ := List.mem_map.mp hn
  exact kind.ordinal_lt

theorem phaseRequirementBytes_selfDelimiting : SelfDelimiting phaseRequirementBytes := by
  refine selfDelimiting_of_length (n := 2) (fun _ => rfl) ?_
  rintro ⟨phase, requirement⟩ ⟨phase', requirement'⟩ h
  have hlt := phase.ordinal_lt
  have hlt' := phase'.ordinal_lt
  have hbytes : UInt8.ofNat phase.ordinal = UInt8.ofNat phase'.ordinal ∧
      [UInt8.ofNat requirement.ordinal] = [UInt8.ofNat requirement'.ordinal] := List.cons.inj h
  obtain ⟨hphase, hrequirement⟩ := hbytes
  obtain rfl := ExecutionPhase.eq_of_ordinal (byte_inj (by omega) (by omega) hphase)
  have hsame : UInt8.ofNat requirement.ordinal = UInt8.ofNat requirement'.ordinal :=
    List.head_eq_of_cons_eq hrequirement
  cases requirement <;> cases requirement' <;> first | rfl | exact absurd hsame (by decide)

theorem length_phases_le {V : Type} (phases : BTreeMap ExecutionPhase V) :
    phases.toList.length ≤ 12 := by
  have hnodup : (phases.keys.map ExecutionPhase.ordinal).Nodup :=
    ExtTreeMap.nodup_keys.map fun _ _ => ExecutionPhase.eq_of_ordinal
  rw [ExtTreeMap.length_toList, ← ExtTreeMap.length_keys, ← List.length_map (f := ExecutionPhase.ordinal)]
  refine length_le_of_lt hnodup ?_
  intro n hn
  obtain ⟨phase, -, rfl⟩ := List.mem_map.mp hn
  exact phase.ordinal_lt

end Kinds

section Codes

def codeByteList (code : Int32) : List UInt8 := beBytes 4 code.toUInt32.toNat

theorem code_lt (code : Int32) : code.toUInt32.toNat < 256 ^ 4 := by
  have hlt := code.toUInt32.toNat_lt
  omega

theorem code_inj {a b : Int32} (h : a.toUInt32.toNat = b.toUInt32.toNat) : a = b := by
  have hword : a.toUInt32 = b.toUInt32 := UInt32.toNat_inj.mp h
  have hback := congrArg UInt32.toInt32 hword
  rwa [Int32.toInt32_toUInt32, Int32.toInt32_toUInt32] at hback

theorem codeByteList_selfDelimiting : SelfDelimiting codeByteList := by
  refine selfDelimiting_of_length (n := 4) (fun _ => length_beBytes _ _) ?_
  intro a b h
  exact code_inj (beBytes_inj (code_lt a) (code_lt b) h)

/-- A code counted from the least one. -/
def codeRank (code : Int32) : ℕ := (code.toInt + 2 ^ 31).toNat

theorem codeRank_lt (code : Int32) : codeRank code < 2 ^ 32 := by
  have hlt := code.toInt_lt
  unfold codeRank
  omega

theorem codeRank_inj {a b : Int32} (h : codeRank a = codeRank b) : a = b := by
  have ha := a.le_toInt
  have hb := b.le_toInt
  unfold codeRank at h
  exact Int32.toInt_inj.mp (by omega)

theorem nodup_map_codeRank (codes : BTreeSet Int32) : (codes.toList.map codeRank).Nodup :=
  (nodup_toList codes).map fun _ _ => codeRank_inj

theorem length_codes_le (codes : BTreeSet Int32) : codes.toList.length ≤ 2 ^ 32 := by
  rw [← List.length_map (f := codeRank)]
  refine length_le_of_lt (nodup_map_codeRank codes) ?_
  intro n hn
  obtain ⟨code, -, rfl⟩ := List.mem_map.mp hn
  exact codeRank_lt code

/-- The last code of the set of all codes is no small number. -/
theorem last_of_all_codes {codes : BTreeSet Int32} {before : List Int32} {last : Int32}
    (hcodes : codes.toList = before ++ [last]) (hall : codes.toList.length = 2 ^ 32) :
    14 < last.toUInt32.toNat := by
  by_contra hsmall
  have hvalue : last.toInt = last.toUInt32.toNat := by
    have hbits : last.toUInt32.toNat = last.toBitVec.toNat := rfl
    rw [hbits] at hsmall ⊢
    exact BitVec.toInt_eq_toNat_of_lt (by omega)
  have hordered : codes.toList.Pairwise fun a b => compare a b = .lt := ExtTreeSet.ordered_toList
  rw [hcodes, List.pairwise_append] at hordered
  obtain ⟨-, -, hlast⟩ := hordered
  have hle : codes.toList.length ≤ 2 ^ 31 + 15 := by
    rw [← List.length_map (f := codeRank)]
    refine length_le_of_lt (nodup_map_codeRank codes) ?_
    intro n hn
    obtain ⟨code, hcode, rfl⟩ := List.mem_map.mp hn
    rw [hcodes, List.mem_append, List.mem_singleton] at hcode
    have hbound : code.toInt ≤ last.toInt := by
      rcases hcode with hbefore | rfl
      · have hlt := Std.compare_eq_lt.mp (hlast code hbefore last (List.mem_singleton.mpr rfl))
        exact Int.le_of_lt (Int32.lt_iff_toInt_lt.mp hlt)
      · exact Int.le_refl _
    unfold codeRank
    omega
  omega

/-- Codes after their count are read back when a small count follows them. -/
theorem codes_append_inj {codes codes' : BTreeSet Int32} {count count' : ℕ} (hcount : count ≤ 14)
    (hcount' : count' ≤ 14)
    (h : countBytes codes.toList.length ++
        (codes.toList.flatMap codeByteList ++ (countBytes count ++ rest)) =
      countBytes codes'.toList.length ++
        (codes'.toList.flatMap codeByteList ++ (countBytes count' ++ rest'))) :
    codes = codes' ∧ countBytes count ++ rest = countBytes count' ++ rest' := by
  obtain ⟨hlength, htail⟩ := countBytes_append_inj h
  have hle := length_codes_le codes
  have hle' := length_codes_le codes'
  rcases Nat.lt_trichotomy codes.toList.length codes'.toList.length with hlt | heq | hgt
  · exfalso
    obtain ⟨before, last, hsplit⟩ := List.eq_nil_or_concat codes'.toList |>.resolve_left fun hnil => by
      rw [hnil] at hlt
      exact Nat.not_lt_zero _ hlt
    rw [List.concat_eq_append] at hsplit
    have hall : codes'.toList.length = 2 ^ 32 := by
      unfold asU32 at hlength
      omega
    have hbefore : codes.toList.length = before.length := by
      unfold asU32 at hlength
      rw [hsplit, List.length_append, List.length_singleton] at hall hlength
      omega
    rw [hsplit, List.flatMap_append, List.append_assoc] at htail
    obtain ⟨-, hrest⟩ := codeByteList_selfDelimiting.flatMap_inj hbefore htail
    rw [List.flatMap_singleton] at hrest
    obtain ⟨hcode, -⟩ := beBytes_append_inj (asU32_lt _) (code_lt last) hrest
    have hlast := last_of_all_codes hsplit hall
    unfold asU32 at hcode
    omega
  · obtain ⟨hcodes, hrest⟩ := codeByteList_selfDelimiting.flatMap_inj heq htail
    exact ⟨ExtTreeSet.toList_inj.mp hcodes, hrest⟩
  · exfalso
    obtain ⟨before, last, hsplit⟩ := List.eq_nil_or_concat codes.toList |>.resolve_left fun hnil => by
      rw [hnil] at hgt
      exact Nat.not_lt_zero _ hgt
    rw [List.concat_eq_append] at hsplit
    have hall : codes.toList.length = 2 ^ 32 := by
      unfold asU32 at hlength
      omega
    have hbefore : before.length = codes'.toList.length := by
      unfold asU32 at hlength
      rw [hsplit, List.length_append, List.length_singleton] at hall hlength
      omega
    rw [hsplit, List.flatMap_append, List.append_assoc] at htail
    obtain ⟨-, hrest⟩ := codeByteList_selfDelimiting.flatMap_inj hbefore htail
    rw [List.flatMap_singleton] at hrest
    obtain ⟨hcode, -⟩ := beBytes_append_inj (code_lt last) (asU32_lt _) hrest
    have hlast := last_of_all_codes hsplit hall
    unfold asU32 at hcode
    omega

end Codes

section Requirements

theorem CheckId.val_lt (id : CheckId) : id.uuid.val < 256 ^ 16 := by
  have hlt := id.uuid.isLt
  omega

theorem CheckId.eq_of_val {id id' : CheckId} (h : id.uuid.val = id'.uuid.val) : id = id' := by
  obtain ⟨uuid, versioned⟩ := id
  obtain ⟨uuid', versioned'⟩ := id'
  obtain rfl : uuid = uuid' := Fin.ext h
  rfl

theorem minimum_lt (minimum : UInt32) : minimum.toNat < 256 ^ 4 := by
  have hlt := minimum.toNat_lt
  omega

/-- The bytes of the artifact kinds a requirement allows, after their count. -/
def kindsBytes (kinds : BTreeSet ArtifactKind) : List UInt8 :=
  countBytes kinds.toList.length ++ kinds.toList.map fun kind => UInt8.ofNat kind.ordinal

theorem kindsBytes_selfDelimiting : SelfDelimiting kindsBytes := by
  intro kinds kinds' rest rest' h
  have hle := length_kinds_le kinds
  have hle' := length_kinds_le kinds'
  unfold kindsBytes at h
  rw [List.append_assoc, List.append_assoc, List.map_eq_flatMap, List.map_eq_flatMap] at h
  obtain ⟨hkinds, hrest⟩ := counted_append_inj kindByte_selfDelimiting (by omega) (by omega) h
  exact ⟨ExtTreeSet.toList_inj.mp hkinds, hrest⟩

/-- The exit requirement is read back when the kinds follow it, as they do. -/
theorem exit_append_inj {exit exit' : ExitRequirement} {kinds kinds' : BTreeSet ArtifactKind}
    (h : UInt8.ofNat exit.tag :: (exit.codeBytes ++ (kindsBytes kinds ++ rest)) =
      UInt8.ofNat exit'.tag :: (exit'.codeBytes ++ (kindsBytes kinds' ++ rest'))) :
    exit = exit' ∧ kindsBytes kinds ++ rest = kindsBytes kinds' ++ rest' := by
  obtain ⟨htag, hcodes⟩ := List.cons.inj h
  cases exit with
  | disallowed =>
    cases exit' with
    | disallowed => exact ⟨rfl, List.append_cancel_left hcodes⟩
    | anyCompleted => exact absurd htag (by decide)
    | allowedCodes => exact absurd (show (0 : UInt8) = 2 from htag) (by decide)
  | anyCompleted =>
    cases exit' with
    | disallowed => exact absurd htag (by decide)
    | anyCompleted => exact ⟨rfl, List.append_cancel_left hcodes⟩
    | allowedCodes => exact absurd (show (1 : UInt8) = 2 from htag) (by decide)
  | allowedCodes codes =>
    cases exit' with
    | disallowed => exact absurd (show (2 : UInt8) = 0 from htag) (by decide)
    | anyCompleted => exact absurd (show (2 : UInt8) = 1 from htag) (by decide)
    | allowedCodes codes' =>
      unfold ExitRequirement.codeBytes kindsBytes at hcodes
      rw [List.append_assoc, List.append_assoc, List.append_assoc, List.append_assoc] at hcodes
      obtain ⟨rfl, hrest⟩ :=
        codes_append_inj (length_kinds_le kinds) (length_kinds_le kinds') hcodes
      refine ⟨rfl, ?_⟩
      unfold kindsBytes
      rw [List.append_assoc, List.append_assoc]
      exact hrest

theorem truncated_inj {a b : Bool} (h : (if a then 1 else 0 : UInt8) = if b then 1 else 0) :
    a = b := by
  cases a <;> cases b <;> first | rfl | exact absurd h (by decide)

theorem checkRequirementBytes_selfDelimiting : SelfDelimiting checkRequirementBytes := by
  rintro ⟨id, kind, kinds, truncated, exit, minimum⟩ ⟨id', kind', kinds', truncated', exit', minimum'⟩
    rest rest' h
  unfold checkRequirementBytes at h
  simp only [List.append_assoc, List.cons_append, List.nil_append] at h
  obtain ⟨hid, h⟩ := beBytes_append_inj id.val_lt id'.val_lt h
  obtain ⟨hkind, h⟩ := List.cons.inj h
  obtain ⟨htruncated, h⟩ := List.cons.inj h
  obtain ⟨hminimum, h⟩ := beBytes_append_inj (minimum_lt minimum) (minimum_lt minimum') h
  have hexit : UInt8.ofNat exit.tag :: (exit.codeBytes ++ (kindsBytes kinds ++ rest)) =
      UInt8.ofNat exit'.tag :: (exit'.codeBytes ++ (kindsBytes kinds' ++ rest')) := by
    unfold kindsBytes
    simp only [List.append_assoc]
    exact h
  obtain ⟨rfl, hkinds⟩ := exit_append_inj hexit
  obtain ⟨rfl, hrest⟩ := kindsBytes_selfDelimiting _ _ _ _ hkinds
  have hlt := kind.ordinal_lt
  have hlt' := kind'.ordinal_lt
  obtain rfl := CheckKind.eq_of_ordinal (byte_inj (by omega) (by omega) hkind)
  obtain rfl := truncated_inj htruncated
  obtain rfl := UInt32.toNat_inj.mp hminimum
  obtain rfl := CheckId.eq_of_val hid
  exact ⟨rfl, hrest⟩

end Requirements

/-- Policies whose check requirements can be counted in a `u32` are told apart by their bytes. -/
theorem ValidationPolicy.bytes_inj {policy policy' : ValidationPolicy}
    (hsize : policy.checkRequirements.size < 2 ^ 32)
    (hsize' : policy'.checkRequirements.size < 2 ^ 32) (h : policy.bytes = policy'.bytes) :
    policy = policy' := by
  obtain ⟨plan, phases, checks, minimum⟩ := policy
  obtain ⟨plan', phases', checks', minimum'⟩ := policy'
  unfold ValidationPolicy.bytes at h
  simp only [List.append_assoc] at h
  have h := List.append_cancel_left h
  obtain ⟨hplan, h⟩ := List.append_inj h (by rw [plan.sized, plan'.sized])
  obtain ⟨hminimum, h⟩ := beBytes_append_inj (minimum_lt minimum) (minimum_lt minimum') h
  have hphases := length_phases_le phases
  have hphases' := length_phases_le phases'
  obtain ⟨hphase, h⟩ :=
    counted_append_inj phaseRequirementBytes_selfDelimiting (by omega) (by omega) h
  have hchecks : countBytes checks.toList.length ++ (checks.toList.flatMap checkRequirementBytes ++ []) =
      countBytes checks'.toList.length ++ (checks'.toList.flatMap checkRequirementBytes ++ []) := by
    rw [List.append_nil, List.append_nil]
    exact h
  obtain ⟨hcheck, -⟩ := counted_append_inj checkRequirementBytes_selfDelimiting
    (by rwa [ExtTreeMap.length_toList]) (by rwa [ExtTreeMap.length_toList]) hchecks
  obtain rfl := UInt32.toNat_inj.mp hminimum
  obtain rfl := ExtTreeMap.toList_inj.mp hphase
  obtain rfl := ExtTreeMap.toList_inj.mp hcheck
  obtain ⟨bytes, sized⟩ := plan
  obtain ⟨bytes', sized'⟩ := plan'
  obtain rfl : bytes = bytes' := hplan
  rfl

end BirdCode.Validation
