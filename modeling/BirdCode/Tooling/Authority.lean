import BirdCode.Tooling.RepositoryReads

/-! The authority a call is given: exactly what it must keep to for it to be authorized. The order of
the grants does not matter, and wider grants authorize what narrower ones did. -/
namespace BirdCode.Tooling

open Store

section Limits

theorem limit_eq_none {limit : RepositoryLimitKindV2} {requested maximum : UInt64} {positive : Bool} :
    repositoryToolLimitV2 limit requested maximum positive = none ↔
      (positive = true → requested ≠ 0) ∧ requested ≤ maximum := by
  unfold repositoryToolLimitV2
  split
  · next hzero =>
    simp only [Bool.and_eq_true, decide_eq_true_eq] at hzero
    refine iff_of_false (Option.some_ne_none _) ?_
    intro h
    exact h.1 hzero.1 hzero.2
  · next hzero =>
    have hpositive : positive = true → requested ≠ 0 := by
      intro hp hr
      simp [hp, hr] at hzero
    split
    · next hgt => exact iff_of_false (Option.some_ne_none _) fun h => UInt64.not_le.mpr hgt h.2
    · next hle => exact iff_of_true rfl ⟨hpositive, UInt64.not_lt.mp hle⟩

theorem orElse_eq_none_iff {first second : Option RepositoryToolAuthorizationDecisionV2} :
    (first <|> second) = none ↔ first = none ∧ second = none := by
  refine ⟨orElse_eq_none, ?_⟩
  rintro ⟨rfl, rfl⟩
  rfl

end Limits

section Paths

/-- A component that can only name an entry of its own directory. -/
structure PlainComponent (component : Bytes) : Prop where
  nonempty : component ≠ []
  notCurrent : component ≠ [0x2e]
  notParent : component ≠ [0x2e, 0x2e]
  noSeparator : 0x2f ∉ component
  noNul : 0 ∉ component

theorem componentViolation_eq_none {component : Bytes} :
    componentViolation component = none ↔ PlainComponent component := by
  unfold componentViolation
  constructor
  · intro h
    split at h
    · cases h
    next hempty =>
    split at h
    · cases h
    next hcurrent =>
    split at h
    · cases h
    next hparent =>
    split at h
    · cases h
    next hslash =>
    split at h
    · cases h
    next hnul =>
    exact ⟨by simpa using hempty, hcurrent, hparent, by simpa using hslash, by simpa using hnul⟩
  · intro h
    simp [h.nonempty, h.notCurrent, h.notParent, h.noSeparator, h.noNul]

/-- Each component counts its bytes and one separator, and the count stays at its top. -/
theorem toNat_addComponentBytes (total : UInt64) (component : Bytes) :
    (addComponentBytes total component).toNat =
      min (total.toNat + (component.length + 1)) (2 ^ 64 - 1) := by
  have hlength := toNat_saturate64 component.length
  have htotal := total.toNat_lt
  unfold addComponentBytes
  by_cases hfits : total.toNat + component.length + 1 < 2 ^ 64
  · have hsum : (total + saturate64 component.length).toNat = total.toNat + component.length := by
      rw [UInt64.toNat_add, hlength, Nat.mod_eq_of_lt] <;> omega
    have hfirst : checkedAdd total (saturate64 component.length) =
        some (total + saturate64 component.length) := by
      unfold checkedAdd
      rw [if_pos (by omega)]
    have hsecond : checkedAdd (total + saturate64 component.length) 1 =
        some (total + saturate64 component.length + 1) := by
      unfold checkedAdd
      rw [if_pos (by rw [hsum]; exact hfits)]
    rw [hfirst, Option.bind_some, hsecond, Option.getD_some, UInt64.toNat_add, hsum, UInt64.toNat_one,
      Nat.mod_eq_of_lt hfits]
    omega
  · have hnone : ((checkedAdd total (saturate64 component.length)).bind fun sum => checkedAdd sum 1) =
        none := by
      rw [Option.bind_eq_none_iff]
      intro sum hsum
      have hvalue := checkedAdd_eq_some hsum
      unfold checkedAdd
      rw [if_neg]
      rw [hvalue, UInt64.toNat_one]
      omega
    rw [hnone, Option.getD_none, UInt64.toNat_ofNat', Nat.mod_eq_of_lt (by omega)]
    omega

/-- The bytes of a path, with a separator after every component. -/
def pathBytes (components : List Bytes) : ℕ := (components.map fun c => c.length + 1).sum

theorem pathBytesDecision_eq_none {maxPathBytes maxComponentBytes : UInt64} {components : List Bytes}
    {index : ℕ} {total : UInt64} :
    pathBytesDecision maxPathBytes maxComponentBytes components index total = none ↔
      (∀ component ∈ components, PlainComponent component ∧
        saturate64 component.length ≤ maxComponentBytes) ∧
      min (total.toNat + pathBytes components) (2 ^ 64 - 1) ≤ maxPathBytes.toNat := by
  induction components generalizing index total with
  | nil =>
    rw [pathBytesDecision, limit_eq_none, UInt64.le_iff_toNat_le]
    have htotal := total.toNat_lt
    simp only [pathBytes, List.map_nil, List.sum_nil, List.not_mem_nil, false_imp_iff, implies_true,
      true_and, Bool.false_eq_true]
    omega
  | cons component rest ih =>
    rw [pathBytesDecision, List.forall_mem_cons]
    have hbytes : pathBytes (component :: rest) = component.length + 1 + pathBytes rest := by
      simp [pathBytes]
    cases hviolation : componentViolation component with
    | some violation =>
      refine iff_of_false (Option.some_ne_none _) ?_
      intro h
      rw [componentViolation_eq_none.mpr h.1.1.1] at hviolation
      cases hviolation
    | none =>
      have hplain := componentViolation_eq_none.mp hviolation
      dsimp only
      rw [orElse_eq_none_iff, limit_eq_none, ih, toNat_addComponentBytes, hbytes]
      constructor
      · rintro ⟨⟨-, hcomponent⟩, hrest, htotal⟩
        exact ⟨⟨⟨hplain, hcomponent⟩, hrest⟩, by omega⟩
      · rintro ⟨⟨⟨-, hcomponent⟩, hrest⟩, htotal⟩
        exact ⟨⟨by simp, hcomponent⟩, hrest, by omega⟩

variable (bounds : RepositoryToolBounds)

/-- The path keeps to the narrowest of the hard, broker and grant ceilings. -/
structure PathWithin (path : RepositoryRelativePath) (maxPathComponents : UInt32)
    (maxPathBytes maxComponentBytes : UInt64) : Prop where
  plain : ∀ component ∈ path.unixComponents, PlainComponent component
  components : path.unixComponents.length ≤
    (min (min bounds.maxPathComponents maxPathComponents) repositoryToolHardMaxPathComponents).toNat
  componentBytes : ∀ component ∈ path.unixComponents, component.length ≤
    (min (min bounds.maxComponentBytes maxComponentBytes) repositoryToolHardMaxComponentBytes).toNat
  pathBytes : pathBytes path.unixComponents ≤
    (min (min bounds.maxPathBytes maxPathBytes) repositoryToolHardMaxPathBytes).toNat

/-- A count that is cut at its top keeps to a ceiling below the top as the count itself does. -/
theorem saturate64_le_iff {value : ℕ} {ceiling : UInt64} (h : ceiling.toNat < 2 ^ 64 - 1) :
    saturate64 value ≤ ceiling ↔ value ≤ ceiling.toNat := by
  rw [UInt64.le_iff_toNat_le, toNat_saturate64]
  omega

theorem grantedPathDecision_eq_none {path : RepositoryRelativePath} {requireFile : Bool}
    {maxPathComponents : UInt32} {maxPathBytes maxComponentBytes : UInt64} :
    grantedPathDecision bounds path requireFile maxPathComponents maxPathBytes maxComponentBytes =
        none ↔
      (requireFile = true → path.unixComponents ≠ []) ∧
      PathWithin bounds path maxPathComponents maxPathBytes maxComponentBytes := by
  have hcomponent : (min (min bounds.maxComponentBytes maxComponentBytes)
      repositoryToolHardMaxComponentBytes).toNat < 2 ^ 64 - 1 := by
    rw [toNat_min64]
    exact lt_of_le_of_lt (min_le_right _ _) (by decide)
  have hpath : (min (min bounds.maxPathBytes maxPathBytes)
      repositoryToolHardMaxPathBytes).toNat < 2 ^ 64 - 1 := by
    rw [toNat_min64]
    exact lt_of_le_of_lt (min_le_right _ _) (by decide)
  unfold grantedPathDecision repositoryToolPathDecisionV2
  split
  · next hfile =>
    simp only [Bool.and_eq_true, List.isEmpty_iff] at hfile
    refine iff_of_false (Option.some_ne_none _) ?_
    intro h
    exact h.1 hfile.1 hfile.2
  · next hfile =>
    have hnonempty : requireFile = true → path.unixComponents ≠ [] := by
      intro hrequire hempty
      simp [hrequire, hempty] at hfile
    have hcount : (min (min bounds.maxPathComponents maxPathComponents)
        repositoryToolHardMaxPathComponents).toUInt64.toNat < 2 ^ 64 - 1 := by
      rw [UInt32.toNat_toUInt64]
      exact lt_trans (UInt32.toNat_lt _) (by decide)
    rw [orElse_eq_none_iff, limit_eq_none, saturate64_le_iff hcount, UInt32.toNat_toUInt64,
      pathBytesDecision_eq_none]
    simp only [saturate64_le_iff hcomponent, UInt64.toNat_zero, Nat.zero_add]
    constructor
    · rintro ⟨⟨-, hcomponents⟩, hall, hbytes⟩
      refine ⟨hnonempty, fun c hc => (hall c hc).1, hcomponents, fun c hc => (hall c hc).2, ?_⟩
      omega
    · rintro ⟨-, hplain, hcomponents, hlengths, hbytes⟩
      refine ⟨⟨by simp, hcomponents⟩, fun c hc => ⟨hplain c hc, hlengths c hc⟩, ?_⟩
      omega

end Paths

section Operations

variable (bounds : RepositoryToolBounds)

/-- Every quantity of the operation keeps to the narrowest of its ceilings, and what must be positive
is. Only the grant has a ceiling for the offset of a read. -/
def OperationWithin : ChildToolOperation → RepositoryToolGrant → Prop
  | .repositoryTree path maxDepth maxEntries,
    .repositoryTree _ maxPathComponents maxPathBytes maxComponentBytes grantDepth grantEntries =>
    PathWithin bounds path maxPathComponents maxPathBytes maxComponentBytes ∧
    maxDepth ≤ min (min bounds.maxTreeDepth grantDepth) repositoryToolHardMaxTreeDepth ∧
    maxEntries ≠ 0 ∧
    maxEntries ≤ min (min bounds.maxTreeEntries grantEntries) repositoryToolHardMaxTreeEntries
  | .repositoryFileRead path offsetBytes maxBytes,
    .repositoryFileRead _ maxPathComponents maxPathBytes maxComponentBytes maxOffsetBytes
      grantBytes =>
    path.unixComponents ≠ [] ∧
    PathWithin bounds path maxPathComponents maxPathBytes maxComponentBytes ∧
    offsetBytes ≤ maxOffsetBytes ∧
    maxBytes ≠ 0 ∧
    maxBytes ≤ min (min bounds.maxReadBytes grantBytes) repositoryToolHardMaxReadBytes
  | .literalSearch path literal maxDepth maxFiles maxMatches maxBytesPerFile maxTotalBytes,
    .literalSearch _ maxPathComponents maxPathBytes maxComponentBytes maxLiteralBytes grantDepth
      grantFiles grantMatches grantBytesPerFile grantTotalBytes =>
    PathWithin bounds path maxPathComponents maxPathBytes maxComponentBytes ∧
    literal ≠ "" ∧
    literal.utf8ByteSize ≤ (min (min bounds.maxSearchPatternBytes maxLiteralBytes)
      repositoryToolHardMaxSearchPatternBytes).toNat ∧
    maxDepth ≤ min (min bounds.maxSearchDepth grantDepth) repositoryToolHardMaxSearchDepth ∧
    maxFiles ≠ 0 ∧
    maxFiles ≤ min (min bounds.maxSearchFiles grantFiles) repositoryToolHardMaxSearchFiles ∧
    maxMatches ≠ 0 ∧
    maxMatches ≤ min (min bounds.maxSearchMatches grantMatches)
      repositoryToolHardMaxSearchMatches ∧
    maxBytesPerFile ≠ 0 ∧
    maxBytesPerFile ≤ min (min bounds.maxSearchBytesPerFile grantBytesPerFile)
      repositoryToolHardMaxSearchBytesPerFile ∧
    maxTotalBytes ≠ 0 ∧
    maxTotalBytes ≤ min (min bounds.maxSearchTotalBytes grantTotalBytes)
      repositoryToolHardMaxSearchTotalBytes
  | _, _ => False

theorem limit32_eq_none {limit : RepositoryLimitKindV2} {requested maximum : UInt32}
    {positive : Bool} :
    repositoryToolLimitV2 limit requested.toUInt64 maximum.toUInt64 positive = none ↔
      (positive = true → requested ≠ 0) ∧ requested ≤ maximum := by
  rw [limit_eq_none, UInt64.le_iff_toNat_le, UInt32.le_iff_toNat_le, UInt32.toNat_toUInt64,
    UInt32.toNat_toUInt64]
  have hzero : requested.toUInt64 ≠ 0 ↔ requested ≠ 0 := by
    rw [ne_eq, ne_eq, ← UInt64.toNat_inj, ← UInt32.toNat_inj, UInt32.toNat_toUInt64,
      UInt64.toNat_zero, UInt32.toNat_zero]
  rw [hzero]

theorem operationDecision_eq_none {operation : ChildToolOperation} {grant : RepositoryToolGrant} :
    operationDecision bounds operation grant = none ↔ OperationWithin bounds operation grant := by
  cases operation with
  | repositoryTree path maxDepth maxEntries =>
    cases grant with
    | repositoryTree =>
      simp only [operationDecision, OperationWithin, orElse_eq_none_iff, grantedPathDecision_eq_none,
        limit32_eq_none]
      simp
    | repositoryFileRead => exact iff_of_false (Option.some_ne_none _) id
    | literalSearch => exact iff_of_false (Option.some_ne_none _) id
  | repositoryFileRead path offsetBytes maxBytes =>
    cases grant with
    | repositoryTree => exact iff_of_false (Option.some_ne_none _) id
    | repositoryFileRead =>
      simp only [operationDecision, OperationWithin, orElse_eq_none_iff, grantedPathDecision_eq_none,
        limit_eq_none]
      simp [and_assoc]
    | literalSearch => exact iff_of_false (Option.some_ne_none _) id
  | literalSearch path literal maxDepth maxFiles maxMatches maxBytesPerFile maxTotalBytes =>
    cases grant with
    | repositoryTree => exact iff_of_false (Option.some_ne_none _) id
    | repositoryFileRead => exact iff_of_false (Option.some_ne_none _) id
    | literalSearch _ _ _ _ maxLiteralBytes =>
      have hpattern : (min (min bounds.maxSearchPatternBytes maxLiteralBytes)
          repositoryToolHardMaxSearchPatternBytes).toNat < 2 ^ 64 - 1 := by
        rw [toNat_min64]
        exact lt_of_le_of_lt (min_le_right _ _) (by decide)
      have hliteral : (if literal.isEmpty then
          some (RepositoryToolAuthorizationDecisionV2.denied .emptyLiteralPattern) else none) =
            none ↔ literal ≠ "" := by
        simp
      simp only [operationDecision, OperationWithin, orElse_eq_none_iff, grantedPathDecision_eq_none,
        hliteral, limit32_eq_none]
      simp only [limit_eq_none, saturate64_le_iff hpattern]
      simp [and_assoc]

end Operations

section Grants

variable {bounds bounds' : RepositoryToolBounds} {base64 : Bytes → String}
  {grants grants' : List RepositoryToolGrant} {parameters : RepositoryToolCanonicalParameters}
  {size sequence : UInt64} {grant : RepositoryToolGrant}

def Distinct (grants : List RepositoryToolGrant) : Prop := (grants.map (·.toolGrantId)).Nodup

theorem duplicateGrantId_eq_false : duplicateGrantId grants = false ↔ Distinct grants := by
  unfold duplicateGrantId Distinct
  rw [List.Nodup, List.pairwise_map, List.pairwise_iff_getElem, List.any_eq_false]
  constructor
  · intro h i j hi hj hij heq
    have hmem : (grants[j], j) ∈ grants.zipIdx := by
      rw [List.mem_zipIdx_iff_getElem?]
      exact List.getElem?_eq_getElem hj
    apply h _ hmem
    rw [List.any_eq_true]
    refine ⟨grants[i], ?_, by simpa using heq⟩
    rw [List.mem_take_iff_getElem]
    exact ⟨i, by omega, rfl⟩
  · rintro h ⟨found, j⟩ hmem hany
    rw [List.mem_zipIdx_iff_getElem?] at hmem
    obtain ⟨hj, hfound⟩ := List.getElem?_eq_some_iff.mp hmem
    obtain ⟨prior, hprior, heq⟩ := List.any_eq_true.mp hany
    obtain ⟨i, hi, rfl⟩ := List.mem_take_iff_getElem.mp hprior
    rw [decide_eq_true_eq] at heq
    change grants[j] = found at hfound
    rw [← hfound] at heq
    exact h i j (by omega) hj (by omega) heq

theorem Distinct.eq (h : Distinct grants) {first second : RepositoryToolGrant}
    (hfirst : first ∈ grants) (hsecond : second ∈ grants)
    (heq : first.toolGrantId = second.toolGrantId) : first = second :=
  List.inj_on_of_nodup_map h hfirst hsecond heq

/-- The grant that the search finds is the only one of its id. -/
theorem Distinct.find? (h : Distinct grants) (hmem : grant ∈ grants) :
    grants.find? (·.toolGrantId = grant.toolGrantId) = some grant := by
  obtain ⟨found, hfound⟩ := Option.isSome_iff_exists.mp
    (List.find?_isSome (p := (·.toolGrantId = grant.toolGrantId)) |>.mpr ⟨grant, hmem, by simp⟩)
  rw [hfound]
  have hid := List.find?_some hfound
  rw [h.eq (List.mem_of_find?_eq_some hfound) hmem (by simpa using hid)]

theorem selectGrant_eq_ok : selectGrant grants parameters = .ok grant ↔
    Distinct grants ∧ grant ∈ grants ∧ grant.toolGrantId = parameters.toolGrantId ∧
      grant.kind = parameters.operation.kind := by
  simp only [selectGrant, bind_eq_ok, ensure_eq_ok, expect_eq_ok, duplicateGrantId_eq_false]
  constructor
  · rintro ⟨_, _, _, hdistinct, found, hfound, _, hkind, hgrant⟩
    cases hgrant
    have hid := List.find?_some hfound
    exact ⟨hdistinct, List.mem_of_find?_eq_some hfound, by simpa using hid, hkind⟩
  · rintro ⟨hdistinct, hmem, hid, hkind⟩
    refine ⟨(), ?_, (), hdistinct, grant, ?_, (), hkind, rfl⟩
    · exact List.any_eq_true.mpr ⟨grant, hmem, by simpa using hkind⟩
    · rw [← hid]
      exact hdistinct.find? hmem

theorem OperationWithin.kind_eq {operation : ChildToolOperation}
    (h : OperationWithin bounds operation grant) : grant.kind = operation.kind := by
  cases operation <;> cases grant <;> first | rfl | exact h.elim

/-- Everything that an authorized call keeps to. -/
structure Authorizes (bounds : RepositoryToolBounds) (base64 : Bytes → String)
    (grants : List RepositoryToolGrant) (parameters : RepositoryToolCanonicalParameters)
    (size sequence : UInt64) : Prop where
  brokerCalls : sequence ≠ 0 ∧
    sequence ≤ min bounds.maxCallsPerBroker repositoryToolHardMaxCallsPerBroker
  requestBytes : size ≠ 0 ∧ size ≤ min bounds.maxRequestBytes repositoryToolHardMaxRequestBytes
  distinct : Distinct grants
  granted : ∃ grant ∈ grants, grant.toolGrantId = parameters.toolGrantId ∧
    OperationWithin bounds parameters.operation grant
  artifactBytes : repositoryToolResultV2PreflightSize base64 parameters.operation ≤
    min bounds.maxArtifactBytes repositoryToolHardMaxArtifactBytes

theorem authorized_iff :
    evaluateRepositoryToolAuthorizationV1 bounds base64 grants parameters size sequence =
      .authorized ↔ Authorizes bounds base64 grants parameters size sequence := by
  rw [authorized_iff_not_denied]
  unfold denyRepositoryTool
  rw [orElse_eq_none_iff, orElse_eq_none_iff, limit_eq_none, limit_eq_none]
  constructor
  · rintro ⟨hcalls, hrequest, hgranted⟩
    split at hgranted
    · cases hgranted
    · next grant hselect =>
      rw [orElse_eq_none_iff, operationDecision_eq_none, limit_eq_none] at hgranted
      obtain ⟨hdistinct, hmem, hid, -⟩ := selectGrant_eq_ok.mp hselect
      exact ⟨⟨hcalls.1 rfl, hcalls.2⟩, ⟨hrequest.1 rfl, hrequest.2⟩, hdistinct,
        ⟨grant, hmem, hid, hgranted.1⟩, hgranted.2.2⟩
  · rintro ⟨hcalls, hrequest, hdistinct, ⟨grant, hmem, hid, hwithin⟩, hartifact⟩
    refine ⟨⟨fun _ => hcalls.1, hcalls.2⟩, ⟨fun _ => hrequest.1, hrequest.2⟩, ?_⟩
    rw [selectGrant_eq_ok.mpr ⟨hdistinct, hmem, hid, hwithin.kind_eq⟩]
    dsimp only
    rw [orElse_eq_none_iff, operationDecision_eq_none, limit_eq_none]
    exact ⟨hwithin, by simp, hartifact⟩

end Grants

section Widening

/-- Every ceiling of the broker is at least as high. -/
structure WiderBounds (bounds bounds' : RepositoryToolBounds) : Prop where
  maxCallsPerBroker : bounds.maxCallsPerBroker ≤ bounds'.maxCallsPerBroker
  maxRequestBytes : bounds.maxRequestBytes ≤ bounds'.maxRequestBytes
  maxPathComponents : bounds.maxPathComponents ≤ bounds'.maxPathComponents
  maxPathBytes : bounds.maxPathBytes ≤ bounds'.maxPathBytes
  maxComponentBytes : bounds.maxComponentBytes ≤ bounds'.maxComponentBytes
  maxReadBytes : bounds.maxReadBytes ≤ bounds'.maxReadBytes
  maxTreeDepth : bounds.maxTreeDepth ≤ bounds'.maxTreeDepth
  maxTreeEntries : bounds.maxTreeEntries ≤ bounds'.maxTreeEntries
  maxDirectoryEntriesScanned :
    bounds.maxDirectoryEntriesScanned ≤ bounds'.maxDirectoryEntriesScanned
  maxDirectoryNameBytesScanned :
    bounds.maxDirectoryNameBytesScanned ≤ bounds'.maxDirectoryNameBytesScanned
  maxSearchPatternBytes : bounds.maxSearchPatternBytes ≤ bounds'.maxSearchPatternBytes
  maxSearchDepth : bounds.maxSearchDepth ≤ bounds'.maxSearchDepth
  maxSearchFiles : bounds.maxSearchFiles ≤ bounds'.maxSearchFiles
  maxSearchMatches : bounds.maxSearchMatches ≤ bounds'.maxSearchMatches
  maxSearchBytesPerFile : bounds.maxSearchBytesPerFile ≤ bounds'.maxSearchBytesPerFile
  maxSearchTotalBytes : bounds.maxSearchTotalBytes ≤ bounds'.maxSearchTotalBytes
  maxArtifactBytes : bounds.maxArtifactBytes ≤ bounds'.maxArtifactBytes

/-- A grant of the same id and kind with every ceiling at least as high. -/
def WiderGrant : RepositoryToolGrant → RepositoryToolGrant → Prop
  | .repositoryTree id components path component depth entries,
    .repositoryTree id' components' path' component' depth' entries' =>
    id = id' ∧ components ≤ components' ∧ path ≤ path' ∧ component ≤ component' ∧
      depth ≤ depth' ∧ entries ≤ entries'
  | .repositoryFileRead id components path component offset bytes,
    .repositoryFileRead id' components' path' component' offset' bytes' =>
    id = id' ∧ components ≤ components' ∧ path ≤ path' ∧ component ≤ component' ∧
      offset ≤ offset' ∧ bytes ≤ bytes'
  | .literalSearch id components path component literal depth files found perFile total,
    .literalSearch id' components' path' component' literal' depth' files' found' perFile' total' =>
    id = id' ∧ components ≤ components' ∧ path ≤ path' ∧ component ≤ component' ∧
      literal ≤ literal' ∧ depth ≤ depth' ∧ files ≤ files' ∧ found ≤ found' ∧
      perFile ≤ perFile' ∧ total ≤ total'
  | _, _ => False

/-- The grants widened one by one, with grants of fresh ids added anywhere among them. -/
def Widens (grants grants' : List RepositoryToolGrant) : Prop :=
  ∃ widened added, List.Forall₂ WiderGrant grants widened ∧ grants'.Perm (widened ++ added) ∧
    (∀ grant ∈ added, ∀ other ∈ widened, grant.toolGrantId ≠ other.toolGrantId) ∧ Distinct added

variable {bounds bounds' : RepositoryToolBounds} {base64 : Bytes → String}
  {grants grants' : List RepositoryToolGrant} {parameters : RepositoryToolCanonicalParameters}
  {size sequence : UInt64} {grant grant' : RepositoryToolGrant}

theorem toNat_min32 (a b : UInt32) : (min a b).toNat = min a.toNat b.toNat := by
  by_cases hle : a ≤ b
  · have hmin : min a b = a := if_pos hle
    rw [UInt32.le_iff_toNat_le] at hle
    rw [hmin]
    omega
  · have hmin : min a b = b := if_neg hle
    rw [UInt32.le_iff_toNat_le] at hle
    rw [hmin]
    omega

/-- A higher broker ceiling and a higher grant ceiling leave what they bound within them. -/
theorem narrowest_mono64 {bound bound' ceiling ceiling' hard : UInt64} (hbound : bound ≤ bound')
    (hceiling : ceiling ≤ ceiling') :
    (min (min bound ceiling) hard).toNat ≤ (min (min bound' ceiling') hard).toNat := by
  simp only [toNat_min64, UInt64.le_iff_toNat_le] at hbound hceiling ⊢
  omega

theorem narrowest_mono32 {bound bound' ceiling ceiling' hard : UInt32} (hbound : bound ≤ bound')
    (hceiling : ceiling ≤ ceiling') :
    (min (min bound ceiling) hard).toNat ≤ (min (min bound' ceiling') hard).toNat := by
  simp only [toNat_min32, UInt32.le_iff_toNat_le] at hbound hceiling ⊢
  omega

theorem le_narrowest64 {value bound bound' ceiling ceiling' hard : UInt64}
    (h : value ≤ min (min bound ceiling) hard) (hbound : bound ≤ bound')
    (hceiling : ceiling ≤ ceiling') : value ≤ min (min bound' ceiling') hard :=
  UInt64.le_iff_toNat_le.mpr
    (le_trans (UInt64.le_iff_toNat_le.mp h) (narrowest_mono64 hbound hceiling))

theorem le_narrowest32 {value bound bound' ceiling ceiling' hard : UInt32}
    (h : value ≤ min (min bound ceiling) hard) (hbound : bound ≤ bound')
    (hceiling : ceiling ≤ ceiling') : value ≤ min (min bound' ceiling') hard :=
  UInt32.le_iff_toNat_le.mpr
    (le_trans (UInt32.le_iff_toNat_le.mp h) (narrowest_mono32 hbound hceiling))

theorem le_min_mono {value bound bound' hard : UInt64} (h : value ≤ min bound hard)
    (hbound : bound ≤ bound') : value ≤ min bound' hard := by
  simp only [toNat_min64, UInt64.le_iff_toNat_le] at h hbound ⊢
  omega

theorem PathWithin.mono {path : RepositoryRelativePath} {components components' : UInt32}
    {bytes bytes' component component' : UInt64} (h : PathWithin bounds path components bytes component)
    (hbounds : WiderBounds bounds bounds') (hcomponents : components ≤ components')
    (hbytes : bytes ≤ bytes') (hcomponent : component ≤ component') :
    PathWithin bounds' path components' bytes' component' := by
  refine ⟨h.plain, ?_, ?_, ?_⟩
  · exact le_trans h.components (narrowest_mono32 hbounds.maxPathComponents hcomponents)
  · intro c hc
    exact le_trans (h.componentBytes c hc) (narrowest_mono64 hbounds.maxComponentBytes hcomponent)
  · exact le_trans h.pathBytes (narrowest_mono64 hbounds.maxPathBytes hbytes)

theorem WiderGrant.toolGrantId_eq (h : WiderGrant grant grant') :
    grant.toolGrantId = grant'.toolGrantId := by
  cases grant <;> cases grant' <;> first | exact h.1 | exact h.elim

theorem OperationWithin.mono {operation : ChildToolOperation}
    (h : OperationWithin bounds operation grant) (hbounds : WiderBounds bounds bounds')
    (hgrant : WiderGrant grant grant') : OperationWithin bounds' operation grant' := by
  cases operation with
  | repositoryTree =>
    cases grant <;> cases grant' <;> first | exact h.elim | exact hgrant.elim | skip
    obtain ⟨hpath, hdepth, hzero, hentries⟩ := h
    obtain ⟨-, hc, hp, hb, hd, he⟩ := hgrant
    exact ⟨hpath.mono hbounds hc hp hb, le_narrowest32 hdepth hbounds.maxTreeDepth hd, hzero,
      le_narrowest32 hentries hbounds.maxTreeEntries he⟩
  | repositoryFileRead =>
    cases grant <;> cases grant' <;> first | exact h.elim | exact hgrant.elim | skip
    obtain ⟨hfile, hpath, hoffset, hzero, hbytes⟩ := h
    obtain ⟨-, hc, hp, hb, ho, hr⟩ := hgrant
    exact ⟨hfile, hpath.mono hbounds hc hp hb, UInt64.le_trans hoffset ho, hzero,
      le_narrowest64 hbytes hbounds.maxReadBytes hr⟩
  | literalSearch =>
    cases grant <;> cases grant' <;> first | exact h.elim | exact hgrant.elim | skip
    obtain ⟨hpath, hliteral, hpattern, hdepth, hfile, hfiles, hmatch, hmatches, hper, hperFile,
      htotal, htotalBytes⟩ := h
    obtain ⟨-, hc, hp, hb, hl, hd, hf, hm, hpf, ht⟩ := hgrant
    exact ⟨hpath.mono hbounds hc hp hb, hliteral,
      le_trans hpattern (narrowest_mono64 hbounds.maxSearchPatternBytes hl),
      le_narrowest32 hdepth hbounds.maxSearchDepth hd, hfile,
      le_narrowest32 hfiles hbounds.maxSearchFiles hf, hmatch,
      le_narrowest32 hmatches hbounds.maxSearchMatches hm, hper,
      le_narrowest64 hperFile hbounds.maxSearchBytesPerFile hpf, htotal,
      le_narrowest64 htotalBytes hbounds.maxSearchTotalBytes ht⟩

theorem map_toolGrantId_of_forall₂ {widened : List RepositoryToolGrant}
    (h : List.Forall₂ WiderGrant grants widened) :
    grants.map (·.toolGrantId) = widened.map (·.toolGrantId) := by
  induction h with
  | nil => rfl
  | cons hgrant _ ih => rw [List.map_cons, List.map_cons, hgrant.toolGrantId_eq, ih]

theorem Widens.distinct (h : Widens grants grants') (hdistinct : Distinct grants) :
    Distinct grants' := by
  obtain ⟨widened, added, hwider, hperm, hfresh, hadded⟩ := h
  unfold Distinct at hdistinct ⊢
  rw [(hperm.map _).nodup_iff, List.map_append, List.nodup_append]
  refine ⟨map_toolGrantId_of_forall₂ hwider ▸ hdistinct, hadded, ?_⟩
  intro id hid other hother
  obtain ⟨first, hfirst, rfl⟩ := List.mem_map.mp hid
  obtain ⟨second, hsecond, rfl⟩ := List.mem_map.mp hother
  exact (hfresh second hsecond first hfirst).symm

theorem Widens.exists_wider (h : Widens grants grants') (hmem : grant ∈ grants) :
    ∃ grant' ∈ grants', WiderGrant grant grant' := by
  obtain ⟨widened, added, hwider, hperm, -, -⟩ := h
  obtain ⟨grant', hgrant', hwide⟩ : ∃ grant' ∈ widened, WiderGrant grant grant' := by
    clear hperm
    induction hwider with
    | nil => cases hmem
    | cons hhead _ ih =>
      rcases List.mem_cons.mp hmem with rfl | htail
      · exact ⟨_, List.mem_cons_self, hhead⟩
      · obtain ⟨found, hfound, hwide⟩ := ih htail
        exact ⟨found, List.mem_cons_of_mem _ hfound, hwide⟩
  exact ⟨grant', hperm.mem_iff.mpr (List.mem_append_left _ hgrant'), hwide⟩

theorem Authorizes.perm (h : Authorizes bounds base64 grants parameters size sequence)
    (hperm : grants.Perm grants') : Authorizes bounds base64 grants' parameters size sequence := by
  obtain ⟨grant, hmem, hid, hwithin⟩ := h.granted
  exact ⟨h.brokerCalls, h.requestBytes, (hperm.map _).nodup_iff.mp h.distinct,
    ⟨grant, hperm.mem_iff.mp hmem, hid, hwithin⟩, h.artifactBytes⟩

theorem Authorizes.mono (h : Authorizes bounds base64 grants parameters size sequence)
    (hbounds : WiderBounds bounds bounds') (hgrants : Widens grants grants') :
    Authorizes bounds' base64 grants' parameters size sequence := by
  obtain ⟨grant, hmem, hid, hwithin⟩ := h.granted
  obtain ⟨grant', hmem', hwider⟩ := hgrants.exists_wider hmem
  exact ⟨⟨h.brokerCalls.1, le_min_mono h.brokerCalls.2 hbounds.maxCallsPerBroker⟩,
    ⟨h.requestBytes.1, le_min_mono h.requestBytes.2 hbounds.maxRequestBytes⟩,
    hgrants.distinct h.distinct,
    ⟨grant', hmem', hwider.toolGrantId_eq ▸ hid, hwithin.mono hbounds hwider⟩,
    le_min_mono h.artifactBytes hbounds.maxArtifactBytes⟩

theorem Authorizes.exactly_one (h : Authorizes bounds base64 grants parameters size sequence) :
    (grants.countP fun grant => grant.toolGrantId = parameters.toolGrantId ∧
      grant.kind = parameters.operation.kind) = 1 := by
  obtain ⟨grant, hmem, hid, hwithin⟩ := h.granted
  have hcount : grants.countP (fun other => other.toolGrantId = grant.toolGrantId) = 1 := by
    have hone := List.count_eq_one_of_mem h.distinct (List.mem_map_of_mem hmem)
    rwa [List.count, List.countP_map] at hone
  rw [← hcount]
  refine List.countP_congr ?_
  intro other hother
  simp only [decide_eq_true_eq, ← hid]
  refine ⟨And.left, fun heq => ⟨heq, ?_⟩⟩
  rw [h.distinct.eq hother hmem heq]
  exact hwithin.kind_eq

/-- The order of the grants is not looked at, what narrower bounds and grants authorize wider ones do,
and an authorized call keeps to every ceiling of the one grant that it names. -/
theorem authorization_lawful (bounds : RepositoryToolBounds) (base64 : Bytes → String)
    (grants : List RepositoryToolGrant) (parameters : RepositoryToolCanonicalParameters)
    (size sequence : UInt64) :
    (∀ grants', grants.Perm grants' →
      (evaluateRepositoryToolAuthorizationV1 bounds base64 grants parameters size sequence =
        .authorized ↔
      evaluateRepositoryToolAuthorizationV1 bounds base64 grants' parameters size sequence =
        .authorized)) ∧
    (∀ bounds' grants', Distinct grants → WiderBounds bounds bounds' → Widens grants grants' →
      evaluateRepositoryToolAuthorizationV1 bounds base64 grants parameters size sequence =
        .authorized →
      evaluateRepositoryToolAuthorizationV1 bounds' base64 grants' parameters size sequence =
        .authorized) ∧
    (evaluateRepositoryToolAuthorizationV1 bounds base64 grants parameters size sequence =
        .authorized →
      (grants.countP fun grant => grant.toolGrantId = parameters.toolGrantId ∧
        grant.kind = parameters.operation.kind) = 1 ∧
      Authorizes bounds base64 grants parameters size sequence) := by
  refine ⟨?_, ?_, ?_⟩
  · intro grants' hperm
    rw [authorized_iff, authorized_iff]
    exact ⟨fun h => h.perm hperm, fun h => h.perm hperm.symm⟩
  · intro bounds' grants' _ hbounds hgrants h
    rw [authorized_iff] at h ⊢
    exact h.mono hbounds hgrants
  · intro h
    rw [authorized_iff] at h
    exact ⟨h.exactly_one, h⟩

end Widening

section Sample

def widerReadGrant : RepositoryToolGrant := .repositoryFileRead (sampleId 1) 8 64 16 0 64

def siblingGrant : RepositoryToolGrant := .repositoryTree (sampleId 2) 4 64 16 1 8

theorem WiderBounds.refl (bounds : RepositoryToolBounds) : WiderBounds bounds bounds := by
  constructor <;> first | exact UInt64.le_refl _ | exact UInt32.le_refl _

theorem widens_sample : Widens [readGrant] [siblingGrant, widerReadGrant] := by
  refine ⟨[widerReadGrant], [siblingGrant], ?_, List.Perm.swap _ _ _, ?_, ?_⟩
  · refine List.Forall₂.cons ?_ List.Forall₂.nil
    exact ⟨rfl, by decide, by decide, by decide, by decide, by decide⟩
  · decide
  · exact List.nodup_singleton _

/-- A read under one grant stays authorized when the grant is widened and a sibling is added. -/
theorem authorization_lawful_sample :
    evaluateRepositoryToolAuthorizationV1 walkedBounds readBase64 [readGrant] readParameters 64 1 =
        .authorized ∧
      evaluateRepositoryToolAuthorizationV1 walkedBounds readBase64
        [siblingGrant, widerReadGrant] readParameters 64 1 = .authorized ∧
      Authorizes walkedBounds readBase64 [readGrant] readParameters 64 1 := by
  have hauthorized : evaluateRepositoryToolAuthorizationV1 walkedBounds readBase64 [readGrant]
      readParameters 64 1 = .authorized := by decide +kernel
  obtain ⟨-, hmono, hsound⟩ := authorization_lawful walkedBounds readBase64 [readGrant]
    readParameters 64 1
  exact ⟨hauthorized, hmono walkedBounds _ (List.nodup_singleton _) (WiderBounds.refl _)
    widens_sample hauthorized, (hsound hauthorized).2⟩

end Sample

end BirdCode.Tooling
