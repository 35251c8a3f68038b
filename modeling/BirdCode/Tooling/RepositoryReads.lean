import BirdCode.Store.ChildRuns
import BirdCode.Tooling.Broker
import BirdCode.Tooling.SearchResults

/-! What an authorized call reads of a tree that does not change is accepted: it answers the call,
fits an artifact, and is read back from its bytes. -/
namespace BirdCode.Tooling

open Store Lib

section Execute

/-- `execute_unix` on an opened root that does not change. -/
def executeUnix (base64 : Bytes → String) (broker : BrokerSetup) (root : Node)
    (operation : ChildToolOperation) :
    Except RepositoryToolFailure (RepositoryToolResultV2 Bytes) := do
  let observedRoot := identity root
  ensure (observedRoot = broker.rootIdentity)
    (.snapshotIdentityChanged broker.rootIdentity observedRoot)
  let bounds := broker.authority.brokerBounds
  match operation with
  | .repositoryTree path maxDepth maxEntries =>
    return .repositoryTree (← tree base64 root path maxDepth maxEntries bounds)
  | .repositoryFileRead path offsetBytes maxBytes =>
    return .repositoryFileRead (← readFile base64 root path offsetBytes maxBytes bounds)
  | .literalSearch path literal maxDepth maxFiles maxMatches maxBytesPerFile maxTotalBytes =>
    return .literalSearch (← literalSearch base64 root path literal maxDepth maxFiles maxMatches
      maxBytesPerFile maxTotalBytes bounds)

end Execute

section Reads

variable {base64 : Bytes → String} {root : Node} {path : RepositoryRelativePath}
  {offsetBytes maxBytes : UInt64} {bounds : RepositoryToolBounds}
  {result : RepositoryReadFileResultV2 Bytes}

/-- The length of base64 text, none of which is escaped in JSON. -/
structure Base64Lengths (base64 : Bytes → String) : Prop where
  plain : ∀ bytes, ∀ c ∈ (base64 bytes).toList, Json.escaped c = String.utf8EncodeChar c
  expands : ∀ bytes, (base64 bytes).utf8ByteSize = (bytes.length + 2) / 3 * 4

def readLength (result : RepositoryReadFileResultV2 String) : ℕ :=
  (RepositoryToolResultV2.json (.repositoryFileRead result)).length

/-- What a read result takes besides its content, the length of the file and the flag. -/
def readFrame (path : RepositoryRelativePath) (offsetBytes : UInt64) : ℕ :=
  Json.framing ["tool", "result"] + (Json.string "repository_file_read").length +
    Json.framing ["path", "offset_bytes", "bytes_base64", "file_byte_len", "truncated"] +
    path.json.length + (u64 offsetBytes).length + 2

theorem readLength_eq (hbase64 : Base64Lengths base64) (path : RepositoryRelativePath)
    (offsetBytes : UInt64) (bytes : Bytes) (fileByteLen : UInt64) (truncated : Bool) :
    readLength ⟨path, offsetBytes, base64 bytes, fileByteLen, truncated⟩ =
      readFrame path offsetBytes + (bytes.length + 2) / 3 * 4 + (u64 fileByteLen).length +
        (Json.boolean truncated).length := by
  have hcontent := Json.length_string_of_plain (hbase64.plain bytes)
  rw [hbase64.expands] at hcontent
  simp only [readLength, RepositoryToolResultV2.json, RepositoryReadFileResultV2.json,
    Json.length_object, List.map_cons, List.map_nil, List.sum_cons, List.sum_nil, readFrame,
    hcontent]
  omega

/-- Base64 text of at most three quarters of the room fits into it. -/
theorem base64_fits {most ceiling fixed widest content length : ℕ} (hceiling : ceiling < most)
    (hwidest : min widest most ≤ ceiling) (hfixed : fixed ≤ widest)
    (hcontent : content ≤ min ((ceiling - min fixed most) / 4 * 3) most)
    (hlength : length ≤ fixed) : length + (content + 2) / 3 * 4 ≤ ceiling := by
  omega

/-- The content that was read leaves room for everything else in the result. -/
theorem readLength_le (hbase64 : Base64Lengths base64) {ceiling : UInt64} {bytes : Bytes}
    {fileByteLen : UInt64} (truncated : Bool) (hceiling : ceiling.toNat < 2 ^ 64 - 1)
    (hpreflight : repositoryToolResultV2PreflightSize base64
      (.repositoryFileRead path offsetBytes maxBytes) ≤ ceiling)
    (hbytes : bytes.length ≤ (rawContentBudget ceiling
      (canonicalLen ((RepositoryToolResultV2.repositoryFileRead
        ⟨path, offsetBytes, [], fileByteLen, false⟩).map base64).json)).toNat) :
    readLength ⟨path, offsetBytes, base64 bytes, fileByteLen, truncated⟩ ≤ ceiling.toNat := by
  have hfile := length_u64_le fileByteLen
  have htruncated := Json.length_boolean_le truncated
  have hempty : ((RepositoryToolResultV2.repositoryFileRead
      ⟨path, offsetBytes, [], fileByteLen, false⟩).map base64).json.length =
      readFrame path offsetBytes + (u64 fileByteLen).length + 5 := by
    change readLength ⟨path, offsetBytes, base64 [], fileByteLen, false⟩ = _
    rw [readLength_eq hbase64, length_false]
    rfl
  have hwidest : ((emptyResult (.repositoryFileRead path offsetBytes maxBytes)).map
      base64).json.length = readFrame path offsetBytes + 20 + 5 := by
    change readLength ⟨path, offsetBytes, base64 [], widestCounter, false⟩ = _
    rw [readLength_eq hbase64, length_false, length_widestCounter]
    rfl
  rw [UInt64.le_iff_toNat_le, repositoryToolResultV2PreflightSize, toNat_saturate64,
    hwidest] at hpreflight
  rw [rawContentBudget, toNat_saturate64, toNat_saturatingSub64, canonicalLen, toNat_saturate64,
    hempty] at hbytes
  have hframe : readFrame path offsetBytes + (u64 fileByteLen).length +
      (Json.boolean truncated).length ≤ readFrame path offsetBytes + (u64 fileByteLen).length + 5 :=
    by omega
  have hfits := base64_fits hceiling hpreflight (by omega) hbytes hframe
  rw [readLength_eq hbase64]
  omega

/-- What a successful read returns of the content of its file. -/
theorem readFile_eq_ok (hroot : WellFormed root)
    (h : readFile base64 root path offsetBytes maxBytes bounds = .ok result) :
    ∃ content bytes : Bytes, ∃ fileByteLen : UInt64,
      repositoryToolResultV2PreflightSize base64 (.repositoryFileRead path offsetBytes maxBytes) ≤
        bounds.maxArtifactBytes ∧
      fileByteLen.toNat = content.length ∧ content.length < 2 ^ 63 ∧
      offsetBytes ≤ fileByteLen ∧
      bytes = (content.drop offsetBytes.toNat).take (min (min
        (saturatingSub64 fileByteLen offsetBytes) maxBytes)
          (rawContentBudget bounds.maxArtifactBytes (canonicalLen
            ((RepositoryToolResultV2.repositoryFileRead
              ⟨path, offsetBytes, [], fileByteLen, false⟩).map base64).json))).toNat ∧
      result = {
        path
        offsetBytes
        bytes
        fileByteLen
        truncated := saturatingAdd64 offsetBytes (saturate64 bytes.length) < fileByteLen } := by
  simp only [readFile, CanonicalResultBudget.new, openFile, bind_eq_ok, ensure_eq_ok,
    expect_eq_ok, pure, Except.pure, Except.ok.injEq] at h
  obtain ⟨_, ⟨_, hpreflight, _⟩, node, ⟨name, hname, parent, hparent, child, hchild, _, _, rfl⟩,
    _, _, hrest⟩ := h
  have hnode : WellFormed child :=
    (hroot.of_lookup (openDirectory_eq_ok hparent)).of_lookup hchild
  cases child with
  | branch label children => cases hrest
  | leaf value =>
    cases value with
    | symlink identity => cases hrest
    | other identity => cases hrest
    | regularFile identity content =>
      simp only [bind_eq_ok, ensure_eq_ok, Except.ok.injEq] at hrest
      obtain ⟨_, rfl, _, hoffset, rfl⟩ := hrest
      have hlength := hnode.byteLen [] identity content rfl
      exact ⟨content, _, _, hpreflight, toNat_fileByteLen hlength, length_lt_of_byteLen hlength,
        hoffset, rfl, rfl⟩

/-- A read returns what the call asked for. -/
theorem read_coherent (hroot : WellFormed root)
    (h : readFile base64 root path offsetBytes maxBytes bounds = .ok result) :
    resultIsCoherent (.repositoryFileRead path offsetBytes maxBytes) (.repositoryFileRead result)
      bounds = true := by
  obtain ⟨content, bytes, fileByteLen, _, hlength, hshort, hoffset, hbytes, rfl⟩ :=
    readFile_eq_ok hroot h
  have hread : bytes.length ≤ maxBytes.toNat ∧
      bytes.length ≤ content.length - offsetBytes.toNat := by
    rw [hbytes, List.length_take, List.length_drop, toNat_min64, toNat_min64]
    omega
  rw [UInt64.le_iff_toNat_le, hlength] at hoffset
  have hcounted : (saturate64 bytes.length).toNat = bytes.length := by
    rw [toNat_saturate64]
    omega
  have hwithin : saturate64 bytes.length ≤ maxBytes := by
    rw [UInt64.le_iff_toNat_le, hcounted]
    exact hread.1
  have hend : saturatingAdd64 offsetBytes (saturate64 bytes.length) ≤ fileByteLen := by
    rw [UInt64.le_iff_toNat_le, toNat_saturatingAdd64, hcounted, hlength]
    omega
  have hstart : offsetBytes ≤ fileByteLen := by
    rw [UInt64.le_iff_toNat_le, hlength]
    exact hoffset
  simp only [resultIsCoherent, RepositoryToolResultV2.mechanicallyMatchesOperation,
    readIsCoherent, hwithin, hend, hstart, decide_true, Bool.and_self]

theorem read_length_le (hbase64 : Base64Lengths base64) (hroot : WellFormed root)
    (hceiling : bounds.maxArtifactBytes.toNat < 2 ^ 64 - 1)
    (h : readFile base64 root path offsetBytes maxBytes bounds = .ok result) :
    ((RepositoryToolResultV2.repositoryFileRead result).map base64).json.length ≤
      bounds.maxArtifactBytes.toNat := by
  obtain ⟨content, bytes, fileByteLen, hpreflight, _, _, _, hbytes, rfl⟩ :=
    readFile_eq_ok hroot h
  apply readLength_le hbase64 _ hceiling hpreflight
  have hread := List.length_take_le (min (min (saturatingSub64 fileByteLen offsetBytes) maxBytes)
    (rawContentBudget bounds.maxArtifactBytes (canonicalLen
      ((RepositoryToolResultV2.repositoryFileRead
        ⟨path, offsetBytes, [], fileByteLen, false⟩).map base64).json))).toNat
    (content.drop offsetBytes.toNat)
  rw [← hbytes, toNat_min64] at hread
  exact hread.trans (Nat.min_le_right _ _)

theorem available_readFile :
    Available (readFile base64 root path offsetBytes maxBytes bounds) := by
  unfold readFile openFile ensureSameDevice
  refine errorsIn_bind (available_new _ _) fun _ _ => ?_
  refine errorsIn_bind ?_ fun node _ => ?_
  · refine errorsIn_bind (errorsIn_expect (by simp) _) fun _ _ => ?_
    refine errorsIn_bind (available_openDirectory _ _) fun _ _ => ?_
    refine errorsIn_bind (errorsIn_expect (by simp) _) fun _ _ => ?_
    exact errorsIn_bind (errorsIn_ensure (by simp)) fun _ _ => errorsIn_ok _
  · refine errorsIn_bind (errorsIn_ensure (by simp)) fun _ _ => ?_
    have hwrong : ∀ kind, Available (T := RepositoryReadFileResultV2 Bytes)
        (.error (.wrongFileType .regularFile kind)) := by
      intro kind
      exact errorsIn_error (by simp)
    cases node with
    | branch label children => exact hwrong _
    | leaf value =>
      cases value with
      | symlink identity => exact hwrong _
      | other identity => exact hwrong _
      | regularFile identity content =>
        refine errorsIn_bind (errorsIn_ok content) fun _ _ => ?_
        exact errorsIn_bind (errorsIn_ensure (by simp)) fun _ _ => errorsIn_ok _

end Reads

section Authorized

variable {bounds : RepositoryToolBounds} {base64 : Bytes → String}
  {grants : List RepositoryToolGrant} {parameters : RepositoryToolCanonicalParameters}
  {size sequence : UInt64}

/-- A rule that either says nothing or denies. -/
def Denies (decision : Option RepositoryToolAuthorizationDecisionV2) : Prop :=
  decision ≠ some .authorized

theorem denies_none : Denies none := by
  intro h
  cases h

theorem denies_denied (denial : RepositoryToolPreparationDenialV2) :
    Denies (some (.denied denial)) := by
  intro h
  cases h

theorem denies_limit (limit : RepositoryLimitKindV2) (requested maximum : UInt64)
    (positive : Bool) : Denies (repositoryToolLimitV2 limit requested maximum positive) := by
  unfold repositoryToolLimitV2
  split
  · exact denies_denied _
  · split
    · exact denies_denied _
    · exact denies_none

theorem denies_orElse {first second : Option RepositoryToolAuthorizationDecisionV2}
    (hfirst : Denies first) (hsecond : Denies second) : Denies (first <|> second) := by
  cases first with
  | none => exact hsecond
  | some decision => exact hfirst

theorem denies_pathBytes (maxPathBytes maxComponentBytes : UInt64) (components : List Bytes)
    (index : ℕ) (total : UInt64) :
    Denies (pathBytesDecision maxPathBytes maxComponentBytes components index total) := by
  induction components generalizing index total with
  | nil => exact denies_limit _ _ _ _
  | cons component rest ih =>
    rw [pathBytesDecision]
    split
    · exact denies_denied _
    · exact denies_orElse (denies_limit _ _ _ _) (ih _ _)

theorem denies_path (path : RepositoryRelativePath) (requireFile : Bool)
    (maxPathComponents : UInt32) (maxPathBytes maxComponentBytes : UInt64) :
    Denies (grantedPathDecision bounds path requireFile maxPathComponents maxPathBytes
      maxComponentBytes) := by
  unfold grantedPathDecision repositoryToolPathDecisionV2
  split
  · exact denies_denied _
  · exact denies_orElse (denies_limit _ _ _ _) (denies_pathBytes _ _ _ _ _)

theorem denies_operation (operation : ChildToolOperation) (grant : RepositoryToolGrant) :
    Denies (operationDecision bounds operation grant) := by
  unfold operationDecision
  split
  · refine denies_orElse (denies_path _ _ _ _ _) ?_
    exact denies_orElse (denies_limit _ _ _ _) (denies_limit _ _ _ _)
  · refine denies_orElse (denies_path _ _ _ _ _) ?_
    exact denies_orElse (denies_limit _ _ _ _) (denies_limit _ _ _ _)
  · refine denies_orElse (denies_path _ _ _ _ _) (denies_orElse ?_ ?_)
    · split
      · exact denies_denied _
      · exact denies_none
    · refine denies_orElse (denies_limit _ _ _ _) (denies_orElse (denies_limit _ _ _ _) ?_)
      refine denies_orElse (denies_limit _ _ _ _) (denies_orElse (denies_limit _ _ _ _) ?_)
      exact denies_orElse (denies_limit _ _ _ _) (denies_limit _ _ _ _)
  · exact denies_denied _

theorem orElse_eq_none {first second : Option RepositoryToolAuthorizationDecisionV2}
    (h : (first <|> second) = none) : first = none ∧ second = none := by
  cases first with
  | none => exact ⟨rfl, h⟩
  | some decision => cases h

theorem denies_select {decision : RepositoryToolAuthorizationDecisionV2}
    (h : selectGrant grants parameters = .error decision) : Denies (some decision) := by
  revert decision
  change ErrorsIn (fun decision => Denies (some decision)) (selectGrant grants parameters)
  unfold selectGrant
  refine errorsIn_bind (errorsIn_ensure (denies_denied _)) fun _ _ => ?_
  refine errorsIn_bind (errorsIn_ensure (denies_denied _)) fun _ _ => ?_
  refine errorsIn_bind (errorsIn_expect (by exact denies_denied _) _) fun grant _ => ?_
  exact errorsIn_bind (errorsIn_ensure (denies_denied _)) fun _ _ => errorsIn_ok grant

theorem denies_tool :
    Denies (denyRepositoryTool bounds base64 grants parameters size sequence) := by
  unfold denyRepositoryTool
  refine denies_orElse (denies_limit _ _ _ _) (denies_orElse (denies_limit _ _ _ _) ?_)
  split
  · next hselect => exact denies_select hselect
  · exact denies_orElse (denies_operation _ _) (denies_limit _ _ _ _)

/-- A call is authorized when nothing denies it. -/
theorem authorized_iff_not_denied :
    evaluateRepositoryToolAuthorizationV1 bounds base64 grants parameters size sequence =
      .authorized ↔
    denyRepositoryTool bounds base64 grants parameters size sequence = none := by
  unfold evaluateRepositoryToolAuthorizationV1
  cases hdecision : denyRepositoryTool bounds base64 grants parameters size sequence with
  | none => exact iff_of_true rfl rfl
  | some decision =>
    refine iff_of_false ?_ (Option.some_ne_none decision)
    intro h
    rw [Option.getD_some] at h
    rw [h] at hdecision
    exact denies_tool hdecision

/-- A call is authorized when the rules of its operation under its grant say nothing. -/
theorem authorized_operation
    (h : evaluateRepositoryToolAuthorizationV1 bounds base64 grants parameters size sequence =
      .authorized) : ∃ grant, operationDecision bounds parameters.operation grant = none := by
  have hnone := authorized_iff_not_denied.mp h
  unfold denyRepositoryTool at hnone
  obtain ⟨_, hgranted⟩ := orElse_eq_none (orElse_eq_none hnone).2
  split at hgranted
  · cases hgranted
  · next grant _ => exact ⟨grant, (orElse_eq_none hgranted).1⟩

theorem limit_positive {limit : RepositoryLimitKindV2} {requested maximum : UInt64}
    (h : repositoryToolLimitV2 limit requested maximum true = none) : 0 < requested.toNat := by
  rw [Nat.pos_iff_ne_zero]
  intro hzero
  have hrequested : requested = 0 := UInt64.toNat_inj.mp hzero
  simp [repositoryToolLimitV2, hrequested] at h

/-- No search is authorized without room for a match. -/
theorem authorized_matches {path : RepositoryRelativePath} {literal : String}
    {maxDepth maxFiles maxMatches : UInt32} {maxBytesPerFile maxTotalBytes : UInt64}
    (h : evaluateRepositoryToolAuthorizationV1 bounds base64 grants parameters size sequence =
      .authorized)
    (hoperation : parameters.operation = .literalSearch path literal maxDepth maxFiles maxMatches
      maxBytesPerFile maxTotalBytes) : 0 < maxMatches.toNat := by
  obtain ⟨grant, hgrant⟩ := authorized_operation h
  rw [hoperation] at hgrant
  unfold operationDecision at hgrant
  cases grant with
  | repositoryTree => cases hgrant
  | repositoryFileRead => cases hgrant
  | literalSearch =>
    have hpattern := (orElse_eq_none (orElse_eq_none hgrant).2).2
    have hfiles := (orElse_eq_none (orElse_eq_none hpattern).2).2
    have hmatches := (orElse_eq_none (orElse_eq_none hfiles).2).1
    have hpositive := limit_positive hmatches
    rw [UInt32.toNat_toUInt64] at hpositive
    exact hpositive

theorem forM_ensure {T : Type} {items : List T} {rule : T → Prop} [DecidablePred rule]
    {error : T → BrokerOpenError}
    (h : items.forM (fun item => ensure (rule item) (error item)) = .ok ()) :
    ∀ item ∈ items, rule item := by
  induction items with
  | nil =>
    intro item hitem
    cases hitem
  | cons first rest ih =>
    change (ensure (rule first) (error first) >>= fun _ =>
      rest.forM fun item => ensure (rule item) (error item)) = .ok () at h
    rw [bind_eq_ok] at h
    obtain ⟨_, hfirst, hrest⟩ := h
    intro item hitem
    rcases List.mem_cons.mp hitem with rfl | hitem
    · exact ensure_eq_ok.mp hfirst
    · exact ih hrest item hitem

theorem artifactBytes_le (h : validateBounds bounds = .ok ()) :
    bounds.maxArtifactBytes ≤ repositoryToolHardMaxArtifactBytes := by
  have hrule : ∀ limit ∈ boundLimits bounds, limit.2.1 ≠ 0 ∧ limit.2.1 ≤ limit.2.2 :=
    forM_ensure h
  exact (hrule (.artifactBytes, bounds.maxArtifactBytes, repositoryToolHardMaxArtifactBytes)
    (by simp [boundLimits])).2

end Authorized

section Accepted

variable {platform : Platform} {broker : BrokerSetup} {root : Node}
  {operation : ChildToolOperation} {result : RepositoryToolResultV2 Bytes}

/-- The codecs of other packages give back what a result was written as. -/
structure RoundTrips (platform : Platform) (result : RepositoryToolResultV2 Bytes) : Prop where
  base64 : ∀ read, result = .repositoryFileRead read →
    platform.fromBase64 (platform.base64 read.bytes) = some read.bytes
  json : platform.readResult (resultBytes platform result) = some (result.map platform.base64)

theorem available_executeUnix {base64 : Bytes → String} (hroot : WellFormed root) :
    Available (executeUnix base64 broker root operation) := by
  unfold executeUnix
  refine errorsIn_bind (errorsIn_ensure (by simp)) fun _ _ => ?_
  cases operation with
  | repositoryTree path maxDepth maxEntries =>
    exact errorsIn_bind (available_tree root path maxDepth maxEntries) fun _ _ => errorsIn_ok _
  | repositoryFileRead path offsetBytes maxBytes =>
    exact errorsIn_bind available_readFile fun _ _ => errorsIn_ok _
  | literalSearch path literal maxDepth maxFiles maxMatches maxBytesPerFile maxTotalBytes =>
    exact errorsIn_bind (available_literalSearch hroot _ _ _ _ _ _ _) fun _ _ => errorsIn_ok _

/-- A result answers its call, within the bytes of an artifact. -/
theorem executeUnix_coherent (hbase64 : Base64Lengths platform.base64) (hroot : WellFormed root)
    (hmatches : ∀ path literal maxDepth maxFiles maxMatches maxBytesPerFile maxTotalBytes,
      operation = .literalSearch path literal maxDepth maxFiles maxMatches maxBytesPerFile
        maxTotalBytes → 0 < maxMatches.toNat)
    (hceiling : broker.authority.brokerBounds.maxArtifactBytes.toNat < 2 ^ 64 - 1)
    (h : executeUnix platform.base64 broker root operation = .ok result) :
    resultIsCoherent operation result broker.authority.brokerBounds = true ∧
      (resultBytes platform result).length ≤
        broker.authority.brokerBounds.maxArtifactBytes.toNat := by
  unfold executeUnix at h
  rw [bind_eq_ok] at h
  obtain ⟨_, _, h⟩ := h
  cases operation with
  | repositoryTree path maxDepth maxEntries =>
    simp only [bind_eq_ok, pure, Except.pure, Except.ok.injEq] at h
    obtain ⟨listed, htree, rfl⟩ := h
    exact ⟨tree_coherent hroot htree, tree_length_le hroot htree⟩
  | repositoryFileRead path offsetBytes maxBytes =>
    simp only [bind_eq_ok, pure, Except.pure, Except.ok.injEq] at h
    obtain ⟨read, hread, rfl⟩ := h
    exact ⟨read_coherent hroot hread, read_length_le hbase64 hroot hceiling hread⟩
  | literalSearch path literal maxDepth maxFiles maxMatches maxBytesPerFile maxTotalBytes =>
    simp only [bind_eq_ok, pure, Except.pure, Except.ok.injEq] at h
    obtain ⟨found, hsearch, rfl⟩ := h
    exact ⟨search_coherent hroot (hmatches _ _ _ _ _ _ _ rfl) hsearch,
      search_length_le hroot hsearch⟩

theorem encodeWithin_of_le {maximum : UInt64} {bytes : Bytes}
    (h : bytes.length ≤ maximum.toNat) : encodeWithin maximum bytes = .ok bytes := by
  have hle : saturate64 bytes.length ≤ maximum := by
    rw [UInt64.le_iff_toNat_le, toNat_saturate64]
    omega
  simp [encodeWithin, ensure, hle, pure, Except.pure, bind, Except.bind]

/-- A coherent result within the bytes of an artifact is recorded as a success. -/
theorem observedSuccess_eq {completion : Completion}
    (hcoherent : resultIsCoherent completion.prepared.receipt.operation result
      completion.prepared.receipt.authority.brokerBounds = true)
    (hlength : (resultBytes platform result).length ≤
      completion.prepared.receipt.authority.brokerBounds.maxArtifactBytes.toNat)
    (hhard : completion.prepared.receipt.authority.brokerBounds.maxArtifactBytes ≤
      repositoryToolHardMaxArtifactBytes) :
    observedSuccess platform broker completion result =
      observed platform broker completion
        (.succeeded (RetainedArtifactV2.fromBytes platform repositoryToolResultV2MediaType
          (resultBytes platform result)).artifact) .readOnlyFilesystemAccessAttempted
        [RetainedArtifactV2.fromBytes platform repositoryToolResultV2MediaType
          (resultBytes platform result)] := by
  rw [UInt64.le_iff_toNat_le] at hhard
  have hencoded : encodeRepositoryToolResultV2 platform result =
      .ok (resultBytes platform result) := encodeWithin_of_le (hlength.trans hhard)
  have hsize : ¬ saturate64 (resultBytes platform result).length >
      completion.prepared.receipt.authority.brokerBounds.maxArtifactBytes := by
    rw [gt_iff_lt, UInt64.lt_iff_toNat_lt, toNat_saturate64]
    omega
  unfold observedSuccess
  simp only [hcoherent, hencoded, hsize, Bool.true_eq_false, if_false]

theorem length_base64_le (hbase64 : Base64Lengths platform.base64)
    (read : RepositoryReadFileResultV2 Bytes) :
    (platform.base64 read.bytes).utf8ByteSize ≤
      (resultBytes platform (.repositoryFileRead read)).length := by
  have hlength := readLength_eq hbase64 read.path read.offsetBytes read.bytes read.fileByteLen
    read.truncated
  have hbytes : (resultBytes platform (.repositoryFileRead read)).length =
      readLength ⟨read.path, read.offsetBytes, platform.base64 read.bytes, read.fileByteLen,
        read.truncated⟩ := rfl
  rw [hbytes, hlength, hbase64.expands]
  omega

theorem decode_encoded (hbase64 : Base64Lengths platform.base64)
    (hlength : (resultBytes platform result).length ≤ repositoryToolHardMaxArtifactBytes.toNat)
    (hround : RoundTrips platform result) :
    decodeRepositoryToolResultV2 platform (resultBytes platform result) = .ok result := by
  have hle : saturate64 (resultBytes platform result).length ≤
      repositoryToolHardMaxArtifactBytes := by
    rw [UInt64.le_iff_toNat_le, toNat_saturate64]
    omega
  have hread : deserializeResult platform (result.map platform.base64) = some result := by
    cases result with
    | repositoryTree tree => rfl
    | literalSearch search => rfl
    | repositoryFileRead read =>
      have hencoded := (length_base64_le hbase64 read).trans hlength
      have hshort : ¬ (platform.base64 read.bytes).utf8ByteSize > maxEncodedBytes := by
        unfold maxEncodedBytes
        omega
      have hdecoded : deserializeBase64 platform (platform.base64 read.bytes) =
          some read.bytes := by
        rw [deserializeBase64, if_neg hshort, hround.base64 read rfl]
        simp
      simp only [RepositoryToolResultV2.map, deserializeResult, hdecoded, Option.map_some]
  have hvalue : (platform.readResult (resultBytes platform result)).bind
      (deserializeResult platform) = some result := by
    rw [hround.json, Option.bind_some, hread]
  simp [decodeRepositoryToolResultV2, decodeWithin, hvalue, ensure, expect, hle, pure,
    Except.pure, bind, Except.bind]

/-- A broker opened with valid bounds never fails an authorized read of a tree that does not change
for its own state, and what the read returns is coherent, fits the artifact ceiling, is recorded
as a success, and is decoded from its bytes. -/
theorem executeUnix_accepted {authority : RepositoryToolReceiptAuthorityV2}
    {epoch : RepositoryBrokerEpochState} {rootIdentity : RepositoryFileIdentity}
    {grants : List RepositoryToolGrant} {parameters : RepositoryToolCanonicalParameters}
    {size sequence : UInt64} (hopen : openBroker authority epoch rootIdentity = .ok broker)
    (hauthorized : evaluateRepositoryToolAuthorizationV1 broker.authority.brokerBounds
      platform.base64 grants parameters size sequence = .authorized)
    (hbase64 : Base64Lengths platform.base64) (hroot : WellFormed root) :
    executeUnix platform.base64 broker root parameters.operation ≠
        .error .brokerStateUnavailable ∧
      ∀ result, executeUnix platform.base64 broker root parameters.operation = .ok result →
        resultIsCoherent parameters.operation result broker.authority.brokerBounds = true ∧
          (resultBytes platform result).length ≤
            broker.authority.brokerBounds.maxArtifactBytes.toNat ∧
          (∀ completion : Completion,
            completion.prepared.receipt.operation = parameters.operation →
            completion.prepared.receipt.authority = broker.authority →
            observedSuccess platform broker completion result =
              observed platform broker completion
                (.succeeded (RetainedArtifactV2.fromBytes platform
                  repositoryToolResultV2MediaType (resultBytes platform result)).artifact)
                .readOnlyFilesystemAccessAttempted
                [RetainedArtifactV2.fromBytes platform repositoryToolResultV2MediaType
                  (resultBytes platform result)]) ∧
          (RoundTrips platform result →
            encodeRepositoryToolResultV2 platform result = .ok (resultBytes platform result) ∧
              decodeRepositoryToolResultV2 platform (resultBytes platform result) =
                .ok result) := by
  simp only [openBroker, validateAuthority, bind_eq_ok, ensure_eq_ok, pure, Except.pure,
    Except.ok.injEq] at hopen
  obtain ⟨_, ⟨_, _, hbounds⟩, _, _, _, _, rfl⟩ := hopen
  have hhard := artifactBytes_le hbounds
  have hhardNat := UInt64.le_iff_toNat_le.mp hhard
  have hmaximum : repositoryToolHardMaxArtifactBytes.toNat < 2 ^ 64 - 1 := by decide
  have hmatches := fun path literal maxDepth maxFiles maxMatches maxBytesPerFile maxTotalBytes
      (hoperation : parameters.operation = .literalSearch path literal maxDepth maxFiles
        maxMatches maxBytesPerFile maxTotalBytes) => authorized_matches hauthorized hoperation
  refine ⟨fun hfailed => available_executeUnix hroot _ hfailed rfl, ?_⟩
  intro result hresult
  obtain ⟨hcoherent, hlength⟩ := executeUnix_coherent hbase64 hroot hmatches
    (lt_of_le_of_lt hhardNat hmaximum) hresult
  refine ⟨hcoherent, hlength, ?_, ?_⟩
  · intro completion hoperation hauthority
    apply observedSuccess_eq
    · rw [hoperation, hauthority]
      exact hcoherent
    · rw [hauthority]
      exact hlength
    · rw [hauthority]
      exact hhard
  · intro hround
    exact ⟨encodeWithin_of_le (hlength.trans hhardNat),
      decode_encoded hbase64 (hlength.trans hhardNat) hround⟩

end Accepted

section Sample

/-- The base64 of `aaa`, and text of the right length for anything else. -/
def readBase64 (bytes : Bytes) : String :=
  if bytes = [0x61, 0x61, 0x61] then "YWFh"
  else .ofList (List.replicate ((bytes.length + 2) / 3 * 4) 'A')

theorem utf8ByteSize_replicate (count : ℕ) :
    (String.ofList (List.replicate count 'A')).utf8ByteSize = count := by
  induction count with
  | zero => rfl
  | succ count ih =>
    rw [List.replicate_succ, String.ofList_cons, String.utf8ByteSize_append, ih,
      String.utf8ByteSize_singleton]
    have hsize : ('A').utf8Size = 1 := rfl
    omega

theorem readBase64_lengths : Base64Lengths readBase64 := by
  refine ⟨?_, ?_⟩
  · intro bytes c hc
    unfold readBase64 at hc
    split at hc
    · have hletters : "YWFh".toList = ['Y', 'W', 'F', 'h'] := rfl
      rw [hletters] at hc
      simp only [List.mem_cons, List.not_mem_nil, or_false] at hc
      rcases hc with rfl | rfl | rfl | rfl <;> rfl
    · rw [String.toList_ofList] at hc
      rw [(List.mem_replicate.mp hc).2]
      decide
  · intro bytes
    unfold readBase64
    split
    · next hbytes =>
      rw [hbytes]
      decide
    · exact utf8ByteSize_replicate _

def readGrant : RepositoryToolGrant := .repositoryFileRead (sampleId 1) 4 64 16 0 64

def readAuthority : RepositoryToolReceiptAuthorityV2 :=
  { receiptAuthority sampleAuthority [readGrant] with
    policyArtifact := sampleArtifact 12 repositoryToolPolicyMediaType
    root := ⟨"r", walkedIdentity 0⟩
    brokerBounds := walkedBounds }

def readBroker : BrokerSetup := ⟨readAuthority, ⟨sampleId 1, []⟩, walkedIdentity 0⟩

def readParameters : RepositoryToolCanonicalParameters :=
  { sampleParameters with operation := .repositoryFileRead (.unix [[0x66]]) 0 3 }

def walkedRead : RepositoryToolResultV2 Bytes :=
  .repositoryFileRead ⟨.unix [[0x66]], 0, [0x61, 0x61, 0x61], 3, false⟩

def readPlatform : Platform where
  sha256 _ := sampleDigest 7
  rfc3339 _ := "1970-01-01T00:00:00.000000009Z"
  base64 := readBase64
  fromBase64 text := if text = "YWFh" then some [0x61, 0x61, 0x61] else none
  readParameters _ := none
  readResult bytes := if bytes = (walkedRead.map readBase64).json then
    some (walkedRead.map readBase64) else none
  readFailureEvidence _ := none
  readDenialEvidence _ := none
  readUnknownEvidence _ := none

theorem readPlatform_roundTrips : RoundTrips readPlatform walkedRead := by
  refine ⟨?_, by decide +kernel⟩
  intro read hread
  cases hread
  rfl

theorem readBroker_opens : openBroker readAuthority ⟨sampleId 1, []⟩ (walkedIdentity 0) =
    .ok readBroker := by
  have hauthority : validateAuthority readAuthority = .ok () := by decide
  have hepoch : validateEpoch ⟨sampleId 1, []⟩ = .ok () := by decide
  have hroot : ensure (walkedIdentity 0 = readAuthority.root.descriptorIdentity)
      (BrokerOpenError.rootIdentityMismatch readAuthority.root.descriptorIdentity
        (walkedIdentity 0)) = .ok () := by decide
  unfold openBroker
  rw [hauthority, hepoch, hroot]
  rfl

/-- The three bytes of a file are read, and read back from the artifact. -/
theorem executeUnix_accepted_sample :
    executeUnix readPlatform.base64 readBroker walkedRoot readParameters.operation =
        .ok walkedRead ∧
      resultIsCoherent readParameters.operation walkedRead walkedBounds = true ∧
      decodeRepositoryToolResultV2 readPlatform (resultBytes readPlatform walkedRead) =
        .ok walkedRead := by
  have hread : executeUnix readPlatform.base64 readBroker walkedRoot readParameters.operation =
      .ok walkedRead := by decide +kernel
  have hauthorized : evaluateRepositoryToolAuthorizationV1 readBroker.authority.brokerBounds
      readPlatform.base64 [readGrant] readParameters 64 1 = .authorized := by decide +kernel
  obtain ⟨_, haccepted⟩ := executeUnix_accepted readBroker_opens hauthorized readBase64_lengths
    walkedRoot_wellFormed
  obtain ⟨hcoherent, _, _, hdecoded⟩ := haccepted walkedRead hread
  exact ⟨hread, hcoherent, (hdecoded readPlatform_roundTrips).2⟩

end Sample

end BirdCode.Tooling
