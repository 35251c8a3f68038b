import BirdCode.Tooling.Unix

/-! The budget of a walk is the length of the canonical result it has built, with the counters at
their widest. -/
namespace BirdCode.Tooling

open Store Lib

section Charges

/-- What the budget of a walk stands for: the length of a text with two arrays, and how many items
each has. -/
structure Charged (budget : CanonicalResultBudget) (ceiling : UInt64)
    (length primary secondary : ℕ) : Prop where
  limit : budget.ceiling = ceiling
  used : budget.used.toNat = length
  positive : 0 < length
  within : length ≤ ceiling.toNat
  primary : 0 < budget.primaryItems ↔ 0 < primary
  secondary : 0 < budget.secondaryItems ↔ 0 < secondary

/-- What one more item takes in an array. -/
def itemLength (text : Bytes) (items : ℕ) : ℕ := text.length + if items = 0 then 0 else 1

variable {budget : CanonicalResultBudget} {ceiling : UInt64} {length primary secondary : ℕ}

theorem toNat_itemCost (text : Bytes) {existing : UInt64} {items : ℕ}
    (h : 0 < existing ↔ 0 < items) :
    (canonicalArrayItemCost text existing).toNat = min (itemLength text items) (2 ^ 64 - 1) := by
  unfold canonicalArrayItemCost canonicalLen saturatingAdd64 itemLength
  rw [toNat_saturate64, toNat_saturate64]
  by_cases hexisting : 0 < existing
  · have hitems := h.mp hexisting
    rw [if_pos hexisting, if_neg (by omega)]
    have hone : (1 : UInt64).toNat = 1 := rfl
    omega
  · have hitems : items = 0 := by
      by_contra hne
      exact hexisting (h.mpr (by omega))
    rw [if_neg hexisting, if_pos hitems]
    have hzero : (0 : UInt64).toNat = 0 := rfl
    omega

theorem checkedAdd_eq_none {a b : UInt64} (h : checkedAdd a b = none) :
    2 ^ 64 ≤ a.toNat + b.toNat := by
  unfold checkedAdd at h
  split at h
  · cases h
  · omega

/-- A cost is admitted exactly when the longer text is within the ceiling. -/
theorem admits_iff (hceiling : budget.ceiling = ceiling) (hused : budget.used.toNat = length)
    (hpositive : 0 < length) {cost : UInt64} {item : ℕ}
    (hcost : cost.toNat = min item (2 ^ 64 - 1)) :
    budget.admits cost = true ↔ length + item ≤ ceiling.toNat := by
  have hbound := ceiling.toNat_lt
  unfold CanonicalResultBudget.admits
  cases hadd : checkedAdd budget.used cost with
  | none =>
    have hover := checkedAdd_eq_none hadd
    simp only [Option.any_none, Bool.false_eq_true, false_iff]
    omega
  | some total =>
    have htotal := checkedAdd_eq_some hadd
    have hlt := total.toNat_lt
    rw [Option.any_some, decide_eq_true_eq, UInt64.le_iff_toNat_le, hceiling]
    omega

theorem Charged.admits_primary (h : Charged budget ceiling length primary secondary)
    (text : Bytes) : budget.admits (budget.primaryCost text) = true ↔
      length + itemLength text primary ≤ ceiling.toNat :=
  admits_iff h.limit h.used h.positive (toNat_itemCost text h.primary)

theorem Charged.admits_secondary (h : Charged budget ceiling length primary secondary)
    (text : Bytes) : budget.admits (budget.secondaryCost text) = true ↔
      length + itemLength text secondary ≤ ceiling.toNat :=
  admits_iff h.limit h.used h.positive (toNat_itemCost text h.secondary)

theorem toNat_saturatingAdd64 (a b : UInt64) :
    (saturatingAdd64 a b).toNat = min (a.toNat + b.toNat) (2 ^ 64 - 1) :=
  toNat_saturate64 _

theorem saturatingAdd64_one_pos (value : UInt64) : 0 < saturatingAdd64 value 1 := by
  rw [UInt64.lt_iff_toNat_lt, toNat_saturatingAdd64]
  have hone : (1 : UInt64).toNat = 1 := rfl
  have hzero : (0 : UInt64).toNat = 0 := rfl
  omega

theorem Charged.commitPrimary (h : Charged budget ceiling length primary secondary)
    {text : Bytes} (hadmits : budget.admits (budget.primaryCost text) = true) :
    Charged (budget.commitPrimary (budget.primaryCost text)) ceiling
      (length + itemLength text primary) (primary + 1) secondary := by
  have hwithin := (h.admits_primary text).mp hadmits
  have hcost := toNat_itemCost text h.primary
  have hbound := ceiling.toNat_lt
  have hpositive := h.positive
  refine ⟨h.limit, ?_, by omega, hwithin, ?_, h.secondary⟩
  · have hused := h.used
    simp only [CanonicalResultBudget.commitPrimary, toNat_saturatingAdd64,
      CanonicalResultBudget.primaryCost, hcost]
    omega
  · have hpos := saturatingAdd64_one_pos budget.primaryItems
    constructor
    · intro _
      omega
    · intro _
      exact hpos

theorem Charged.commitSecondary (h : Charged budget ceiling length primary secondary)
    {text : Bytes} (hadmits : budget.admits (budget.secondaryCost text) = true) :
    Charged (budget.commitSecondary (budget.secondaryCost text)) ceiling
      (length + itemLength text secondary) primary (secondary + 1) := by
  have hwithin := (h.admits_secondary text).mp hadmits
  have hcost := toNat_itemCost text h.secondary
  have hbound := ceiling.toNat_lt
  have hpositive := h.positive
  refine ⟨h.limit, ?_, by omega, hwithin, h.primary, ?_⟩
  · have hused := h.used
    simp only [CanonicalResultBudget.commitSecondary, toNat_saturatingAdd64,
      CanonicalResultBudget.secondaryCost, hcost]
    omega
  · have hpos := saturatingAdd64_one_pos budget.secondaryItems
    constructor
    · intro _
      omega
    · intro _
      exact hpos

end Charges

section Widest

def widestCounter : UInt64 := .ofNat (2 ^ 64 - 1)

/-- The tree result of these entries with the widest counters. -/
def widestTree (entries : List RepositoryTreeEntry) : RepositoryTreeResult where
  entries
  directoryEntriesScanned := widestCounter
  directoryNameBytesScanned := widestCounter
  truncated := false

/-- The search result of these matches and scans with the widest counters. -/
def widestSearch (foundMatches : List RepositoryLiteralMatch)
    (fileScans : List RepositoryLiteralFileScan) : RepositoryLiteralSearchResult where
  foundMatches
  fileScans
  directoriesScanned := widestCounter
  directoryEntriesScanned := widestCounter
  directoryNameBytesScanned := widestCounter
  filesScanned := widestCounter
  bytesScanned := widestCounter
  symlinksSkipped := widestCounter
  specialNodesSkipped := widestCounter
  truncated := false

def treeLength (result : RepositoryTreeResult) : ℕ :=
  (RepositoryToolResultV2.json (.repositoryTree result)).length

def searchLength (result : RepositoryLiteralSearchResult) : ℕ :=
  (RepositoryToolResultV2.json (.literalSearch result)).length

theorem length_widestCounter : (u64 widestCounter).length = 20 := by decide

theorem length_false : (Json.boolean false).length = 5 := by decide

/-- Everything in a tree result but its entries. -/
theorem treeLength_eq (result : RepositoryTreeResult) :
    treeLength result = 122 +
      (Json.array (result.entries.map RepositoryTreeEntry.json)).length +
      (u64 result.directoryEntriesScanned).length +
      (u64 result.directoryNameBytesScanned).length + (Json.boolean result.truncated).length := by
  have houter : Json.framing ["tool", "result"] = 19 := by decide
  have hinner : Json.framing ["entries", "directory_entries_scanned",
      "directory_name_bytes_scanned", "truncated"] = 86 := by decide
  have htool : (Json.string "repository_tree").length = 17 := by decide
  simp only [treeLength, RepositoryToolResultV2.json, RepositoryTreeResult.json,
    Json.length_object, List.map_cons, List.map_nil, List.sum_cons, List.sum_nil, houter, hinner,
    htool]
  omega

/-- Everything in a search result but its matches and its scans. -/
theorem searchLength_eq (result : RepositoryLiteralSearchResult) :
    searchLength result = 237 +
      (Json.array (result.foundMatches.map RepositoryLiteralMatch.json)).length +
      (Json.array (result.fileScans.map RepositoryLiteralFileScan.json)).length +
      (u64 result.directoriesScanned).length + (u64 result.directoryEntriesScanned).length +
      (u64 result.directoryNameBytesScanned).length + (u64 result.filesScanned).length +
      (u64 result.bytesScanned).length + (u64 result.symlinksSkipped).length +
      (u64 result.specialNodesSkipped).length + (Json.boolean result.truncated).length := by
  have houter : Json.framing ["tool", "result"] = 19 := by decide
  have hinner : Json.framing ["matches", "file_scans", "directories_scanned",
      "directory_entries_scanned", "directory_name_bytes_scanned", "files_scanned",
      "bytes_scanned", "symlinks_skipped", "special_nodes_skipped", "truncated"] = 202 := by
    decide
  have htool : (Json.string "literal_search").length = 16 := by decide
  simp only [searchLength, RepositoryToolResultV2.json, RepositoryLiteralSearchResult.json,
    Json.length_object, List.map_cons, List.map_nil, List.sum_cons, List.sum_nil, houter, hinner,
    htool]
  omega

theorem treeLength_pos (result : RepositoryTreeResult) : 0 < treeLength result := by
  rw [treeLength_eq]
  omega

theorem searchLength_pos (result : RepositoryLiteralSearchResult) : 0 < searchLength result := by
  rw [searchLength_eq]
  omega

/-- No tree result is longer than the one with the widest counters. -/
theorem treeLength_le (result : RepositoryTreeResult) :
    treeLength result ≤ treeLength (widestTree result.entries) := by
  have hentries := length_u64_le result.directoryEntriesScanned
  have hbytes := length_u64_le result.directoryNameBytesScanned
  have htruncated := Json.length_boolean_le result.truncated
  simp only [treeLength_eq, widestTree, length_widestCounter, length_false]
  omega

theorem searchLength_le (result : RepositoryLiteralSearchResult) :
    searchLength result ≤ searchLength (widestSearch result.foundMatches result.fileScans) := by
  have hdirectories := length_u64_le result.directoriesScanned
  have hentries := length_u64_le result.directoryEntriesScanned
  have hnames := length_u64_le result.directoryNameBytesScanned
  have hfiles := length_u64_le result.filesScanned
  have hbytes := length_u64_le result.bytesScanned
  have hsymlinks := length_u64_le result.symlinksSkipped
  have hspecial := length_u64_le result.specialNodesSkipped
  have htruncated := Json.length_boolean_le result.truncated
  simp only [searchLength_eq, widestSearch, length_widestCounter, length_false]
  omega

theorem treeLength_concat (entries : List RepositoryTreeEntry) (entry : RepositoryTreeEntry) :
    treeLength (widestTree (entries ++ [entry])) =
      treeLength (widestTree entries) + itemLength entry.json entries.length := by
  simp only [treeLength_eq, widestTree, List.map_append, List.map_cons, List.map_nil,
    Json.length_array_concat, List.length_map, itemLength]
  omega

theorem searchLength_concat_match (foundMatches : List RepositoryLiteralMatch)
    (fileScans : List RepositoryLiteralFileScan) (found : RepositoryLiteralMatch) :
    searchLength (widestSearch (foundMatches ++ [found]) fileScans) =
      searchLength (widestSearch foundMatches fileScans) +
        itemLength found.json foundMatches.length := by
  simp only [searchLength_eq, widestSearch, List.map_append, List.map_cons, List.map_nil,
    Json.length_array_concat, List.length_map, itemLength]
  omega

theorem searchLength_concat_scan (foundMatches : List RepositoryLiteralMatch)
    (fileScans : List RepositoryLiteralFileScan) (scan : RepositoryLiteralFileScan) :
    searchLength (widestSearch foundMatches (fileScans ++ [scan])) =
      searchLength (widestSearch foundMatches fileScans) +
        itemLength scan.json fileScans.length := by
  simp only [searchLength_eq, widestSearch, List.map_append, List.map_cons, List.map_nil,
    Json.length_array_concat, List.length_map, itemLength]
  omega

variable {base64 : Bytes → String} {budget : CanonicalResultBudget} {ceiling : UInt64}
  {path : RepositoryRelativePath} {maxDepth maxEntries : UInt32}

/-- A budget starts with the empty result. -/
theorem charged_new {baseBytes : UInt64} {length : ℕ} (hpositive : 0 < length)
    (hlength : baseBytes.toNat = length)
    (h : CanonicalResultBudget.new baseBytes ceiling = .ok budget) :
    Charged budget ceiling length 0 0 := by
  simp only [CanonicalResultBudget.new, bind_eq_ok, ensure_eq_ok, pure, Except.pure,
    Except.ok.injEq] at h
  obtain ⟨_, hwithin, rfl⟩ := h
  rw [UInt64.le_iff_toNat_le] at hwithin
  exact ⟨rfl, hlength, hpositive, by omega, by simp, by simp⟩

theorem preflightSize_tree : (repositoryToolResultV2PreflightSize base64
    (.repositoryTree path maxDepth maxEntries)).toNat = treeLength (widestTree []) := by
  have hlength : treeLength (widestTree []) < 2 ^ 64 - 1 := by decide +kernel
  have hempty : ((emptyResult (.repositoryTree path maxDepth maxEntries)).map base64).json.length =
      treeLength (widestTree []) := rfl
  rw [repositoryToolResultV2PreflightSize, toNat_saturate64, hempty]
  omega

theorem preflightSize_search {literal : String} {maxFiles maxMatches : UInt32}
    {maxBytesPerFile maxTotalBytes : UInt64} :
    (repositoryToolResultV2PreflightSize base64 (.literalSearch path literal maxDepth maxFiles
      maxMatches maxBytesPerFile maxTotalBytes)).toNat = searchLength (widestSearch [] []) := by
  have hlength : searchLength (widestSearch [] []) < 2 ^ 64 - 1 := by decide +kernel
  have hempty : ((emptyResult (.literalSearch path literal maxDepth maxFiles maxMatches
      maxBytesPerFile maxTotalBytes)).map base64).json.length =
      searchLength (widestSearch [] []) := rfl
  rw [repositoryToolResultV2PreflightSize, toNat_saturate64, hempty]
  omega

end Widest

end BirdCode.Tooling
