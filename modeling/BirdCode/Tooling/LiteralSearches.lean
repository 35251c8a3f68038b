import BirdCode.Tooling.SearchExact

/-! Every literal search that succeeds is exact over the regular files below its start. -/
namespace BirdCode.Tooling

open Store Lib

section Bytes

theorem length_toList_loop (bytes : ByteArray) (index : ℕ) (result : List UInt8) :
    (ByteArray.toList.loop bytes index result).length = bytes.size - index + result.length := by
  induction index, result using ByteArray.toList.loop.induct bytes with
  | case1 index result hlt ih =>
    rw [ByteArray.toList.loop, if_pos hlt, ih, List.length_cons]
    omega
  | case2 index result hdone =>
    rw [ByteArray.toList.loop, if_neg hdone, List.length_reverse]
    omega

/-- The bytes of a literal are as many as its length says. -/
theorem length_toUTF8 (literal : String) :
    literal.toUTF8.toList.length = literal.utf8ByteSize := by
  unfold ByteArray.toList
  rw [length_toList_loop]
  simp [String.toUTF8]

theorem toUTF8_ne_nil {literal : String} (h : literal ≠ "") : literal.toUTF8.toList ≠ [] := by
  intro hempty
  have hsize := length_toUTF8 literal
  rw [hempty, List.length_nil] at hsize
  exact h (String.utf8ByteSize_eq_zero_iff.mp hsize.symm)

end Bytes

section Files

variable {root directory : Node} {path : RepositoryRelativePath} {levels : ℕ}

theorem asFile_eq_some {below : List Bytes} {node : Node} {file : RepositoryFile} :
    asFile path (below, node) = some file ↔ ∃ identity,
      node = .leaf (.regularFile identity file.2) ∧
        file.1 = .unix (path.unixComponents ++ below) := by
  obtain ⟨found, content⟩ := file
  cases node with
  | branch identity children => simp [asFile]
  | leaf value =>
    cases value with
    | regularFile identity bytes =>
      simp only [asFile, Option.some.injEq, Prod.mk.injEq, OrderedTree.leaf.injEq,
        Leaf.regularFile.injEq]
      constructor
      · rintro ⟨rfl, rfl⟩
        exact ⟨identity, ⟨rfl, rfl⟩, rfl⟩
      · rintro ⟨_, ⟨_, rfl⟩, rfl⟩
        exact ⟨rfl, rfl⟩
    | symlink identity => simp [asFile]
    | other identity => simp [asFile]

theorem mem_filesUnder {found : RepositoryRelativePath} {content : Bytes} :
    (found, content) ∈ filesUnder levels directory path ↔ ∃ below identity,
      below ≠ [] ∧ below.length ≤ levels ∧ found = .unix (path.unixComponents ++ below) ∧
        directory.lookup below = some (.leaf (.regularFile identity content)) := by
  unfold filesUnder
  rw [List.mem_filterMap]
  constructor
  · rintro ⟨⟨below, node⟩, hmem, hfile⟩
    obtain ⟨identity, rfl, hfound⟩ := asFile_eq_some.mp hfile
    obtain ⟨hbelow, hlength, hlookup⟩ := OrderedTree.mem_under.mp hmem
    exact ⟨below, identity, hbelow, hlength, hfound, hlookup⟩
  · rintro ⟨below, identity, hbelow, hlength, rfl, hlookup⟩
    exact ⟨_, OrderedTree.mem_under.mpr ⟨hbelow, hlength, hlookup⟩,
      asFile_eq_some.mpr ⟨identity, rfl, rfl⟩⟩

theorem filesUnder_sorted (h : directory.Distinct) :
    (filesUnder levels directory path).Pairwise fun first second =>
      pathBefore first.1 second.1 := by
  unfold filesUnder
  refine List.Pairwise.filterMap (asFile path) ?_ (OrderedTree.under_sorted h)
  rintro ⟨first, one⟩ ⟨second, two⟩ hlt file hfile other hother
  obtain ⟨_, _, hfirst⟩ := asFile_eq_some.mp hfile
  obtain ⟨_, _, hsecond⟩ := asFile_eq_some.mp hother
  rw [hfirst, hsecond]
  exact pathBefore_append hlt

/-- What the walk below a path meets are the regular files there. -/
theorem filesUnder_regularFiles (levels : ℕ) (hroot : WellFormed root)
    (hpath : root.lookup path.unixComponents = some directory) :
    RegularFiles root path levels (filesUnder levels directory path) := by
  refine ⟨filesUnder_sorted (hroot.of_lookup hpath).distinct, ?_⟩
  intro found content
  rw [mem_filesUnder]
  simp only [OrderedTree.lookup_append, hpath, Option.bind_some]

end Files

section Order

variable {maxBytesPerFile maxTotalBytes used : ℕ} {files : List RepositoryFile}
  {scans : List RepositoryLiteralFileScan}

theorem longestScans_sorted
    (h : files.Pairwise fun first second => pathBefore first.1 second.1) :
    (longestScans maxBytesPerFile maxTotalBytes used files).Pairwise fun first second =>
      pathBefore first.path second.path := by
  have hpaths : (files.map Prod.fst).Pairwise fun first second => pathBefore first second :=
    List.pairwise_map.mpr h
  rw [← longestScans_paths maxBytesPerFile maxTotalBytes used] at hpaths
  exact List.pairwise_map.mp hpaths

theorem scannedBytes_paths :
    (scannedBytes files scans).map Prod.fst = (files.map Prod.fst).take scans.length := by
  induction files generalizing scans with
  | nil => simp [scannedBytes]
  | cons first rest ih =>
    cases scans with
    | nil => simp [scannedBytes]
    | cons scan scans =>
      rw [List.length_cons, List.map_cons, List.take_succ_cons, ← ih]
      rfl

theorem scannedBytes_sorted
    (h : files.Pairwise fun first second => pathBefore first.1 second.1) :
    (scannedBytes files scans).Pairwise fun first second => pathBefore first.1 second.1 := by
  have hpaths : (files.map Prod.fst).Pairwise fun first second => pathBefore first second :=
    List.pairwise_map.mpr h
  have htake := hpaths.sublist (List.take_sublist scans.length _)
  rw [← scannedBytes_paths] at htake
  exact List.pairwise_map.mp htake

theorem length_of_mem_scannedBytes {file : RepositoryFile}
    (h : file ∈ scannedBytes files scans) : file.2.length < 2 ^ 64 := by
  induction files generalizing scans with
  | nil => simp [scannedBytes] at h
  | cons first rest ih =>
    cases scans with
    | nil => simp [scannedBytes] at h
    | cons scan scans =>
      rcases List.mem_cons.mp h with rfl | h
      · have hlt := scan.bytesScanned.toNat_lt
        rw [List.length_take]
        omega
      · exact ih h

/-- The places are met in the order of paths and offsets. -/
theorem positions_sorted {pattern : Bytes} {scanned : List RepositoryFile}
    (h : scanned.Pairwise fun first second => pathBefore first.1 second.1)
    (hlength : ∀ file ∈ scanned, file.2.length < 2 ^ 64) :
    (positions pattern scanned).Pairwise matchBefore := by
  unfold positions
  rw [List.pairwise_flatMap]
  constructor
  · rintro ⟨path, bytes⟩ hmem
    have hbound : bytes.length < 2 ^ 64 := hlength _ hmem
    have hsorted : (occurrences pattern bytes).Pairwise (· < ·) :=
      List.pairwise_lt_range.filter _
    refine List.pairwise_map.mpr (hsorted.imp_of_mem ?_)
    intro first second hfirst hsecond hlt
    have hfirst := List.mem_range.mp (List.mem_of_mem_filter hfirst)
    have hsecond := List.mem_range.mp (List.mem_of_mem_filter hsecond)
    refine .inr ⟨rfl, ?_⟩
    rw [UInt64.lt_iff_toNat_lt, toNat_ofNat64 (by omega), toNat_ofNat64 (by omega)]
    exact hlt
  · refine h.imp ?_
    intro first second hbefore one hone two htwo
    obtain ⟨_, _, rfl⟩ := List.mem_map.mp hone
    obtain ⟨_, _, rfl⟩ := List.mem_map.mp htwo
    exact .inl hbefore

end Order

section Searches

variable {request : LiteralSearchRequest} {ceiling : UInt64} {searcher : LiteralSearcher}
  {done : List RepositoryFile}

/-- The invariant holds along a whole walk. -/
theorem searched_keeps (hpattern : request.pattern ≠ []) :
    SearchKeeps request (Searched request ceiling) := by
  refine ⟨?_, ?_, ?_, ?_, ?_⟩
  · intro searcher done children names listed _ h
    exact ⟨⟨h.visited, h.scans, h.filesScanned, h.bytesScanned, h.files, h.bytes, h.found,
      h.whole, h.charged, h.matched⟩, h.running, h.untruncated⟩
  · intro searcher next done path identity content h hrunning hlength hnext
    have hcontent := length_lt_of_byteLen hlength
    rcases searchFile_cases request searcher path hlength
      with hstop | ⟨hfiles, hadmits, hscan⟩
    · rw [hstop] at hnext
      cases hnext
      exact h.toKept.stop.extend rfl _
    · rw [hscan] at hnext
      cases hnext
      exact h.scanned hpattern hrunning hcontent hfiles hadmits
  · intro searcher done h
    exact ⟨⟨h.visited, h.scans, h.filesScanned, h.bytesScanned, h.files, h.bytes, h.found,
      h.whole, h.charged, h.matched⟩, h.running, h.untruncated⟩
  · intro searcher done h
    exact ⟨⟨h.visited, h.scans, h.filesScanned, h.bytesScanned, h.files, h.bytes, h.found,
      h.whole, h.charged, h.matched⟩, h.running, h.untruncated⟩
  · intro searcher done more hstopped h
    exact h.extend hstopped more

/-- The result of a search that kept the invariant over all files below its start. -/
theorem Searched.exact (h : Searched request ceiling searcher done)
    (hsorted : done.Pairwise fun first second => pathBefore first.1 second.1)
    {result : RepositoryLiteralSearchResult} (hfound : result.foundMatches = searcher.foundMatches)
    (hscans : result.fileScans = searcher.fileScans)
    (htruncated : result.truncated = searcher.truncated) :
    SearchExact request.pattern request.maxMatches.toNat request.maxBytesPerFile.toNat
      request.maxTotalBytes.toNat ceiling.toNat done result := by
  have hscansOf : result.fileScans <+: scansOf request done := by
    rw [hscans, h.scans]
    unfold scansOf
    rw [longestScans_take]
    exact List.take_prefix _ _
  have hplaces : (positions request.pattern
      (scannedBytes done result.fileScans)).Pairwise matchBefore :=
    positions_sorted (scannedBytes_sorted hsorted) fun file => length_of_mem_scannedBytes
  have hbeginning : result.foundMatches <+:
      positions request.pattern (scannedBytes done result.fileScans) := by
    rw [hfound, hscans]
    exact h.found
  refine ⟨hscansOf, (longestScans_sorted hsorted).sublist hscansOf.sublist, hbeginning,
    hplaces.sublist hbeginning.sublist, ?_, ?_⟩
  · rw [hfound, hscans]
    exact h.whole
  · intro huntruncated
    rw [htruncated] at huntruncated
    obtain ⟨hrunning, hcomplete⟩ := h.untruncated huntruncated
    obtain ⟨hlength, hall, _⟩ := h.running hrunning
    rw [hfound, hscans]
    refine ⟨?_, hcomplete, hall⟩
    have hvisited := h.scans
    rw [hlength, List.take_length] at hvisited
    exact hvisited

end Searches

section LiteralSearch

variable {base64 : Bytes → String} {root : Node} {path : RepositoryRelativePath}
  {literal : String} {maxDepth maxFiles maxMatches : UInt32}
  {maxBytesPerFile maxTotalBytes : UInt64} {bounds : RepositoryToolBounds}
  {result : RepositoryLiteralSearchResult}

/-- What the walk of a search is asked for. -/
def searchRequest (root : Node) (literal : String) (maxFiles maxMatches : UInt32)
    (maxBytesPerFile maxTotalBytes : UInt64) (bounds : RepositoryToolBounds) :
    LiteralSearchRequest where
  walk := ⟨bounds, (identity root).device⟩
  pattern := literal.toUTF8.toList
  maxFiles
  maxMatches
  maxBytesPerFile
  maxTotalBytes

/-- A searcher before its walk. -/
def searchStart (artifactBudget : CanonicalResultBudget) : LiteralSearcher where
  foundMatches := []
  fileScans := []
  artifactBudget
  directoriesScanned := 0
  filesScanned := 0
  bytesScanned := 0
  listed := ⟨0, 0⟩
  symlinksSkipped := 0
  specialNodesSkipped := 0
  truncated := false
  stopped := false

theorem searched_start {request : LiteralSearchRequest} {budget : CanonicalResultBudget}
    {ceiling : UInt64} (h : (searchStart budget).charged ceiling) :
    Searched request ceiling (searchStart budget) [] := by
  refine ⟨⟨le_rfl, rfl, rfl, rfl, Nat.zero_le _, Nat.zero_le _, List.nil_prefix, .inl rfl, h, ?_⟩,
    ?_, ?_⟩
  · intro _
    exact Nat.zero_le _
  · intro _
    exact ⟨rfl, rfl, fun hpositive => hpositive⟩
  · intro _
    exact ⟨rfl, fun _ hmem => by cases hmem⟩

/-- What a successful search has opened, walked and returned. -/
theorem literalSearch_eq_ok
    (h : literalSearch base64 root path literal maxDepth maxFiles maxMatches maxBytesPerFile
      maxTotalBytes bounds = .ok result) :
    literal ≠ "" ∧ ∃ budget start searcher,
      (searchStart budget).charged bounds.maxArtifactBytes ∧
        root.lookup path.unixComponents = some start ∧
        LiteralSearcher.walk (searchRequest root literal maxFiles maxMatches maxBytesPerFile
          maxTotalBytes bounds) maxDepth.toNat start path (searchStart budget) = .ok searcher ∧
        result = {
          foundMatches := searcher.foundMatches
          fileScans := searcher.fileScans
          directoriesScanned := searcher.directoriesScanned
          directoryEntriesScanned := searcher.listed.directoryEntriesScanned
          directoryNameBytesScanned := searcher.listed.directoryNameBytesScanned
          filesScanned := searcher.filesScanned
          bytesScanned := searcher.bytesScanned
          symlinksSkipped := searcher.symlinksSkipped
          specialNodesSkipped := searcher.specialNodesSkipped
          truncated := searcher.truncated } := by
  simp only [literalSearch, bind_eq_ok, ensure_eq_ok, pure, Except.pure, Except.ok.injEq] at h
  obtain ⟨_, hliteral, budget, hbudget, start, hopen, searcher, hwalk, rfl⟩ := h
  refine ⟨hliteral, budget, start, searcher, ?_, openDirectory_eq_ok hopen, hwalk, rfl⟩
  exact charged_new (searchLength_pos _) preflightSize_search hbudget

/-- Over a tree that does not change, the scans and the matches of a search are the first of those
that the limits allow, and a search that reports no truncation has missed nothing. -/
theorem literalSearch_exact (hroot : WellFormed root)
    (h : literalSearch base64 root path literal maxDepth maxFiles maxMatches maxBytesPerFile
      maxTotalBytes bounds = .ok result) :
    ∃ files, RegularFiles root path maxDepth.toNat files ∧
      SearchExact literal.toUTF8.toList maxMatches.toNat maxBytesPerFile.toNat
        maxTotalBytes.toNat bounds.maxArtifactBytes.toNat files result := by
  obtain ⟨hliteral, budget, start, searcher, hcharged, hstart, hwalk, hresult⟩ :=
    literalSearch_eq_ok h
  have hfiles := filesUnder_regularFiles maxDepth.toNat hroot hstart
  refine ⟨_, hfiles, ?_⟩
  have hkept := walk_keeps (searched_keeps (toUTF8_ne_nil hliteral)) (hroot.of_lookup hstart)
    hwalk (searched_start hcharged)
  rw [List.nil_append] at hkept
  exact hkept.exact hfiles.ordered (by rw [hresult]) (by rw [hresult]) (by rw [hresult])

end LiteralSearch

section Sample

def walkedSearch : RepositoryLiteralSearchResult where
  foundMatches := [⟨.unix [[0x66]], 0⟩, ⟨.unix [[0x66]], 1⟩]
  fileScans := [⟨.unix [[0x66]], 3, 3, false⟩]
  directoriesScanned := 1
  directoryEntriesScanned := 1
  directoryNameBytesScanned := 1
  filesScanned := 1
  bytesScanned := 3
  symlinksSkipped := 0
  specialNodesSkipped := 0
  truncated := false

/-- Both places of `aa` in `aaa` are found. -/
theorem literalSearch_exact_sample : ∃ files,
    RegularFiles walkedRoot (.unix []) (UInt32.toNat 1) files ∧
      SearchExact "aa".toUTF8.toList (UInt32.toNat 4) (UInt64.toNat 64) (UInt64.toNat 64)
        walkedBounds.maxArtifactBytes.toNat files walkedSearch :=
  have hsearch : literalSearch (fun _ => "") walkedRoot (.unix []) "aa" 1 4 4 64 64 walkedBounds =
      .ok walkedSearch := by decide +kernel
  literalSearch_exact walkedRoot_wellFormed hsearch

end Sample

end BirdCode.Tooling
