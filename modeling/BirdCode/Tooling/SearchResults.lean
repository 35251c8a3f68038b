import BirdCode.Tooling.LiteralSearches
import BirdCode.Tooling.TreeResults

/-! A search result answers its operation and stays within the bytes of an artifact, and no search
runs out of broker state. -/
namespace BirdCode.Tooling

open Store Lib

section Counters

variable {request : LiteralSearchRequest} {ceiling : UInt64} {searcher : LiteralSearcher}
  {done : List RepositoryFile}

/-- No file changes what a search has listed. -/
theorem searchFile_listed {identity : RepositoryFileIdentity} {content : Bytes}
    {path : RepositoryRelativePath} {next : LiteralSearcher}
    (hlength : identity.byteLen.toInt = content.length)
    (h : searchFile request (.leaf (.regularFile identity content)) path searcher = .ok next) :
    next.listed = searcher.listed := by
  rcases searchFile_cases request searcher path hlength
    with hstop | ⟨_, _, hscan⟩
  · rw [hstop] at h
    cases h
    rfl
  · rw [hscan] at h
    cases h
    have hframe := (retainOffsets_frame request path (matchesFrom request.pattern
      (literalPrefixTable request.pattern) 0 0 (bytesOf request searcher content))
      (scannedFile searcher (scanOf request searcher (path, content)).bytesScanned
        (scanOf request searcher (path, content)))).2.2.2
    rw [← retainLiteralMatches_eq] at hframe
    dsimp only
    split
    · exact hframe
    · exact hframe

/-- What a search has listed is within the limits, whatever files it has met. -/
def ListedWithin (request : LiteralSearchRequest) (searcher : LiteralSearcher)
    (_ : List RepositoryFile) : Prop :=
  searcher.listed.Within request.walk.bounds

theorem listed_keeps : SearchKeeps request (ListedWithin request) := by
  refine ⟨?_, ?_, ?_, ?_, ?_⟩
  · intro searcher done children names listed hlisted h
    exact directoryNames_within h hlisted
  · intro searcher next done path identity content h _ hlength hnext
    unfold ListedWithin
    rw [searchFile_listed hlength hnext]
    exact h
  · intro searcher done h
    exact h
  · intro searcher done h
    exact h
  · intro searcher done more _ h
    exact h

theorem le_usedBytes (maxBytesPerFile maxTotalBytes : ℕ) (files : List RepositoryFile)
    (used : ℕ) : used ≤ usedBytes maxBytesPerFile maxTotalBytes files used := by
  induction files generalizing used with
  | nil => exact le_rfl
  | cons file rest ih =>
    have hrest := ih (used + scanLength maxBytesPerFile maxTotalBytes used file.2)
    exact (Nat.le_add_right _ _).trans hrest

/-- The bytes of the scans add up to those that were used. -/
theorem scanBytes_longestScans {maxBytesPerFile maxTotalBytes : ℕ} {start total : UInt64}
    (files : List RepositoryFile)
    (htotal : usedBytes maxBytesPerFile maxTotalBytes files start.toNat = total.toNat)
    (hlength : ∀ file ∈ files, file.2.length < 2 ^ 64) :
    (longestScans maxBytesPerFile maxTotalBytes start.toNat files).foldlM
      (fun total scan => checkedAdd total scan.bytesScanned) start = some total := by
  induction files generalizing start with
  | nil =>
    rw [longestScans, List.foldlM_nil, UInt64.toNat_inj.mp htotal]
    rfl
  | cons file rest ih =>
    have hfile := hlength file List.mem_cons_self
    have hle := (scanLength_le maxBytesPerFile maxTotalBytes start.toNat file.2).1
    have hmore := le_usedBytes maxBytesPerFile maxTotalBytes rest
      (start.toNat + scanLength maxBytesPerFile maxTotalBytes start.toNat file.2)
    have hbound := total.toNat_lt
    change usedBytes maxBytesPerFile maxTotalBytes rest
      (start.toNat + scanLength maxBytesPerFile maxTotalBytes start.toNat file.2) = _ at htotal
    have hscan : (longestScan maxBytesPerFile maxTotalBytes start.toNat file).bytesScanned.toNat =
        scanLength maxBytesPerFile maxTotalBytes start.toNat file.2 := by
      unfold longestScan
      exact toNat_ofNat64 (by omega)
    have hsum : (UInt64.ofNat (start.toNat + scanLength maxBytesPerFile maxTotalBytes start.toNat
        file.2)).toNat = start.toNat +
          scanLength maxBytesPerFile maxTotalBytes start.toNat file.2 := toNat_ofNat64 (by omega)
    have hadd : checkedAdd start
        (longestScan maxBytesPerFile maxTotalBytes start.toNat file).bytesScanned =
          some (.ofNat (start.toNat +
            scanLength maxBytesPerFile maxTotalBytes start.toNat file.2)) := by
      unfold checkedAdd
      rw [hscan, if_pos (by omega), Option.some.injEq, ← UInt64.toNat_inj, hsum, UInt64.toNat_add,
        hscan, Nat.mod_eq_of_lt (by omega)]
    have hrest := @ih (.ofNat (start.toNat +
      scanLength maxBytesPerFile maxTotalBytes start.toNat file.2)) (by rw [hsum, htotal])
      fun other hother => hlength other (List.mem_cons_of_mem _ hother)
    rw [hsum] at hrest
    rw [longestScans, List.foldlM_cons, hadd]
    exact hrest

end Counters

section Coherence

variable {pattern : Bytes} {files : List RepositoryFile} {scans : List RepositoryLiteralFileScan}

/-- The place of a pattern lies in a scan of its file. -/
theorem mem_positions {found : RepositoryLiteralMatch} (hlength : scans.length ≤ files.length)
    (hpaths : scans.map (·.path) <+: files.map Prod.fst)
    (h : found ∈ positions pattern (scannedBytes files scans)) :
    ∃ scan ∈ scans, scan.path = found.path ∧
      found.byteOffset.toNat + pattern.length ≤ scan.bytesScanned.toNat := by
  induction files generalizing scans with
  | nil => simp [scannedBytes, positions] at h
  | cons file rest ih =>
    cases scans with
    | nil => simp [scannedBytes, positions] at h
    | cons scan scans =>
      rw [List.map_cons, List.map_cons, List.cons_prefix_cons] at hpaths
      rcases List.mem_append.mp h with hfirst | hrest
      · obtain ⟨offset, hoffset, rfl⟩ := List.mem_map.mp hfirst
        refine ⟨scan, List.mem_cons_self, hpaths.1, ?_⟩
        have hplace := (List.mem_filter.mp hoffset).2
        have hlt := List.mem_range.mp (List.mem_of_mem_filter hoffset)
        have hprefix := (List.isPrefixOf_iff_prefix.mp hplace).length_le
        have hbound := scan.bytesScanned.toNat_lt
        rw [List.length_drop, List.length_take] at hprefix
        rw [List.length_take] at hlt
        rw [toNat_ofNat64 (by omega)]
        omega
      · obtain ⟨other, hother, hpath, hwithin⟩ := ih (by simpa using hlength) hpaths.2 hrest
        exact ⟨other, List.mem_cons_of_mem _ hother, hpath, hwithin⟩

theorem pathBefore_ne {first second : RepositoryRelativePath} (h : pathBefore first second) :
    first ≠ second := by
  rintro rfl
  unfold pathBefore at h
  rw [decide_eq_true_eq] at h
  exact Std.lt_irrefl h

/-- In the order of paths the first scan of a path is the only one. -/
theorem find?_scan (h : scans.Pairwise fun first second => pathBefore first.path second.path)
    {scan : RepositoryLiteralFileScan} (hmem : scan ∈ scans) :
    scans.find? (·.path = scan.path) = some scan := by
  induction scans with
  | nil => cases hmem
  | cons first rest ih =>
    obtain ⟨hfirst, hrest⟩ := List.pairwise_cons.mp h
    rcases List.mem_cons.mp hmem with rfl | hmem
    · simp
    · have hne := pathBefore_ne (hfirst scan hmem)
      simp only [List.find?_cons, hne, decide_false, ih hrest hmem]

/-- A scan is cut off exactly where it is shorter than its file. -/
theorem longestScan_flag (maxBytesPerFile maxTotalBytes used : ℕ) (file : RepositoryFile)
    (h : file.2.length < 2 ^ 64) :
    let scan := longestScan maxBytesPerFile maxTotalBytes used file
    scan.bytesScanned.toNat ≤ maxBytesPerFile ∧ scan.bytesScanned ≤ scan.fileByteLen ∧
      scan.truncated = decide (scan.bytesScanned < scan.fileByteLen) := by
  obtain ⟨hlength, hperFile, _⟩ := scanLength_le maxBytesPerFile maxTotalBytes used file.2
  intro scan
  have hscanned : scan.bytesScanned.toNat =
      scanLength maxBytesPerFile maxTotalBytes used file.2 := toNat_ofNat64 (by omega)
  have hfile : scan.fileByteLen.toNat = file.2.length := toNat_ofNat64 h
  refine ⟨by omega, ?_, ?_⟩
  · rw [UInt64.le_iff_toNat_le]
    omega
  · have htruncated : scan.truncated =
        decide (scanLength maxBytesPerFile maxTotalBytes used file.2 < file.2.length) := rfl
    rw [htruncated, decide_eq_decide, UInt64.lt_iff_toNat_lt, hscanned, hfile]

theorem mem_longestScans {maxBytesPerFile maxTotalBytes used : ℕ}
    {scan : RepositoryLiteralFileScan}
    (h : scan ∈ longestScans maxBytesPerFile maxTotalBytes used files) :
    ∃ file ∈ files, ∃ before, scan = longestScan maxBytesPerFile maxTotalBytes before file := by
  induction files generalizing used with
  | nil => cases h
  | cons file rest ih =>
    rcases List.mem_cons.mp h with rfl | h
    · exact ⟨file, List.mem_cons_self, used, rfl⟩
    · obtain ⟨other, hother, before, heq⟩ := ih h
      exact ⟨other, List.mem_cons_of_mem _ hother, before, heq⟩

end Coherence

section Results

variable {base64 : Bytes → String} {root : Node} {path : RepositoryRelativePath}
  {literal : String} {maxDepth maxFiles maxMatches : UInt32}
  {maxBytesPerFile maxTotalBytes : UInt64} {bounds : RepositoryToolBounds}
  {result : RepositoryLiteralSearchResult}

theorem regularFiles_length {levels : ℕ} {files : List RepositoryFile} (hroot : WellFormed root)
    (hfiles : RegularFiles root path levels files) : ∀ file ∈ files, file.2.length < 2 ^ 63 := by
  rintro ⟨found, content⟩ hmem
  obtain ⟨below, identity, _, _, _, hlookup⟩ := (hfiles.complete found content).mp hmem
  exact length_lt_of_byteLen (hroot.byteLen _ identity content hlookup)

/-- What a successful search has kept of the files below its start. -/
theorem literalSearch_kept (hroot : WellFormed root)
    (h : literalSearch base64 root path literal maxDepth maxFiles maxMatches maxBytesPerFile
      maxTotalBytes bounds = .ok result) :
    ∃ files searcher, RegularFiles root path maxDepth.toNat files ∧
      Searched (searchRequest root literal maxFiles maxMatches maxBytesPerFile maxTotalBytes
        bounds) bounds.maxArtifactBytes searcher files ∧ searcher.listed.Within bounds ∧
      result = {
        foundMatches := searcher.foundMatches
        fileScans := searcher.fileScans
        directoriesScanned := searcher.directoriesScanned
        directoryEntriesScanned := searcher.listed.directoryEntriesScanned
        directoryNameBytesScanned := searcher.listed.directoryNameBytesScanned
        filesScanned := searcher.filesScanned
        bytesScanned := searcher.bytesScanned
        symlinksSkipped := searcher.symlinksSkipped
        specialNodesSkipped := searcher.specialNodesSkipped
        truncated := searcher.truncated } := by
  obtain ⟨hliteral, budget, start, searcher, hcharged, hstart, hwalk, hresult⟩ :=
    literalSearch_eq_ok h
  have hdirectory := hroot.of_lookup hstart
  have hkept := walk_keeps (searched_keeps (toUTF8_ne_nil hliteral)) hdirectory hwalk
    (searched_start hcharged)
  have hfirst : ListedWithin (searchRequest root literal maxFiles maxMatches maxBytesPerFile
      maxTotalBytes bounds) (searchStart budget) [] := Listed.within_zero
  have hlisted := walk_keeps listed_keeps hdirectory hwalk hfirst
  rw [List.nil_append] at hkept
  exact ⟨_, searcher, filesUnder_regularFiles _ hroot hstart, hkept, hlisted, hresult⟩

theorem search_coherent (hroot : WellFormed root) (hmatches : 0 < maxMatches.toNat)
    (h : literalSearch base64 root path literal maxDepth maxFiles maxMatches maxBytesPerFile
      maxTotalBytes bounds = .ok result) :
    searchIsCoherent bounds path literal maxDepth maxFiles maxMatches maxBytesPerFile
      maxTotalBytes result = true := by
  obtain ⟨files, searcher, hfiles, hkept, hlisted, hresult⟩ := literalSearch_kept hroot h
  have hfound : result.foundMatches = searcher.foundMatches := by rw [hresult]
  have hscans : result.fileScans = searcher.fileScans := by rw [hresult]
  have hexact := hkept.exact hfiles.ordered hfound hscans (by rw [hresult])
  have hlengths := regularFiles_length hroot hfiles
  have hfilesLimit : searcher.fileScans.length ≤ maxFiles.toNat := hkept.files
  have hpaths : result.fileScans.map (·.path) <+: files.map Prod.fst := by
    rw [← longestScans_paths maxBytesPerFile.toNat maxTotalBytes.toNat 0]
    exact hexact.scans.map _
  have hcounted : searcher.filesScanned = saturate64 searcher.fileScans.length := by
    have hbound := maxFiles.toNat_lt
    rw [← UInt64.toNat_inj, hkept.filesScanned, toNat_saturate64]
    omega
  have hsum : scanBytes searcher.fileScans = some searcher.bytesScanned := by
    have hscansOf : searcher.fileScans = longestScans maxBytesPerFile.toNat maxTotalBytes.toNat
        (UInt64.toNat 0) (files.take searcher.fileScans.length) := hkept.scans
    have htotal : usedBytes maxBytesPerFile.toNat maxTotalBytes.toNat
        (files.take searcher.fileScans.length) (UInt64.toNat 0) = searcher.bytesScanned.toNat :=
      hkept.bytesScanned.symm
    unfold scanBytes
    rw [hscansOf]
    apply scanBytes_longestScans _ htotal
    intro file hfile
    have hshort := hlengths file (List.mem_of_mem_take hfile)
    omega
  rw [searchIsCoherent]
  simp only [Bool.and_eq_true, decide_eq_true_eq, List.all_eq_true]
  refine ⟨⟨⟨⟨⟨⟨⟨⟨⟨⟨?_, ?_⟩, ?_⟩, ?_⟩, ?_⟩, ?_⟩, ?_⟩, ?_⟩, ?_⟩, ?_⟩, ?_⟩
  · rw [hscans]
    exact hfilesLimit
  · rw [hfound]
    exact hkept.matched hmatches
  · rw [hresult]
    exact hcounted
  · rw [hresult]
    exact hsum
  · rw [hresult, UInt64.le_iff_toNat_le]
    exact hkept.bytes
  · rw [hresult]
    exact hlisted.entries
  · rw [hresult]
    exact hlisted.nameBytes
  · exact adjacentAll_of_pairwise hexact.scanOrder
  · intro scan hscan
    obtain ⟨⟨found, content⟩, hfile, before, rfl⟩ :=
      mem_longestScans (hexact.scans.subset hscan)
    obtain ⟨below, identity, hbelow, hdepth, rfl, _⟩ := (hfiles.complete found content).mp hfile
    have hshort := hlengths _ hfile
    obtain ⟨hperFile, hwithin, hflag⟩ := longestScan_flag maxBytesPerFile.toNat
      maxTotalBytes.toNat before (.unix (path.unixComponents ++ below), content) (by omega)
    exact ⟨⟨⟨pathHasPrefixWithDepth_append hbelow hdepth,
      UInt64.le_iff_toNat_le.mpr hperFile⟩, hwithin⟩, hflag⟩
  · apply adjacentAll_of_pairwise
    refine hexact.matchOrder.imp ?_
    rintro first second (hbefore | ⟨hpath, hoffset⟩)
    · simp [hbefore]
    · simp [hpath, hoffset]
  · intro found hmem
    have hvisited := hexact.scans.length_le
    rw [length_longestScans] at hvisited
    obtain ⟨scan, hscan, hpath, hwithin⟩ :=
      mem_positions hvisited hpaths (hexact.found.subset hmem)
    have hpattern : (searchRequest root literal maxFiles maxMatches maxBytesPerFile maxTotalBytes
        bounds).pattern.length = literal.utf8ByteSize := length_toUTF8 literal
    rw [hpattern] at hwithin
    have hbound := scan.bytesScanned.toNat_lt
    have hlength : (saturate64 literal.utf8ByteSize).toNat = literal.utf8ByteSize := by
      rw [toNat_saturate64]
      omega
    rw [← hpath, find?_scan hexact.scanOrder hscan, Option.any_some]
    unfold checkedAdd
    rw [hlength, if_pos (by omega), Option.any_some, decide_eq_true_eq, UInt64.le_iff_toNat_le,
      UInt64.toNat_add, hlength, Nat.mod_eq_of_lt (by omega)]
    exact hwithin

theorem search_length_le (hroot : WellFormed root)
    (h : literalSearch base64 root path literal maxDepth maxFiles maxMatches maxBytesPerFile
      maxTotalBytes bounds = .ok result) :
    searchLength result ≤ bounds.maxArtifactBytes.toNat := by
  obtain ⟨files, searcher, _, hkept, _, rfl⟩ := literalSearch_kept hroot h
  exact (searchLength_le _).trans hkept.charged.within

end Results

section Failures

/-- Every error a step can end with is one of a kind. -/
def ErrorsIn {E T : Type} (kind : E → Prop) (step : Except E T) : Prop :=
  ∀ error, step = .error error → kind error

variable {A E T : Type} {kind : E → Prop}

theorem errorsIn_ok (value : T) : ErrorsIn kind (.ok value) := by
  intro error h
  cases h

theorem errorsIn_error {error : E} (h : kind error) : ErrorsIn (T := T) kind (.error error) := by
  intro other heq
  cases heq
  exact h

theorem errorsIn_ensure {condition : Prop} [Decidable condition] {error : E} (h : kind error) :
    ErrorsIn kind (ensure condition error) := by
  unfold ensure
  split
  · exact errorsIn_ok ()
  · exact errorsIn_error h

theorem errorsIn_expect {error : E} (h : kind error) (value : Option T) :
    ErrorsIn kind (expect error value) := by
  cases value with
  | none => exact errorsIn_error h
  | some value => exact errorsIn_ok value

theorem errorsIn_bind {step : Except E A} {next : A → Except E T} (hstep : ErrorsIn kind step)
    (hnext : ∀ value, step = .ok value → ErrorsIn kind (next value)) :
    ErrorsIn kind (step >>= next) := by
  cases step with
  | ok value => exact hnext value rfl
  | error error =>
    intro other h
    cases h
    exact hstep _ rfl

theorem errorsIn_foldlM {step : T → A → Except E T}
    (h : ∀ state item, ErrorsIn kind (step state item)) (items : List A) (state : T) :
    ErrorsIn kind (items.foldlM step state) := by
  induction items generalizing state with
  | nil => exact errorsIn_ok state
  | cons item rest ih => exact errorsIn_bind (h state item) fun next _ => ih next

/-- A step that does not end with a lack of broker state. -/
def Available {T : Type} (step : Except RepositoryToolFailure T) : Prop :=
  ErrorsIn (· ≠ .brokerStateUnavailable) step

variable {bounds : RepositoryToolBounds} {rootDevice : UInt64}

theorem available_openChildDirectory (parent : Node) (component : Bytes) :
    Available (openChildDirectory parent component rootDevice) := by
  unfold openChildDirectory ensureSameDevice
  refine errorsIn_bind (errorsIn_expect (by simp) _) fun child _ => ?_
  refine errorsIn_bind (errorsIn_ensure (by simp)) fun _ _ => ?_
  exact errorsIn_bind (errorsIn_ensure (by simp)) fun _ _ => errorsIn_ok child

theorem available_openDirectory (root : Node) (path : RepositoryRelativePath) :
    Available (openDirectory root path rootDevice) :=
  errorsIn_foldlM (fun parent component => available_openChildDirectory parent component) _ _

theorem available_directoryNames (children : List (Bytes × Node)) (listed : Listed) :
    Available (directoryNames bounds children listed) := by
  have hcount : ∀ listed name, Available (countName bounds listed name) := by
    intro listed name
    unfold countName
    refine errorsIn_bind (errorsIn_ensure (by simp)) fun _ _ => ?_
    refine errorsIn_bind (errorsIn_ensure (by simp)) fun _ _ => ?_
    exact errorsIn_bind (errorsIn_ensure (by simp)) fun _ _ => errorsIn_ok _
  unfold directoryNames
  exact errorsIn_bind (errorsIn_foldlM hcount _ _) fun _ _ => errorsIn_ok _

theorem available_statEntry (directory : Node) (path : RepositoryRelativePath) (name : Bytes) :
    Available (statEntry bounds rootDevice directory path name) := by
  unfold statEntry ensureSameDevice ensureDiscoveredPathBound
  refine errorsIn_bind (errorsIn_expect (by simp) _) fun node _ => ?_
  refine errorsIn_bind (errorsIn_ensure (by simp)) fun _ _ => ?_
  refine errorsIn_bind ?_ fun _ _ => errorsIn_ok _
  refine errorsIn_bind (errorsIn_ensure (by simp)) fun _ _ => ?_
  exact errorsIn_ensure (by simp)

theorem available_new (baseBytes ceiling : UInt64) :
    Available (CanonicalResultBudget.new baseBytes ceiling) := by
  unfold CanonicalResultBudget.new
  exact errorsIn_bind (errorsIn_ensure (by simp)) fun _ _ => errorsIn_ok _

variable {request : LiteralSearchRequest}

/-- A file that does not change is always scanned as planned. -/
theorem available_searchFile {identity : RepositoryFileIdentity} {content : Bytes}
    (hlength : identity.byteLen.toInt = content.length) (path : RepositoryRelativePath)
    (searcher : LiteralSearcher) :
    Available (searchFile request (.leaf (.regularFile identity content)) path searcher) := by
  rcases searchFile_cases request searcher path hlength
    with hstop | ⟨_, _, hscan⟩
  · rw [hstop]
    exact errorsIn_ok _
  · rw [hscan]
    exact errorsIn_ok _

theorem available_forEachSearched
    {visit : Bytes → LiteralSearcher → Except RepositoryToolFailure LiteralSearcher}
    (h : ∀ name searcher, Available (visit name searcher)) (names : List Bytes)
    (searcher : LiteralSearcher) : Available (forEachSearched visit names searcher) := by
  induction names generalizing searcher with
  | nil => exact errorsIn_ok searcher
  | cons name rest ih =>
    rw [forEachSearched]
    split
    · exact errorsIn_ok searcher
    · exact errorsIn_bind (h name searcher) fun next _ => ih next

theorem available_walk {levels : ℕ} {directory : Node} (hdirectory : WellFormed directory)
    (path : RepositoryRelativePath) (searcher : LiteralSearcher) :
    Available (LiteralSearcher.walk request levels directory path searcher) := by
  induction levels generalizing directory path searcher with
  | zero => exact errorsIn_ok searcher
  | succ levels ih =>
    rw [LiteralSearcher.walk]
    split
    · exact errorsIn_ok searcher
    · refine errorsIn_bind (available_directoryNames _ _) fun _ _ => ?_
      apply available_forEachSearched
      intro name searcher
      refine errorsIn_bind (available_statEntry _ _ _) ?_
      rintro ⟨node, childPath⟩ hstat
      obtain ⟨hlookup, _⟩ := statEntry_eq_ok hstat
      have hnode := hdirectory.of_lookup hlookup
      cases node with
      | leaf value =>
        cases value with
        | regularFile identity content =>
          exact available_searchFile (hnode.byteLen [] _ _ rfl) _ _
        | symlink identity => exact errorsIn_ok _
        | other identity => exact errorsIn_ok _
      | branch label children =>
        simp only [nodeKind]
        split
        · refine errorsIn_bind (available_openChildDirectory _ _) fun child hopen => ?_
          obtain ⟨hopened, _⟩ := openChildDirectory_eq_ok hopen
          exact ih (hdirectory.of_lookup hopened) _ _
        · exact errorsIn_ok _

theorem available_forEachName
    {visit : Bytes → TreeWalker → Except RepositoryToolFailure TreeWalker}
    (h : ∀ name walker, Available (visit name walker)) (names : List Bytes)
    (walker : TreeWalker) : Available (forEachName visit names walker) := by
  induction names generalizing walker with
  | nil => exact errorsIn_ok walker
  | cons name rest ih =>
    rw [forEachName]
    refine errorsIn_bind (h name walker) fun next _ => ?_
    split
    · exact errorsIn_ok next
    · exact ih next

theorem available_tree_walk {request : WalkRequest} {maxEntries : UInt32} {levels : ℕ}
    (directory : Node) (path : RepositoryRelativePath) (walker : TreeWalker) :
    Available (TreeWalker.walk request maxEntries levels directory path walker) := by
  induction levels generalizing directory path walker with
  | zero => exact errorsIn_ok walker
  | succ levels ih =>
    rw [TreeWalker.walk]
    split
    · exact errorsIn_ok walker
    · refine errorsIn_bind (available_directoryNames _ _) fun _ _ => ?_
      apply available_forEachName
      intro name walker
      split
      · exact errorsIn_ok _
      · refine errorsIn_bind (available_statEntry _ _ _) ?_
        rintro ⟨node, childPath⟩ _
        dsimp only
        split
        · exact errorsIn_ok _
        · split
          · exact errorsIn_bind (available_openChildDirectory _ _) fun child _ => ih child _ _
          · exact errorsIn_ok _

theorem available_tree {base64 : Bytes → String} (root : Node) (path : RepositoryRelativePath)
    (maxDepth maxEntries : UInt32) :
    Available (tree base64 root path maxDepth maxEntries bounds) := by
  unfold tree
  refine errorsIn_bind (available_new _ _) fun _ _ => ?_
  refine errorsIn_bind (available_openDirectory _ _) fun start _ => ?_
  exact errorsIn_bind (available_tree_walk _ _ _) fun _ _ => errorsIn_ok _

theorem available_literalSearch {base64 : Bytes → String} {root : Node} (hroot : WellFormed root)
    (path : RepositoryRelativePath) (literal : String) (maxDepth maxFiles maxMatches : UInt32)
    (maxBytesPerFile maxTotalBytes : UInt64) :
    Available (literalSearch base64 root path literal maxDepth maxFiles maxMatches
      maxBytesPerFile maxTotalBytes bounds) := by
  unfold literalSearch
  refine errorsIn_bind (errorsIn_ensure (by simp)) fun _ _ => ?_
  refine errorsIn_bind (available_new _ _) fun _ _ => ?_
  refine errorsIn_bind (available_openDirectory _ _) fun start hopen => ?_
  have hstart := hroot.of_lookup (openDirectory_eq_ok hopen)
  exact errorsIn_bind (available_walk hstart _ _) fun _ _ => errorsIn_ok _

end Failures

end BirdCode.Tooling
