import BirdCode.Tooling.Coherence
import BirdCode.Tooling.ResultBudget
import BirdCode.Tooling.Walks

/-! What a literal search returns: the scans of the files below its start, as far as its limits
allow, and the places of the pattern in what was scanned. -/
namespace BirdCode.Tooling

open Store Lib

section Specification

/-- The regular files at most so many levels below a path. -/
structure RegularFiles (root : Node) (path : RepositoryRelativePath) (levels : ℕ)
    (files : List RepositoryFile) : Prop where
  ordered : files.Pairwise fun first second => pathBefore first.1 second.1
  complete : ∀ found content, (found, content) ∈ files ↔ ∃ below identity,
    below ≠ [] ∧ below.length ≤ levels ∧ found = .unix (path.unixComponents ++ below) ∧
      root.lookup (path.unixComponents ++ below) = some (.leaf (.regularFile identity content))

/-- How much of the next file is scanned. -/
def scanLength (maxBytesPerFile maxTotalBytes used : ℕ) (content : Bytes) : ℕ :=
  min (min content.length maxBytesPerFile) (maxTotalBytes - used)

def longestScan (maxBytesPerFile maxTotalBytes used : ℕ) (file : RepositoryFile) :
    RepositoryLiteralFileScan :=
  let scanned := scanLength maxBytesPerFile maxTotalBytes used file.2
  ⟨file.1, .ofNat scanned, .ofNat file.2.length, scanned < file.2.length⟩

/-- The scans of files in turn, each as long as the file and the two limits allow. -/
def longestScans (maxBytesPerFile maxTotalBytes : ℕ) :
    ℕ → List RepositoryFile → List RepositoryLiteralFileScan
  | _, [] => []
  | used, file :: rest =>
    longestScan maxBytesPerFile maxTotalBytes used file ::
      longestScans maxBytesPerFile maxTotalBytes
        (used + scanLength maxBytesPerFile maxTotalBytes used file.2) rest

/-- What was scanned of each file. -/
def scannedBytes (files : List RepositoryFile) (scans : List RepositoryLiteralFileScan) :
    List RepositoryFile :=
  List.zipWith (fun file scan => (file.1, file.2.take scan.bytesScanned.toNat)) files scans

/-- All places of a pattern in what was scanned, overlapping ones included. -/
def positions (pattern : Bytes) (scanned : List RepositoryFile) : List RepositoryLiteralMatch :=
  scanned.flatMap fun (path, bytes) =>
    (occurrences pattern bytes).map fun offset => ⟨path, .ofNat offset⟩

def matchBefore (first second : RepositoryLiteralMatch) : Prop :=
  pathBefore first.path second.path ∨
    first.path = second.path ∧ first.byteOffset < second.byteOffset

/-- A search result over files in the order of their paths. -/
structure SearchExact (pattern : Bytes) (maxMatches maxBytesPerFile maxTotalBytes ceiling : ℕ)
    (files : List RepositoryFile) (result : RepositoryLiteralSearchResult) : Prop where
  scans : result.fileScans <+: longestScans maxBytesPerFile maxTotalBytes 0 files
  scanOrder : result.fileScans.Pairwise fun first second => pathBefore first.path second.path
  found : result.foundMatches <+: positions pattern (scannedBytes files result.fileScans)
  matchOrder : result.foundMatches.Pairwise matchBefore
  whole : result.foundMatches = positions pattern (scannedBytes files result.fileScans) ∨
    maxMatches ≤ result.foundMatches.length ∨
    ∃ next, result.foundMatches ++ [next] <+:
        positions pattern (scannedBytes files result.fileScans) ∧
      ceiling < searchLength (widestSearch (result.foundMatches ++ [next]) result.fileScans)
  untruncated : result.truncated = false →
    result.fileScans = longestScans maxBytesPerFile maxTotalBytes 0 files ∧
      (∀ scan ∈ result.fileScans, scan.bytesScanned = scan.fileByteLen) ∧
      result.foundMatches = positions pattern (scannedBytes files result.fileScans)

end Specification

section Scans

variable {maxBytesPerFile maxTotalBytes used : ℕ} {files : List RepositoryFile}

/-- The bytes that the scans of files take together. -/
def usedBytes (maxBytesPerFile maxTotalBytes : ℕ) (files : List RepositoryFile) (used : ℕ) : ℕ :=
  files.foldl (fun used file => used + scanLength maxBytesPerFile maxTotalBytes used file.2) used

theorem longestScans_concat (file : RepositoryFile) :
    longestScans maxBytesPerFile maxTotalBytes used (files ++ [file]) =
      longestScans maxBytesPerFile maxTotalBytes used files ++
        [longestScan maxBytesPerFile maxTotalBytes
          (usedBytes maxBytesPerFile maxTotalBytes files used) file] := by
  induction files generalizing used with
  | nil => rfl
  | cons first rest ih =>
    rw [List.cons_append, longestScans, longestScans, ih]
    rfl

theorem length_longestScans :
    (longestScans maxBytesPerFile maxTotalBytes used files).length = files.length := by
  induction files generalizing used with
  | nil => rfl
  | cons first rest ih =>
    rw [longestScans, List.length_cons, List.length_cons, ih]

theorem longestScans_paths (maxBytesPerFile maxTotalBytes used : ℕ) (files : List RepositoryFile) :
    (longestScans maxBytesPerFile maxTotalBytes used files).map (·.path) = files.map Prod.fst := by
  induction files generalizing used with
  | nil => rfl
  | cons first rest ih =>
    rw [longestScans, List.map_cons, List.map_cons, ih]
    rfl

/-- Scanning less files takes a beginning of the scans. -/
theorem longestScans_take (count : ℕ) :
    longestScans maxBytesPerFile maxTotalBytes used (files.take count) =
      (longestScans maxBytesPerFile maxTotalBytes used files).take count := by
  induction files generalizing used count with
  | nil => simp [longestScans]
  | cons first rest ih =>
    cases count with
    | zero => rfl
    | succ count =>
      rw [List.take_succ_cons, longestScans, longestScans, List.take_succ_cons, ih]

theorem scannedBytes_append {scans : List RepositoryLiteralFileScan} (more : List RepositoryFile)
    (h : scans.length ≤ files.length) :
    scannedBytes (files ++ more) scans = scannedBytes files scans := by
  induction files generalizing scans with
  | nil =>
    obtain rfl : scans = [] := List.length_eq_zero_iff.mp (by simpa using h)
    simp [scannedBytes]
  | cons first rest ih =>
    cases scans with
    | nil => simp [scannedBytes]
    | cons scan scans =>
      have hshorter : scans.length ≤ rest.length := by simpa using h
      have hrest := ih hshorter
      simp only [scannedBytes, List.cons_append, List.zipWith_cons_cons, List.cons.injEq,
        true_and] at hrest ⊢
      exact hrest

theorem scannedBytes_concat {scans : List RepositoryLiteralFileScan} (file : RepositoryFile)
    (scan : RepositoryLiteralFileScan) (h : scans.length = files.length) :
    scannedBytes (files ++ [file]) (scans ++ [scan]) =
      scannedBytes files scans ++ [(file.1, file.2.take scan.bytesScanned.toNat)] := by
  unfold scannedBytes
  rw [List.zipWith_append h.symm]
  rfl

theorem positions_concat (pattern : Bytes) (scanned : List RepositoryFile)
    (file : RepositoryFile) : positions pattern (scanned ++ [file]) =
      positions pattern scanned ++
        (occurrences pattern file.2).map fun offset => ⟨file.1, .ofNat offset⟩ := by
  simp [positions]

end Scans

section Retained

variable (request : LiteralSearchRequest) (path : RepositoryRelativePath)

def matchAt (offset : ℕ) : RepositoryLiteralMatch := ⟨path, saturate64 offset⟩

/-- Matches are kept at offsets in turn, as long as the limits allow. -/
def retainOffsets : List ℕ → LiteralSearcher → LiteralSearcher
  | [], searcher => searcher
  | offset :: rest, searcher =>
    let found := matchAt path offset
    let matchCost := searcher.artifactBudget.primaryCost found.json
    if searcher.artifactBudget.admits matchCost = false then searcher.stop
    else
      let searcher := searcher.retain found matchCost
      if searcher.foundMatches.length ≥ request.maxMatches.toNat then searcher
      else retainOffsets rest searcher

variable {request path} in
theorem retainOffsets_stop {offset : ℕ} {rest : List ℕ} {searcher : LiteralSearcher}
    (h : searcher.artifactBudget.admits
      (searcher.artifactBudget.primaryCost (matchAt path offset).json) = false) :
    retainOffsets request path (offset :: rest) searcher = searcher.stop := by
  simp only [retainOffsets, h, if_true]

variable {request path} in
theorem retainOffsets_retain {offset : ℕ} {rest : List ℕ} {searcher : LiteralSearcher}
    (h : searcher.artifactBudget.admits
      (searcher.artifactBudget.primaryCost (matchAt path offset).json) = true) :
    retainOffsets request path (offset :: rest) searcher =
      let searcher := searcher.retain (matchAt path offset)
        (searcher.artifactBudget.primaryCost (matchAt path offset).json)
      if searcher.foundMatches.length ≥ request.maxMatches.toNat then searcher
      else retainOffsets request path rest searcher := by
  simp only [retainOffsets, h, Bool.true_eq_false, if_false]

/-- The matcher keeps what it finds from left to right. -/
theorem retainLiteralMatches_eq (index matched : ℕ) (bytes : Bytes) (searcher : LiteralSearcher) :
    retainLiteralMatches request path index matched bytes searcher =
      retainOffsets request path
        (matchesFrom request.pattern (literalPrefixTable request.pattern) index matched bytes)
        searcher := by
  induction bytes generalizing index matched searcher with
  | nil => rfl
  | cons byte rest ih =>
    rw [retainLiteralMatches, matchesFrom]
    dsimp only
    split
    · next hpartial =>
      have hresume := resume_of_ne (literalPrefixTable request.pattern) hpartial
      rw [ih, List.nil_append, hresume]
    · next hwhole =>
      rw [not_not] at hwhole
      have hresume := resume_of_eq (literalPrefixTable request.pattern) hwhole
      rw [if_pos hwhole, List.singleton_append, retainOffsets, hresume]
      dsimp only [matchAt]
      by_cases hfull : searcher.artifactBudget.admits (searcher.artifactBudget.primaryCost
          (RepositoryLiteralMatch.json
            ⟨path, saturate64 (index + 1 - request.pattern.length)⟩)) = false
      · simp only [hfull, if_true]
      · simp only [hfull, ih]

/-- Keeping matches changes nothing but the matches, their cost and the two flags. -/
theorem retainOffsets_frame (offsets : List ℕ) (searcher : LiteralSearcher) :
    (retainOffsets request path offsets searcher).fileScans = searcher.fileScans ∧
      (retainOffsets request path offsets searcher).filesScanned = searcher.filesScanned ∧
      (retainOffsets request path offsets searcher).bytesScanned = searcher.bytesScanned ∧
      (retainOffsets request path offsets searcher).listed = searcher.listed := by
  induction offsets generalizing searcher with
  | nil => exact ⟨rfl, rfl, rfl, rfl⟩
  | cons offset rest ih =>
    rw [retainOffsets]
    dsimp only
    split
    · exact ⟨rfl, rfl, rfl, rfl⟩
    · split
      · exact ⟨rfl, rfl, rfl, rfl⟩
      · exact ih _

/-- The searcher's budget is the length of its widest result. -/
def LiteralSearcher.charged (searcher : LiteralSearcher) (ceiling : UInt64) : Prop :=
  Charged searcher.artifactBudget ceiling
    (searchLength (widestSearch searcher.foundMatches searcher.fileScans))
    searcher.foundMatches.length searcher.fileScans.length

variable {request path} {ceiling : UInt64}

theorem charged_retain {searcher : LiteralSearcher} {found : RepositoryLiteralMatch}
    (h : searcher.charged ceiling)
    (hadmits : searcher.artifactBudget.admits
      (searcher.artifactBudget.primaryCost found.json) = true) :
    (searcher.retain found (searcher.artifactBudget.primaryCost found.json)).charged ceiling := by
  have hcommit := h.commitPrimary hadmits
  unfold LiteralSearcher.charged LiteralSearcher.retain
  dsimp only
  rw [searchLength_concat_match, List.length_append, List.length_singleton]
  exact hcommit

theorem ceiling_lt_of_not_admits {searcher : LiteralSearcher} {found : RepositoryLiteralMatch}
    (h : searcher.charged ceiling)
    (hadmits : searcher.artifactBudget.admits
      (searcher.artifactBudget.primaryCost found.json) = false) :
    ceiling.toNat < searchLength
      (widestSearch (searcher.foundMatches ++ [found]) searcher.fileScans) := by
  rw [searchLength_concat_match]
  have hiff := h.admits_primary found.json
  rw [hadmits] at hiff
  simpa using hiff

/-- Why no more matches were kept: there are none, or a limit was reached. -/
structure Retains (request : LiteralSearchRequest) (ceiling : UInt64)
    (all : List RepositoryLiteralMatch) (before after : LiteralSearcher)
    (kept : List RepositoryLiteralMatch) : Prop where
  found : after.foundMatches = before.foundMatches ++ kept
  beginning : kept <+: all
  charged : after.charged ceiling
  within : before.foundMatches.length < request.maxMatches.toNat →
    after.foundMatches.length ≤ request.maxMatches.toNat
  reason : (kept = all ∧ after.stopped = before.stopped ∧ after.truncated = before.truncated) ∨
    (request.maxMatches.toNat ≤ after.foundMatches.length ∧ after.stopped = before.stopped ∧
      after.truncated = before.truncated) ∨
    (after.stopped = true ∧ after.truncated = true ∧ ∃ next, kept ++ [next] <+: all ∧
      ceiling.toNat < searchLength
        (widestSearch (after.foundMatches ++ [next]) after.fileScans))

theorem retainOffsets_retains (request : LiteralSearchRequest) (path : RepositoryRelativePath)
    (offsets : List ℕ) {searcher : LiteralSearcher}
    (h : searcher.charged ceiling) :
    ∃ kept, Retains request ceiling (offsets.map (matchAt path)) searcher
      (retainOffsets request path offsets searcher) kept := by
  induction offsets generalizing searcher with
  | nil =>
    refine ⟨[], by simp [retainOffsets], List.prefix_rfl, h, ?_, .inl ⟨rfl, rfl, rfl⟩⟩
    intro hlt
    exact hlt.le
  | cons offset rest ih =>
    by_cases hfull : searcher.artifactBudget.admits
        (searcher.artifactBudget.primaryCost (matchAt path offset).json) = false
    · rw [retainOffsets_stop hfull]
      refine ⟨[], by simp [LiteralSearcher.stop], List.nil_prefix, h, ?_,
        .inr (.inr ⟨rfl, rfl, matchAt path offset, ?_, ceiling_lt_of_not_admits h hfull⟩)⟩
      · intro hlt
        exact hlt.le
      · simp
    · have hadmits := Bool.eq_true_of_not_eq_false hfull
      have hretain := charged_retain h hadmits
      rw [retainOffsets_retain hadmits]
      dsimp only
      split
      · next hlimit =>
        refine ⟨[matchAt path offset], rfl, by simp, hretain, ?_, .inr (.inl ⟨hlimit, rfl, rfl⟩)⟩
        intro hlt
        simp only [LiteralSearcher.retain, List.length_append, List.length_singleton]
        omega
      · next hbelow =>
        obtain ⟨kept, hkept⟩ := ih hretain
        refine ⟨matchAt path offset :: kept, ?_, ?_, hkept.charged, ?_, ?_⟩
        · rw [hkept.found]
          simp [LiteralSearcher.retain]
        · rw [List.map_cons, List.cons_prefix_cons]
          exact ⟨rfl, hkept.beginning⟩
        · intro _
          exact hkept.within (by omega)
        · rcases hkept.reason with ⟨hall, hstopped, htruncated⟩ | hlimit | hbudget
          · exact .inl ⟨by rw [hall, List.map_cons], hstopped, htruncated⟩
          · exact .inr (.inl hlimit)
          · obtain ⟨hstopped, htruncated, next, hnext, hceiling⟩ := hbudget
            refine .inr (.inr ⟨hstopped, htruncated, next, ?_, hceiling⟩)
            rw [List.map_cons, List.cons_append, List.cons_prefix_cons]
            exact ⟨rfl, hnext⟩

end Retained

section Files

theorem toNat_min64 (a b : UInt64) : (min a b).toNat = min a.toNat b.toNat := by
  by_cases hle : a ≤ b
  · have hmin : min a b = a := if_pos hle
    rw [UInt64.le_iff_toNat_le] at hle
    rw [hmin]
    omega
  · have hmin : min a b = b := if_neg hle
    rw [UInt64.le_iff_toNat_le] at hle
    rw [hmin]
    omega

theorem saturate64_of_le {value : ℕ} (h : value ≤ 2 ^ 64 - 1) : saturate64 value = .ofNat value := by
  unfold saturate64
  rw [Nat.min_eq_left h]

theorem toNat_ofNat64 {value : ℕ} (h : value < 2 ^ 64) : (UInt64.ofNat value).toNat = value := by
  rw [UInt64.toNat_ofNat', Nat.mod_eq_of_lt h]

theorem toNat_saturatingAdd64_one {value : UInt64} (h : value.toNat < 2 ^ 32) :
    (saturatingAdd64 value 1).toNat = value.toNat + 1 := by
  rw [toNat_saturatingAdd64]
  have hone : (1 : UInt64).toNat = 1 := rfl
  rw [hone]
  apply min_eq_left
  omega

variable {identity : RepositoryFileIdentity} {content : Bytes}

theorem length_lt_of_byteLen (h : identity.byteLen.toInt = content.length) :
    content.length < 2 ^ 63 := by
  have hlt := identity.byteLen.toInt_lt
  omega

theorem fileByteLen_eq (h : identity.byteLen.toInt = content.length) :
    fileByteLen identity = .ofNat content.length := by
  unfold fileByteLen
  rw [h]
  rfl

theorem toNat_fileByteLen (h : identity.byteLen.toInt = content.length) :
    (fileByteLen identity).toNat = content.length := by
  have hlt := length_lt_of_byteLen h
  rw [fileByteLen_eq h, toNat_ofNat64 (by omega)]

variable (request : LiteralSearchRequest) (searcher : LiteralSearcher)

/-- The bytes the search would read of a file. -/
def readLimit (identity : RepositoryFileIdentity) : UInt64 :=
  min (min (fileByteLen identity) request.maxBytesPerFile)
    (saturatingSub64 request.maxTotalBytes searcher.bytesScanned)

theorem toNat_readLimit (h : identity.byteLen.toInt = content.length) :
    (readLimit request searcher identity).toNat = scanLength request.maxBytesPerFile.toNat
      request.maxTotalBytes.toNat searcher.bytesScanned.toNat content := by
  unfold readLimit scanLength
  rw [toNat_min64, toNat_min64, toNat_fileByteLen h, toNat_saturatingSub64]

theorem scanLength_le (maxBytesPerFile maxTotalBytes used : ℕ) (content : Bytes) :
    scanLength maxBytesPerFile maxTotalBytes used content ≤ content.length ∧
      scanLength maxBytesPerFile maxTotalBytes used content ≤ maxBytesPerFile ∧
      scanLength maxBytesPerFile maxTotalBytes used content ≤ maxTotalBytes - used := by
  unfold scanLength
  omega

/-- The scan that is planned is the one that the limits allow. -/
theorem plannedScan_eq (h : identity.byteLen.toInt = content.length)
    (path : RepositoryRelativePath) :
    (⟨path, readLimit request searcher identity, fileByteLen identity,
      readLimit request searcher identity < fileByteLen identity⟩ : RepositoryLiteralFileScan) =
      longestScan request.maxBytesPerFile.toNat request.maxTotalBytes.toNat
        searcher.bytesScanned.toNat (path, content) := by
  have hlimit := toNat_readLimit request searcher h
  have hlength := toNat_fileByteLen h
  have hshorter : decide (readLimit request searcher identity < fileByteLen identity) =
      decide ((readLimit request searcher identity).toNat < content.length) := by
    rw [decide_eq_decide, UInt64.lt_iff_toNat_lt, hlength]
  unfold longestScan
  dsimp only
  rw [← hlimit, UInt64.ofNat_toNat, ← fileByteLen_eq h, hshorter]

end Files

section Invariant

variable {request : LiteralSearchRequest} {ceiling : UInt64} {searcher next : LiteralSearcher}
  {done : List RepositoryFile}

/-- The scans the limits allow of the files met so far. -/
def scansOf (request : LiteralSearchRequest) (files : List RepositoryFile) :
    List RepositoryLiteralFileScan :=
  longestScans request.maxBytesPerFile.toNat request.maxTotalBytes.toNat 0 files

def usedOf (request : LiteralSearchRequest) (files : List RepositoryFile) : ℕ :=
  usedBytes request.maxBytesPerFile.toNat request.maxTotalBytes.toNat files 0

/-- All places of the pattern in what the searcher has scanned. -/
def placesOf (request : LiteralSearchRequest) (files : List RepositoryFile)
    (searcher : LiteralSearcher) : List RepositoryLiteralMatch :=
  positions request.pattern (scannedBytes files searcher.fileScans)

/-- The searcher has scanned the first of the files it met, and kept the first of the places. -/
structure Kept (request : LiteralSearchRequest) (ceiling : UInt64)
    (searcher : LiteralSearcher) (done : List RepositoryFile) : Prop where
  visited : searcher.fileScans.length ≤ done.length
  scans : searcher.fileScans = scansOf request (done.take searcher.fileScans.length)
  filesScanned : searcher.filesScanned.toNat = searcher.fileScans.length
  bytesScanned :
    searcher.bytesScanned.toNat = usedOf request (done.take searcher.fileScans.length)
  files : searcher.fileScans.length ≤ request.maxFiles.toNat
  bytes : searcher.bytesScanned.toNat ≤ request.maxTotalBytes.toNat
  found : searcher.foundMatches <+: placesOf request done searcher
  whole : searcher.foundMatches = placesOf request done searcher ∨
    request.maxMatches.toNat ≤ searcher.foundMatches.length ∨
    ∃ next, searcher.foundMatches ++ [next] <+: placesOf request done searcher ∧
      ceiling.toNat <
        searchLength (widestSearch (searcher.foundMatches ++ [next]) searcher.fileScans)
  charged : searcher.charged ceiling
  matched : 0 < request.maxMatches.toNat →
    searcher.foundMatches.length ≤ request.maxMatches.toNat

/-- While it runs it has scanned every file it met and kept every place. -/
structure Searched (request : LiteralSearchRequest) (ceiling : UInt64)
    (searcher : LiteralSearcher) (done : List RepositoryFile) : Prop
    extends Kept request ceiling searcher done where
  running : searcher.stopped = false → searcher.fileScans.length = done.length ∧
    searcher.foundMatches = placesOf request done searcher ∧
    (0 < request.maxMatches.toNat →
      searcher.foundMatches.length < request.maxMatches.toNat)
  untruncated : searcher.truncated = false → searcher.stopped = false ∧
    ∀ scan ∈ searcher.fileScans, scan.bytesScanned = scan.fileByteLen

/-- A searcher that stops keeps what it has. -/
theorem Kept.stop (h : Kept request ceiling searcher done) :
    Searched request ceiling searcher.stop done := by
  refine ⟨⟨h.visited, h.scans, h.filesScanned, h.bytesScanned, h.files, h.bytes, h.found, h.whole,
    h.charged, h.matched⟩, ?_, ?_⟩
  · intro hrunning
    cases hrunning
  · intro huntruncated
    cases huntruncated

/-- A stopped searcher meets more files without scanning them. -/
theorem Searched.extend (h : Searched request ceiling searcher done)
    (hstopped : searcher.stopped = true) (more : List RepositoryFile) :
    Searched request ceiling searcher (done ++ more) := by
  have htake : (done ++ more).take searcher.fileScans.length =
      done.take searcher.fileScans.length := List.take_append_of_le_length h.visited
  have hplaces : placesOf request (done ++ more) searcher = placesOf request done searcher := by
    unfold placesOf
    rw [scannedBytes_append more h.visited]
  refine ⟨⟨?_, ?_, h.filesScanned, ?_, h.files, h.bytes, ?_, ?_, h.charged, h.matched⟩, ?_,
    h.untruncated⟩
  · rw [List.length_append]
    exact h.visited.trans (Nat.le_add_right _ _)
  · rw [htake]
    exact h.scans
  · rw [htake]
    exact h.bytesScanned
  · rw [hplaces]
    exact h.found
  · rw [hplaces]
    exact h.whole
  · intro hrunning
    rw [hstopped] at hrunning
    cases hrunning

/-- The searcher after a scan, before it looks for the pattern. -/
def scannedFile (searcher : LiteralSearcher) (observed : UInt64)
    (scan : RepositoryLiteralFileScan) : LiteralSearcher :=
  ({ searcher with
    filesScanned := saturatingAdd64 searcher.filesScanned 1
    bytesScanned := saturatingAdd64 searcher.bytesScanned observed } : LiteralSearcher).scan scan
    (searcher.artifactBudget.secondaryCost scan.json)

theorem charged_scannedFile (h : searcher.charged ceiling) (observed : UInt64)
    {scan : RepositoryLiteralFileScan}
    (hadmits : searcher.artifactBudget.admits
      (searcher.artifactBudget.secondaryCost scan.json) = true) :
    (scannedFile searcher observed scan).charged ceiling := by
  have hcommit := h.commitSecondary hadmits
  unfold LiteralSearcher.charged scannedFile LiteralSearcher.scan
  dsimp only
  rw [searchLength_concat_scan, List.length_append, List.length_singleton]
  exact hcommit

/-- The scan of a file that a running searcher makes. -/
def scanOf (request : LiteralSearchRequest) (searcher : LiteralSearcher) (file : RepositoryFile) :
    RepositoryLiteralFileScan :=
  longestScan request.maxBytesPerFile.toNat request.maxTotalBytes.toNat
    searcher.bytesScanned.toNat file

/-- The bytes of that scan. -/
def bytesOf (request : LiteralSearchRequest) (searcher : LiteralSearcher) (content : Bytes) :
    Bytes :=
  content.take (scanLength request.maxBytesPerFile.toNat request.maxTotalBytes.toNat
    searcher.bytesScanned.toNat content)

/-- What a file does to a searcher: it stops before the file, or it scans it and looks for the
pattern in the bytes it got. -/
theorem searchFile_cases (request : LiteralSearchRequest) (searcher : LiteralSearcher)
    {identity : RepositoryFileIdentity} {content : Bytes} (path : RepositoryRelativePath)
    (hlength : identity.byteLen.toInt = content.length) :
    searchFile request (.leaf (.regularFile identity content)) path searcher =
        .ok searcher.stop ∨
      (searcher.filesScanned < request.maxFiles.toUInt64 ∧
        searcher.artifactBudget.admits (searcher.artifactBudget.secondaryCost
          (scanOf request searcher (path, content)).json) = true ∧
        searchFile request (.leaf (.regularFile identity content)) path searcher = .ok
          (let scan := scanOf request searcher (path, content)
          let after := retainLiteralMatches request path 0 0 (bytesOf request searcher content)
            (scannedFile searcher scan.bytesScanned scan)
          if after.foundMatches.length ≥ request.maxMatches.toNat ∨
            after.bytesScanned ≥ request.maxTotalBytes then after.stop else after)) := by
  have hplanned := plannedScan_eq request searcher hlength path
  have hlimit := toNat_readLimit request searcher hlength
  have hshort := length_lt_of_byteLen hlength
  by_cases hfiles : searcher.filesScanned ≥ request.maxFiles.toUInt64
  · exact .inl (if_pos hfiles)
  by_cases hremaining : saturatingSub64 request.maxTotalBytes searcher.bytesScanned = 0
  · exact .inl ((if_neg hfiles).trans (if_pos hremaining))
  have hcontent : (readLimit request searcher identity).toNat ≤ content.length := by
    rw [hlimit]
    exact (scanLength_le _ _ _ _).1
  have hobserved : saturate64 (content.take (readLimit request searcher identity).toNat).length =
      readLimit request searcher identity := by
    rw [List.length_take, Nat.min_eq_left hcontent, saturate64_of_le (by omega),
      UInt64.ofNat_toNat]
  have hbytes : content.take (readLimit request searcher identity).toNat =
      bytesOf request searcher content := by
    rw [hlimit]
    rfl
  have hscanned : (scanOf request searcher (path, content)).bytesScanned =
      readLimit request searcher identity := by
    rw [scanOf, ← hplanned]
  by_cases hadmits : searcher.artifactBudget.admits (searcher.artifactBudget.secondaryCost
      (scanOf request searcher (path, content)).json) = false
  · left
    refine (if_neg hfiles).trans ((if_neg hremaining).trans (if_pos ?_))
    rw [scanOf, ← hplanned] at hadmits
    exact hadmits
  · rw [Bool.not_eq_false] at hadmits
    refine .inr ⟨UInt64.not_le.mp hfiles, hadmits, ?_⟩
    have hread : searchFile request (.leaf (.regularFile identity content)) path searcher =
        searchBytes request path (fileByteLen identity)
          (content.take (readLimit request searcher identity).toNat) searcher := by
      refine (if_neg hfiles).trans ((if_neg hremaining).trans (if_neg ?_))
      rw [scanOf, ← hplanned] at hadmits
      rw [Bool.not_eq_false]
      exact hadmits
    rw [hread]
    unfold searchBytes
    dsimp only
    rw [hobserved, hplanned, hbytes]
    change (do
      ensure (searcher.artifactBudget.admits (searcher.artifactBudget.secondaryCost
        (scanOf request searcher (path, content)).json) = true)
        RepositoryToolFailure.brokerStateUnavailable
      return _) = _
    rw [hadmits, hscanned]
    rfl

/-- The places in one more scanned file, after those of the files before it. -/
theorem places_concat (request : LiteralSearchRequest) (scan : RepositoryLiteralFileScan) {path : RepositoryRelativePath}
    {content : Bytes} (hrunning : searcher.fileScans.length = done.length)
    (hscan : scan = scanOf request searcher (path, content)) (hcontent : content.length < 2 ^ 63) :
    positions request.pattern
        (scannedBytes (done ++ [(path, content)]) (searcher.fileScans ++ [scan])) =
      placesOf request done searcher ++
        (occurrences request.pattern (bytesOf request searcher content)).map (matchAt path) := by
  have hle := (scanLength_le request.maxBytesPerFile.toNat request.maxTotalBytes.toNat
    searcher.bytesScanned.toNat content).1
  have hbytes : content.take scan.bytesScanned.toNat = bytesOf request searcher content := by
    rw [hscan]
    unfold scanOf longestScan bytesOf
    dsimp only
    rw [toNat_ofNat64 (by omega)]
  rw [scannedBytes_concat _ _ hrunning, positions_concat]
  dsimp only
  rw [hbytes]
  congr 1
  apply List.map_congr_left
  intro offset hoffset
  have hlt := List.mem_range.mp (List.mem_of_mem_filter hoffset)
  have hlength : (bytesOf request searcher content).length ≤ content.length :=
    List.length_take_le' _ _
  unfold matchAt
  rw [saturate64_of_le (by omega)]

theorem complete_of_not_truncated {maxBytesPerFile maxTotalBytes used : ℕ}
    {file : RepositoryFile}
    (h : (longestScan maxBytesPerFile maxTotalBytes used file).truncated = false) :
    (longestScan maxBytesPerFile maxTotalBytes used file).bytesScanned =
      (longestScan maxBytesPerFile maxTotalBytes used file).fileByteLen := by
  have hle := (scanLength_le maxBytesPerFile maxTotalBytes used file.2).1
  unfold longestScan at h ⊢
  dsimp only at h ⊢
  rw [decide_eq_false_iff_not, not_lt] at h
  rw [Nat.le_antisymm hle h]

/-- A running searcher keeps its invariant over a file it scans. -/
theorem Searched.scanned (h : Searched request ceiling searcher done)
    (hpattern : request.pattern ≠ []) (hrunning : searcher.stopped = false)
    {path : RepositoryRelativePath} {content : Bytes} (hcontent : content.length < 2 ^ 63)
    (hfiles : searcher.filesScanned < request.maxFiles.toUInt64)
    (hadmits : searcher.artifactBudget.admits (searcher.artifactBudget.secondaryCost
      (scanOf request searcher (path, content)).json) = true) :
    let scan := scanOf request searcher (path, content)
    let after := retainLiteralMatches request path 0 0 (bytesOf request searcher content)
      (scannedFile searcher scan.bytesScanned scan)
    Searched request ceiling (if after.foundMatches.length ≥ request.maxMatches.toNat ∨
      after.bytesScanned ≥ request.maxTotalBytes then after.stop else after)
      (done ++ [(path, content)]) := by
  intro scan after
  obtain ⟨hlength, hall, hbelow⟩ := h.running hrunning
  have hoffsets : after = retainOffsets request path
      (occurrences request.pattern (bytesOf request searcher content))
      (scannedFile searcher scan.bytesScanned scan) := by
    unfold after
    rw [retainLiteralMatches_eq, literalPrefixTable, matchesFrom_failureTable hpattern]
  obtain ⟨hscans, hfilesScanned, hbytesScanned, _⟩ := retainOffsets_frame request path
    (occurrences request.pattern (bytesOf request searcher content))
    (scannedFile searcher scan.bytesScanned scan)
  obtain ⟨kept, hkept⟩ := retainOffsets_retains request path
    (occurrences request.pattern (bytesOf request searcher content))
    (charged_scannedFile h.charged scan.bytesScanned hadmits)
  rw [← hoffsets] at hscans hfilesScanned hbytesScanned hkept
  have hfound : after.foundMatches = searcher.foundMatches ++ kept := hkept.found
  have hplaces := places_concat request scan hlength rfl hcontent
  have hafterScans : after.fileScans = searcher.fileScans ++ [scan] := hscans
  have hafter : placesOf request (done ++ [(path, content)]) after = placesOf request done searcher ++
      (occurrences request.pattern (bytesOf request searcher content)).map (matchAt path) := by
    unfold placesOf
    rw [hafterScans]
    exact hplaces
  have hcount : after.fileScans.length = (done ++ [(path, content)]).length := by
    rw [hafterScans, List.length_append, List.length_append, hlength]
    rfl
  have htake : (done ++ [(path, content)]).take after.fileScans.length =
      done ++ [(path, content)] := by
    rw [hcount, List.take_length]
  have hold : done.take searcher.fileScans.length = done := by
    rw [hlength, List.take_length]
  have hused : usedOf request (done ++ [(path, content)]) = searcher.bytesScanned.toNat +
      scanLength request.maxBytesPerFile.toNat request.maxTotalBytes.toNat
        searcher.bytesScanned.toNat content := by
    rw [h.bytesScanned, hold]
    unfold usedOf usedBytes
    rw [List.foldl_append]
    rfl
  have hlengthLe := scanLength_le request.maxBytesPerFile.toNat request.maxTotalBytes.toNat
    searcher.bytesScanned.toNat content
  have hscanBytes : scan.bytesScanned.toNat = scanLength request.maxBytesPerFile.toNat
      request.maxTotalBytes.toNat searcher.bytesScanned.toNat content := by
    unfold scan scanOf longestScan
    dsimp only
    rw [toNat_ofNat64 (by omega)]
  have htotal := request.maxTotalBytes.toNat_lt
  have hbytesBound := h.bytes
  have hafterBytes : after.bytesScanned.toNat = usedOf request (done ++ [(path, content)]) := by
    rw [hbytesScanned, hused]
    unfold scannedFile LiteralSearcher.scan
    dsimp only
    rw [toNat_saturatingAdd64, hscanBytes]
    omega
  have hfilesCount := h.filesScanned
  have hfilesBelow : searcher.filesScanned.toNat < request.maxFiles.toNat := by
    rw [UInt64.lt_iff_toNat_lt, UInt32.toNat_toUInt64] at hfiles
    exact hfiles
  have hfilesBound := request.maxFiles.toNat_lt
  have hkeptData : Kept request ceiling after (done ++ [(path, content)]) := by
    refine ⟨hcount.le, ?_, ?_, ?_, ?_, ?_, ?_, ?_, hkept.charged, ?_⟩
    · rw [htake, hafterScans]
      unfold scansOf
      rw [longestScans_concat, h.scans, hold]
      unfold scan scanOf
      rw [h.bytesScanned, hold]
      rfl
    · rw [hfilesScanned, hafterScans, List.length_append, List.length_singleton]
      unfold scannedFile LiteralSearcher.scan
      dsimp only
      rw [toNat_saturatingAdd64_one (by omega), hfilesCount]
    · rw [htake]
      exact hafterBytes
    · rw [hafterScans, List.length_append, List.length_singleton]
      omega
    · rw [hafterBytes, hused]
      omega
    · rw [hfound, hafter, hall]
      exact List.prefix_append_right_inj _ |>.mpr hkept.beginning
    · rw [hfound, hafter, hall]
      rcases hkept.reason with ⟨hwhole, _⟩ | ⟨hlimit, _⟩ | ⟨_, _, next, hnext, hceiling⟩
      · exact .inl (by rw [hwhole])
      · rw [hfound, hall] at hlimit
        exact .inr (.inl hlimit)
      · rw [hfound, hall] at hceiling
        refine .inr (.inr ⟨next, ?_, hceiling⟩)
        rw [List.append_assoc]
        exact List.prefix_append_right_inj _ |>.mpr hnext
    · intro hpositive
      exact hkept.within (hbelow hpositive)
  split
  · exact hkeptData.stop
  · next hopen =>
    rw [not_or, not_le, ge_iff_le, UInt64.not_le] at hopen
    -- neither limit was reached, so that every place in the file was kept
    have hreason : after.stopped = false → kept =
        (occurrences request.pattern (bytesOf request searcher content)).map (matchAt path) ∧
        after.truncated = (searcher.truncated || scan.truncated) := by
      intro hrunningAfter
      rcases hkept.reason with ⟨hwhole, _, htruncated⟩ | ⟨hlimit, _⟩ | ⟨hstopped, _⟩
      · exact ⟨hwhole, htruncated⟩
      · exact absurd hlimit (not_le.mpr hopen.1)
      · rw [hrunningAfter] at hstopped
        cases hstopped
    refine ⟨hkeptData, ?_, ?_⟩
    · intro hrunningAfter
      refine ⟨hcount, ?_, fun _ => hopen.1⟩
      rw [hfound, hafter, hall, (hreason hrunningAfter).1]
    · intro huntruncated
      have hrunningAfter : after.stopped = false := by
        rcases hkept.reason with ⟨_, hstopped, _⟩ | ⟨hlimit, _⟩ | ⟨_, htruncated, _⟩
        · exact hstopped.trans hrunning
        · exact absurd hlimit (not_le.mpr hopen.1)
        · rw [huntruncated] at htruncated
          cases htruncated
      have hflags := (hreason hrunningAfter).2
      rw [huntruncated, eq_comm, Bool.or_eq_false_iff] at hflags
      refine ⟨hrunningAfter, ?_⟩
      rw [hafterScans]
      intro found hmem
      rcases List.mem_append.mp hmem with hmem | hmem
      · exact (h.untruncated hflags.1).2 found hmem
      · rw [List.mem_singleton.mp hmem]
        exact complete_of_not_truncated hflags.2

end Invariant

end BirdCode.Tooling
