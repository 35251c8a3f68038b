import BirdCode.Lib.KnuthMorrisPratt
import BirdCode.Lib.OrderedTree
import BirdCode.Tooling.Authorization

/-! The three repository reads over a tree of files that does not change while they run. -/
namespace BirdCode.Tooling

open Store Lib

section Files

/-- A node that is no directory, as `statat` and a read report it. -/
inductive Leaf
  | regularFile (identity : RepositoryFileIdentity) (content : Bytes)
  | symlink (identity : RepositoryFileIdentity)
  | other (identity : RepositoryFileIdentity)

/-- A directory lists its children in the order of the file system. -/
abbrev Node := OrderedTree Bytes Leaf RepositoryFileIdentity

def nodeKind : Node → RepositoryNodeKind
  | .leaf (.regularFile ..) => .regularFile
  | .leaf (.symlink _) => .symlink
  | .leaf (.other _) => .other
  | .branch .. => .directory

def identity : Node → RepositoryFileIdentity
  | .leaf (.regularFile identity _) | .leaf (.symlink identity) | .leaf (.other identity)
  | .branch identity _ => identity

/-- `u64::try_from(byte_len).unwrap_or(0)`. -/
def fileByteLen (identity : RepositoryFileIdentity) : UInt64 :=
  .ofNat identity.byteLen.toInt.toNat

def isDotName (name : Bytes) : Bool := name = [0x2e] || name = [0x2e, 0x2e]

/-- The names in a directory are distinct and none is a dot name, and the length of a file is the
one it reports. -/
structure WellFormed (root : Node) : Prop where
  distinct : root.Distinct
  named : ∀ path identity children, root.lookup path = some (.branch identity children) →
    ∀ name ∈ children.map Prod.fst, isDotName name = false
  byteLen : ∀ path identity content,
    root.lookup path = some (.leaf (.regularFile identity content)) →
      identity.byteLen.toInt = content.length

end Files

section Budget

/-- The bytes a result takes so far, with its counters at their widest. -/
structure CanonicalResultBudget where
  ceiling : UInt64
  used : UInt64
  primaryItems : UInt64
  secondaryItems : UInt64

def CanonicalResultBudget.new (baseBytes ceiling : UInt64) :
    Except RepositoryToolFailure CanonicalResultBudget := do
  ensure (baseBytes ≤ ceiling) (.limitExceeded .artifactBytes baseBytes ceiling)
  return { ceiling, used := baseBytes, primaryItems := 0, secondaryItems := 0 }

def canonicalLen (text : Bytes) : UInt64 := saturate64 text.length

def canonicalArrayItemCost (text : Bytes) (existingItems : UInt64) : UInt64 :=
  saturatingAdd64 (canonicalLen text) (if existingItems > 0 then 1 else 0)

namespace CanonicalResultBudget

variable (budget : CanonicalResultBudget)

def primaryCost (text : Bytes) : UInt64 := canonicalArrayItemCost text budget.primaryItems

def secondaryCost (text : Bytes) : UInt64 := canonicalArrayItemCost text budget.secondaryItems

def admits (cost : UInt64) : Bool :=
  (checkedAdd budget.used cost).any (· ≤ budget.ceiling)

def commitPrimary (cost : UInt64) : CanonicalResultBudget :=
  { budget with
    used := saturatingAdd64 budget.used cost
    primaryItems := saturatingAdd64 budget.primaryItems 1 }

def commitSecondary (cost : UInt64) : CanonicalResultBudget :=
  { budget with
    used := saturatingAdd64 budget.used cost
    secondaryItems := saturatingAdd64 budget.secondaryItems 1 }

end CanonicalResultBudget

end Budget

section Directories

def ensureSameDevice (rootDevice observedDevice : UInt64) : Except RepositoryToolFailure Unit :=
  ensure (rootDevice = observedDevice) (.crossDeviceBoundary rootDevice observedDevice)

/-- `open_child_directory`: nothing but a directory is opened, and no symlink is followed. -/
def openChildDirectory (parent : Node) (component : Bytes) (rootDevice : UInt64) :
    Except RepositoryToolFailure Node := do
  let child ← expect (.io .openDirectory .notFound (some 2)) (parent.lookup [component])
  ensure (nodeKind child = .directory) (.io .openDirectory .wrongFileType (some 20))
  ensureSameDevice rootDevice (identity child).device
  return child

def openDirectory (root : Node) (path : RepositoryRelativePath) (rootDevice : UInt64) :
    Except RepositoryToolFailure Node :=
  path.unixComponents.foldlM (fun current component =>
    openChildDirectory current component rootDevice) root

def openFile (root : Node) (path : RepositoryRelativePath) (rootDevice : UInt64) :
    Except RepositoryToolFailure Node := do
  let fileName ← expect (.invalidPath .emptyFilePath none) path.unixComponents.getLast?
  let parent ← openDirectory root (.unix path.unixComponents.dropLast) rootDevice
  let child ← expect (.io .openFile .notFound (some 2)) (parent.lookup [fileName])
  ensure (nodeKind child ≠ .symlink) (.io .openFile .symlinkRejected (some 40))
  return child

/-- What a walk has listed so far. -/
structure Listed where
  directoryEntriesScanned : UInt64
  directoryNameBytesScanned : UInt64

/-- One entry of a listing is counted, under the three limits of a listing. -/
def countName (bounds : RepositoryToolBounds) (listed : Listed) (name : Bytes) :
    Except RepositoryToolFailure Listed := do
  let entries := saturatingAdd64 listed.directoryEntriesScanned 1
  ensure (entries ≤ bounds.maxDirectoryEntriesScanned.toUInt64)
    (.limitExceeded .directoryEntriesScanned entries bounds.maxDirectoryEntriesScanned.toUInt64)
  ensure (saturate64 name.length ≤ bounds.maxComponentBytes)
    (.limitExceeded .componentBytes (saturate64 name.length) bounds.maxComponentBytes)
  let bytes := (checkedAdd listed.directoryNameBytesScanned (saturate64 name.length)).getD
    (.ofNat (2 ^ 64 - 1))
  ensure (bytes ≤ bounds.maxDirectoryNameBytesScanned)
    (.limitExceeded .directoryNameBytesScanned bytes bounds.maxDirectoryNameBytesScanned)
  return ⟨entries, bytes⟩

/-- The sorted names of a directory. -/
def directoryNames (bounds : RepositoryToolBounds) (children : List (Bytes × Node))
    (listed : Listed) : Except RepositoryToolFailure (List Bytes × Listed) := do
  let names := (children.map Prod.fst).filter fun name => isDotName name = false
  let listed ← names.foldlM (countName bounds) listed
  return (names.mergeSort, listed)

def appendedPath (path : RepositoryRelativePath) (component : Bytes) : RepositoryRelativePath :=
  .unix (path.unixComponents ++ [component])

def ensureDiscoveredPathBound (bounds : RepositoryToolBounds) (path : RepositoryRelativePath) :
    Except RepositoryToolFailure Unit := do
  let componentCount := saturate64 path.unixComponents.length
  ensure (componentCount ≤ bounds.maxPathComponents.toUInt64)
    (.limitExceeded .pathComponents componentCount bounds.maxPathComponents.toUInt64)
  let pathBytes := path.unixComponents.foldl addComponentBytes 0
  ensure (pathBytes ≤ bounds.maxPathBytes)
    (.limitExceeded .pathBytes pathBytes bounds.maxPathBytes)

/-- An entry of a listing: it exists, on the device of the root, and its path is within bounds. -/
def statEntry (bounds : RepositoryToolBounds) (rootDevice : UInt64) (directory : Node)
    (path : RepositoryRelativePath) (name : Bytes) :
    Except RepositoryToolFailure (Node × RepositoryRelativePath) := do
  let node ← expect (.io .statDirectoryEntry .notFound (some 2)) (directory.lookup [name])
  ensureSameDevice rootDevice (identity node).device
  let childPath := appendedPath path name
  ensureDiscoveredPathBound bounds childPath
  return (node, childPath)

/-- The listing of an opened directory. -/
def listing : Node → List (Bytes × Node)
  | .leaf _ => []
  | .branch _ children => children

end Directories

section Tree

structure TreeWalker where
  entries : List RepositoryTreeEntry
  artifactBudget : CanonicalResultBudget
  listed : Listed
  truncated : Bool

/-- What a walk knows besides its state. -/
structure WalkRequest where
  bounds : RepositoryToolBounds
  rootDevice : UInt64

variable (request : WalkRequest) (maxEntries : UInt32)

def treeEntry (node : Node) (path : RepositoryRelativePath) : RepositoryTreeEntry where
  path
  kind := nodeKind node
  byteLen := if nodeKind node = .regularFile then
      if (identity node).byteLen.toInt < 0 then none else some (fileByteLen (identity node))
    else none

/-- An entry is kept, unless the bytes are used up. -/
def TreeWalker.admitNode (walker : TreeWalker) (node : Node) (path : RepositoryRelativePath) :
    TreeWalker :=
  let entry := treeEntry node path
  let entryCost := walker.artifactBudget.primaryCost entry.json
  if walker.artifactBudget.admits entryCost then
    { walker with
      artifactBudget := walker.artifactBudget.commitPrimary entryCost
      entries := walker.entries ++ [entry] }
  else { walker with truncated := true }

/-- Names are visited until the walk is truncated. -/
def forEachName (visit : Bytes → TreeWalker → Except RepositoryToolFailure TreeWalker) :
    List Bytes → TreeWalker → Except RepositoryToolFailure TreeWalker
  | [], walker => .ok walker
  | name :: rest, walker => do
    let walker ← visit name walker
    if walker.truncated then return walker else forEachName visit rest walker

/-- `TreeWalker::walk`, over the levels that remain below the depth limit. -/
def TreeWalker.walk : ℕ → Node → RepositoryRelativePath → TreeWalker →
    Except RepositoryToolFailure TreeWalker
  | 0, _, _, walker => .ok walker
  | levels + 1, directory, path, walker =>
    if walker.truncated then .ok walker
    else do
      let (names, listed) ← directoryNames request.bounds (listing directory) walker.listed
      forEachName (fun name walker =>
        if walker.entries.length ≥ maxEntries.toNat then .ok { walker with truncated := true }
        else do
          let (node, childPath) ← statEntry request.bounds request.rootDevice directory path name
          let walker := walker.admitNode node childPath
          if walker.truncated then return walker
          else if nodeKind node = .directory ∧ 0 < levels then
            let child ← openChildDirectory directory name request.rootDevice
            walk levels child childPath walker
          else return walker) names { walker with listed }

def tree (base64 : Bytes → String) (root : Node) (path : RepositoryRelativePath)
    (maxDepth maxEntries : UInt32) (bounds : RepositoryToolBounds) :
    Except RepositoryToolFailure RepositoryTreeResult := do
  let artifactBudget ← CanonicalResultBudget.new
    (repositoryToolResultV2PreflightSize base64 (.repositoryTree path maxDepth maxEntries))
    bounds.maxArtifactBytes
  let rootDevice := (identity root).device
  let start ← openDirectory root path rootDevice
  let walker ← TreeWalker.walk ⟨bounds, rootDevice⟩ maxEntries maxDepth.toNat start path
    { entries := [], artifactBudget, listed := ⟨0, 0⟩, truncated := false }
  return {
    entries := walker.entries
    directoryEntriesScanned := walker.listed.directoryEntriesScanned
    directoryNameBytesScanned := walker.listed.directoryNameBytesScanned
    truncated := walker.truncated }

end Tree

section Read

/-- The bytes that leave room for the rest of the result once they are in base64. -/
def rawContentBudget (maxArtifactBytes fixedBytes : UInt64) : UInt64 :=
  let groups := (saturatingSub64 maxArtifactBytes fixedBytes).toNat / 4
  saturate64 (groups * 3)

def readFile (base64 : Bytes → String) (root : Node) (path : RepositoryRelativePath)
    (offsetBytes maxBytes : UInt64) (bounds : RepositoryToolBounds) :
    Except RepositoryToolFailure (RepositoryReadFileResultV2 Bytes) := do
  let _ ← CanonicalResultBudget.new
    (repositoryToolResultV2PreflightSize base64 (.repositoryFileRead path offsetBytes maxBytes))
    bounds.maxArtifactBytes
  let rootDevice := (identity root).device
  let node ← openFile root path rootDevice
  ensureSameDevice rootDevice (identity node).device
  let content ← match node with
    | .leaf (.regularFile _ content) => .ok content
    | node => .error (.wrongFileType .regularFile (nodeKind node))
  let fileByteLen := fileByteLen (identity node)
  ensure (offsetBytes ≤ fileByteLen) (.invalidReadRange offsetBytes fileByteLen)
  let emptyResult : RepositoryReadFileResultV2 Bytes :=
    { path, offsetBytes, bytes := [], fileByteLen, truncated := false }
  let fixedBytes := canonicalLen
    ((RepositoryToolResultV2.repositoryFileRead emptyResult).map base64).json
  let bytesToRead := min (min (saturatingSub64 fileByteLen offsetBytes) maxBytes)
    (rawContentBudget bounds.maxArtifactBytes fixedBytes)
  let bytes := (content.drop offsetBytes.toNat).take bytesToRead.toNat
  let observedBytes := saturate64 bytes.length
  return {
    path
    offsetBytes
    bytes
    fileByteLen
    truncated := saturatingAdd64 offsetBytes observedBytes < fileByteLen }

end Read

section Search

structure LiteralSearchRequest where
  walk : WalkRequest
  pattern : Bytes
  maxFiles : UInt32
  maxMatches : UInt32
  maxBytesPerFile : UInt64
  maxTotalBytes : UInt64

structure LiteralSearcher where
  foundMatches : List RepositoryLiteralMatch
  fileScans : List RepositoryLiteralFileScan
  artifactBudget : CanonicalResultBudget
  directoriesScanned : UInt64
  filesScanned : UInt64
  bytesScanned : UInt64
  listed : Listed
  symlinksSkipped : UInt64
  specialNodesSkipped : UInt64
  truncated : Bool
  stopped : Bool

/-- `literal_prefix_table`. -/
def literalPrefixTable (pattern : Bytes) : List ℕ := failureTable pattern

/-- `truncated` and `stopped` are set together. -/
def LiteralSearcher.stop (searcher : LiteralSearcher) : LiteralSearcher :=
  { searcher with truncated := true, stopped := true }

variable (request : LiteralSearchRequest)

def LiteralSearcher.retain (searcher : LiteralSearcher) (found : RepositoryLiteralMatch)
    (cost : UInt64) : LiteralSearcher :=
  { searcher with
    artifactBudget := searcher.artifactBudget.commitPrimary cost
    foundMatches := searcher.foundMatches ++ [found] }

/-- `retain_literal_matches` from a byte on, with the length of the pattern that was matched. -/
def retainLiteralMatches (path : RepositoryRelativePath) :
    ℕ → ℕ → Bytes → LiteralSearcher → LiteralSearcher
  | _, _, [], searcher => searcher
  | index, patternBytesMatched, byte :: rest, searcher =>
    let table := literalPrefixTable request.pattern
    let patternBytesMatched := advance request.pattern table patternBytesMatched byte
    if patternBytesMatched ≠ request.pattern.length then
      retainLiteralMatches path (index + 1) patternBytesMatched rest searcher
    else
      let found : RepositoryLiteralMatch :=
        ⟨path, saturate64 (index + 1 - request.pattern.length)⟩
      let matchCost := searcher.artifactBudget.primaryCost found.json
      if searcher.artifactBudget.admits matchCost = false then searcher.stop
      else
        let searcher := searcher.retain found matchCost
        if searcher.foundMatches.length ≥ request.maxMatches.toNat then searcher
        else retainLiteralMatches path (index + 1) (table.getD (patternBytesMatched - 1) 0) rest
          searcher

/-- `read_child_prefix`. -/
def readChildPrefix (node : Node) (limit : UInt64) : Except RepositoryToolFailure Bytes :=
  match node with
  | .leaf (.regularFile _ content) => .ok (content.take limit.toNat)
  | node => .error (.wrongFileType .regularFile (nodeKind node))

/-- A scan of a file is recorded with what it cost. -/
def LiteralSearcher.scan (searcher : LiteralSearcher) (scan : RepositoryLiteralFileScan)
    (cost : UInt64) : LiteralSearcher :=
  { searcher with
    artifactBudget := searcher.artifactBudget.commitSecondary cost
    fileScans := searcher.fileScans ++ [scan]
    truncated := searcher.truncated || scan.truncated }

/-- The part of `search_file` after the read. -/
def searchBytes (path : RepositoryRelativePath) (fileLen : UInt64) (bytes : Bytes)
    (searcher : LiteralSearcher) : Except RepositoryToolFailure LiteralSearcher := do
  let observedBytes := saturate64 bytes.length
  let searcher := { searcher with
    filesScanned := saturatingAdd64 searcher.filesScanned 1
    bytesScanned := saturatingAdd64 searcher.bytesScanned observedBytes }
  let fileScan : RepositoryLiteralFileScan :=
    ⟨path, observedBytes, fileLen, observedBytes < fileLen⟩
  let fileScanCost := searcher.artifactBudget.secondaryCost fileScan.json
  ensure (searcher.artifactBudget.admits fileScanCost) .brokerStateUnavailable
  let searcher := retainLiteralMatches request path 0 0 bytes (searcher.scan fileScan fileScanCost)
  return if searcher.foundMatches.length ≥ request.maxMatches.toNat ∨
      searcher.bytesScanned ≥ request.maxTotalBytes then searcher.stop
    else searcher

def searchFile (node : Node) (path : RepositoryRelativePath) (searcher : LiteralSearcher) :
    Except RepositoryToolFailure LiteralSearcher :=
  let totalRemaining := saturatingSub64 request.maxTotalBytes searcher.bytesScanned
  let fileLen := fileByteLen (identity node)
  let readLimit := min (min fileLen request.maxBytesPerFile) totalRemaining
  let plannedScan : RepositoryLiteralFileScan :=
    ⟨path, readLimit, fileLen, readLimit < fileLen⟩
  if searcher.filesScanned ≥ request.maxFiles.toUInt64 then .ok searcher.stop
  else if totalRemaining = 0 then .ok searcher.stop
  else if searcher.artifactBudget.admits
      (searcher.artifactBudget.secondaryCost plannedScan.json) = false then .ok searcher.stop
  else do
    let bytes ← readChildPrefix node readLimit
    searchBytes request path fileLen bytes searcher

/-- Names are visited until the search is stopped. -/
def forEachSearched
    (visit : Bytes → LiteralSearcher → Except RepositoryToolFailure LiteralSearcher) :
    List Bytes → LiteralSearcher → Except RepositoryToolFailure LiteralSearcher
  | [], searcher => .ok searcher
  | name :: rest, searcher =>
    if searcher.stopped then .ok searcher
    else do
      let searcher ← visit name searcher
      forEachSearched visit rest searcher

/-- `LiteralSearcher::walk`, over the levels that remain below the depth limit. -/
def LiteralSearcher.walk : ℕ → Node → RepositoryRelativePath → LiteralSearcher →
    Except RepositoryToolFailure LiteralSearcher
  | 0, _, _, searcher => .ok searcher
  | levels + 1, directory, path, searcher =>
    if searcher.stopped then .ok searcher
    else do
      let searcher := { searcher with
        directoriesScanned := saturatingAdd64 searcher.directoriesScanned 1 }
      let (names, listed) ←
        directoryNames request.walk.bounds (listing directory) searcher.listed
      forEachSearched (fun name searcher => do
        let (node, childPath) ←
          statEntry request.walk.bounds request.walk.rootDevice directory path name
        match nodeKind node with
        | .directory =>
          if 0 < levels then
            let child ← openChildDirectory directory name request.walk.rootDevice
            walk levels child childPath searcher
          else return searcher
        | .regularFile => searchFile request node childPath searcher
        | .symlink => return { searcher with
            symlinksSkipped := saturatingAdd64 searcher.symlinksSkipped 1 }
        | .other => return { searcher with
            specialNodesSkipped := saturatingAdd64 searcher.specialNodesSkipped 1 })
        names { searcher with listed }

def literalSearch (base64 : Bytes → String) (root : Node) (path : RepositoryRelativePath)
    (literal : String) (maxDepth maxFiles maxMatches : UInt32)
    (maxBytesPerFile maxTotalBytes : UInt64) (bounds : RepositoryToolBounds) :
    Except RepositoryToolFailure RepositoryLiteralSearchResult := do
  ensure (literal ≠ "") .emptyLiteralPattern
  let artifactBudget ← CanonicalResultBudget.new
    (repositoryToolResultV2PreflightSize base64 (.literalSearch path literal maxDepth maxFiles
      maxMatches maxBytesPerFile maxTotalBytes)) bounds.maxArtifactBytes
  let rootDevice := (identity root).device
  let start ← openDirectory root path rootDevice
  let searcher ← LiteralSearcher.walk
    { walk := ⟨bounds, rootDevice⟩, pattern := literal.toUTF8.toList, maxFiles, maxMatches,
      maxBytesPerFile, maxTotalBytes }
    maxDepth.toNat start path
    { foundMatches := [], fileScans := [], artifactBudget, directoriesScanned := 0,
      filesScanned := 0, bytesScanned := 0, listed := ⟨0, 0⟩, symlinksSkipped := 0,
      specialNodesSkipped := 0, truncated := false, stopped := false }
  return {
    foundMatches := searcher.foundMatches
    fileScans := searcher.fileScans
    directoriesScanned := searcher.directoriesScanned
    directoryEntriesScanned := searcher.listed.directoryEntriesScanned
    directoryNameBytesScanned := searcher.listed.directoryNameBytesScanned
    filesScanned := searcher.filesScanned
    bytesScanned := searcher.bytesScanned
    symlinksSkipped := searcher.symlinksSkipped
    specialNodesSkipped := searcher.specialNodesSkipped
    truncated := searcher.truncated }

end Search

end BirdCode.Tooling
