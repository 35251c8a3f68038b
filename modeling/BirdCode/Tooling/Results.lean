import BirdCode.Store.ReceiptWire

/-! The results of the three repository operations, their compact JSON, and the size that is
reserved for an empty result before the filesystem is touched. -/
namespace BirdCode.Tooling

open Store Lib

section Saturating

/-- `u64::try_from(length).unwrap_or(u64::MAX)`. -/
def saturate64 (value : ℕ) : UInt64 := UInt64.ofNat (min value (2 ^ 64 - 1))

@[simp] theorem toNat_saturate64 (value : ℕ) :
    (saturate64 value).toNat = min value (2 ^ 64 - 1) := by
  unfold saturate64
  rw [UInt64.toNat_ofNat', Nat.mod_eq_of_lt (by omega)]

/-- `u64::saturating_add`. -/
def saturatingAdd64 (a b : UInt64) : UInt64 := saturate64 (a.toNat + b.toNat)

/-- `u64::saturating_sub`. -/
def saturatingSub64 (a b : UInt64) : UInt64 := UInt64.ofNat (a.toNat - b.toNat)

@[simp] theorem toNat_saturatingSub64 (a b : UInt64) :
    (saturatingSub64 a b).toNat = a.toNat - b.toNat := by
  unfold saturatingSub64
  rw [UInt64.toNat_ofNat', Nat.mod_eq_of_lt (by have := a.toNat_lt; omega)]

end Saturating

section Types

structure RepositoryTreeEntry where
  path : RepositoryRelativePath
  kind : RepositoryNodeKind
  byteLen : Option UInt64
  deriving DecidableEq

structure RepositoryTreeResult where
  entries : List RepositoryTreeEntry
  directoryEntriesScanned : UInt64
  directoryNameBytesScanned : UInt64
  truncated : Bool
  deriving DecidableEq

/-- The content is bytes in the broker, and their base64 text on the wire. -/
structure RepositoryReadFileResultV2 (Content : Type) where
  path : RepositoryRelativePath
  offsetBytes : UInt64
  bytes : Content
  fileByteLen : UInt64
  truncated : Bool
  deriving DecidableEq

structure RepositoryLiteralMatch where
  path : RepositoryRelativePath
  byteOffset : UInt64
  deriving DecidableEq

structure RepositoryLiteralFileScan where
  path : RepositoryRelativePath
  bytesScanned : UInt64
  fileByteLen : UInt64
  truncated : Bool
  deriving DecidableEq

structure RepositoryLiteralSearchResult where
  foundMatches : List RepositoryLiteralMatch
  fileScans : List RepositoryLiteralFileScan
  directoriesScanned : UInt64
  directoryEntriesScanned : UInt64
  directoryNameBytesScanned : UInt64
  filesScanned : UInt64
  bytesScanned : UInt64
  symlinksSkipped : UInt64
  specialNodesSkipped : UInt64
  truncated : Bool
  deriving DecidableEq

inductive RepositoryToolResultV2 (Content : Type)
  | repositoryTree (result : RepositoryTreeResult)
  | repositoryFileRead (result : RepositoryReadFileResultV2 Content)
  | literalSearch (result : RepositoryLiteralSearchResult)
  deriving DecidableEq

/-- The result with its content in another form. -/
def RepositoryToolResultV2.map {A B : Type} (f : A → B) :
    RepositoryToolResultV2 A → RepositoryToolResultV2 B
  | .repositoryTree result => .repositoryTree result
  | .repositoryFileRead result =>
    .repositoryFileRead { result with bytes := f result.bytes }
  | .literalSearch result => .literalSearch result

end Types

section Json

def RepositoryTreeEntry.json (entry : RepositoryTreeEntry) : Bytes :=
  Json.object [("path", entry.path.json), ("kind", Json.string entry.kind.name),
    ("byte_len", Json.option u64 entry.byteLen)]

def RepositoryTreeResult.json (result : RepositoryTreeResult) : Bytes :=
  Json.object [("entries", Json.array (result.entries.map RepositoryTreeEntry.json)),
    ("directory_entries_scanned", u64 result.directoryEntriesScanned),
    ("directory_name_bytes_scanned", u64 result.directoryNameBytesScanned),
    ("truncated", Json.boolean result.truncated)]

def RepositoryReadFileResultV2.json (result : RepositoryReadFileResultV2 String) : Bytes :=
  Json.object [("path", result.path.json), ("offset_bytes", u64 result.offsetBytes),
    ("bytes_base64", Json.string result.bytes), ("file_byte_len", u64 result.fileByteLen),
    ("truncated", Json.boolean result.truncated)]

def RepositoryLiteralMatch.json (found : RepositoryLiteralMatch) : Bytes :=
  Json.object [("path", found.path.json), ("byte_offset", u64 found.byteOffset)]

def RepositoryLiteralFileScan.json (scan : RepositoryLiteralFileScan) : Bytes :=
  Json.object [("path", scan.path.json), ("bytes_scanned", u64 scan.bytesScanned),
    ("file_byte_len", u64 scan.fileByteLen), ("truncated", Json.boolean scan.truncated)]

def RepositoryLiteralSearchResult.json (result : RepositoryLiteralSearchResult) : Bytes :=
  Json.object [("matches", Json.array (result.foundMatches.map RepositoryLiteralMatch.json)),
    ("file_scans", Json.array (result.fileScans.map RepositoryLiteralFileScan.json)),
    ("directories_scanned", u64 result.directoriesScanned),
    ("directory_entries_scanned", u64 result.directoryEntriesScanned),
    ("directory_name_bytes_scanned", u64 result.directoryNameBytesScanned),
    ("files_scanned", u64 result.filesScanned), ("bytes_scanned", u64 result.bytesScanned),
    ("symlinks_skipped", u64 result.symlinksSkipped),
    ("special_nodes_skipped", u64 result.specialNodesSkipped),
    ("truncated", Json.boolean result.truncated)]

def RepositoryToolResultV2.json : RepositoryToolResultV2 String → Bytes
  | .repositoryTree result => Json.object [("tool", Json.string "repository_tree"),
      ("result", result.json)]
  | .repositoryFileRead result => Json.object [("tool", Json.string "repository_file_read"),
      ("result", result.json)]
  | .literalSearch result => Json.object [("tool", Json.string "literal_search"),
      ("result", result.json)]

end Json

/-- The empty result with the widest counters. -/
def emptyResult : ChildToolOperation → RepositoryToolResultV2 Bytes
  | .repositoryTree .. => .repositoryTree
      { entries := []
        directoryEntriesScanned := .ofNat (2 ^ 64 - 1)
        directoryNameBytesScanned := .ofNat (2 ^ 64 - 1)
        truncated := false }
  | .repositoryFileRead path offsetBytes _ => .repositoryFileRead
      { path
        offsetBytes
        bytes := []
        fileByteLen := .ofNat (2 ^ 64 - 1)
        truncated := false }
  | .literalSearch .. => .literalSearch
      { foundMatches := []
        fileScans := []
        directoriesScanned := .ofNat (2 ^ 64 - 1)
        directoryEntriesScanned := .ofNat (2 ^ 64 - 1)
        directoryNameBytesScanned := .ofNat (2 ^ 64 - 1)
        filesScanned := .ofNat (2 ^ 64 - 1)
        bytesScanned := .ofNat (2 ^ 64 - 1)
        symlinksSkipped := .ofNat (2 ^ 64 - 1)
        specialNodesSkipped := .ofNat (2 ^ 64 - 1)
        truncated := false }

/-- `repository_tool_result_v2_preflight_size`, with the base64 of the `base64` crate. -/
def repositoryToolResultV2PreflightSize (base64 : Bytes → String)
    (operation : ChildToolOperation) : UInt64 :=
  saturate64 ((emptyResult operation).map base64).json.length

end BirdCode.Tooling
