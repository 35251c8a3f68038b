import BirdCode.Lib.Delimited
import BirdCode.Lib.SortedBy
import BirdCode.Tooling.Authorization

/-! What Git reports about a worktree, and how the paths in its reports are read. -/
namespace BirdCode.WriteLane

open Store Tooling Lib

/-- A path of the file system, byte by byte. -/
abbrev PathBuf := Bytes

section Git

inductive TemporaryGitWorktreeError
  | io (operation source : String)
  | git (operation : String) (exitCode : Option Int32) (stderr : String)
  | diffTooLarge (actual maximum : UInt64)
  | changedPathsTooLarge (actual maximum : UInt64)
  | changedPathCountTooLarge (actual maximum : ℕ)
  | invalidNumstatObservation
  | invalidLsTreeObservation
  | invalidRepositoryPath
  | gitStdoutTooLarge (operation : String) (actual maximum : UInt64)
  | cleanupIncomplete
  deriving DecidableEq

structure GitOutput where
  bytes : Bytes
  totalStdoutBytes : UInt64
  deriving DecidableEq

/-- What one run of Git comes to, with its output cut at the bound it ran under. -/
abbrev GitAnswer := Except TemporaryGitWorktreeError GitOutput

def diffMaxBytes : UInt64 := 16 * 1024 * 1024
def changedPathsMaxBytes : UInt64 := 1024 * 1024
def changedPathsMaxEntries : ℕ := 4096
def lsTreeMaxBytes : UInt64 := 16 * 1024
def registrationsMaxBytes : UInt64 := 1024 * 1024
def changedPathMaxBytes : ℕ := 4096
def changedPathMaxComponents : ℕ := 64
def changedPathMaxComponentBytes : ℕ := 255
def diffMediaType : String := "application/vnd.birdcode.git-diff.v1+octet-stream"

/-- `run_git_bounded_exact`. -/
def exactGit (operation : String) (maximum : UInt64) (answer : GitAnswer) : GitAnswer := do
  let output ← answer
  ensure (output.totalStdoutBytes ≤ maximum)
    (.gitStdoutTooLarge operation output.totalStdoutBytes maximum)
  return output

def isPristine (status : GitAnswer) : Except TemporaryGitWorktreeError Bool := do
  return (← status).totalStdoutBytes = 0

def hasUntrackedOrIgnoredFiles (untracked ignored : GitAnswer) :
    Except TemporaryGitWorktreeError Bool := do
  if (← untracked).totalStdoutBytes ≠ 0 then return true
  return (← ignored).totalStdoutBytes ≠ 0

end Git

section Parsing

/-- Every component counts its bytes and one separator, in a total that stays at its top. -/
def changedPathsEncodedBytes (paths : List RepositoryRelativePath) : UInt64 :=
  paths.foldl (fun total path => path.unixComponents.foldl (fun pathTotal component =>
    saturatingAdd64 (saturatingAdd64 pathTotal (saturate64 component.length)) 1) total) 0

def validChangedPathComponent (component : Bytes) : Bool :=
  !(component.isEmpty || component = [0x2e] || component = [0x2e, 0x2e] ||
    component.length > changedPathMaxComponentBytes || component.contains 0 ||
    component.contains 0x2f)

def validChangedPathComponents (components : List Bytes) : Bool :=
  components ≠ [] && components.length ≤ changedPathMaxComponents &&
    components.all validChangedPathComponent &&
    (components.map List.length).sum + (components.length - 1) ≤ changedPathMaxBytes

def changedPathsAreCanonical (paths : List RepositoryRelativePath) : Bool :=
  paths.length ≤ changedPathsMaxEntries &&
    (paths.all fun path => validChangedPathComponents path.unixComponents) &&
    decide (paths.IsChain fun left right =>
      compare left.unixComponents right.unixComponents = .lt) &&
    changedPathsEncodedBytes paths ≤ changedPathsMaxBytes

def isAsciiDigit (byte : UInt8) : Bool := 0x30 ≤ byte && byte ≤ 0x39

def decimalValue (digits : Bytes) : ℕ :=
  digits.foldl (fun value digit => 10 * value + (digit.toNat - 0x30)) 0

def validCanonicalDecimal (value : Bytes) : Bool :=
  !value.isEmpty && value.all isAsciiDigit && (value = [0x30] || value.head? ≠ some 0x30) &&
    decimalValue value < 2 ^ 64

/-- Both counts are `-` for a binary file. -/
def validNumstatCounts (added deleted : Bytes) : Bool :=
  let addedBinary : Bool := added = [0x2d]
  let deletedBinary : Bool := deleted = [0x2d]
  (addedBinary && deletedBinary) ||
    (!addedBinary && !deletedBinary && validCanonicalDecimal added && validCanonicalDecimal deleted)

/-- The bytes before the first tab, and those behind it. -/
def splitAtTab (record : Bytes) : Option (Bytes × Bytes) :=
  if record.contains 0x09 then
    some (record.takeWhile (· ≠ 0x09), (record.dropWhile (· ≠ 0x09)).tail)
  else none

def parseNumstatRecord (record : Bytes) :
    Except TemporaryGitWorktreeError RepositoryRelativePath := do
  let (added, rest) ← expect .invalidNumstatObservation (splitAtTab record)
  let (deleted, path) ← expect .invalidNumstatObservation (splitAtTab rest)
  ensure (validNumstatCounts added deleted ∧ path ≠ []) .invalidNumstatObservation
  let components := path.splitOn 0x2f
  ensure (validChangedPathComponents components) .invalidNumstatObservation
  return .unix components

/-- One turn of the loop over the records. -/
def parseNext (paths : List RepositoryRelativePath) (record : Bytes) :
    Except TemporaryGitWorktreeError (List RepositoryRelativePath) := do
  ensure (record ≠ []) .invalidNumstatObservation
  ensure (paths.length < changedPathsMaxEntries)
    (.changedPathCountTooLarge (paths.length + 1) changedPathsMaxEntries)
  return paths ++ [← parseNumstatRecord record]

def parseNumstatChangedPaths (bytes : Bytes) :
    Except TemporaryGitWorktreeError (List RepositoryRelativePath) := do
  ensure (saturate64 bytes.length ≤ changedPathsMaxBytes)
    (.changedPathsTooLarge (saturate64 bytes.length) changedPathsMaxBytes)
  if bytes = [] then return []
  let records ← expect .invalidNumstatObservation (stripFinal 0 bytes)
  let paths ← (records.splitOn 0).foldlM parseNext []
  let sorted := sortBy RepositoryRelativePath.unixComponents paths
  ensure (sorted.IsChain fun left right => left.unixComponents ≠ right.unixComponents)
    .invalidNumstatObservation
  return sorted

/-- `valid_git_object_identity`, on the bytes of the field. -/
def validGitObjectIdentity (identity : Bytes) : Bool :=
  (identity.length = 40 || identity.length = 64) && identity.all fun byte =>
    isAsciiDigit byte || (0x41 ≤ byte && byte ≤ 0x46) || (0x61 ≤ byte && byte ≤ 0x66)

def encodeRepositoryPath (path : RepositoryRelativePath) : Except TemporaryGitWorktreeError Bytes := do
  ensure (validChangedPathComponents path.unixComponents) .invalidRepositoryPath
  return [0x2f].intercalate path.unixComponents

def parseLsTreeRegularFile (bytes expectedPath : Bytes) : Except TemporaryGitWorktreeError Bool := do
  if bytes = [] then return false
  let record ← expect .invalidLsTreeObservation (stripFinal 0 bytes)
  ensure (record ≠ [] ∧ 0 ∉ record) .invalidLsTreeObservation
  let (metadata, observedPath) ← expect .invalidLsTreeObservation (splitAtTab record)
  match metadata.splitOn 0x20 with
  | [mode, kind, object] => do
    ensure (observedPath = expectedPath ∧ validGitObjectIdentity object) .invalidLsTreeObservation
    if kind = "blob".toUTF8.data.toList ∧
        (mode = "100644".toUTF8.data.toList ∨ mode = "100755".toUTF8.data.toList) then
      return true
    ensure ((mode, kind) = ("120000".toUTF8.data.toList, "blob".toUTF8.data.toList) ∨
      (mode, kind) = ("040000".toUTF8.data.toList, "tree".toUTF8.data.toList) ∨
      (mode, kind) = ("160000".toUTF8.data.toList, "commit".toUTF8.data.toList))
      .invalidLsTreeObservation
    return false
  | _ => throw .invalidLsTreeObservation

/-- `machine_worktree_paths`. -/
def machineWorktreePaths (bytes : Bytes) : List PathBuf :=
  (bytes.splitOn 0).filterMap fun field =>
    let label := "worktree ".toUTF8.data.toList
    if label.isPrefixOf field then some (field.drop label.length) else none

end Parsing

end BirdCode.WriteLane
