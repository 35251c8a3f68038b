import BirdCode.Tooling.Authorization

/-! One exact replacement of a UTF-8 file below the root of a worktree: how it is prepared against
the preimage it was granted for, and every way its execution can end. -/
namespace BirdCode.WriteLane

open Store Tooling

section Types

structure FileObservationSummary where
  byteLen : UInt64
  sha256 : Sha256Digest
  deriving DecidableEq

structure Utf8FileReplaceRequest where
  path : RepositoryRelativePath
  expectedPreimageSha256 : Sha256Digest
  replacementUtf8 : String
  maxReplacementBytes : UInt64
  deriving DecidableEq

structure Utf8FileReplacePrepared where
  operationId : Uuid
  worktreeId : Uuid
  path : RepositoryRelativePath
  preimage : FileObservationSummary
  postimage : FileObservationSummary
  deriving DecidableEq

structure PreparedUtf8FileReplace where
  receipt : Utf8FileReplacePrepared
  replacement : Bytes
  unixMode : UInt32
  preimageIdentity : RepositoryFileIdentity
  deriving DecidableEq

def PreparedUtf8FileReplace.operationId (prepared : PreparedUtf8FileReplace) : Uuid :=
  prepared.receipt.operationId

structure Utf8FileReplaceResult where
  operationId : Uuid
  worktreeId : Uuid
  path : RepositoryRelativePath
  preimage : FileObservationSummary
  postimage : FileObservationSummary
  parentDirectoryFsynced : Bool
  deriving DecidableEq

inductive MutationIoOperation
  | openRoot | duplicateRoot | openParent | statNode | openFile | readFile | createTemporary
  | writeTemporary | syncTemporary | setPermissions | rename | syncParent | removeTemporary
  deriving DecidableEq

inductive FileReplaceError
  | unsupportedPlatform
  | worktreeNotActive
  | mutationAlreadyPrepared
  | mutationLanePoisoned
  | preparedMutationMismatch
  | invalidPath (violation : RepositoryPathViolation) (componentIndex : Option UInt32)
  | reservedGitPath
  | invalidReplacementLimit (maximum : UInt64)
  | replacementTooLarge (actual maximum : UInt64)
  | preimageTooLarge (actual maximum : UInt64)
  | preimageNotUtf8
  | wrongFileType
  | crossDeviceBoundary
  | nodeChanged
  | preimageMismatch (expected observed : Sha256Digest)
  | io (operation : MutationIoOperation) (rawOsError : Option Int32)
  | outcomeUnknown (operation : MutationIoOperation) (rawOsError : Option Int32)
  deriving DecidableEq

def FileReplaceError.mayHaveMutated : FileReplaceError → Bool
  | .outcomeUnknown .. => true
  | _ => false

def FileReplaceError.intoOutcomeUnknown (fallbackOperation : MutationIoOperation) :
    FileReplaceError → FileReplaceError
  | .outcomeUnknown operation rawOsError => .outcomeUnknown operation rawOsError
  | .io operation rawOsError => .outcomeUnknown operation rawOsError
  | _ => .outcomeUnknown fallbackOperation none

def ioError (operation : MutationIoOperation) (errno : Int32) : FileReplaceError :=
  .io operation (some errno)

def outcomeUnknown (operation : MutationIoOperation) (errno : Int32) : FileReplaceError :=
  .outcomeUnknown operation (some errno)

end Types

section Paths

def utf8ReplaceHardMaxBytes : UInt64 := 1024 * 1024
def preimageHardMaxBytes : UInt64 := 4 * 1024 * 1024
def maxPathComponents : ℕ := 64
def maxPathBytes : ℕ := 4096
def maxComponentBytes : ℕ := 255

/-- `u32::try_from(index).ok()`. -/
def indexWithin32 (index : ℕ) : Option UInt32 :=
  if index < 2 ^ 32 then some (.ofNat index) else none

def toAsciiLower (byte : UInt8) : UInt8 :=
  if 0x41 ≤ byte ∧ byte ≤ 0x5a then byte + 0x20 else byte

/-- `eq_ignore_ascii_case(b".git")`. -/
def isGitDirectory (component : Bytes) : Bool :=
  component.map toAsciiLower = [0x2e, 0x67, 0x69, 0x74]

def validateComponent (component : Bytes) (index : ℕ) : Except FileReplaceError Unit := do
  match componentViolation component with
  | some violation => throw (.invalidPath violation (indexWithin32 index))
  | none => pure ()
  ensure (component.length ≤ maxComponentBytes)
    (.replacementTooLarge (saturate64 component.length) (saturate64 maxComponentBytes))
  ensure (isGitDirectory component = false) .reservedGitPath

def validatePath (path : RepositoryRelativePath) : Except FileReplaceError Unit := do
  let components := path.unixComponents
  ensure (components ≠ []) (.invalidPath .emptyFilePath none)
  ensure (components.length ≤ maxPathComponents) (.invalidPath .embeddedSeparator none)
  components.zipIdx.forM fun (component, index) => validateComponent component index
  let pathBytes := (components.map List.length).sum + (components.length - 1)
  ensure (pathBytes ≤ maxPathBytes)
    (.replacementTooLarge (saturate64 pathBytes) (saturate64 maxPathBytes))

end Paths

section Observation

/-- What a confined open, a look and a read of one file come to. -/
structure FileNode where
  identity : RepositoryFileIdentity
  unixMode : UInt32
  bytes : Bytes
  deriving DecidableEq

structure FileObservation where
  summary : FileObservationSummary
  identity : RepositoryFileIdentity
  unixMode : UInt32
  bytes : Bytes
  deriving DecidableEq

/-- `std::str::from_utf8`. -/
def isUtf8 (bytes : Bytes) : Bool := (ByteArray.mk bytes.toArray).validateUTF8

variable (sha256 : Bytes → Sha256Digest)

def summarize (bytes : Bytes) : FileObservationSummary := ⟨saturate64 bytes.length, sha256 bytes⟩

/-- `open_parent` and `observe_file`: the system calls either fail with a typed error or find a regular
file that stayed the same while it was read. -/
def observeFile (found : Except FileReplaceError FileNode) :
    Except FileReplaceError FileObservation := do
  let node ← found
  ensure (saturate64 node.bytes.length ≤ preimageHardMaxBytes)
    (.preimageTooLarge (saturate64 node.bytes.length) preimageHardMaxBytes)
  return ⟨summarize sha256 node.bytes, node.identity, node.unixMode, node.bytes⟩

def observeUtf8File (path : RepositoryRelativePath) (found : Except FileReplaceError FileNode) :
    Except FileReplaceError FileObservationSummary := do
  validatePath path
  let observed ← observeFile sha256 found
  ensure (isUtf8 observed.bytes) .preimageNotUtf8
  return observed.summary

end Observation

section Replacing

variable (sha256 : Bytes → Sha256Digest) (worktreeId : Uuid)

def prepareUtf8FileReplace (request : Utf8FileReplaceRequest)
    (found : Except FileReplaceError FileNode) (operationId : Uuid) :
    Except FileReplaceError PreparedUtf8FileReplace := do
  validatePath request.path
  ensure (request.maxReplacementBytes ≠ 0 ∧ request.maxReplacementBytes ≤ utf8ReplaceHardMaxBytes)
    (.invalidReplacementLimit utf8ReplaceHardMaxBytes)
  let replacement := request.replacementUtf8.toUTF8.data.toList
  let replacementBytes := saturate64 replacement.length
  ensure (replacementBytes ≤ request.maxReplacementBytes)
    (.replacementTooLarge replacementBytes request.maxReplacementBytes)
  let observed ← observeFile sha256 found
  ensure (isUtf8 observed.bytes) .preimageNotUtf8
  ensure (observed.summary.sha256 = request.expectedPreimageSha256)
    (.preimageMismatch request.expectedPreimageSha256 observed.summary.sha256)
  return {
    receipt := {
      operationId
      worktreeId
      path := request.path
      preimage := observed.summary
      postimage := ⟨replacementBytes, sha256 replacement⟩ }
    replacement
    unixMode := observed.unixMode
    preimageIdentity := observed.identity }

/-- The answers of the system calls that one execution makes, in their order. -/
structure ReplaceAnswers where
  current : Except FileReplaceError FileNode
  createTemporary : Except Int32 Unit
  verifiedTemporary : Except FileReplaceError Bytes
  immediatelyBefore : Except FileReplaceError FileNode
  rename : Except Int32 Unit
  syncParent : Except Int32 Unit
  postimage : Except FileReplaceError FileNode
  rootUnchanged : Except FileReplaceError Unit
  unlinkTemporary : Except Int32 Unit
  syncUnlink : Except Int32 Unit

def verifyPreimage (prepared : PreparedUtf8FileReplace)
    (found : Except FileReplaceError FileNode) : Except FileReplaceError Unit := do
  let current ← observeFile sha256 found
  ensure (current.identity = prepared.preimageIdentity ∧
    current.summary = prepared.receipt.preimage) .nodeChanged

/-- Everything up to the rename; only a rename that succeeded counts as one. -/
def replaceThroughTemporary (prepared : PreparedUtf8FileReplace) (answers : ReplaceAnswers) :
    Except FileReplaceError Unit := do
  let verified ← answers.verifiedTemporary
  ensure (verified = prepared.replacement) .nodeChanged
  verifyPreimage sha256 prepared answers.immediatelyBefore
  answers.rename.mapError (outcomeUnknown .rename)

def cleanupTemporaryBeforeRename (answers : ReplaceAnswers) (error : FileReplaceError) :
    FileReplaceError :=
  match answers.unlinkTemporary, answers.syncUnlink with
  | .error errno, _ => outcomeUnknown .removeTemporary errno
  | .ok _, .error errno => outcomeUnknown .syncParent errno
  | .ok _, .ok _ => error

def verifyPostimage (prepared : PreparedUtf8FileReplace) (answers : ReplaceAnswers) :
    Except FileReplaceError Utf8FileReplaceResult := do
  answers.syncParent.mapError (outcomeUnknown .syncParent)
  let postimage ← (observeFile sha256 answers.postimage).mapError fun error =>
    if error.mayHaveMutated then error else .outcomeUnknown .readFile none
  ensure (postimage.summary = prepared.receipt.postimage) (.outcomeUnknown .readFile none)
  answers.rootUnchanged
  return {
    operationId := prepared.receipt.operationId
    worktreeId
    path := prepared.receipt.path
    preimage := prepared.receipt.preimage
    postimage := postimage.summary
    parentDirectoryFsynced := true }

def executeUtf8FileReplace (prepared : PreparedUtf8FileReplace) (answers : ReplaceAnswers) :
    Except FileReplaceError Utf8FileReplaceResult := do
  ensure (prepared.receipt.worktreeId = worktreeId) .preparedMutationMismatch
  verifyPreimage sha256 prepared answers.current
  answers.createTemporary.mapError (ioError .createTemporary)
  (replaceThroughTemporary sha256 prepared answers).mapError
    (cleanupTemporaryBeforeRename answers)
  (verifyPostimage sha256 worktreeId prepared answers).mapError (·.intoOutcomeUnknown .rename)

variable {sha256 worktreeId}

theorem prepareUtf8FileReplace_ok {request : Utf8FileReplaceRequest}
    {found : Except FileReplaceError FileNode} {operationId : Uuid}
    {prepared : PreparedUtf8FileReplace}
    (h : prepareUtf8FileReplace sha256 worktreeId request found operationId = .ok prepared) :
    prepared.operationId = operationId ∧ prepared.receipt.path = request.path := by
  simp only [prepareUtf8FileReplace, bind_eq_ok, ensure_eq_ok] at h
  obtain ⟨_, _, _, _, _, _, _, _, _, _, _, _, hprepared⟩ := h
  cases hprepared
  exact ⟨rfl, rfl⟩

theorem mapError_eq_ok {E F A : Type} {x : Except E A} {f : E → F} {a : A} :
    x.mapError f = .ok a ↔ x = .ok a := by
  cases x with
  | error e => simp [Except.mapError]
  | ok b => simp [Except.mapError]

/-- A replacement that returns has replaced what was prepared. -/
theorem executeUtf8FileReplace_ok {prepared : PreparedUtf8FileReplace} {answers : ReplaceAnswers}
    {result : Utf8FileReplaceResult}
    (h : executeUtf8FileReplace sha256 worktreeId prepared answers = .ok result) :
    result.path = prepared.receipt.path ∧ result.operationId = prepared.operationId := by
  simp only [executeUtf8FileReplace, bind_eq_ok, mapError_eq_ok, ensure_eq_ok] at h
  obtain ⟨_, _, _, _, _, _, _, _, h⟩ := h
  simp only [verifyPostimage, bind_eq_ok, ensure_eq_ok] at h
  obtain ⟨_, _, _, _, _, _, _, _, hresult⟩ := h
  cases hresult
  exact ⟨rfl, rfl⟩

end Replacing

end BirdCode.WriteLane
