import BirdCode.Lib.Commands
import BirdCode.WriteLane.Worktree

/-! One replacement call by call, in a directory whose target others may write to before every call and in
which every call may fail. -/
namespace BirdCode.WriteLane

open Lib Store Tooling

section Surroundings

/-- The calls of one replacement. A look stands for all that `observe_file` calls. -/
inductive ReplaceStep
  | openParent | current | createTemporary | writeTemporary | setPermissions | syncTemporary | seek
  | readBack | immediatelyBefore | rename | syncParent | postimage | statRoot | removeTemporary
  | syncRemoval
  deriving DecidableEq

/-- What stands at the target and under the name of the temporary file. Beside them is kept what the others
alone have made of the target, and what stood there when the rename was called. -/
structure Directory where
  target : Option FileNode
  temporary : Option Bytes
  undisturbed : Option FileNode
  renamedOver : Option (Option FileNode)
  deriving DecidableEq

/-- The directory before the call. -/
def Directory.before (target : Option FileNode) (temporary : Option Bytes) : Directory :=
  ⟨target, temporary, target, none⟩

/-- What the others make of the target before each call, how each call fails, what the file system keeps of
the bytes it is given, and how the file looks that it renames. -/
structure Surroundings where
  others : ReplaceStep → Option FileNode → Option FileNode
  refused : ReplaceStep → Option FileReplaceError
  fault : ReplaceStep → Option Int32
  stdFault : ReplaceStep → Option (Option Int32)
  kept : Bytes → Bytes
  newIdentity : RepositoryFileIdentity
  newMode : UInt32
  renamedAnyway : Bool

namespace Surroundings

variable (surroundings : Surroundings) (sha256 : Bytes → Sha256Digest)

/-- The turn of the others before a call. -/
def pass (step : ReplaceStep) (directory : Directory) : Directory :=
  { directory with
    target := surroundings.others step directory.target
    undisturbed := surroundings.others step directory.undisturbed }

def renamed (bytes : Bytes) : FileNode :=
  ⟨surroundings.newIdentity, surroundings.newMode, bytes⟩

def attempt (step : ReplaceStep) (failure : Option FileReplaceError)
    (effect : Directory → Directory) : Command Directory FileReplaceError Unit :=
  .perform fun directory => match failure with
    | some error => (.error error, surroundings.pass step directory)
    | none => (.ok (), effect (surroundings.pass step directory))

/-- A call of `rustix`. -/
def call (step : ReplaceStep) (error : Int32 → FileReplaceError)
    (effect : Directory → Directory) : Command Directory FileReplaceError Unit :=
  surroundings.attempt step ((surroundings.fault step).map error) effect

/-- A call of `std`. -/
def stdCall (step : ReplaceStep) (operation : MutationIoOperation)
    (effect : Directory → Directory) : Command Directory FileReplaceError Unit :=
  surroundings.attempt step ((surroundings.stdFault step).map (.io operation)) effect

def found (step : ReplaceStep) (target : Option FileNode) : Except FileReplaceError FileNode :=
  match surroundings.refused step, target with
  | some error, _ => .error error
  | none, none => .error (ioError .statNode 2)
  | none, some node => .ok node

/-- `observe_file`. -/
def look (step : ReplaceStep) : Command Directory FileReplaceError FileObservation :=
  .perform fun directory =>
    (observeFile sha256 (surroundings.found step (surroundings.others step directory.target)),
      surroundings.pass step directory)

/-- The temporary file is created only where there is none. -/
def createTemporary : Command Directory FileReplaceError Unit :=
  .perform fun directory =>
    let passed := surroundings.pass .createTemporary directory
    match surroundings.fault .createTemporary, directory.temporary with
    | some errno, _ => (.error (ioError .createTemporary errno), passed)
    | none, some _ => (.error (ioError .createTemporary 17), passed)
    | none, none => (.ok (), { passed with temporary := some [] })

/-- `read_at_most`, which reads one byte more than there should be. -/
def readBack (maximum : ℕ) : Command Directory FileReplaceError Bytes :=
  .perform fun directory =>
    let passed := surroundings.pass .readBack directory
    match surroundings.stdFault .readBack with
    | some errno => (.error (.io .readFile errno), passed)
    | none => (.ok ((directory.temporary.getD []).take (maximum + 1)), passed)

/-- The rename may have happened although it failed. -/
def rename : Command Directory FileReplaceError Unit :=
  .perform fun directory =>
    let passed := surroundings.pass .rename directory
    let called := { passed with renamedOver := some passed.target }
    let moved := { called with
      target := directory.temporary.map surroundings.renamed
      temporary := none }
    match surroundings.fault .rename with
    | some errno =>
      (.error (outcomeUnknown .rename errno), if surroundings.renamedAnyway then moved else called)
    | none => (.ok (), moved)

def removeTemporary : Command Directory FileReplaceError Unit :=
  .perform fun directory =>
    let passed := surroundings.pass .removeTemporary directory
    match surroundings.fault .removeTemporary, directory.temporary with
    | some errno, _ => (.error (outcomeUnknown .removeTemporary errno), passed)
    | none, none => (.error (outcomeUnknown .removeTemporary 2), passed)
    | none, some _ => (.ok (), { passed with temporary := none })

end Surroundings

end Surroundings

section Replacing

variable (sha256 : Bytes → Sha256Digest) (worktreeId : Uuid) (surroundings : Surroundings)
  (prepared : PreparedUtf8FileReplace)

def matchPreimage (step : ReplaceStep) : Command Directory FileReplaceError Unit := do
  let current ← surroundings.look sha256 step
  .observe fun _ => ensure (current.identity = prepared.preimageIdentity ∧
    current.summary = prepared.receipt.preimage) .nodeChanged

def writeAndVerifyTemporary : Command Directory FileReplaceError Unit := do
  surroundings.stdCall .writeTemporary .writeTemporary fun directory =>
    { directory with temporary := some (surroundings.kept prepared.replacement) }
  surroundings.call .setPermissions (ioError .setPermissions) id
  surroundings.stdCall .syncTemporary .syncTemporary id
  surroundings.stdCall .seek .readFile id
  let verified ← surroundings.readBack prepared.replacement.length
  .observe fun _ => ensure (verified = prepared.replacement) .nodeChanged

/-- The closure up to the rename. -/
def renameTemporary : Command Directory FileReplaceError Unit := do
  writeAndVerifyTemporary surroundings prepared
  matchPreimage sha256 surroundings prepared .immediatelyBefore
  surroundings.rename

/-- `cleanup_temporary_before_rename`. -/
def removeAfter (error : FileReplaceError) : Command Directory FileReplaceError Unit := do
  surroundings.removeTemporary
  surroundings.call .syncRemoval (outcomeUnknown .syncParent) id
  throw error

def lookAtPostimage : Command Directory FileReplaceError FileObservation :=
  tryCatch (surroundings.look sha256 .postimage) fun error =>
    throw (if error.mayHaveMutated then error else .outcomeUnknown .readFile none)

/-- The closure behind the rename. -/
def settleRename : Command Directory FileReplaceError Utf8FileReplaceResult := do
  surroundings.call .syncParent (outcomeUnknown .syncParent) id
  let postimage ← lookAtPostimage sha256 surroundings
  .observe fun _ =>
    ensure (postimage.summary = prepared.receipt.postimage) (.outcomeUnknown .readFile none)
  surroundings.attempt .statRoot (surroundings.refused .statRoot) id
  return {
    operationId := prepared.receipt.operationId
    worktreeId
    path := prepared.receipt.path
    preimage := prepared.receipt.preimage
    postimage := postimage.summary
    parentDirectoryFsynced := true }

/-- `execute_utf8_file_replace`. -/
def replaceFile : Command Directory FileReplaceError Utf8FileReplaceResult := do
  .observe fun _ => ensure (prepared.receipt.worktreeId = worktreeId) .preparedMutationMismatch
  surroundings.attempt .openParent (surroundings.refused .openParent) id
  matchPreimage sha256 surroundings prepared .current
  surroundings.createTemporary
  tryCatch (renameTemporary sha256 surroundings prepared) (removeAfter surroundings)
  tryCatch (settleRename sha256 worktreeId surroundings prepared) fun error =>
    throw (error.intoOutcomeUnknown .rename)

end Replacing

end BirdCode.WriteLane
