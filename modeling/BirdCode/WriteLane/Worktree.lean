import BirdCode.WriteLane.ChangedPaths
import BirdCode.WriteLane.Edits

/-! A temporary Git worktree: what it observes through Git, its one slot for a prepared replacement, and
its removal. -/
namespace BirdCode.WriteLane

open Store Tooling

section Worktree

inductive WorktreeCleanupState
  | active | gitRemoved | released
  deriving DecidableEq

structure TemporaryGitWorktree where
  sourceRepository : PathBuf
  path : PathBuf
  baseCommit : String
  gitBaselineSha256 : Sha256Digest
  worktreeId : Uuid
  preparedMutationId : Option Uuid
  mutationLanePoisoned : Bool
  cleanupState : WorktreeCleanupState
  cleanupOnDrop : Bool
  deriving DecidableEq

structure GitWorktreeDiff where
  baseCommit : String
  mediaType : String
  sha256 : Sha256Digest
  bytes : Bytes
  changedPaths : List RepositoryRelativePath
  deriving DecidableEq

/-- The runs of Git behind one tracked diff. -/
structure DiffAnswers where
  diff : GitAnswer
  numstat : GitAnswer

/-- What removing a worktree meets: Git's removal, a look at its path and Git's registrations. -/
structure ReleaseAnswers where
  remove : GitAnswer
  pathExists : Except TemporaryGitWorktreeError Bool
  registrations : GitAnswer

namespace TemporaryGitWorktree

/-- The worktree as `create_worktree_at_commit` hands it out. -/
def acquired (sourceRepository path : PathBuf) (baseCommit : String)
    (gitBaselineSha256 : Sha256Digest) (worktreeId : Uuid) : TemporaryGitWorktree where
  sourceRepository
  path
  baseCommit
  gitBaselineSha256
  worktreeId
  preparedMutationId := none
  mutationLanePoisoned := false
  cleanupState := .active
  cleanupOnDrop := true

variable (sha256 : Bytes → Sha256Digest) (worktree : TemporaryGitWorktree)

def baseCommitTracksRegularFile (path : RepositoryRelativePath) (lsTree : GitAnswer) :
    Except TemporaryGitWorktreeError Bool := do
  let rawPath ← encodeRepositoryPath path
  let output ← exactGit "inspect base commit path" lsTreeMaxBytes lsTree
  parseLsTreeRegularFile output.bytes rawPath

def preserveOnDropForReconciliation : TemporaryGitWorktree :=
  { worktree with cleanupOnDrop := false }

def prepareUtf8FileReplace (request : Utf8FileReplaceRequest)
    (found : Except FileReplaceError FileNode) (operationId : Uuid) :
    Except FileReplaceError PreparedUtf8FileReplace × TemporaryGitWorktree :=
  let result : Except FileReplaceError PreparedUtf8FileReplace := do
    ensure (worktree.cleanupState = .active) .worktreeNotActive
    ensure (worktree.mutationLanePoisoned = false) .mutationLanePoisoned
    ensure (worktree.preparedMutationId = none) .mutationAlreadyPrepared
    WriteLane.prepareUtf8FileReplace sha256 worktree.worktreeId request found operationId
  match result with
  | .error error => (.error error, worktree)
  | .ok prepared =>
    (.ok prepared, { worktree with preparedMutationId := some prepared.operationId })

/-- The checks before the file system is touched. -/
def mayExecute (prepared : PreparedUtf8FileReplace) : Except FileReplaceError Unit := do
  ensure (worktree.cleanupState = .active) .worktreeNotActive
  ensure (worktree.mutationLanePoisoned = false) .mutationLanePoisoned
  ensure (worktree.preparedMutationId = some prepared.operationId) .preparedMutationMismatch

/-- The slot is freed by an outcome that is known; an unknown one poisons the worktree. -/
def settleReplace (result : Except FileReplaceError Utf8FileReplaceResult) :
    TemporaryGitWorktree :=
  match result with
  | .error error =>
    if error.mayHaveMutated then { worktree with mutationLanePoisoned := true }
    else { worktree with preparedMutationId := none }
  | .ok _ => { worktree with preparedMutationId := none }

def executePreparedUtf8FileReplace (prepared : PreparedUtf8FileReplace)
    (answers : ReplaceAnswers) :
    Except FileReplaceError Utf8FileReplaceResult × TemporaryGitWorktree :=
  match worktree.mayExecute prepared with
  | .error error => (.error error, worktree)
  | .ok () =>
    let result := executeUtf8FileReplace sha256 worktree.worktreeId prepared answers
    (result, worktree.settleReplace result)

def cancelPreparedUtf8FileReplace (prepared : PreparedUtf8FileReplace) :
    Except FileReplaceError Unit × TemporaryGitWorktree :=
  if worktree.preparedMutationId = some prepared.operationId then
    (.ok (), { worktree with preparedMutationId := none })
  else (.error .preparedMutationMismatch, worktree)

def changedPathsFromPatch (patch : Bytes) (numstat : GitAnswer) :
    Except TemporaryGitWorktreeError (List RepositoryRelativePath) := do
  if patch = [] then return []
  let output ← numstat
  ensure (output.totalStdoutBytes ≤ changedPathsMaxBytes)
    (.changedPathsTooLarge output.totalStdoutBytes changedPathsMaxBytes)
  parseNumstatChangedPaths output.bytes

def trackedDiff (answers : DiffAnswers) : Except TemporaryGitWorktreeError GitWorktreeDiff := do
  let output ← answers.diff
  ensure (output.totalStdoutBytes ≤ diffMaxBytes)
    (.diffTooLarge output.totalStdoutBytes diffMaxBytes)
  let changedPaths ← changedPathsFromPatch output.bytes answers.numstat
  return {
    baseCommit := worktree.baseCommit
    mediaType := diffMediaType
    sha256 := sha256 output.bytes
    bytes := output.bytes
    changedPaths }

def registrationIsPresent (registrations : GitAnswer) : Except TemporaryGitWorktreeError Bool := do
  let output ← exactGit "list registered worktrees" registrationsMaxBytes registrations
  return (machineWorktreePaths output.bytes).any (· = worktree.path)

/-- Neither the path nor its registration may remain. -/
def verifyRemoved (answers : ReleaseAnswers) : Except TemporaryGitWorktreeError Unit := do
  let present ← answers.pathExists
  ensure (present = false) .cleanupIncomplete
  let registered ← worktree.registrationIsPresent answers.registrations
  ensure (registered = false) .cleanupIncomplete

def release (answers : ReleaseAnswers) :
    Except TemporaryGitWorktreeError Unit × TemporaryGitWorktree :=
  if worktree.cleanupState = .released then (.ok (), worktree)
  else
    let removed := if worktree.cleanupState = .active
      then (exactGit "remove temporary worktree" 0 answers.remove).map fun _ => ()
      else .ok ()
    match removed with
    | .error error => (.error error, worktree)
    | .ok () =>
      let worktree := { worktree with cleanupState := .gitRemoved }
      match worktree.verifyRemoved answers with
      | .error error => (.error error, worktree)
      | .ok () => (.ok (), { worktree with cleanupState := .released })

end TemporaryGitWorktree

end Worktree

end BirdCode.WriteLane
