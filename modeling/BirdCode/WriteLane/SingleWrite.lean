import BirdCode.Lib.Commands
import BirdCode.Scheduler.Graph
import BirdCode.Store.ChildRecords
import BirdCode.WriteLane.Worktree

/-! The lane that executes one exact replacement: what it checks before the replacement, what it has
its journal acknowledge around it, and how it gives the worktree up once the candidate is published.
-/
namespace BirdCode.WriteLane

open Lib Store Tooling

section Documents

def worktreeWriteLaneContractVersion : UInt32 := 1
def repositoryCandidateContractVersion : UInt32 := 1
def repositoryUtf8FileContentMediaType : String := "text/plain;charset=utf-8"
def repositoryCandidatePublicationMediaType : String :=
  "application/vnd.birdcode.repository-candidate-publication.v1+json"
def fileReplacePreparedMediaType : String :=
  "application/vnd.birdcode.worktree-file-replace-prepared.v1+json"
def fileReplaceResultMediaType : String :=
  "application/vnd.birdcode.worktree-file-replace-result.v1+json"
def fileReplaceUnknownMediaType : String :=
  "application/vnd.birdcode.worktree-file-replace-unknown.v1+json"
def worktreeReleaseObservationMediaType : String :=
  "application/vnd.birdcode.worktree-release-observation.v1+json"

structure WorktreeWriteOrigin where
  binding : ChildExecutionBinding
  sourceModelCallId : ChildModelCallId
  sourceModelCallOrdinal : UInt32
  sourceModelObservedEventId : EventId
  sourcePlan : ChildLocalPlanBinding
  activePlanStepId : String
  validatedActionEventId : EventId
  actionArtifact : ArtifactRef
  toolCallId : ChildToolCallId
  toolOrdinal : UInt32
  deriving DecidableEq

structure ExactReplaceUtf8FileGrant where
  grantId : RepositoryToolGrantId
  binding : ChildExecutionBinding
  workspaceLeaseId : Scheduler.WorkspaceLeaseId
  workspaceAccess : Scheduler.WorkspaceAccess
  baseSnapshotSha256 : Sha256Digest
  gitBaselineSha256 : Sha256Digest
  worktreeId : Uuid
  baseCommit : String
  path : RepositoryRelativePath
  expectedPreimageSha256 : Sha256Digest
  maxContentBytes : UInt64
  deriving DecidableEq

structure GitBaselineMaterialization where
  workspaceLeaseId : Scheduler.WorkspaceLeaseId
  sourceSnapshotSha256 : Sha256Digest
  gitBaselineSha256 : Sha256Digest
  baseCommit : String
  worktreeId : Uuid
  materializationEventId : EventId
  receiptArtifact : ArtifactRef
  deriving DecidableEq

structure ExactReplaceUtf8FileRequest where
  grantId : RepositoryToolGrantId
  binding : ChildExecutionBinding
  worktreeId : Uuid
  baseCommit : String
  path : RepositoryRelativePath
  expectedPreimageSha256 : Sha256Digest
  contentUtf8 : String
  deriving DecidableEq

structure RepositoryCandidateProducerLocator where
  graphSha256 : Sha256Digest
  workOrderId : Scheduler.WorkOrderId
  actorId : Scheduler.ActorId
  executionId : Scheduler.ExecutionId
  attemptId : Scheduler.AttemptId
  deriving DecidableEq

structure RepositoryCandidateBaseline where
  workspaceLeaseId : Scheduler.WorkspaceLeaseId
  gitBaselineSha256 : Sha256Digest
  baseCommit : String
  deriving DecidableEq

structure ExactUtf8ReplaceCandidate where
  path : RepositoryRelativePath
  preimage : FileObservationSummary
  postimage : FileObservationSummary
  preimageArtifact : ArtifactRef
  postimageArtifact : ArtifactRef
  diffArtifact : ArtifactRef
  replaceEventId : EventId
  diffEventId : EventId
  deriving DecidableEq

structure RepositoryCandidatePublicationDocument where
  contractVersion : UInt32
  publishedEventId : EventId
  candidateSha256 : Sha256Digest
  candidateManifestArtifact : ArtifactRef
  producer : RepositoryCandidateProducerLocator
  producerBinding : ChildExecutionBinding
  baseline : RepositoryCandidateBaseline
  change : ExactUtf8ReplaceCandidate
  deriving DecidableEq

structure WorktreeReleaseObservationDocument where
  contractVersion : UInt32
  binding : ChildExecutionBinding
  worktreeId : Uuid
  cleanupPreparedEventId : EventId
  cleanupObservedEventId : EventId
  publicationEventId : EventId
  publicationReceiptArtifact : ArtifactRef
  candidateSha256 : Sha256Digest
  diffEventId : EventId
  deriving DecidableEq

/-- The evidence of an unknown outcome, with the error in the place of its text. -/
structure FileReplaceUnknownEvidence where
  contractVersion : UInt32
  binding : ChildExecutionBinding
  toolCallId : ChildToolCallId
  preparedEventId : EventId
  operation : Option MutationIoOperation
  rawOsError : Option Int32
  message : FileReplaceError
  deriving DecidableEq

/-- `serde_json::to_vec` of each kind of document. -/
structure Encoding where
  prepared : Utf8FileReplacePrepared → Option Bytes
  result : Utf8FileReplaceResult → Option Bytes
  unknown : FileReplaceUnknownEvidence → Option Bytes
  publication : RepositoryCandidatePublicationDocument → Option Bytes
  release : WorktreeReleaseObservationDocument → Option Bytes

/-- Bytes beside the reference they are retained under. -/
structure RetainedArtifact where
  artifact : ArtifactRef
  digest : Sha256Digest
  bytes : Bytes
  deriving DecidableEq

structure RepositoryCandidatePublication where
  document : RepositoryCandidatePublicationDocument
  receiptArtifact : RetainedArtifact
  deriving DecidableEq

structure WorktreeReleaseObservation where
  document : WorktreeReleaseObservationDocument
  receiptArtifact : RetainedArtifact
  deriving DecidableEq

variable (sha256 : Bytes → Sha256Digest) (encoding : Encoding)

/-- The canonical boundary refuses no bytes. -/
def retainBytes (mediaType : String) (bytes : Bytes) : RetainedArtifact :=
  ⟨⟨(sha256 bytes).value, saturate64 bytes.length, mediaType⟩, sha256 bytes, bytes⟩

/-- `artifact_is_exact`. -/
def RetainedArtifact.isExact (artifact : RetainedArtifact) : Bool :=
  artifact.artifact.sha256 = artifact.digest.value &&
    artifact.artifact.sha256 = (sha256 artifact.bytes).value &&
    artifact.artifact.sizeBytes = saturate64 artifact.bytes.length

/-- `verify_artifact`. -/
def RetainedArtifact.verifies (artifact : RetainedArtifact) (mediaType : String) : Bool :=
  artifact.artifact.mediaType = mediaType &&
    artifact.artifact.sha256 = (sha256 artifact.bytes).value &&
    artifact.artifact.sizeBytes = saturate64 artifact.bytes.length &&
    artifact.digest = sha256 artifact.bytes

/-- Whether `RepositoryCandidatePublicationV1::validate` returns. -/
def RepositoryCandidatePublication.isValid (publication : RepositoryCandidatePublication) : Bool :=
  publication.document.contractVersion = repositoryCandidateContractVersion &&
    publication.receiptArtifact.verifies sha256 repositoryCandidatePublicationMediaType &&
    encoding.publication publication.document = some publication.receiptArtifact.bytes

end Documents

section Lane

inductive WorktreeWriteLaneRecord
  | fileReplacePrepared (origin : WorktreeWriteOrigin) (grant : ExactReplaceUtf8FileGrant)
      (materialization : GitBaselineMaterialization) (sourceRepository worktreePath : PathBuf)
      (prepared : Utf8FileReplacePrepared) (contentArtifact : ArtifactRef)
  | fileReplaceObserved (binding : ChildExecutionBinding) (toolCallId : ChildToolCallId)
      (preparedEventId : EventId) (result : Utf8FileReplaceResult)
  | fileReplaceOutcomeUnknown (binding : ChildExecutionBinding) (toolCallId : ChildToolCallId)
      (preparedEventId : EventId) (operation : Option MutationIoOperation)
      (rawOsError : Option Int32) (evidenceArtifact : ArtifactRef)
  | gitDiffObserved (binding : ChildExecutionBinding) (toolCallId : ChildToolCallId)
      (replaceEventId : EventId) (baseCommit : String) (changedPaths : List RepositoryRelativePath)
      (diffArtifact : ArtifactRef)
  | worktreeCleanupPrepared (binding : ChildExecutionBinding)
      (publication : RepositoryCandidatePublicationDocument)
      (publicationReceiptArtifact : ArtifactRef) (diffEventId : EventId) (worktreeId : Uuid)
  | worktreeCleanupObserved (binding : ChildExecutionBinding) (preparedEventId : EventId)
      (worktreeId : Uuid)
  deriving DecidableEq

structure WorktreeWriteLaneJournalError where
  message : String
  deriving DecidableEq

structure ObservedSingleWrite where
  origin : WorktreeWriteOrigin
  mutation : Utf8FileReplaceResult
  replaceEventId : EventId
  diffEventId : EventId
  postimageArtifact : RetainedArtifact
  diffArtifact : RetainedArtifact
  deriving DecidableEq

inductive WorktreeWriteLanePhase
  | ready | effectInFlight | written | reconciliationRequired | cleanupInFlight | released
  deriving DecidableEq

inductive WorktreeWriteLaneState
  | ready | effectInFlight
  | written (observed : ObservedSingleWrite)
  | reconciliationRequired | cleanupInFlight | released
  deriving DecidableEq

def WorktreeWriteLaneState.phase : WorktreeWriteLaneState → WorktreeWriteLanePhase
  | .ready => .ready
  | .effectInFlight => .effectInFlight
  | .written _ => .written
  | .reconciliationRequired => .reconciliationRequired
  | .cleanupInFlight => .cleanupInFlight
  | .released => .released

/-- The errors of the lane. What requires reconciliation carries its cause in the place of the text
of it, and so does a cancellation that failed. -/
inductive WorktreeWriteLaneError
  | invalidAuthority (reason : String)
  | invalidPhase (phase : WorktreeWriteLanePhase)
  | encoding
  | invalidReleaseReceipt (reason : String)
  | journal (error : WorktreeWriteLaneJournalError)
  | mutation (error : FileReplaceError)
  | worktree (error : TemporaryGitWorktreeError)
  | dirtyWorktree
  | grantTargetNotTracked
  | emptyDiff
  | unexpectedChangedPaths
  | unexpectedAdditionalFiles
  | worktreeChangedBeforeCleanup
  | preparationCancellation (error : FileReplaceError)
  | reconciliationRequired (cause : WorktreeWriteLaneError)
  | reconciliationRequiredBy (cause : FileReplaceError ⊕ TemporaryGitWorktreeError)
  deriving DecidableEq

/-- What a lane has done: the records its journal acknowledged, in their order with the replacements
it executed and the removals of its worktree. -/
inductive LaneStep
  | acknowledged (eventId : EventId) (record : WorktreeWriteLaneRecord)
  | executed (receipt : Utf8FileReplacePrepared)
  | released
  deriving DecidableEq

structure WorktreeWriteLane where
  grant : ExactReplaceUtf8FileGrant
  materialization : GitBaselineMaterialization
  worktree : TemporaryGitWorktree
  state : WorktreeWriteLaneState
  history : List LaneStep

abbrev LaneCommand (A : Type) := Command WorktreeWriteLane WorktreeWriteLaneError A

/-- What one validation of the retained worktree meets. -/
structure ValidationAnswers where
  postimage : Except FileReplaceError FileNode
  diff : DiffAnswers
  untracked : GitAnswer
  ignored : GitAnswer

structure ExecuteAnswers where
  status : GitAnswer
  lsTree : GitAnswer
  preimage : Except FileReplaceError FileNode
  operationId : Uuid
  journalPrepared : Except WorktreeWriteLaneJournalError EventId
  replace : ReplaceAnswers
  journalOutcome : Except WorktreeWriteLaneJournalError EventId
  diff : DiffAnswers
  untracked : GitAnswer
  ignored : GitAnswer
  journalDiff : Except WorktreeWriteLaneJournalError EventId
  validation : ValidationAnswers

structure PublishedAnswers where
  beforePrepared : ValidationAnswers
  journalPrepared : Except WorktreeWriteLaneJournalError EventId
  beforeRelease : ValidationAnswers
  release : ReleaseAnswers
  journalObserved : Except WorktreeWriteLaneJournalError EventId

end Lane

section Validation

variable (sha256 : Bytes → Sha256Digest) (encoding : Encoding)

def validateSealedGrant (grant : ExactReplaceUtf8FileGrant)
    (workspaceAuthority : Scheduler.WorkspaceGrant) (materialization : GitBaselineMaterialization)
    (worktree : TemporaryGitWorktree) : Except WorktreeWriteLaneError Unit := do
  match workspaceAuthority.source with
  | .brokeredRepositorySnapshotV1 _ =>
    throw (.invalidAuthority
      "write workspace authority requires a clean committed-HEAD Git baseline")
  | .gitCleanCommittedHeadV1 gitBaselineSha256 => do
    ensure (validSha256 gitBaselineSha256)
      (.invalidAuthority "workspace authority has an invalid Git baseline digest")
    ensure (workspaceAuthority.access = .write ∧
        grant.workspaceAccess = workspaceAuthority.access ∧
        grant.workspaceLeaseId = workspaceAuthority.leaseId ∧
        materialization.workspaceLeaseId = workspaceAuthority.leaseId ∧
        grant.baseSnapshotSha256 = materialization.sourceSnapshotSha256 ∧
        grant.gitBaselineSha256.value = gitBaselineSha256 ∧
        grant.gitBaselineSha256 = materialization.gitBaselineSha256 ∧
        worktree.gitBaselineSha256 = materialization.gitBaselineSha256 ∧
        materialization.baseCommit = worktree.baseCommit ∧
        materialization.worktreeId = worktree.worktreeId ∧
        grant.worktreeId = worktree.worktreeId ∧
        grant.baseCommit = worktree.baseCommit ∧
        validSha256 materialization.receiptArtifact.sha256 ∧
        materialization.receiptArtifact.sizeBytes ≠ 0)
      (.invalidAuthority "sealed grant does not match the trusted workspace lease or worktree")
  ensure (grant.maxContentBytes ≠ 0 ∧ grant.maxContentBytes ≤ utf8ReplaceHardMaxBytes)
    (.invalidAuthority "content ceiling is outside the hard write profile")

def WorktreeWriteLane.new (worktree : TemporaryGitWorktree) (grant : ExactReplaceUtf8FileGrant)
    (workspaceAuthority : Scheduler.WorkspaceGrant)
    (materialization : GitBaselineMaterialization) :
    Except WorktreeWriteLaneError WorktreeWriteLane := do
  validateSealedGrant grant workspaceAuthority materialization worktree
  return ⟨grant, materialization, worktree, .ready, []⟩

def validateAuthority (origin : WorktreeWriteOrigin) (grant : ExactReplaceUtf8FileGrant)
    (request : ExactReplaceUtf8FileRequest) (worktree : TemporaryGitWorktree) :
    Except WorktreeWriteLaneError Unit := do
  ensure (origin.binding = grant.binding ∧ request.binding = grant.binding ∧
      request.grantId = grant.grantId ∧ request.worktreeId = grant.worktreeId ∧
      request.baseCommit = grant.baseCommit ∧ request.path = grant.path ∧
      request.expectedPreimageSha256 = grant.expectedPreimageSha256 ∧
      grant.worktreeId = worktree.worktreeId ∧ grant.baseCommit = worktree.baseCommit)
    (.invalidAuthority "request, grant, execution and worktree bindings differ")
  ensure (origin.toolOrdinal ≠ 0 ∧ origin.sourceModelCallOrdinal ≠ 0 ∧
      validSha256 origin.actionArtifact.sha256 ∧ origin.actionArtifact.sizeBytes ≠ 0 ∧
      request.contentUtf8.utf8ByteSize ≤ grant.maxContentBytes.toNat)
    (.invalidAuthority "action provenance or replacement size is invalid")

def validateCandidatePublication (publication : RepositoryCandidatePublication)
    (binding : ChildExecutionBinding) (grant : ExactReplaceUtf8FileGrant)
    (materialization : GitBaselineMaterialization) (observed : ObservedSingleWrite) :
    Except WorktreeWriteLaneError Unit := do
  ensure (publication.isValid sha256 encoding)
    (.invalidAuthority "candidate publication receipt failed exact validation")
  let document := publication.document
  ensure (document.producerBinding = binding ∧
      document.baseline.workspaceLeaseId = grant.workspaceLeaseId ∧
      document.baseline.gitBaselineSha256 = grant.gitBaselineSha256 ∧
      document.baseline.gitBaselineSha256 = materialization.gitBaselineSha256 ∧
      document.baseline.baseCommit = grant.baseCommit ∧
      document.baseline.baseCommit = materialization.baseCommit ∧
      document.change.path = grant.path ∧
      document.change.path = observed.mutation.path ∧
      document.change.preimage = observed.mutation.preimage ∧
      document.change.postimage = observed.mutation.postimage ∧
      document.change.postimageArtifact = observed.postimageArtifact.artifact ∧
      document.change.diffArtifact = observed.diffArtifact.artifact ∧
      document.change.replaceEventId = observed.replaceEventId ∧
      document.change.diffEventId = observed.diffEventId)
    (.invalidAuthority "candidate publication does not bind this exact write")

def validateRetainedWorktreeState (worktree : TemporaryGitWorktree)
    (expected : ObservedSingleWrite) (answers : ValidationAnswers) :
    Except WorktreeWriteLaneError Unit := do
  let currentPostimage ←
    (observeUtf8File sha256 expected.mutation.path answers.postimage).mapError .mutation
  let currentDiff ← (worktree.trackedDiff sha256 answers.diff).mapError .worktree
  ensure (currentPostimage = expected.mutation.postimage ∧
      currentDiff.baseCommit = worktree.baseCommit ∧
      currentDiff.sha256.value = expected.diffArtifact.artifact.sha256 ∧
      currentDiff.bytes = expected.diffArtifact.bytes ∧
      currentDiff.changedPaths = [expected.mutation.path]) .worktreeChangedBeforeCleanup
  let additional ← (hasUntrackedOrIgnoredFiles answers.untracked answers.ignored).mapError .worktree
  ensure (additional = false) .worktreeChangedBeforeCleanup

def retainJson (mediaType : String) : Option Bytes → Except WorktreeWriteLaneError RetainedArtifact
  | some bytes => .ok (retainBytes sha256 mediaType bytes)
  | none => .error .encoding

def WorktreeReleaseObservation.validate (release : WorktreeReleaseObservation)
    (publication : RepositoryCandidatePublication) : Except WorktreeWriteLaneError Unit := do
  ensure (publication.isValid sha256 encoding)
    (.invalidReleaseReceipt "candidate publication failed exact validation")
  let encoded ← expect .encoding (encoding.release release.document)
  ensure (release.document.contractVersion = worktreeWriteLaneContractVersion ∧
      release.document.worktreeId ≠ 0 ∧
      release.document.cleanupPreparedEventId ≠ release.document.cleanupObservedEventId ∧
      release.receiptArtifact.isExact sha256 ∧
      release.receiptArtifact.artifact.mediaType = worktreeReleaseObservationMediaType ∧
      release.receiptArtifact.bytes = encoded ∧
      release.document.binding = publication.document.producerBinding ∧
      release.document.publicationEventId = publication.document.publishedEventId ∧
      release.document.publicationReceiptArtifact = publication.receiptArtifact.artifact ∧
      release.document.candidateSha256 = publication.document.candidateSha256 ∧
      release.document.diffEventId = publication.document.change.diffEventId)
    (.invalidReleaseReceipt "receipt does not bind the exact cleanup-authorizing publication")

def sealReleaseObservation (publication : RepositoryCandidatePublication) (worktreeId : Uuid)
    (cleanupPreparedEventId cleanupObservedEventId : EventId) :
    Except WorktreeWriteLaneError WorktreeReleaseObservation := do
  ensure (publication.isValid sha256 encoding)
    (.invalidReleaseReceipt "candidate publication failed exact validation")
  let document : WorktreeReleaseObservationDocument := {
    contractVersion := worktreeWriteLaneContractVersion
    binding := publication.document.producerBinding
    worktreeId
    cleanupPreparedEventId
    cleanupObservedEventId
    publicationEventId := publication.document.publishedEventId
    publicationReceiptArtifact := publication.receiptArtifact.artifact
    candidateSha256 := publication.document.candidateSha256
    diffEventId := publication.document.change.diffEventId }
  let receiptArtifact ←
    retainJson sha256 worktreeReleaseObservationMediaType (encoding.release document)
  let release : WorktreeReleaseObservation := ⟨document, receiptArtifact⟩
  release.validate sha256 encoding publication
  return release

end Validation

section Commands

variable (sha256 : Bytes → Sha256Digest) (encoding : Encoding)

def enter (state : WorktreeWriteLaneState) : LaneCommand Unit :=
  .update fun lane => { lane with state }

/-- `reconcile`. -/
def reconciling {A : Type} (command : LaneCommand A) : LaneCommand A :=
  .closing (fun lane => { lane with state := .reconciliationRequired }) .reconciliationRequired
    command

/-- `reconcile` for what Git reports. -/
def reconcilingGit {A : Type}
    (read : WorktreeWriteLane → Except TemporaryGitWorktreeError A) : LaneCommand A :=
  .closing (fun lane => { lane with state := .reconciliationRequired }) id
    (.observe fun lane => (read lane).mapError fun error => .reconciliationRequiredBy (.inr error))

def retain (record : WorktreeWriteLaneRecord) (artifacts : List RetainedArtifact)
    (journal : Except WorktreeWriteLaneJournalError EventId) : LaneCommand EventId :=
  .perform fun lane =>
    if artifacts.any fun artifact => !artifact.isExact sha256 then (.error .encoding, lane)
    else match journal with
      | .error error => (.error (.journal error), lane)
      | .ok eventId =>
        (.ok eventId, { lane with history := lane.history ++ [.acknowledged eventId record] })

/-- The checks of `execute_once` before it prepares the replacement. -/
def WorktreeWriteLane.mayWrite (lane : WorktreeWriteLane) (origin : WorktreeWriteOrigin)
    (request : ExactReplaceUtf8FileRequest) (answers : ExecuteAnswers) :
    Except WorktreeWriteLaneError Unit := do
  ensure (lane.state.phase = .ready) (.invalidPhase lane.state.phase)
  validateAuthority origin lane.grant request lane.worktree
  let pristine ← (isPristine answers.status).mapError .worktree
  ensure (pristine = true) .dirtyWorktree
  let tracked ← (TemporaryGitWorktree.baseCommitTracksRegularFile lane.grant.path
    answers.lsTree).mapError .worktree
  ensure (tracked = true) .grantTargetNotTracked

/-- What the worktree is asked to prepare. -/
def WorktreeWriteLane.replacement (lane : WorktreeWriteLane)
    (request : ExactReplaceUtf8FileRequest) : Utf8FileReplaceRequest where
  path := request.path
  expectedPreimageSha256 := request.expectedPreimageSha256
  replacementUtf8 := request.contentUtf8
  maxReplacementBytes := lane.grant.maxContentBytes

def WorktreeWriteLane.prepareReplacement (lane : WorktreeWriteLane)
    (request : ExactReplaceUtf8FileRequest) (answers : ExecuteAnswers) :
    Except FileReplaceError PreparedUtf8FileReplace × TemporaryGitWorktree :=
  lane.worktree.prepareUtf8FileReplace sha256 (lane.replacement request) answers.preimage
    answers.operationId

def reserve (request : ExactReplaceUtf8FileRequest) (answers : ExecuteAnswers) :
    LaneCommand PreparedUtf8FileReplace :=
  .perform fun lane =>
    let reserved := lane.prepareReplacement sha256 request answers
    (reserved.1.mapError .mutation, { lane with worktree := reserved.2 })

def cancel (prepared : PreparedUtf8FileReplace) : LaneCommand Unit :=
  .perform fun lane =>
    let cancelled := lane.worktree.cancelPreparedUtf8FileReplace prepared
    (cancelled.1.mapError .preparationCancellation, { lane with worktree := cancelled.2 })

/-- A replacement that the journal does not acknowledge is cancelled. -/
def acknowledgePrepared (origin : WorktreeWriteOrigin) (prepared : PreparedUtf8FileReplace)
    (contentArtifact preparedArtifact : RetainedArtifact)
    (journal : Except WorktreeWriteLaneJournalError EventId) : LaneCommand EventId := do
  let lane ← .observe .ok
  let record := .fileReplacePrepared origin lane.grant lane.materialization
    lane.worktree.sourceRepository lane.worktree.path prepared.receipt contentArtifact.artifact
  tryCatch (retain sha256 record [contentArtifact, preparedArtifact] journal) fun error => do
    tryCatch (cancel prepared) fun cancelError => do
      enter .reconciliationRequired
      throw cancelError
    throw error

def unknownBoundary : FileReplaceError → Option MutationIoOperation × Option Int32
  | .outcomeUnknown operation rawOsError => (some operation, rawOsError)
  | _ => (none, none)

/-- The record of an unknown outcome, which is kept where it can be. -/
def retainUnknown (origin : WorktreeWriteOrigin) (preparedEventId : EventId)
    (error : FileReplaceError) (journal : Except WorktreeWriteLaneJournalError EventId) :
    LaneCommand Unit :=
  let boundary := unknownBoundary error
  let keep : LaneCommand Unit := do
    let evidence ← .observe fun _ => retainJson sha256 fileReplaceUnknownMediaType
      (encoding.unknown ⟨worktreeWriteLaneContractVersion, origin.binding, origin.toolCallId,
        preparedEventId, boundary.1, boundary.2, error⟩)
    let _ ← retain sha256 (.fileReplaceOutcomeUnknown origin.binding origin.toolCallId
      preparedEventId boundary.1 boundary.2 evidence.artifact) [evidence] journal
  tryCatch keep fun _ => pure ()

def executePrepared (prepared : PreparedUtf8FileReplace) (answers : ReplaceAnswers) :
    LaneCommand (Except FileReplaceError Utf8FileReplaceResult) :=
  .perform fun lane =>
    let executed := lane.worktree.executePreparedUtf8FileReplace sha256 prepared answers
    (.ok executed.1, { lane with
      worktree := executed.2
      history := lane.history ++ [.executed prepared.receipt] })

/-- The effect, which leaves the worktree to reconciliation however it ends. -/
def effect (origin : WorktreeWriteOrigin) (prepared : PreparedUtf8FileReplace)
    (preparedEventId : EventId) (answers : ExecuteAnswers) : LaneCommand Utf8FileReplaceResult := do
  .update fun lane => { lane with
    worktree := lane.worktree.preserveOnDropForReconciliation
    state := .effectInFlight }
  match ← executePrepared sha256 prepared answers.replace with
  | .ok mutation => return mutation
  | .error error => do
    enter .reconciliationRequired
    if error.mayHaveMutated then
      retainUnknown sha256 encoding origin preparedEventId error answers.journalOutcome
    throw (.reconciliationRequiredBy (.inl error))

def acknowledgeObserved (origin : WorktreeWriteOrigin) (preparedEventId : EventId)
    (mutation : Utf8FileReplaceResult) (journal : Except WorktreeWriteLaneJournalError EventId) :
    LaneCommand EventId := do
  let resultArtifact ← reconciling (.observe fun _ =>
    retainJson sha256 fileReplaceResultMediaType (encoding.result mutation))
  reconciling (retain sha256 (.fileReplaceObserved origin.binding origin.toolCallId preparedEventId
    mutation) [resultArtifact] journal)

/-- The diff of the write, which may change the path of the write alone. -/
def observeDiff (mutation : Utf8FileReplaceResult) (answers : ExecuteAnswers) :
    LaneCommand GitWorktreeDiff := do
  let diff ← reconcilingGit fun lane => lane.worktree.trackedDiff sha256 answers.diff
  reconciling (.observe fun _ => ensure (diff.bytes ≠ []) .emptyDiff)
  reconciling (.observe fun _ => ensure (diff.changedPaths.length = 1 ∧
    diff.changedPaths.head? = some mutation.path) .unexpectedChangedPaths)
  let additional ← reconcilingGit fun _ =>
    hasUntrackedOrIgnoredFiles answers.untracked answers.ignored
  reconciling (.observe fun _ => ensure (additional = false) .unexpectedAdditionalFiles)
  return diff

def executeOnce (origin : WorktreeWriteOrigin) (request : ExactReplaceUtf8FileRequest)
    (answers : ExecuteAnswers) : LaneCommand ObservedSingleWrite := do
  .observe fun lane => lane.mayWrite origin request answers
  let prepared ← reserve sha256 request answers
  let contentArtifact := retainBytes sha256 repositoryUtf8FileContentMediaType
    request.contentUtf8.toUTF8.data.toList
  -- an encoding that fails returns with the replacement still reserved
  let preparedArtifact ← .observe fun _ =>
    retainJson sha256 fileReplacePreparedMediaType (encoding.prepared prepared.receipt)
  let preparedEventId ← acknowledgePrepared sha256 origin prepared contentArtifact preparedArtifact
    answers.journalPrepared
  let mutation ← effect sha256 encoding origin prepared preparedEventId answers
  let replaceEventId ← acknowledgeObserved sha256 encoding origin preparedEventId mutation
    answers.journalOutcome
  let diff ← observeDiff sha256 mutation answers
  let diffArtifact := retainBytes sha256 diffMediaType diff.bytes
  let diffEventId ← reconciling (retain sha256 (.gitDiffObserved origin.binding origin.toolCallId
    replaceEventId diff.baseCommit diff.changedPaths diffArtifact.artifact) [diffArtifact]
    answers.journalDiff)
  let observed : ObservedSingleWrite :=
    ⟨origin, mutation, replaceEventId, diffEventId, contentArtifact, diffArtifact⟩
  reconciling (.observe fun lane =>
    validateRetainedWorktreeState sha256 lane.worktree observed answers.validation)
  enter (.written observed)
  return observed

/-- The checks of `release_after_candidate_published` before it looks at the worktree. -/
def WorktreeWriteLane.mayRelease (lane : WorktreeWriteLane) (binding : ChildExecutionBinding)
    (publication : RepositoryCandidatePublication) :
    Except WorktreeWriteLaneError ObservedSingleWrite :=
  match lane.state with
  | .written observed => do
    ensure (observed.origin.binding = binding)
      (.invalidAuthority "finish binding does not own the written worktree")
    validateCandidatePublication sha256 encoding publication binding lane.grant
      lane.materialization observed
    return observed
  | state => throw (.invalidPhase state.phase)

def removeWorktree (answers : ReleaseAnswers) : LaneCommand Unit :=
  .perform fun lane =>
    let released := lane.worktree.release answers
    (released.1.mapError fun error => .reconciliationRequiredBy (.inr error), { lane with
      worktree := released.2
      history := lane.history ++ [.released] })

def releaseAfterCandidatePublished (binding : ChildExecutionBinding)
    (publication : RepositoryCandidatePublication) (answers : PublishedAnswers) :
    LaneCommand WorktreeReleaseObservation := do
  let expected ← .observe fun lane => lane.mayRelease sha256 encoding binding publication
  reconciling (.observe fun lane =>
    validateRetainedWorktreeState sha256 lane.worktree expected answers.beforePrepared)
  let lane ← .observe .ok
  let worktreeId := lane.worktree.worktreeId
  let preparedEventId ← retain sha256 (.worktreeCleanupPrepared binding publication.document
    publication.receiptArtifact.artifact expected.diffEventId worktreeId)
    [publication.receiptArtifact] answers.journalPrepared
  reconciling (.observe fun lane =>
    validateRetainedWorktreeState sha256 lane.worktree expected answers.beforeRelease)
  enter .cleanupInFlight
  .closing (fun lane => { lane with state := .reconciliationRequired }) id
    (removeWorktree answers.release)
  let cleanupObservedEventId ← reconciling (retain sha256
    (.worktreeCleanupObserved binding preparedEventId worktreeId) [] answers.journalObserved)
  let release ← reconciling (.observe fun _ => sealReleaseObservation sha256 encoding publication
    worktreeId preparedEventId cleanupObservedEventId)
  enter .released
  return release

end Commands

section Runs

variable (sha256 : Bytes → Sha256Digest) (encoding : Encoding)

inductive SingleWriteCall
  | executeOnce (origin : WorktreeWriteOrigin) (request : ExactReplaceUtf8FileRequest)
      (answers : ExecuteAnswers)
  | releaseAfterCandidatePublished (binding : ChildExecutionBinding)
      (publication : RepositoryCandidatePublication) (answers : PublishedAnswers)

/-- One call on a lane, which holds its lock from the beginning to the end. -/
def WorktreeWriteLane.step (lane : WorktreeWriteLane) : SingleWriteCall → WorktreeWriteLane
  | .executeOnce origin request answers =>
    ((WriteLane.executeOnce sha256 encoding origin request answers).apply lane).2
  | .releaseAfterCandidatePublished binding publication answers =>
    ((WriteLane.releaseAfterCandidatePublished sha256 encoding binding publication answers).apply
      lane).2

def WorktreeWriteLane.run (lane : WorktreeWriteLane) (calls : List SingleWriteCall) :
    WorktreeWriteLane := calls.foldl (WorktreeWriteLane.step sha256 encoding) lane

end Runs

end BirdCode.WriteLane
