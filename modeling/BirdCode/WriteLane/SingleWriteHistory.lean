import BirdCode.Lib.AppendOnly
import BirdCode.WriteLane.LaneRuns
import BirdCode.WriteLane.SingleWrite

/-! The lane for one exact replacement over any calls on it: what it executes and gives up, and what
its journal acknowledged before. -/
namespace BirdCode.WriteLane

open Lib Store Tooling

abbrev Acknowledgement := EventId × WorktreeWriteLaneRecord

section Histories

def LaneStep.acknowledgement : LaneStep → Option Acknowledgement
  | .acknowledged eventId record => some (eventId, record)
  | _ => none

def LaneStep.isExecuted : LaneStep → Bool
  | .executed _ => true
  | _ => false

def acknowledgements (history : List LaneStep) : List Acknowledgement :=
  history.filterMap LaneStep.acknowledgement

/-- The record that a journal opens with. -/
def Opens : Acknowledgement → Prop
  | (_, .fileReplacePrepared ..) => True
  | _ => False

/-- Which record comes next, and by which event id it names the one before. -/
def Follows : Acknowledgement → Acknowledgement → Prop
  | (_, .fileReplacePrepared ..), (_, .fileReplacePrepared ..) => True
  | (eventId, .fileReplacePrepared ..), (_, .fileReplaceObserved _ _ named _) => named = eventId
  | (eventId, .fileReplacePrepared ..), (_, .fileReplaceOutcomeUnknown _ _ named _ _ _) =>
    named = eventId
  | (eventId, .fileReplaceObserved ..), (_, .gitDiffObserved _ _ named _ _ _) => named = eventId
  | (eventId, .gitDiffObserved ..), (_, .worktreeCleanupPrepared _ _ _ named _) => named = eventId
  | (_, .worktreeCleanupPrepared _ _ _ first _), (_, .worktreeCleanupPrepared _ _ _ named _) =>
    named = first
  | (eventId, .worktreeCleanupPrepared ..), (_, .worktreeCleanupObserved _ named _) =>
    named = eventId
  | _, _ => False

variable (sha256 : Bytes → Sha256Digest) (encoding : Encoding) (grant : ExactReplaceUtf8FileGrant)

/-- A valid publication of just the write that was recorded, itself recorded: its diff is limited to
the path of the grant. -/
structure PublishedWrite (records : List Acknowledgement)
    (publication : RepositoryCandidatePublication) : Prop where
  valid : publication.isValid sha256 encoding = true
  recorded : ∃ eventId binding worktreeId, (eventId, .worktreeCleanupPrepared binding
    publication.document publication.receiptArtifact.artifact
    publication.document.change.diffEventId worktreeId) ∈ records
  path : publication.document.change.path = grant.path
  content : ∃ eventId origin materialization source worktreePath receipt,
    (eventId, .fileReplacePrepared origin grant materialization source worktreePath receipt
      publication.document.change.postimageArtifact) ∈ records
  observed : ∃ binding toolCallId preparedEventId result,
    (publication.document.change.replaceEventId,
      .fileReplaceObserved binding toolCallId preparedEventId result) ∈ records ∧
    result.path = grant.path ∧ result.preimage = publication.document.change.preimage ∧
    result.postimage = publication.document.change.postimage
  limited : ∃ binding toolCallId baseCommit, (publication.document.change.diffEventId,
    .gitDiffObserved binding toolCallId publication.document.change.replaceEventId baseCommit
      [grant.path] publication.document.change.diffArtifact) ∈ records

/-- What a step of a lane requires of the steps before it. -/
def Allowed (before : List LaneStep) : LaneStep → Prop
  | .acknowledged eventId record => match (acknowledgements before).getLast? with
    | none => Opens (eventId, record)
    | some last => Follows last (eventId, record)
  | .executed receipt => (∀ step ∈ before, step.isExecuted = false) ∧
    ∃ eventId origin materialization source worktreePath content,
      (acknowledgements before).getLast? = some (eventId, .fileReplacePrepared origin grant
        materialization source worktreePath receipt content)
  | .released => ∃ publication, PublishedWrite sha256 encoding grant (acknowledgements before)
    publication

variable {sha256 encoding grant} {history : List LaneStep} {step : LaneStep}

theorem acknowledgements_append : acknowledgements (history ++ [step]) =
    acknowledgements history ++ step.acknowledgement.toList := by
  rw [acknowledgements, List.filterMap_append, acknowledgements]
  cases step <;> rfl

theorem acknowledgements_acknowledged {eventId : EventId} {record : WorktreeWriteLaneRecord} :
    acknowledgements (history ++ [.acknowledged eventId record]) =
      acknowledgements history ++ [(eventId, record)] := acknowledgements_append

end Histories

section Invariant

/-- The record that the removal of the worktree waits behind. -/
def AwaitsCleanup (diffEventId : EventId) : Acknowledgement → Prop
  | (eventId, .gitDiffObserved ..) => eventId = diffEventId
  | (_, .worktreeCleanupPrepared _ _ _ named _) => named = diffEventId
  | _ => False

/-- The records behind a write that was observed. -/
structure Wrote (grant : ExactReplaceUtf8FileGrant) (observed : ObservedSingleWrite)
    (history : List LaneStep) : Prop where
  started : ∃ step ∈ history, step.isExecuted = true
  path : observed.mutation.path = grant.path
  content : ∃ eventId origin materialization source worktreePath receipt,
    (eventId, .fileReplacePrepared origin grant materialization source worktreePath receipt
      observed.postimageArtifact.artifact) ∈ acknowledgements history
  replaced : ∃ binding toolCallId preparedEventId, (observed.replaceEventId,
    .fileReplaceObserved binding toolCallId preparedEventId observed.mutation) ∈
      acknowledgements history
  limited : ∃ binding toolCallId baseCommit, (observed.diffEventId, .gitDiffObserved binding
    toolCallId observed.replaceEventId baseCommit [grant.path] observed.diffArtifact.artifact) ∈
      acknowledgements history
  last : ∃ last, (acknowledgements history).getLast? = some last ∧
    AwaitsCleanup observed.diffEventId last

variable (sha256 : Bytes → Sha256Digest) (encoding : Encoding) (grant : ExactReplaceUtf8FileGrant)

/-- The history of a lane, whatever state it is in. -/
structure Careful (lane : WorktreeWriteLane) : Prop where
  granted : lane.grant = grant
  allowed : Stepwise (Allowed sha256 encoding grant) lane.history

/-- What holds of a lane between the calls. A ready one has done nothing yet, and the slot of its
worktree is one of those that are told. -/
structure Kept (slots : Option Uuid → Prop) (lane : WorktreeWriteLane) : Prop
    extends Careful sha256 encoding grant lane where
  ready : lane.state = .ready → lane.history = [] ∧ slots lane.worktree.preparedMutationId
  written : ∀ observed, lane.state = .written observed → Wrote grant observed lane.history
  started : lane.state ≠ .ready → lane.state ≠ .reconciliationRequired →
    ∃ step ∈ lane.history, step.isExecuted = true

variable {sha256 encoding grant} {slots : Option Uuid → Prop} {lane : WorktreeWriteLane}
  {history : List LaneStep} {observed : ObservedSingleWrite}

theorem Careful.reconciled (h : Careful sha256 encoding grant lane) :
    Kept sha256 encoding grant slots { lane with state := .reconciliationRequired } := by
  refine ⟨⟨h.granted, h.allowed⟩, ?_, ?_, ?_⟩
  · intro hready
    cases hready
  · intro observed hwritten
    cases hwritten
  · intro _ hreconciliation
    exact (hreconciliation rfl).elim

theorem Kept.ofReady (hgrant : lane.grant = grant) (hhistory : lane.history = [])
    (hstate : lane.state = .ready) (hslot : slots lane.worktree.preparedMutationId) :
    Kept sha256 encoding grant slots lane := by
  refine ⟨⟨hgrant, ?_⟩, fun _ => ⟨hhistory, hslot⟩, ?_, ?_⟩
  · rw [hhistory]
    intro before step after heq
    simp at heq
  · intro observed hwritten
    rw [hstate] at hwritten
    cases hwritten
  · intro hready
    exact (hready hstate).elim

theorem Kept.ofWritten (h : Careful sha256 encoding grant lane)
    (hwrote : Wrote grant observed lane.history) :
    Kept sha256 encoding grant slots { lane with state := .written observed } := by
  refine ⟨⟨h.granted, h.allowed⟩, ?_, ?_, fun _ _ => hwrote.started⟩
  · intro hready
    cases hready
  · intro other hwritten
    cases hwritten
    exact hwrote

theorem follows_cleanup {diffEventId eventId : EventId} {last : Acknowledgement}
    {binding : ChildExecutionBinding} {document : RepositoryCandidatePublicationDocument}
    {receipt : ArtifactRef} {worktreeId : Uuid} (h : AwaitsCleanup diffEventId last) :
    Follows last
      (eventId, .worktreeCleanupPrepared binding document receipt diffEventId worktreeId) := by
  obtain ⟨lastId, record⟩ := last
  cases record with
  | gitDiffObserved => exact Eq.symm h
  | worktreeCleanupPrepared => exact Eq.symm h
  | fileReplacePrepared => exact h.elim
  | fileReplaceObserved => exact h.elim
  | fileReplaceOutcomeUnknown => exact h.elim
  | worktreeCleanupObserved => exact h.elim

/-- A prepared cleanup comes behind the write, and another may come behind it. -/
theorem Wrote.cleanup {eventId : EventId} {binding : ChildExecutionBinding}
    {document : RepositoryCandidatePublicationDocument} {receipt : ArtifactRef} {worktreeId : Uuid}
    (h : Wrote grant observed history) :
    Wrote grant observed (history ++ [.acknowledged eventId
      (.worktreeCleanupPrepared binding document receipt observed.diffEventId worktreeId)]) := by
  obtain ⟨step, hstep, hexecuted⟩ := h.started
  refine ⟨⟨step, List.mem_append_left _ hstep, hexecuted⟩, h.path, ?_, ?_, ?_, ?_⟩
  all_goals rw [acknowledgements_acknowledged]
  · obtain ⟨eventId, origin, materialization, source, worktreePath, receipt, hmem⟩ := h.content
    exact ⟨_, _, _, _, _, _, List.mem_append_left _ hmem⟩
  · obtain ⟨binding, toolCallId, preparedEventId, hmem⟩ := h.replaced
    exact ⟨_, _, _, List.mem_append_left _ hmem⟩
  · obtain ⟨binding, toolCallId, baseCommit, hmem⟩ := h.limited
    exact ⟨_, _, _, List.mem_append_left _ hmem⟩
  · exact ⟨_, List.getLast?_concat, rfl⟩

/-- The record that is acknowledged next is one that may come next. -/
theorem Careful.acknowledged {eventId : EventId} {record : WorktreeWriteLaneRecord}
    {last : Acknowledgement} (h : Careful sha256 encoding grant lane)
    (hlast : (acknowledgements lane.history).getLast? = some last)
    (hfollows : Follows last (eventId, record)) : Careful sha256 encoding grant
      { lane with history := lane.history ++ [.acknowledged eventId record] } := by
  refine ⟨h.granted, h.allowed.append ?_⟩
  unfold Allowed
  rw [hlast]
  exact hfollows

end Invariant

end BirdCode.WriteLane
