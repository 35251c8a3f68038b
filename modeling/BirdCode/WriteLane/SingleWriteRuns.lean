import BirdCode.WriteLane.SingleWriteCalls

/-! The lane for one exact replacement over any calls on it, and the one exit that leaves a
replacement reserved. -/
namespace BirdCode.WriteLane

open Lib Lib.Command Store Tooling

variable {sha256 : Bytes → Sha256Digest} {encoding : Encoding} {grant : ExactReplaceUtf8FileGrant}
  {slots : Option Uuid → Prop} {lane : WorktreeWriteLane} {call : SingleWriteCall}

section Runs

/-- What a command keeps when it returns and when it fails, it keeps. -/
theorem after_of_meets {A : Type} {P K : WorktreeWriteLane → Prop} {command : LaneCommand A}
    (h : Meets P command (fun _ => K) (fun _ => K)) (hP : P lane) : K (command.apply lane).2 := by
  obtain ⟨hok, herror⟩ := h lane hP
  cases hrun : command.apply lane with
  | mk outcome after =>
    cases outcome with
    | ok a => exact hok a after hrun
    | error error => exact herror error after hrun

theorem Kept.step (h : Kept sha256 encoding grant slots lane)
    (hslots : Strands sha256 encoding lane call → ∀ id, slots (some id)) :
    Kept sha256 encoding grant slots (lane.step sha256 encoding call) := by
  cases call with
  | executeOnce origin request answers =>
    refine after_of_meets executeOnce_meets ⟨h, ?_⟩
    intro prepared hmay hprepared hencoded
    exact hslots ⟨hmay, prepared, hprepared, hencoded⟩ prepared.operationId
  | releaseAfterCandidatePublished binding publication answers =>
    exact after_of_meets releaseAfterCandidatePublished_meets h

theorem Kept.run (h : Kept sha256 encoding grant slots lane) (calls : List SingleWriteCall)
    (hslots : ∀ before call after, calls = before ++ call :: after →
      Strands sha256 encoding (lane.run sha256 encoding before) call → ∀ id, slots (some id)) :
    Kept sha256 encoding grant slots (lane.run sha256 encoding calls) := by
  induction calls generalizing lane with
  | nil => exact h
  | cons call rest ih =>
    refine ih (h.step (hslots [] call rest rfl)) ?_
    intro before other after heq
    exact hslots (call :: before) other after (congrArg (call :: ·) heq)

/-- The worktree that a lane takes over has nothing prepared. -/
theorem Kept.new {worktree : TemporaryGitWorktree} {authority : Scheduler.WorkspaceGrant}
    {materialization : GitBaselineMaterialization}
    (hnew : WorktreeWriteLane.new worktree grant authority materialization = .ok lane)
    (hslot : slots worktree.preparedMutationId) : Kept sha256 encoding grant slots lane := by
  simp only [WorktreeWriteLane.new, bind_eq_ok] at hnew
  obtain ⟨_, -, hlane⟩ := hnew
  cases hlane
  exact .ofReady rfl rfl rfl hslot

end Runs

section Sample

def sampleLease : Scheduler.WorkspaceLeaseId := Scheduler.sampleLease

def sampleBinding : ChildExecutionBinding :=
  ⟨⟨1⟩, ⟨1⟩, ⟨1⟩, ⟨1⟩, ⟨1⟩, sampleDigest, sampleDigest⟩

def sampleGrant : ExactReplaceUtf8FileGrant where
  grantId := ⟨1⟩
  binding := sampleBinding
  workspaceLeaseId := sampleLease
  workspaceAccess := .write
  baseSnapshotSha256 := sampleDigest
  gitBaselineSha256 := sampleDigest
  worktreeId := 1
  baseCommit := "b"
  path := samplePath
  expectedPreimageSha256 := sampleDigest
  maxContentBytes := 1

def sampleAuthority : Scheduler.WorkspaceGrant :=
  ⟨sampleLease, .gitCleanCommittedHeadV1 sampleHex, .write⟩

end Sample

end BirdCode.WriteLane
