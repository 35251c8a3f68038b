import BirdCode.WriteLane.Atomicity

/-! The calls of a replacement are answered by the directory they are made in: what it reports is what it
computes from those answers. -/
namespace BirdCode.WriteLane

open Lib Lib.Command Store Tooling

variable (sha256 : Bytes → Sha256Digest) (worktreeId : Uuid) (surroundings : Surroundings)
  (prepared : PreparedUtf8FileReplace)

section Reports

variable {A B : Type} {c : Command Directory FileReplaceError A}
  {directory between : Directory} {reported : Except FileReplaceError A}

/-- A command that goes on after another reports what comes of both reports. -/
theorem apply_bind_of {f : A → Command Directory FileReplaceError B}
    {reports : A → Except FileReplaceError B} (hc : c.apply directory = (reported, between))
    (hf : ∀ a, reported = .ok a → ∃ after, (f a).apply between = (reports a, after)) :
    ∃ after, (c >>= f).apply directory = (reported >>= reports, after) := by
  rw [apply_bind, hc]
  cases reported with
  | error error => exact ⟨between, rfl⟩
  | ok a => exact hf a rfl

/-- A call before others can only answer for them by failing. -/
theorem apply_before {rest : Command Directory FileReplaceError B}
    {check : A → Except FileReplaceError B} {call : Command Directory FileReplaceError Unit}
    (hrest : ∀ between, ∃ (answer : Except FileReplaceError A) (after : Directory),
      rest.apply between = (answer >>= check, after)) (directory : Directory) :
    ∃ (answer : Except FileReplaceError A) (after : Directory),
      (call >>= fun _ => rest).apply directory = (answer >>= check, after) := by
  rw [apply_bind]
  cases call.apply directory with
  | mk outcome between =>
    cases outcome with
    | error error => exact ⟨.error error, between, rfl⟩
    | ok _ => exact hrest between

theorem apply_eq (command : Command Directory FileReplaceError A) :
    command.apply directory = command directory := rfl

theorem apply_call (step : ReplaceStep) (error : Int32 → FileReplaceError)
    (effect : Directory → Directory) (directory : Directory) :
    ∃ (answer : Except Int32 Unit) (after : Directory),
      (surroundings.call step error effect).apply directory = (answer.mapError error, after) := by
  unfold Surroundings.call
  cases surroundings.fault step with
  | none => exact ⟨.ok (), _, rfl⟩
  | some errno => exact ⟨.error errno, _, rfl⟩

theorem apply_createTemporary (directory : Directory) :
    ∃ (answer : Except Int32 Unit) (after : Directory),
      surroundings.createTemporary.apply directory =
        (answer.mapError (ioError .createTemporary), after) := by
  simp only [Surroundings.createTemporary, Command.perform, apply_eq]
  cases surroundings.fault .createTemporary with
  | some errno => exact ⟨.error errno, _, rfl⟩
  | none =>
    cases directory.temporary with
    | some bytes => exact ⟨.error 17, _, rfl⟩
    | none => exact ⟨.ok (), _, rfl⟩

theorem apply_rename (directory : Directory) :
    ∃ (answer : Except Int32 Unit) (after : Directory),
      surroundings.rename.apply directory = (answer.mapError (outcomeUnknown .rename), after) := by
  simp only [Surroundings.rename, Command.perform, apply_eq]
  cases surroundings.fault .rename with
  | some errno => exact ⟨.error errno, _, rfl⟩
  | none => exact ⟨.ok (), _, rfl⟩

theorem apply_removeTemporary (directory : Directory) :
    ∃ (answer : Except Int32 Unit) (after : Directory),
      surroundings.removeTemporary.apply directory =
        (answer.mapError (outcomeUnknown .removeTemporary), after) := by
  simp only [Surroundings.removeTemporary, Command.perform, apply_eq]
  cases surroundings.fault .removeTemporary with
  | some errno => exact ⟨.error errno, _, rfl⟩
  | none =>
    cases directory.temporary with
    | some bytes => exact ⟨.ok (), _, rfl⟩
    | none => exact ⟨.error 2, _, rfl⟩

theorem apply_matchPreimage (step : ReplaceStep) (directory : Directory) :
    ∃ found after, (matchPreimage sha256 surroundings prepared step).apply directory =
      (verifyPreimage sha256 prepared found, after) :=
  ⟨surroundings.found step (surroundings.others step directory.target),
    apply_bind_of rfl fun _ _ => ⟨surroundings.pass step directory, rfl⟩⟩

theorem apply_writeAndVerifyTemporary (directory : Directory) :
    ∃ (verified : Except FileReplaceError Bytes) (after : Directory),
      (writeAndVerifyTemporary surroundings prepared).apply directory =
        (verified >>= fun verified => ensure (verified = prepared.replacement) .nodeChanged,
          after) := by
  refine apply_before ?_ directory
  refine apply_before ?_
  refine apply_before ?_
  refine apply_before ?_
  intro between
  exact ⟨_, apply_bind_of rfl fun _ _ => ⟨_, rfl⟩⟩

theorem apply_renameTemporary (directory : Directory) :
    ∃ (verified : Except FileReplaceError Bytes) (found : Except FileReplaceError FileNode)
      (renamed : Except Int32 Unit) (after : Directory), ∀ answers : ReplaceAnswers,
      answers.verifiedTemporary = verified → answers.immediatelyBefore = found →
      answers.rename = renamed →
      (renameTemporary sha256 surroundings prepared).apply directory =
        (replaceThroughTemporary sha256 prepared answers, after) := by
  obtain ⟨verified, written, hwritten⟩ := apply_writeAndVerifyTemporary surroundings prepared
    directory
  obtain ⟨found, matched, hmatched⟩ := apply_matchPreimage sha256 surroundings prepared
    .immediatelyBefore written
  obtain ⟨renamed, moved, hmoved⟩ := apply_rename surroundings matched
  obtain ⟨after, hafter⟩ := apply_bind_of hwritten fun _ _ =>
    apply_bind_of hmatched fun _ _ => ⟨moved, hmoved⟩
  refine ⟨verified, found, renamed, after, ?_⟩
  rintro answers rfl rfl rfl
  rw [renameTemporary, hafter, replaceThroughTemporary, bind_assoc]

theorem apply_removeAfter (error : FileReplaceError) (directory : Directory) :
    ∃ (unlinked synced : Except Int32 Unit) (after : Directory), ∀ answers : ReplaceAnswers,
      answers.unlinkTemporary = unlinked → answers.syncUnlink = synced →
      (removeAfter surroundings error).apply directory =
        (.error (cleanupTemporaryBeforeRename answers error), after) := by
  obtain ⟨unlinked, removed, hremoved⟩ := apply_removeTemporary surroundings directory
  obtain ⟨synced, settled, hsettled⟩ := apply_call surroundings .syncRemoval
    (outcomeUnknown .syncParent) id removed
  obtain ⟨after, hafter⟩ : ∃ after, (removeAfter surroundings error).apply directory =
      (unlinked.mapError (outcomeUnknown .removeTemporary) >>= fun _ =>
        synced.mapError (outcomeUnknown .syncParent) >>= fun _ => .error error, after) :=
    apply_bind_of hremoved fun _ _ => apply_bind_of hsettled fun _ _ => ⟨settled, rfl⟩
  refine ⟨unlinked, synced, after, ?_⟩
  rintro answers rfl rfl
  rw [hafter]
  unfold cleanupTemporaryBeforeRename
  cases answers.unlinkTemporary with
  | error errno => rfl
  | ok _ =>
    cases answers.syncUnlink with
    | error errno => rfl
    | ok _ => rfl

theorem apply_lookAtPostimage (directory : Directory) :
    ∃ (found : Except FileReplaceError FileNode) (after : Directory),
      (lookAtPostimage sha256 surroundings).apply directory =
        ((observeFile sha256 found).mapError fun error =>
          if error.mayHaveMutated then error else .outcomeUnknown .readFile none, after) := by
  refine ⟨surroundings.found .postimage (surroundings.others .postimage directory.target),
    surroundings.pass .postimage directory, ?_⟩
  have hlook : (surroundings.look sha256 .postimage).apply directory =
      (observeFile sha256 (surroundings.found .postimage
        (surroundings.others .postimage directory.target)),
        surroundings.pass .postimage directory) := rfl
  rw [lookAtPostimage, apply_tryCatch, hlook]
  cases observeFile sha256 (surroundings.found .postimage
    (surroundings.others .postimage directory.target)) with
  | error error => rfl
  | ok observed => rfl

theorem apply_settleRename (directory : Directory) :
    ∃ (synced : Except Int32 Unit) (found : Except FileReplaceError FileNode)
      (unchanged : Except FileReplaceError Unit) (after : Directory), ∀ answers : ReplaceAnswers,
      answers.syncParent = synced → answers.postimage = found → answers.rootUnchanged = unchanged →
      (settleRename sha256 worktreeId surroundings prepared).apply directory =
        (verifyPostimage sha256 worktreeId prepared answers, after) := by
  obtain ⟨synced, durable, hdurable⟩ := apply_call surroundings .syncParent
    (outcomeUnknown .syncParent) id directory
  obtain ⟨found, looked, hlooked⟩ := apply_lookAtPostimage sha256 surroundings durable
  have hroot : ∃ (unchanged : Except FileReplaceError Unit) (after : Directory),
      (surroundings.attempt .statRoot (surroundings.refused .statRoot) id).apply looked =
        (unchanged, after) := ⟨_, _, rfl⟩
  obtain ⟨unchanged, checked, hchecked⟩ := hroot
  have hafter : ∃ after, (settleRename sha256 worktreeId surroundings prepared).apply directory =
      ((do
        synced.mapError (outcomeUnknown .syncParent)
        let postimage ← (observeFile sha256 found).mapError fun error =>
          if error.mayHaveMutated then error else .outcomeUnknown .readFile none
        ensure (postimage.summary = prepared.receipt.postimage) (.outcomeUnknown .readFile none)
        unchanged
        return {
          operationId := prepared.receipt.operationId
          worktreeId
          path := prepared.receipt.path
          preimage := prepared.receipt.preimage
          postimage := postimage.summary
          parentDirectoryFsynced := true }), after) := by
    refine apply_bind_of hdurable fun _ _ => ?_
    refine apply_bind_of hlooked fun observed _ => ?_
    refine apply_bind_of rfl fun _ _ => ?_
    exact apply_bind_of hchecked fun _ _ => ⟨checked, rfl⟩
  obtain ⟨after, hafter⟩ := hafter
  refine ⟨synced, found, unchanged, after, ?_⟩
  rintro answers rfl rfl rfl
  rw [hafter, verifyPostimage]

theorem apply_openAndMatch (directory : Directory) :
    ∃ (found : Except FileReplaceError FileNode) (after : Directory),
      (do
        surroundings.attempt .openParent (surroundings.refused .openParent) id
        matchPreimage sha256 surroundings prepared .current :
          Command Directory FileReplaceError Unit).apply directory =
        (verifyPreimage sha256 prepared found, after) := by
  rw [apply_bind]
  cases (surroundings.attempt .openParent (surroundings.refused .openParent) id).apply directory with
  | mk outcome opened =>
    cases outcome with
    | error error => exact ⟨.error error, opened, rfl⟩
    | ok _ => exact apply_matchPreimage sha256 surroundings prepared .current opened

/-- A rename that fails is cleaned up after. -/
theorem apply_renameOrRemove (directory : Directory) :
    ∃ (verified : Except FileReplaceError Bytes) (found : Except FileReplaceError FileNode)
      (renamed unlinked synced : Except Int32 Unit) (after : Directory), ∀ answers : ReplaceAnswers,
      answers.verifiedTemporary = verified → answers.immediatelyBefore = found →
      answers.rename = renamed → answers.unlinkTemporary = unlinked → answers.syncUnlink = synced →
      (tryCatch (renameTemporary sha256 surroundings prepared) (removeAfter surroundings)).apply
          directory =
        ((replaceThroughTemporary sha256 prepared answers).mapError
          (cleanupTemporaryBeforeRename answers), after) := by
  obtain ⟨verified, found, renamed, between, hrename⟩ :=
    apply_renameTemporary sha256 surroundings prepared directory
  cases hrun : (renameTemporary sha256 surroundings prepared).apply directory with
  | mk outcome after =>
    cases outcome with
    | ok _ =>
      refine ⟨verified, found, renamed, .ok (), .ok (), after, ?_⟩
      intro answers hverified hfound hrenamed _ _
      have hreport := hrename answers hverified hfound hrenamed
      rw [hrun, Prod.mk.injEq] at hreport
      rw [apply_tryCatch, hrun, ← hreport.1]
      rfl
    | error error =>
      obtain ⟨unlinked, synced, removed, hremove⟩ := apply_removeAfter surroundings error after
      refine ⟨verified, found, renamed, unlinked, synced, removed, ?_⟩
      intro answers hverified hfound hrenamed hunlinked hsynced
      have hreport := hrename answers hverified hfound hrenamed
      rw [hrun, Prod.mk.injEq] at hreport
      rw [apply_tryCatch, hrun, ← hreport.1]
      exact hremove answers hunlinked hsynced

theorem apply_settleOrPromote (directory : Directory) :
    ∃ (synced : Except Int32 Unit) (found : Except FileReplaceError FileNode)
      (unchanged : Except FileReplaceError Unit) (after : Directory), ∀ answers : ReplaceAnswers,
      answers.syncParent = synced → answers.postimage = found → answers.rootUnchanged = unchanged →
      (tryCatch (settleRename sha256 worktreeId surroundings prepared) fun error =>
          throw (error.intoOutcomeUnknown .rename)).apply directory =
        ((verifyPostimage sha256 worktreeId prepared answers).mapError
          (·.intoOutcomeUnknown .rename), after) := by
  obtain ⟨synced, found, unchanged, after, hsettle⟩ :=
    apply_settleRename sha256 worktreeId surroundings prepared directory
  refine ⟨synced, found, unchanged, after, ?_⟩
  intro answers hsynced hfound hunchanged
  rw [apply_tryCatch, hsettle answers hsynced hfound hunchanged]
  cases verifyPostimage sha256 worktreeId prepared answers with
  | error error => rfl
  | ok result => rfl

/-- Whatever the surroundings, a replacement reports what it computes from some answers. -/
theorem replaceFile_answers (directory : Directory) :
    ∃ answers : ReplaceAnswers,
      ((replaceFile sha256 worktreeId surroundings prepared).apply directory).1 =
        executeUtf8FileReplace sha256 worktreeId prepared answers := by
  obtain ⟨current, matched, hmatched⟩ := apply_openAndMatch sha256 surroundings prepared directory
  obtain ⟨created, named, hcreated⟩ := apply_createTemporary surroundings matched
  obtain ⟨verified, before, renamed, unlinked, unlinkSynced, moved, hmoved⟩ :=
    apply_renameOrRemove sha256 surroundings prepared named
  obtain ⟨synced, postimage, unchanged, settled, hsettled⟩ :=
    apply_settleOrPromote sha256 worktreeId surroundings prepared moved
  refine ⟨⟨current, created, verified, before, renamed, synced, postimage, unchanged, unlinked,
    unlinkSynced⟩, ?_⟩
  have hmoved := hmoved ⟨current, created, verified, before, renamed, synced, postimage, unchanged,
    unlinked, unlinkSynced⟩ rfl rfl rfl rfl rfl
  have hsettled := hsettled ⟨current, created, verified, before, renamed, synced, postimage,
    unchanged, unlinked, unlinkSynced⟩ rfl rfl rfl
  obtain ⟨after, hafter⟩ := apply_bind_of hmatched fun _ _ => apply_bind_of hcreated fun _ _ =>
    apply_bind_of hmoved fun _ _ => ⟨settled, hsettled⟩
  rw [bind_assoc] at hafter
  have hensured : ∃ after, (replaceFile sha256 worktreeId surroundings prepared).apply directory =
      (executeUtf8FileReplace sha256 worktreeId prepared ⟨current, created, verified, before, renamed,
        synced, postimage, unchanged, unlinked, unlinkSynced⟩, after) :=
    apply_bind_of rfl fun _ _ => ⟨after, hafter⟩
  obtain ⟨_, hensured⟩ := hensured
  rw [hensured]

end Reports

end BirdCode.WriteLane
