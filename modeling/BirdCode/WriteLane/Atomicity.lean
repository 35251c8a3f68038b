import BirdCode.WriteLane.Replacing

/-! What a replacement leaves behind. Unless it reports that it may have mutated the file, the target is what
the others made of it and the temporary file is gone; if it returns, the file it renamed stood at the target
and had the digest it should have. -/
namespace BirdCode.WriteLane

open Lib Store Tooling

variable {sha256 : Bytes → Sha256Digest} {worktreeId : Uuid} {surroundings : Surroundings}
  {prepared : PreparedUtf8FileReplace} {target : Option FileNode} {temporary : Option Bytes}

section Steps

variable {P Q : Directory → Prop} {R : FileReplaceError → Directory → Prop} {step : ReplaceStep}
  {effect : Directory → Directory}

theorem attempt_meets {failure : Option FileReplaceError}
    (hok : ∀ directory, P directory → Q (effect (surroundings.pass step directory)))
    (herror : ∀ error directory, failure = some error → P directory →
      R error (surroundings.pass step directory)) :
    Meets P (surroundings.attempt step failure effect) (fun _ => Q) R := by
  cases failure with
  | none =>
    refine .perform ?_ ?_
    · intro directory _ after hP hrun
      cases hrun
      exact hok directory hP
    · intro directory error after _ hrun
      cases hrun
  | some error =>
    refine .perform ?_ ?_
    · intro directory _ after _ hrun
      cases hrun
    · intro directory error' after hP hrun
      cases hrun
      exact herror error directory rfl hP

theorem look_meets {M : FileObservation → Directory → Prop}
    (hok : ∀ observed directory node, P directory →
      surroundings.others step directory.target = some node →
      observed.identity = node.identity → observed.summary = summarize sha256 node.bytes →
      M observed (surroundings.pass step directory))
    (herror : ∀ error directory, P directory → R error (surroundings.pass step directory)) :
    Meets P (surroundings.look sha256 step) M R := by
  refine .perform ?_ ?_
  · intro directory observed after hP hrun
    obtain ⟨hobserve, rfl⟩ := Prod.mk.inj hrun
    unfold Surroundings.found at hobserve
    cases hrefused : surroundings.refused step with
    | some error =>
      rw [hrefused] at hobserve
      cases hobserve
    | none =>
      cases htarget : surroundings.others step directory.target with
      | none =>
        rw [hrefused, htarget] at hobserve
        cases hobserve
      | some node =>
        rw [hrefused, htarget] at hobserve
        simp only [observeFile, bind_eq_ok, ensure_eq_ok] at hobserve
        obtain ⟨node', hnode, _, _, hobserved⟩ := hobserve
        cases hnode
        cases hobserved
        exact hok _ directory node hP htarget rfl rfl
  · intro directory error after hP hrun
    obtain ⟨_, rfl⟩ := Prod.mk.inj hrun
    exact herror error directory hP

theorem ensure_meets {condition : Prop} [Decidable condition] {error : FileReplaceError}
    (hok : ∀ directory, P directory → condition → Q directory)
    (herror : ∀ directory, P directory → R error directory) :
    Meets P (.observe fun _ => ensure condition error) (fun _ => Q) R := by
  refine .observe ?_ ?_
  · intro directory _ hP hensure
    exact hok directory hP (ensure_eq_ok.mp hensure)
  · intro directory error' hP hensure
    unfold ensure at hensure
    split at hensure
    · cases hensure
    · cases hensure
      exact herror directory hP

end Steps

section Untouched

/-- Nothing was done to the target: it is what the others made of it, and nothing was renamed over it. -/
structure Untouched (surroundings : Surroundings) (target : Option FileNode) (directory : Directory) :
    Prop where
  same : directory.target = directory.undisturbed
  quiet : (∀ step node, surroundings.others step node = node) → directory.undisturbed = target
  pending : directory.renamedOver = none

theorem Untouched.pass {directory : Directory} (h : Untouched surroundings target directory)
    (step : ReplaceStep) : Untouched surroundings target (surroundings.pass step directory) := by
  refine ⟨?_, ?_, h.pending⟩
  · exact congrArg (surroundings.others step) h.same
  · intro hquiet
    exact (hquiet step _).trans (h.quiet hquiet)

theorem Untouched.withTemporary {directory : Directory} (h : Untouched surroundings target directory)
    (bytes : Option Bytes) :
    Untouched surroundings target { directory with temporary := bytes } :=
  ⟨h.same, h.quiet, h.pending⟩

theorem untouched_before : Untouched surroundings target (.before target temporary) :=
  ⟨rfl, fun _ => rfl, rfl⟩

/-- The target is untouched, and this is the temporary file. -/
def Clean (surroundings : Surroundings) (target : Option FileNode) (temporary : Option Bytes)
    (directory : Directory) : Prop :=
  Untouched surroundings target directory ∧ directory.temporary = temporary

theorem Clean.pass {directory : Directory} (h : Clean surroundings target temporary directory)
    (step : ReplaceStep) :
    Clean surroundings target temporary (surroundings.pass step directory) :=
  ⟨h.1.pass step, h.2⟩

/-- An error that does not own up to a change comes with a clean directory. -/
def Honest (surroundings : Surroundings) (target : Option FileNode) (temporary : Option Bytes)
    (error : FileReplaceError) (directory : Directory) : Prop :=
  error.mayHaveMutated = false → Clean surroundings target temporary directory

theorem honest_of_mutated {error : FileReplaceError} {directory : Directory}
    (h : error.mayHaveMutated = true) : Honest surroundings target temporary error directory := by
  intro hfalse
  rw [h] at hfalse
  cases hfalse

theorem mayHaveMutated_intoOutcomeUnknown (operation : MutationIoOperation)
    (error : FileReplaceError) : (error.intoOutcomeUnknown operation).mayHaveMutated = true := by
  cases error <;> rfl

end Untouched

section BeforeRename

/-- Up to the creation of the temporary file nothing is done. -/
theorem matchPreimage_meets {step : ReplaceStep} :
    Meets (Clean surroundings target temporary)
      (matchPreimage sha256 surroundings prepared step)
      (fun _ directory => Clean surroundings target temporary directory ∧ ∃ node,
        directory.target = some node ∧ node.identity = prepared.preimageIdentity ∧
          summarize sha256 node.bytes = prepared.receipt.preimage)
      (Honest surroundings target temporary) := by
  refine .bind (M := fun observed directory => Clean surroundings target temporary directory ∧
    ∃ node, directory.target = some node ∧ observed.identity = node.identity ∧
      observed.summary = summarize sha256 node.bytes) ?_ ?_
  · refine look_meets ?_ ?_
    · intro observed directory node hclean hnode hidentity hsummary
      exact ⟨hclean.pass step, node, hnode, hidentity, hsummary⟩
    · intro error directory hclean _
      exact hclean.pass step
  · intro observed
    refine ensure_meets ?_ ?_
    · rintro directory ⟨hclean, node, hnode, hidentity, hsummary⟩ ⟨hsame, hpreimage⟩
      exact ⟨hclean, node, hnode, hidentity.symm.trans hsame, hsummary.symm.trans hpreimage⟩
    · rintro directory ⟨hclean, _⟩ _
      exact hclean

/-- The temporary file holds just the replacement once it has been read back. -/
theorem writeAndVerifyTemporary_meets :
    Meets (fun directory => ∃ bytes, Clean surroundings target (some bytes) directory)
      (writeAndVerifyTemporary surroundings prepared)
      (fun _ => Clean surroundings target (some prepared.replacement))
      (fun _ directory => ∃ bytes, Clean surroundings target (some bytes) directory) := by
  have hstep : ∀ {step : ReplaceStep} {failure : Option FileReplaceError},
      Meets (fun directory => ∃ bytes, Clean surroundings target (some bytes) directory)
        (surroundings.attempt step failure id)
        (fun _ directory => ∃ bytes, Clean surroundings target (some bytes) directory)
        (fun _ directory => ∃ bytes, Clean surroundings target (some bytes) directory) := by
    intro step failure
    refine attempt_meets ?_ ?_
    · rintro directory ⟨bytes, hclean⟩
      exact ⟨bytes, hclean.pass step⟩
    · rintro error directory _ ⟨bytes, hclean⟩
      exact ⟨bytes, hclean.pass step⟩
  refine .bind (M := fun _ directory => ∃ bytes, Clean surroundings target (some bytes) directory)
    ?_ fun _ => ?_
  · refine attempt_meets ?_ ?_
    · rintro directory ⟨bytes, hclean⟩
      exact ⟨_, (hclean.pass _).1.withTemporary _, rfl⟩
    · rintro error directory _ ⟨bytes, hclean⟩
      exact ⟨bytes, hclean.pass _⟩
  refine .bind hstep fun _ => ?_
  refine .bind hstep fun _ => ?_
  refine .bind hstep fun _ => ?_
  refine .bind (M := fun verified directory => ∃ bytes, Clean surroundings target (some bytes) directory ∧
    verified = bytes.take (prepared.replacement.length + 1)) ?_ fun verified => ?_
  · refine .perform ?_ ?_
    · rintro directory verified after ⟨bytes, hclean⟩ hrun
      dsimp only at hrun
      split at hrun
      · cases hrun
      · cases hrun
        refine ⟨bytes, hclean.pass _, ?_⟩
        rw [hclean.2, Option.getD_some]
    · rintro directory error after ⟨bytes, hclean⟩ hrun
      dsimp only at hrun
      split at hrun
      · cases hrun
        exact ⟨bytes, hclean.pass _⟩
      · cases hrun
  refine ensure_meets ?_ ?_
  · rintro directory ⟨bytes, hclean, hverified⟩ hsame
    rw [hsame] at hverified
    -- a longer file would have shown one byte more
    have hlength := congrArg List.length hverified
    rw [List.length_take] at hlength
    have hall : bytes.take (prepared.replacement.length + 1) = bytes := by
      apply List.take_of_length_le
      omega
    rw [hall] at hverified
    rwa [hverified]
  · rintro directory ⟨bytes, hclean, _⟩
    exact ⟨bytes, hclean⟩

/-- The new file stands at the target, in the place of one that had the preimage when it was last seen. -/
structure Moved (sha256 : Bytes → Sha256Digest) (surroundings : Surroundings)
    (prepared : PreparedUtf8FileReplace) (directory : Directory) : Prop where
  temporary : directory.temporary = none
  matched : ∃ node : FileNode, node.identity = prepared.preimageIdentity ∧
    summarize sha256 node.bytes = prepared.receipt.preimage ∧
      directory.renamedOver = some (surroundings.others .rename (some node))

theorem renameTemporary_meets :
    Meets (fun directory => ∃ bytes, Clean surroundings target (some bytes) directory)
      (renameTemporary sha256 surroundings prepared)
      (fun _ directory => Moved sha256 surroundings prepared directory ∧
        directory.target = some (surroundings.renamed prepared.replacement))
      (fun error directory => error.mayHaveMutated = false →
        Untouched surroundings target directory) := by
  refine .bind (writeAndVerifyTemporary_meets.weaken (fun _ h => h) (fun _ _ h => h) ?_)
    fun _ => ?_
  · rintro error directory ⟨bytes, hclean⟩ _
    exact hclean.1
  refine .bind (matchPreimage_meets.weaken (fun _ h => h) (fun _ _ h => h) ?_) fun _ => ?_
  · intro error directory hhonest hfalse
    exact (hhonest hfalse).1
  refine .perform ?_ ?_
  · rintro directory _ after ⟨hclean, node, hnode, hidentity, hsummary⟩ hrun
    unfold Surroundings.pass at hrun
    dsimp only at hrun
    split at hrun
    · cases hrun
    · cases hrun
      refine ⟨⟨rfl, node, hidentity, hsummary, ?_⟩, ?_⟩
      · rw [hnode]
      · rw [hclean.2]
        rfl
  · intro directory error after _ hrun hfalse
    dsimp only at hrun
    split at hrun
    · cases hrun
      cases hfalse
    · cases hrun

/-- Before the rename a failure removes the temporary file, or says that it may not have. -/
theorem removeAfter_meets (error : FileReplaceError) {Q : Unit → Directory → Prop} :
    Meets (fun directory => error.mayHaveMutated = false →
        Untouched surroundings target directory)
      (removeAfter surroundings error) Q (Honest surroundings target none) := by
  refine .bind (M := fun _ directory => error.mayHaveMutated = false →
    Clean surroundings target none directory) ?_ fun _ => ?_
  · refine .perform ?_ ?_
    · intro directory _ after huntouched hrun
      dsimp only at hrun
      split at hrun
      · cases hrun
      · cases hrun
      · cases hrun
        intro hfalse
        exact ⟨((huntouched hfalse).pass _).withTemporary none, rfl⟩
    · intro directory error' after _ hrun
      dsimp only at hrun
      split at hrun
      · cases hrun
        exact honest_of_mutated rfl
      · cases hrun
        exact honest_of_mutated rfl
      · cases hrun
  · refine .bind (M := fun _ directory => error.mayHaveMutated = false →
      Clean surroundings target none directory) ?_ fun _ => .throw fun _ h => h
    refine attempt_meets ?_ ?_
    · intro directory hclean hfalse
      exact (hclean hfalse).pass _
    · intro error' directory hfailure _
      obtain ⟨errno, _, rfl⟩ := Option.map_eq_some_iff.mp hfailure
      exact honest_of_mutated rfl

end BeforeRename

section AfterRename

/-- What the others made of the new file by the time it was looked at. -/
def Surroundings.atPostimage (surroundings : Surroundings) (prepared : PreparedUtf8FileReplace) :
    Option FileNode :=
  surroundings.others .postimage
    (surroundings.others .syncParent (some (surroundings.renamed prepared.replacement)))

/-- A replacement that returned: the file it put there was found with the digest it should have. -/
structure Settled (sha256 : Bytes → Sha256Digest) (surroundings : Surroundings)
    (prepared : PreparedUtf8FileReplace) (directory : Directory) : Prop
    extends Moved sha256 surroundings prepared directory where
  target : directory.target =
    surroundings.others .statRoot (surroundings.atPostimage prepared)
  found : ∃ node, surroundings.atPostimage prepared = some node ∧
    summarize sha256 node.bytes = prepared.receipt.postimage

theorem Moved.pass {directory : Directory} (h : Moved sha256 surroundings prepared directory)
    (step : ReplaceStep) : Moved sha256 surroundings prepared (surroundings.pass step directory) :=
  ⟨h.temporary, h.matched⟩

theorem settleRename_meets :
    Meets (fun directory => Moved sha256 surroundings prepared directory ∧
        directory.target = some (surroundings.renamed prepared.replacement))
      (settleRename sha256 worktreeId surroundings prepared)
      (fun _ => Settled sha256 surroundings prepared) (fun _ _ => True) := by
  refine .bind (M := fun _ directory => Moved sha256 surroundings prepared directory ∧
    directory.target = surroundings.others .syncParent
      (some (surroundings.renamed prepared.replacement))) ?_ fun _ => ?_
  · refine attempt_meets ?_ fun _ _ _ _ => trivial
    rintro directory ⟨hmoved, htarget⟩
    exact ⟨hmoved.pass _, congrArg (surroundings.others .syncParent) htarget⟩
  refine .bind (M := fun observed directory => Moved sha256 surroundings prepared directory ∧
    directory.target = surroundings.atPostimage prepared ∧ ∃ node,
      surroundings.atPostimage prepared = some node ∧
        observed.summary = summarize sha256 node.bytes) ?_ fun observed => ?_
  · have hreported (M : FileObservation → Directory → Prop) (error : FileReplaceError) :
        Meets (fun _ => True)
          (throw (if error.mayHaveMutated then error else .outcomeUnknown .readFile none) :
            Command Directory FileReplaceError FileObservation) M fun _ _ => True :=
      .throw fun _ _ => trivial
    refine Meets.tryCatch ?_ (hreported _)
    refine look_meets ?_ fun _ _ _ => trivial
    rintro observed directory node ⟨hmoved, htarget⟩ hnode _ hsummary
    have hpostimage : surroundings.others .postimage directory.target =
        surroundings.atPostimage prepared := congrArg (surroundings.others .postimage) htarget
    exact ⟨hmoved.pass _, hpostimage, node, hpostimage.symm.trans hnode, hsummary⟩
  refine .bind (M := fun _ directory => Moved sha256 surroundings prepared directory ∧
    directory.target = surroundings.atPostimage prepared ∧ ∃ node,
      surroundings.atPostimage prepared = some node ∧
        summarize sha256 node.bytes = prepared.receipt.postimage) ?_ fun _ => ?_
  · refine ensure_meets ?_ fun _ _ => trivial
    rintro directory ⟨hmoved, htarget, node, hnode, hsummary⟩ hpostimage
    exact ⟨hmoved, htarget, node, hnode, hsummary.symm.trans hpostimage⟩
  refine .bind (M := fun _ => Settled sha256 surroundings prepared) ?_
    fun _ => .pure fun _ h => h
  refine attempt_meets ?_ fun _ _ _ _ => trivial
  rintro directory ⟨hmoved, htarget, hfound⟩
  exact ⟨hmoved.pass _, congrArg (surroundings.others .statRoot) htarget, hfound⟩

/-- A replacement either settles or fails; and where it fails without saying that it may have mutated the
file, it leaves the directory as it would be without it. -/
theorem replaceFile_meets :
    Meets (Clean surroundings target temporary)
      (replaceFile sha256 worktreeId surroundings prepared)
      (fun _ => Settled sha256 surroundings prepared)
      (Honest surroundings target temporary) := by
  refine .bind (M := fun _ => Clean surroundings target temporary)
    (ensure_meets (fun _ h _ => h) fun _ h _ => h) fun _ => ?_
  refine .bind (M := fun _ => Clean surroundings target temporary) ?_ fun _ => ?_
  · refine attempt_meets ?_ ?_
    · intro directory hclean
      exact hclean.pass _
    · intro error directory _ hclean _
      exact hclean.pass _
  refine .bind (M := fun _ => Clean surroundings target temporary)
    (matchPreimage_meets.weaken (fun _ h => h) (fun _ _ h => h.1) fun _ _ h => h) fun _ => ?_
  refine .bind (M := fun _ directory => temporary = none ∧
    ∃ bytes, Clean surroundings target (some bytes) directory) ?_ fun _ => ?_
  · refine .perform ?_ ?_
    · intro directory _ after hclean hrun
      dsimp only at hrun
      split at hrun
      · cases hrun
      · cases hrun
      · next hnone =>
        cases hrun
        exact ⟨hclean.2.symm.trans hnone, [], (hclean.1.pass _).withTemporary _, rfl⟩
    · intro directory error after hclean hrun _
      dsimp only at hrun
      split at hrun
      · cases hrun
        exact hclean.pass _
      · cases hrun
        exact hclean.pass _
      · cases hrun
  -- where the temporary file was created, there was none before
  cases temporary with
  | some bytes =>
    rintro directory ⟨hnone, _⟩
    cases hnone
  | none =>
    refine Meets.weaken ?_ (fun _ h => h.2) (fun _ _ h => h) fun _ _ h => h
    refine .bind (M := fun _ directory => Moved sha256 surroundings prepared directory ∧
      directory.target = some (surroundings.renamed prepared.replacement)) ?_ fun _ => ?_
    · exact renameTemporary_meets.tryCatch fun error => removeAfter_meets error
    · refine settleRename_meets.tryCatch fun error => .throw fun _ _ => ?_
      exact honest_of_mutated (mayHaveMutated_intoOutcomeUnknown _ _)

end AfterRename

end BirdCode.WriteLane
