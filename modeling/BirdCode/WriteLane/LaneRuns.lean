import BirdCode.WriteLane.Answers

/-! The writer lane of a worktree over any calls that are made on it: it holds one prepared replacement at a
time, executes none twice, and executes nothing once the outcome of one is unknown. -/
namespace BirdCode.WriteLane

open Lib Store Tooling

section Lanes

/-- `is_err_and(may_have_mutated)`. -/
def mutated {A : Type} : Except FileReplaceError A → Bool
  | .error error => error.mayHaveMutated
  | .ok _ => false

inductive LaneCall
  | prepare (request : Utf8FileReplaceRequest) (found : Except FileReplaceError FileNode)
      (operationId : Uuid)
  | execute (prepared : PreparedUtf8FileReplace) (surroundings : Surroundings)
      (directory : Directory)
  | cancel (prepared : PreparedUtf8FileReplace)

/-- What the calls came to; a call that is refused comes to nothing. -/
inductive LaneEvent
  | prepared (operationId : Uuid)
  | executed (operationId : Uuid) (unknown : Bool)
  | cancelled (operationId : Uuid)
  deriving DecidableEq

structure Lane where
  worktree : TemporaryGitWorktree
  log : List LaneEvent

variable (sha256 : Bytes → Sha256Digest)

/-- `execute_prepared_utf8_file_replace` in a directory. -/
def TemporaryGitWorktree.executeIn (worktree : TemporaryGitWorktree)
    (prepared : PreparedUtf8FileReplace) (surroundings : Surroundings) (directory : Directory) :
    Except FileReplaceError Utf8FileReplaceResult × TemporaryGitWorktree × Directory :=
  match worktree.mayExecute prepared with
  | .error error => (.error error, worktree, directory)
  | .ok () =>
    let run := (replaceFile sha256 worktree.worktreeId surroundings prepared).apply directory
    (run.1, worktree.settleReplace run.1, run.2)

def Lane.step (lane : Lane) : LaneCall → Lane
  | .prepare request found operationId =>
    match lane.worktree.prepareUtf8FileReplace sha256 request found operationId with
    | (.ok prepared, worktree) => ⟨worktree, lane.log ++ [.prepared prepared.operationId]⟩
    | (.error _, worktree) => ⟨worktree, lane.log⟩
  | .execute prepared surroundings directory =>
    match lane.worktree.mayExecute prepared with
    | .ok () =>
      let executed := lane.worktree.executeIn sha256 prepared surroundings directory
      ⟨executed.2.1, lane.log ++ [.executed prepared.operationId (mutated executed.1)]⟩
    | .error _ => lane
  | .cancel prepared =>
    match lane.worktree.cancelPreparedUtf8FileReplace prepared with
    | (.ok (), worktree) => ⟨worktree, lane.log ++ [.cancelled prepared.operationId]⟩
    | (.error _, worktree) => ⟨worktree, lane.log⟩

def Lane.run (lane : Lane) (calls : List LaneCall) : Lane := calls.foldl (Lane.step sha256) lane

end Lanes

section Log

/-- The replacements that are prepared and neither executed to a known outcome nor cancelled. -/
def LaneEvent.after (held : List Uuid) : LaneEvent → List Uuid
  | .prepared operationId => held ++ [operationId]
  | .executed operationId unknown => if unknown then held else held.erase operationId
  | .cancelled operationId => held.erase operationId

def outstanding (log : List LaneEvent) : List Uuid := log.foldl LaneEvent.after []

def LaneEvent.preparation : LaneEvent → Option Uuid
  | .prepared operationId => some operationId
  | _ => none

def LaneEvent.execution : LaneEvent → Option (Uuid × Bool)
  | .executed operationId unknown => some (operationId, unknown)
  | _ => none

def preparations (log : List LaneEvent) : List Uuid := log.filterMap LaneEvent.preparation

/-- The replacements that were executed, and whether their outcome is unknown. -/
def executions (log : List LaneEvent) : List (Uuid × Bool) := log.filterMap LaneEvent.execution

variable {log : List LaneEvent} {event : LaneEvent}

theorem outstanding_append : outstanding (log ++ [event]) = event.after (outstanding log) := by
  rw [outstanding, List.foldl_append]
  rfl

theorem preparations_append :
    preparations (log ++ [event]) = preparations log ++ event.preparation.toList := by
  rw [preparations, List.filterMap_append, preparations]
  cases event <;> rfl

theorem executions_append :
    executions (log ++ [event]) = executions log ++ event.execution.toList := by
  rw [executions, List.filterMap_append, executions]
  cases event <;> rfl

end Log

section Runs

variable {sha256 : Bytes → Sha256Digest} {lane : Lane} {call : LaneCall}

/-- What holds of a lane: its slot is what the log leaves outstanding, nothing was executed twice or after an
unknown outcome, and what stands in the slot of a lane in order was not executed yet. -/
structure LaneHolds (lane : Lane) : Prop where
  slot : outstanding lane.log = lane.worktree.preparedMutationId.toList
  drawn : ∀ id ∈ lane.worktree.preparedMutationId, id ∈ preparations lane.log
  executedDrawn : ∀ execution ∈ executions lane.log, execution.1 ∈ preparations lane.log
  once : ((executions lane.log).map Prod.fst).Nodup
  known : (executions lane.log).Pairwise fun earlier _ => earlier.2 = false
  poisoned : lane.worktree.mutationLanePoisoned = true ↔
    ∃ execution ∈ executions lane.log, execution.2 = true
  fresh : lane.worktree.mutationLanePoisoned = false → ∀ id ∈ lane.worktree.preparedMutationId,
    id ∉ (executions lane.log).map Prod.fst

theorem laneHolds_acquired {worktree : TemporaryGitWorktree}
    (hslot : worktree.preparedMutationId = none) (hpoison : worktree.mutationLanePoisoned = false) :
    LaneHolds ⟨worktree, []⟩ := by
  refine ⟨?_, ?_, ?_, List.nodup_nil, List.Pairwise.nil, ?_, ?_⟩
  · rw [hslot]
    rfl
  · rw [hslot]
    intro id hid
    cases hid
  · intro execution hmem
    cases hmem
  · rw [hpoison]
    simp [executions]
  · rw [hslot]
    intro _ id hid
    cases hid

theorem mayExecute_ok {worktree : TemporaryGitWorktree} {prepared : PreparedUtf8FileReplace} :
    worktree.mayExecute prepared = .ok () ↔ worktree.cleanupState = .active ∧
      worktree.mutationLanePoisoned = false ∧
      worktree.preparedMutationId = some prepared.operationId := by
  simp only [TemporaryGitWorktree.mayExecute, bind_eq_ok, ensure_eq_ok, exists_const]

/-- A replacement is prepared where the slot is free. -/
theorem prepareUtf8FileReplace_slot {worktree worktree' : TemporaryGitWorktree}
    {request : Utf8FileReplaceRequest} {found : Except FileReplaceError FileNode}
    {operationId : Uuid} {prepared : PreparedUtf8FileReplace}
    (h : worktree.prepareUtf8FileReplace sha256 request found operationId =
      (.ok prepared, worktree')) :
    worktree.preparedMutationId = none ∧
      worktree' = { worktree with preparedMutationId := some prepared.operationId } := by
  unfold TemporaryGitWorktree.prepareUtf8FileReplace at h
  dsimp only at h
  split at h
  · cases h
  · next hresult =>
    cases h
    simp only [bind_eq_ok, ensure_eq_ok] at hresult
    obtain ⟨_, _, _, _, _, hslot, _⟩ := hresult
    exact ⟨hslot, rfl⟩

theorem prepareUtf8FileReplace_error {worktree worktree' : TemporaryGitWorktree}
    {request : Utf8FileReplaceRequest} {found : Except FileReplaceError FileNode}
    {operationId : Uuid} {error : FileReplaceError}
    (h : worktree.prepareUtf8FileReplace sha256 request found operationId =
      (.error error, worktree')) : worktree' = worktree := by
  unfold TemporaryGitWorktree.prepareUtf8FileReplace at h
  dsimp only at h
  split at h
  · cases h
    rfl
  · cases h

theorem LaneHolds.prepared (h : LaneHolds lane) {id : Uuid}
    (hslot : lane.worktree.preparedMutationId = none)
    (hnew : id ∉ preparations lane.log) :
    LaneHolds ⟨{ lane.worktree with preparedMutationId := some id }, lane.log ++ [.prepared id]⟩ := by
  have hexecutions : executions (lane.log ++ [.prepared id]) = executions lane.log := by
    rw [executions_append]
    exact List.append_nil _
  refine ⟨?_, ?_, ?_, ?_, ?_, ?_, ?_⟩
  · rw [outstanding_append, h.slot, hslot]
    rfl
  · intro id' hid'
    obtain rfl := Option.some.inj hid'
    rw [preparations_append]
    exact List.mem_append_right _ List.mem_cons_self
  · rw [hexecutions, preparations_append]
    intro execution hmem
    exact List.mem_append_left _ (h.executedDrawn execution hmem)
  · rw [hexecutions]
    exact h.once
  · rw [hexecutions]
    exact h.known
  · rw [hexecutions]
    exact h.poisoned
  · intro _ id' hid'
    obtain rfl := Option.some.inj hid'
    rw [hexecutions]
    intro hexecuted
    obtain ⟨execution, hmem, rfl⟩ := List.mem_map.mp hexecuted
    exact hnew (h.executedDrawn execution hmem)

theorem LaneHolds.cancelled (h : LaneHolds lane) {id : Uuid}
    (hslot : lane.worktree.preparedMutationId = some id) :
    LaneHolds ⟨{ lane.worktree with preparedMutationId := none },
      lane.log ++ [.cancelled id]⟩ := by
  have hexecutions : executions (lane.log ++ [.cancelled id]) = executions lane.log := by
    rw [executions_append]
    exact List.append_nil _
  have hpreparations : preparations (lane.log ++ [.cancelled id]) = preparations lane.log := by
    rw [preparations_append]
    exact List.append_nil _
  refine ⟨?_, ?_, ?_, ?_, ?_, ?_, ?_⟩
  · rw [outstanding_append, h.slot, hslot, LaneEvent.after]
    simp
  · intro id' hid'
    cases hid'
  · rw [hexecutions, hpreparations]
    exact h.executedDrawn
  · rw [hexecutions]
    exact h.once
  · rw [hexecutions]
    exact h.known
  · rw [hexecutions]
    exact h.poisoned
  · intro _ id' hid'
    cases hid'

theorem settleReplace_slot (worktree : TemporaryGitWorktree)
    (result : Except FileReplaceError Utf8FileReplaceResult) :
    (worktree.settleReplace result).preparedMutationId =
      if mutated result then worktree.preparedMutationId else none := by
  cases result with
  | ok result => rfl
  | error error =>
    have hmutated : mutated (.error error : Except FileReplaceError Utf8FileReplaceResult) =
        error.mayHaveMutated := rfl
    rw [hmutated]
    unfold TemporaryGitWorktree.settleReplace
    by_cases hunknown : error.mayHaveMutated = true
    · simp only [hunknown, if_true]
    · simp [hunknown]

theorem settleReplace_poisoned (worktree : TemporaryGitWorktree)
    (result : Except FileReplaceError Utf8FileReplaceResult) :
    (worktree.settleReplace result).mutationLanePoisoned =
      (mutated result || worktree.mutationLanePoisoned) := by
  cases result with
  | ok result => rfl
  | error error =>
    simp only [TemporaryGitWorktree.settleReplace, mutated]
    cases error.mayHaveMutated with
    | true => rfl
    | false => rfl

/-- An execution is the first of its replacement and comes after known outcomes only. -/
theorem LaneHolds.executed (h : LaneHolds lane) {prepared : PreparedUtf8FileReplace}
    (hmay : lane.worktree.mayExecute prepared = .ok ())
    (result : Except FileReplaceError Utf8FileReplaceResult) :
    LaneHolds ⟨lane.worktree.settleReplace result,
      lane.log ++ [.executed prepared.operationId (mutated result)]⟩ := by
  obtain ⟨_, hpoison, hslot⟩ := mayExecute_ok.mp hmay
  have hnever : ¬∃ execution ∈ executions lane.log, execution.2 = true := by
    rw [← h.poisoned, hpoison]
    exact Bool.false_ne_true
  have hexecutions : executions (lane.log ++ [.executed prepared.operationId (mutated result)]) =
      executions lane.log ++ [(prepared.operationId, mutated result)] := executions_append
  have hpreparations :
      preparations (lane.log ++ [.executed prepared.operationId (mutated result)]) =
        preparations lane.log := by
    rw [preparations_append]
    exact List.append_nil _
  have hslot' := settleReplace_slot lane.worktree result
  have hpoison' := settleReplace_poisoned lane.worktree result
  rw [hpoison, Bool.or_false] at hpoison'
  refine ⟨?_, ?_, ?_, ?_, ?_, ?_, ?_⟩
  · rw [outstanding_append, h.slot, hslot', hslot, LaneEvent.after]
    cases mutated result <;> simp
  · intro id hid
    rw [hpreparations]
    rw [hslot'] at hid
    split at hid
    · exact h.drawn id hid
    · cases hid
  · rw [hexecutions, hpreparations]
    intro execution hmem
    rcases List.mem_append.mp hmem with hmem | hmem
    · exact h.executedDrawn execution hmem
    · obtain rfl := List.mem_singleton.mp hmem
      exact h.drawn _ hslot
  · rw [hexecutions, List.map_append, List.nodup_append']
    refine ⟨h.once, List.nodup_singleton _, ?_⟩
    intro id hid hid'
    obtain rfl := List.mem_singleton.mp hid'
    exact h.fresh hpoison _ hslot hid
  · rw [hexecutions, List.pairwise_append]
    refine ⟨h.known, List.pairwise_singleton _ _, ?_⟩
    intro earlier hmem _ _
    by_contra hunknown
    exact hnever ⟨earlier, hmem, Bool.of_not_eq_false hunknown⟩
  · rw [hexecutions, hpoison']
    constructor
    · intro hunknown
      exact ⟨_, List.mem_append_right _ List.mem_cons_self, hunknown⟩
    · rintro ⟨execution, hmem, hunknown⟩
      rcases List.mem_append.mp hmem with hmem | hmem
      · exact absurd ⟨execution, hmem, hunknown⟩ hnever
      · obtain rfl := List.mem_singleton.mp hmem
        exact hunknown
  · intro hknown id hid
    rw [hpoison'] at hknown
    rw [hslot', hknown] at hid
    cases hid

/-- Every call keeps the lane in order, if it draws a new id for what it prepares. -/
theorem LaneHolds.step (h : LaneHolds lane)
    (hdrawn : (preparations (lane.step sha256 call).log).Nodup) :
    LaneHolds (lane.step sha256 call) := by
  cases call with
  | prepare request found operationId =>
    cases hprepare : lane.worktree.prepareUtf8FileReplace sha256 request found operationId with
    | mk result worktree =>
      cases result with
      | ok prepared =>
        obtain ⟨hslot, rfl⟩ := prepareUtf8FileReplace_slot hprepare
        simp only [Lane.step, hprepare, preparations_append] at hdrawn ⊢
        refine h.prepared hslot ?_
        intro hmem
        exact (List.nodup_append'.mp hdrawn).2.2 hmem List.mem_cons_self
      | error error =>
        obtain rfl := prepareUtf8FileReplace_error hprepare
        simp only [Lane.step, hprepare]
        exact h
  | execute prepared surroundings directory =>
    cases hmay : lane.worktree.mayExecute prepared with
    | ok _ =>
      simp only [Lane.step, TemporaryGitWorktree.executeIn, hmay]
      exact h.executed hmay _
    | error error =>
      simp only [Lane.step, hmay]
      exact h
  | cancel prepared =>
    by_cases hslot : lane.worktree.preparedMutationId = some prepared.operationId
    · simp only [Lane.step, TemporaryGitWorktree.cancelPreparedUtf8FileReplace, if_pos hslot]
      exact h.cancelled hslot
    · simp only [Lane.step, TemporaryGitWorktree.cancelPreparedUtf8FileReplace, if_neg hslot]
      exact h

theorem Lane.log_step (lane : Lane) (call : LaneCall) :
    lane.log <+: (lane.step sha256 call).log := by
  unfold Lane.step
  split
  · split
    · exact List.prefix_append _ _
    · exact List.prefix_rfl
  · split
    · exact List.prefix_append _ _
    · exact List.prefix_rfl
  · split
    · exact List.prefix_append _ _
    · exact List.prefix_rfl

theorem LaneHolds.run (h : LaneHolds lane) (calls : List LaneCall)
    (hdrawn : (preparations (lane.run sha256 calls).log).Nodup) :
    LaneHolds (lane.run sha256 calls) := by
  induction calls using List.reverseRecOn with
  | nil => exact h
  | append_singleton calls call ih =>
    rw [Lane.run, List.foldl_append] at hdrawn ⊢
    have hprefix : (preparations (lane.run sha256 calls).log).Sublist
        (preparations ((lane.run sha256 calls).step sha256 call).log) :=
      ((lane.run sha256 calls).log_step call).sublist.filterMap LaneEvent.preparation
    exact (ih (hdrawn.sublist hprefix)).step hdrawn

end Runs

section Executions

variable {sha256 : Bytes → Sha256Digest} {worktree : TemporaryGitWorktree}
  {prepared : PreparedUtf8FileReplace} {surroundings : Surroundings} {target : Option FileNode}
  {temporary : Option Bytes}

/-- In a directory an execution does what it does on some answers. -/
theorem executeIn_answers (directory : Directory) : ∃ answers : ReplaceAnswers,
    worktree.executePreparedUtf8FileReplace sha256 prepared answers =
      ((worktree.executeIn sha256 prepared surroundings directory).1,
        (worktree.executeIn sha256 prepared surroundings directory).2.1) := by
  obtain ⟨answers, hanswers⟩ :=
    replaceFile_answers sha256 worktree.worktreeId surroundings prepared directory
  refine ⟨answers, ?_⟩
  unfold TemporaryGitWorktree.executePreparedUtf8FileReplace TemporaryGitWorktree.executeIn
  cases worktree.mayExecute prepared with
  | error error => rfl
  | ok _ =>
    dsimp only
    rw [hanswers]

/-- What a failed execution leaves behind. -/
structure FailedClean (surroundings : Surroundings) (target : Option FileNode)
    (temporary : Option Bytes) (error : FileReplaceError) (poisoned : Bool) (after : Directory) :
    Prop where
  clean : error.mayHaveMutated = false → after.target = after.undisturbed ∧
    after.temporary = temporary ∧
    ((∀ step node, surroundings.others step node = node) → after.target = target)
  unknown : after.renamedOver ≠ none → error.mayHaveMutated = true
  poisons : error.mayHaveMutated = true → poisoned = true

theorem mayExecute_error {error : FileReplaceError} (h : worktree.mayExecute prepared = .error error) :
    error.mayHaveMutated = false := by
  by_cases hactive : worktree.cleanupState = .active
  · by_cases hpoison : worktree.mutationLanePoisoned = false
    · by_cases hslot : worktree.preparedMutationId = some prepared.operationId
      · rw [mayExecute_ok.mpr ⟨hactive, hpoison, hslot⟩] at h
        cases h
      · simp [TemporaryGitWorktree.mayExecute, ensure, hactive, hpoison, hslot] at h
        cases h
        rfl
    · simp [TemporaryGitWorktree.mayExecute, ensure, hactive, hpoison] at h
      cases h
      rfl
  · simp [TemporaryGitWorktree.mayExecute, ensure, hactive] at h
    cases h
    rfl

theorem executeIn_error {error : FileReplaceError} {worktree' : TemporaryGitWorktree}
    {after : Directory}
    (h : worktree.executeIn sha256 prepared surroundings (.before target temporary) =
      (.error error, worktree', after)) :
    FailedClean surroundings target temporary error worktree'.mutationLanePoisoned after := by
  unfold TemporaryGitWorktree.executeIn at h
  cases hmay : worktree.mayExecute prepared with
  | error refusal =>
    rw [hmay] at h
    cases h
    have hrefusal := mayExecute_error hmay
    refine ⟨fun _ => ⟨rfl, rfl, fun _ => rfl⟩, fun hrenamed => absurd rfl hrenamed, ?_⟩
    intro hmutated
    rw [hrefusal] at hmutated
    cases hmutated
  | ok _ =>
    rw [hmay] at h
    dsimp only at h
    obtain ⟨hresult, hrest⟩ := Prod.mk.inj h
    obtain ⟨hworktree, hafter⟩ := Prod.mk.inj hrest
    have hmeets : Meets (Clean surroundings target temporary)
        (replaceFile sha256 worktree.worktreeId surroundings prepared)
        (fun _ => Settled sha256 surroundings prepared)
        (Honest surroundings target temporary) := replaceFile_meets
    have hhonest := (hmeets (.before target temporary) ⟨untouched_before, rfl⟩).2 error after
      (Prod.ext hresult hafter)
    refine ⟨?_, ?_, ?_⟩
    · intro hfalse
      obtain ⟨huntouched, htemporary⟩ := hhonest hfalse
      exact ⟨huntouched.same, htemporary, fun hquiet => huntouched.same.trans (huntouched.quiet hquiet)⟩
    · intro hrenamed
      by_contra hfalse
      exact hrenamed (hhonest (Bool.of_not_eq_true hfalse)).1.pending
    · intro hmutated
      rw [← hworktree, settleReplace_poisoned, hresult, mutated, hmutated]
      rfl

theorem executeIn_ok {result : Utf8FileReplaceResult} {worktree' : TemporaryGitWorktree}
    {after : Directory}
    (h : worktree.executeIn sha256 prepared surroundings (.before target temporary) =
      (.ok result, worktree', after)) : Settled sha256 surroundings prepared after := by
  unfold TemporaryGitWorktree.executeIn at h
  cases hmay : worktree.mayExecute prepared with
  | error refusal =>
    rw [hmay] at h
    cases h
  | ok _ =>
    rw [hmay] at h
    dsimp only at h
    obtain ⟨hresult, hrest⟩ := Prod.mk.inj h
    obtain ⟨_, hafter⟩ := Prod.mk.inj hrest
    have hmeets : Meets (Clean surroundings target temporary)
        (replaceFile sha256 worktree.worktreeId surroundings prepared)
        (fun _ => Settled sha256 surroundings prepared)
        (Honest surroundings target temporary) := replaceFile_meets
    exact (hmeets (.before target temporary) ⟨untouched_before, rfl⟩).1 result after
      (Prod.ext hresult hafter)

/-- Nobody else writes to the target from the last look before the rename on. -/
def UndisturbedRename (surroundings : Surroundings) : Prop :=
  ∀ step ∈ [ReplaceStep.rename, .syncParent, .postimage, .statRoot], ∀ node,
    surroundings.others step node = node

/-- What a replacement that returned leaves behind. -/
structure Replaced (sha256 : Bytes → Sha256Digest) (surroundings : Surroundings)
    (prepared : PreparedUtf8FileReplace) (after : Directory) : Prop where
  temporary : after.temporary = none
  matched : ∃ node : FileNode, node.identity = prepared.preimageIdentity ∧
    summarize sha256 node.bytes = prepared.receipt.preimage ∧
      after.renamedOver = some (surroundings.others .rename (some node)) ∧
      (UndisturbedRename surroundings → after.renamedOver = some (some node))
  observed : ∃ node : FileNode, summarize sha256 node.bytes = prepared.receipt.postimage ∧
    after.target = surroundings.others .statRoot (some node)
  exact : UndisturbedRename surroundings →
    ∃ node, after.target = some node ∧ node.bytes = prepared.replacement

theorem Settled.replaced {after : Directory} (h : Settled sha256 surroundings prepared after) :
    Replaced sha256 surroundings prepared after := by
  obtain ⟨node, hidentity, hsummary, hrenamed⟩ := h.matched
  obtain ⟨found, hfound, hpostimage⟩ := h.found
  refine ⟨h.temporary, ⟨node, hidentity, hsummary, hrenamed, ?_⟩, ⟨found, hpostimage, ?_⟩, ?_⟩
  · intro hquiet
    rw [hrenamed, hquiet .rename (by simp)]
  · rw [h.target, hfound]
  · intro hquiet
    refine ⟨surroundings.renamed prepared.replacement, ?_, rfl⟩
    rw [h.target, Surroundings.atPostimage, hquiet .syncParent (by simp),
      hquiet .postimage (by simp), hquiet .statRoot (by simp)]

end Executions

section Atomicity

/-- A replacement that fails without saying that it may have mutated the file has left the directory as it
would be without it; one that returns has put the file there, over one it had just seen to be the preimage.
A lane holds one prepared replacement at most, executes none twice and nothing after an unknown outcome. -/
theorem replacement_atomic (sha256 : Bytes → Sha256Digest) :
    (∀ (worktree worktree' : TemporaryGitWorktree) (prepared : PreparedUtf8FileReplace)
      (surroundings : Surroundings) (target : Option FileNode) (temporary : Option Bytes)
      (error : FileReplaceError) (after : Directory),
      worktree.executeIn sha256 prepared surroundings (.before target temporary) =
        (.error error, worktree', after) →
      FailedClean surroundings target temporary error worktree'.mutationLanePoisoned after) ∧
    (∀ (worktree worktree' : TemporaryGitWorktree) (prepared : PreparedUtf8FileReplace)
      (surroundings : Surroundings) (target : Option FileNode) (temporary : Option Bytes)
      (result : Utf8FileReplaceResult) (after : Directory),
      worktree.executeIn sha256 prepared surroundings (.before target temporary) =
        (.ok result, worktree', after) →
      Replaced sha256 surroundings prepared after) ∧
    ∀ (worktree : TemporaryGitWorktree) (calls : List LaneCall),
      worktree.preparedMutationId = none → worktree.mutationLanePoisoned = false →
      (preparations ((Lane.mk worktree []).run sha256 calls).log).Nodup →
      (outstanding ((Lane.mk worktree []).run sha256 calls).log).length ≤ 1 ∧
      ((executions ((Lane.mk worktree []).run sha256 calls).log).map Prod.fst).Nodup ∧
      (executions ((Lane.mk worktree []).run sha256 calls).log).Pairwise
        (fun earlier _ => earlier.2 = false) ∧
      (((Lane.mk worktree []).run sha256 calls).worktree.mutationLanePoisoned = true ↔
        ∃ execution ∈ executions ((Lane.mk worktree []).run sha256 calls).log,
          execution.2 = true) := by
  refine ⟨?_, ?_, ?_⟩
  · intro worktree worktree' prepared surroundings target temporary error after h
    exact executeIn_error h
  · intro worktree worktree' prepared surroundings target temporary result after h
    exact (executeIn_ok h).replaced
  · intro worktree calls hslot hpoison hdrawn
    have hholds := (laneHolds_acquired hslot hpoison).run calls hdrawn
    refine ⟨?_, hholds.once, hholds.known, hholds.poisoned⟩
    rw [hholds.slot]
    cases ((Lane.mk worktree []).run sha256 calls).worktree.preparedMutationId with
    | none => exact Nat.zero_le 1
    | some id => exact Nat.le_refl 1

def sampleHex : String := String.ofList (List.replicate 64 'a')

theorem sampleHex_valid : validSha256 sampleHex = true := by decide

def sampleDigest : Sha256Digest := ⟨sampleHex, sampleHex_valid⟩

def samplePath : RepositoryRelativePath := .unix [[0x61]]

def sampleIdentity : RepositoryFileIdentity := ⟨1, 1, 1, 1, 1, 1, 1⟩

def sampleNode (bytes : Bytes) : FileNode := ⟨sampleIdentity, 0o644, bytes⟩

def quietSurroundings : Surroundings where
  others _ node := node
  refused _ := none
  fault _ := none
  stdFault _ := none
  kept bytes := bytes
  newIdentity := sampleIdentity
  newMode := 0o644
  renamedAnyway := false

/-- Someone else writes to the target before it is looked at for the second time. -/
def disturbingSurroundings : Surroundings :=
  { quietSurroundings with
    others := fun step node =>
      if step = .immediatelyBefore then some (sampleNode [0x79, 0x79]) else node }

def sampleWorktree : TemporaryGitWorktree := .acquired [0x73] [0x77] "b" sampleDigest 1

def preparedWorktree : TemporaryGitWorktree := { sampleWorktree with preparedMutationId := some 2 }

def sampleReplace : PreparedUtf8FileReplace where
  receipt := ⟨2, 1, samplePath, ⟨1, sampleDigest⟩, ⟨1, sampleDigest⟩⟩
  replacement := [0x7a]
  unixMode := 0o644
  preimageIdentity := sampleIdentity

def sampleRequest : Utf8FileReplaceRequest := ⟨samplePath, sampleDigest, "z", 1⟩

/-- A replacement is prepared and executed, and executing it again is refused. -/
def sampleCalls : List LaneCall := [
  .prepare sampleRequest (.ok (sampleNode [0x79])) 2,
  .execute sampleReplace quietSurroundings (.before (some (sampleNode [0x79])) none),
  .execute sampleReplace quietSurroundings (.before (some (sampleNode [0x7a])) none)]

theorem sampleCalls_log : ((Lane.mk sampleWorktree []).run (fun _ => sampleDigest) sampleCalls).log =
    [.prepared 2, .executed 2 false] := by
  decide

/-- A target that someone else writes to is not what it was, although the call does not own up to a change. -/
theorem disturbed_target : ∃ worktree' after,
    preparedWorktree.executeIn (fun _ => sampleDigest) sampleReplace disturbingSurroundings
      (.before (some (sampleNode [0x79])) none) = (.error .nodeChanged, worktree', after) ∧
    FileReplaceError.nodeChanged.mayHaveMutated = false ∧
    after.target ≠ some (sampleNode [0x79]) := by
  refine ⟨sampleWorktree, ⟨some (sampleNode [0x79, 0x79]), none, some (sampleNode [0x79, 0x79]),
    none⟩, ?_, rfl, ?_⟩
  · rfl
  · decide

theorem replacement_atomic_sample :
    (∃ result after, preparedWorktree.executeIn (fun _ => sampleDigest) sampleReplace
      quietSurroundings (.before (some (sampleNode [0x79])) none) =
        (.ok result, sampleWorktree, after) ∧
      Replaced (fun _ => sampleDigest) quietSurroundings sampleReplace after) ∧
    ((executions ((Lane.mk sampleWorktree []).run (fun _ => sampleDigest) sampleCalls).log).map
      Prod.fst).Nodup := by
  obtain ⟨_, hok, hlane⟩ := replacement_atomic fun _ => sampleDigest
  have hrun : preparedWorktree.executeIn (fun _ => sampleDigest) sampleReplace quietSurroundings
      (.before (some (sampleNode [0x79])) none) =
      (.ok ⟨2, 1, samplePath, ⟨1, sampleDigest⟩, ⟨1, sampleDigest⟩, true⟩, sampleWorktree,
        ⟨some (sampleNode [0x7a]), none, some (sampleNode [0x79]),
          some (some (sampleNode [0x79]))⟩) := rfl
  refine ⟨⟨_, _, hrun, hok _ _ _ _ _ _ _ _ hrun⟩, ?_⟩
  refine (hlane sampleWorktree sampleCalls rfl rfl ?_).2.1
  rw [sampleCalls_log]
  decide

end Atomicity

end BirdCode.WriteLane
