import BirdCode.WriteLane.SingleWriteHistory

/-! Every exit of the two calls on a lane keeps what holds of it. -/
namespace BirdCode.WriteLane

open Lib Lib.Command Store Tooling

variable {sha256 : Bytes → Sha256Digest} {encoding : Encoding} {grant : ExactReplaceUtf8FileGrant}
  {slots : Option Uuid → Prop} {lane : WorktreeWriteLane} {P : WorktreeWriteLane → Prop}

section Steps

variable {A : Type} {Q : A → WorktreeWriteLane → Prop}
  {R : WorktreeWriteLaneError → WorktreeWriteLane → Prop}

theorem retain_meets {record : WorktreeWriteLaneRecord} {artifacts : List RetainedArtifact}
    {journal : Except WorktreeWriteLaneJournalError EventId}
    {Q : EventId → WorktreeWriteLane → Prop}
    (hok : ∀ eventId lane, P lane →
      Q eventId { lane with history := lane.history ++ [.acknowledged eventId record] })
    (herror : ∀ error lane, P lane → R error lane) :
    Meets P (retain sha256 record artifacts journal) Q R := by
  refine .perform ?_ ?_
  · intro lane eventId after hP hrun
    split at hrun
    · cases hrun
    · split at hrun
      · cases hrun
      · cases hrun
        exact hok eventId lane hP
  · intro lane error after hP hrun
    split at hrun
    · cases hrun
      exact herror _ lane hP
    · split at hrun
      · cases hrun
        exact herror _ lane hP
      · cases hrun

theorem retainJson_meets {mediaType : String} {encoded : Option Bytes}
    (herror : ∀ lane, P lane → encoded = none → R .encoding lane) :
    Meets P (.observe fun _ => retainJson sha256 mediaType encoded) (fun _ => P) R := by
  refine .observe (fun _ _ hP _ => hP) ?_
  intro lane error hP hread
  cases encoded with
  | some bytes => cases hread
  | none =>
    cases hread
    exact herror lane hP rfl

theorem reconciling_meets {command : LaneCommand A}
    (h : Meets P command Q fun _ => Careful sha256 encoding grant) :
    Meets P (reconciling command) Q fun _ => Kept sha256 encoding grant slots :=
  h.closing fun _ _ hcareful => hcareful.reconciled

theorem checking_meets {read : WorktreeWriteLane → Except WorktreeWriteLaneError A}
    (hP : ∀ lane, P lane → Careful sha256 encoding grant lane)
    (hok : ∀ lane a, P lane → read lane = .ok a → Q a lane) :
    Meets P (reconciling (.observe read)) Q fun _ => Kept sha256 encoding grant slots :=
  reconciling_meets (.observe hok fun lane _ hlane _ => hP lane hlane)

theorem reconcilingGit_meets {read : WorktreeWriteLane → Except TemporaryGitWorktreeError A}
    (hP : ∀ lane, P lane → Careful sha256 encoding grant lane)
    (hok : ∀ lane a, P lane → read lane = .ok a → Q a lane) :
    Meets P (reconcilingGit read) Q fun _ => Kept sha256 encoding grant slots := by
  have hread : Meets P (.observe fun lane => (read lane).mapError fun error =>
      WorktreeWriteLaneError.reconciliationRequiredBy (.inr error)) Q
      (fun _ => Careful sha256 encoding grant) :=
    .observe (fun lane a hlane hread => hok lane a hlane (mapError_eq_ok.mp hread))
      fun lane _ hlane _ => hP lane hlane
  exact hread.closing fun _ _ hcareful => hcareful.reconciled

end Steps

section Execution

variable {origin : WorktreeWriteOrigin} {prepared : PreparedUtf8FileReplace}
  {content preparedArtifact : RetainedArtifact} {eventId : EventId}

/-- A ready lane whose worktree holds the replacement that was just prepared. -/
structure Reserved (grant : ExactReplaceUtf8FileGrant) (prepared : PreparedUtf8FileReplace)
    (lane : WorktreeWriteLane) : Prop where
  granted : lane.grant = grant
  state : lane.state = .ready
  history : lane.history = []
  slot : lane.worktree.preparedMutationId = some prepared.operationId

/-- The preparation is the last thing that was acknowledged. -/
structure PreparedLast (grant : ExactReplaceUtf8FileGrant) (prepared : PreparedUtf8FileReplace)
    (content : RetainedArtifact) (eventId : EventId) (lane : WorktreeWriteLane) : Prop where
  retained : ∃ eventId origin materialization source worktreePath receipt,
    (eventId, .fileReplacePrepared origin grant materialization source worktreePath receipt
      content.artifact) ∈ acknowledgements lane.history
  last : ∃ origin materialization source worktreePath,
    (acknowledgements lane.history).getLast? = some (eventId, .fileReplacePrepared origin grant
      materialization source worktreePath prepared.receipt content.artifact)

/-- Before the effect. -/
structure BeforeEffect (sha256 : Bytes → Sha256Digest) (encoding : Encoding)
    (grant : ExactReplaceUtf8FileGrant) (prepared : PreparedUtf8FileReplace)
    (content : RetainedArtifact) (eventId : EventId) (lane : WorktreeWriteLane) : Prop
    extends Careful sha256 encoding grant lane,
      PreparedLast grant prepared content eventId lane where
  unexecuted : ∀ step ∈ lane.history, step.isExecuted = false

/-- The effect has started. -/
structure Effected (sha256 : Bytes → Sha256Digest) (encoding : Encoding)
    (grant : ExactReplaceUtf8FileGrant) (prepared : PreparedUtf8FileReplace)
    (content : RetainedArtifact) (eventId : EventId) (lane : WorktreeWriteLane) : Prop
    extends Careful sha256 encoding grant lane,
      PreparedLast grant prepared content eventId lane where
  started : ∃ step ∈ lane.history, step.isExecuted = true

theorem Reserved.beforeEffect {materialization : GitBaselineMaterialization}
    {source worktreePath : PathBuf} (h : Reserved grant prepared lane) :
    BeforeEffect sha256 encoding grant prepared content eventId
      { lane with history := lane.history ++ [.acknowledged eventId
        (.fileReplacePrepared origin grant materialization source worktreePath prepared.receipt
          content.artifact)] } := by
  rw [h.history]
  refine ⟨⟨h.granted, ?_⟩, ⟨?_, ?_⟩, ?_⟩
  · have hnothing : Stepwise (Allowed sha256 encoding grant) [] := by
      intro before step after heq
      simp at heq
    exact hnothing.append trivial
  · exact ⟨_, _, _, _, _, _, List.mem_singleton_self _⟩
  · exact ⟨_, _, _, _, rfl⟩
  · intro step hstep
    obtain rfl := List.mem_singleton.mp hstep
    rfl

/-- A replacement that the journal does not acknowledge leaves nothing reserved. -/
theorem acknowledgePrepared_meets {journal : Except WorktreeWriteLaneJournalError EventId}
    (hslots : slots none) :
    Meets (Reserved grant prepared)
      (acknowledgePrepared sha256 origin prepared content preparedArtifact journal)
      (fun eventId => BeforeEffect sha256 encoding grant prepared content eventId)
      (fun _ => Kept sha256 encoding grant slots) := by
  refine .bind (M := fun seen lane => seen.grant = grant ∧ Reserved grant prepared lane)
    (.observe ?_ ?_) fun seen => ?_
  · intro lane seen hreserved hseen
    cases hseen
    exact ⟨hreserved.granted, hreserved⟩
  · intro lane error _ hread
    cases hread
  rintro lane ⟨rfl, hlane⟩
  have hretain : Meets (Reserved seen.grant prepared)
      (retain sha256 (.fileReplacePrepared origin seen.grant seen.materialization
        seen.worktree.sourceRepository seen.worktree.path prepared.receipt content.artifact)
        [content, preparedArtifact] journal)
      (fun eventId => BeforeEffect sha256 encoding seen.grant prepared content eventId)
      (fun _ => Reserved seen.grant prepared) :=
    retain_meets (fun _ _ hreserved => hreserved.beforeEffect) fun _ _ h => h
  refine hretain.tryCatch (fun error => ?_) lane hlane
  have hcancel : Meets (Reserved seen.grant prepared) (cancel prepared)
      (fun _ => Kept sha256 encoding seen.grant slots) (fun _ _ => False) := by
    refine .perform ?_ ?_
    · intro lane _ after hreserved hrun
      simp only [TemporaryGitWorktree.cancelPreparedUtf8FileReplace,
        if_pos hreserved.slot] at hrun
      cases hrun
      exact .ofReady hreserved.granted hreserved.history hreserved.state hslots
    · intro lane error' after hreserved hrun
      simp only [TemporaryGitWorktree.cancelPreparedUtf8FileReplace,
        if_pos hreserved.slot] at hrun
      cases hrun
  refine .bind (hcancel.tryCatch fun error' lane hfalse => hfalse.elim) fun _ => .throw fun _ h => h

theorem BeforeEffect.executed (h : BeforeEffect sha256 encoding grant prepared content eventId lane)
    {worktree : TemporaryGitWorktree} :
    Effected sha256 encoding grant prepared content eventId
      { lane with
        worktree
        history := lane.history ++ [.executed prepared.receipt] } := by
  have hsame : acknowledgements (lane.history ++ [.executed prepared.receipt]) =
      acknowledgements lane.history := by
    rw [acknowledgements_append]
    exact List.append_nil _
  obtain ⟨origin, materialization, source, worktreePath, hlast⟩ := h.last
  refine ⟨⟨h.granted, h.allowed.append ?_⟩, ⟨?_, ?_⟩, ?_⟩
  · exact ⟨h.unexecuted, _, _, _, _, _, _, hlast⟩
  · rw [hsame]
    exact h.retained
  · rw [hsame]
    exact ⟨_, _, _, _, hlast⟩
  · exact ⟨_, List.mem_append_right _ (List.mem_singleton_self _), rfl⟩

theorem Effected.unknown (h : Effected sha256 encoding grant prepared content eventId lane)
    {unknownId : EventId} {operation : Option MutationIoOperation} {rawOsError : Option Int32}
    {evidence : ArtifactRef} : Careful sha256 encoding grant
      { lane with history := lane.history ++ [.acknowledged unknownId (.fileReplaceOutcomeUnknown
        origin.binding origin.toolCallId eventId operation rawOsError evidence)] } := by
  obtain ⟨_, _, _, _, hlast⟩ := h.last
  exact h.toCareful.acknowledged hlast rfl

/-- What is kept of an unknown outcome is its record or nothing. -/
theorem retainUnknown_meets {error : FileReplaceError}
    {journal : Except WorktreeWriteLaneJournalError EventId} {state : WorktreeWriteLaneState}
    {R : WorktreeWriteLaneError → WorktreeWriteLane → Prop} :
    Meets (fun lane => lane.state = state ∧
        Effected sha256 encoding grant prepared content eventId lane)
      (retainUnknown sha256 encoding origin eventId error journal)
      (fun _ lane => lane.state = state ∧ Careful sha256 encoding grant lane) R := by
  refine Meets.tryCatch ?_ fun error' => .pure fun _ h => h
  refine .bind (retainJson_meets fun lane hlane _ => ⟨hlane.1, hlane.2.toCareful⟩)
    fun evidence => ?_
  refine .bind (M := fun _ lane => lane.state = state ∧ Careful sha256 encoding grant lane)
    (retain_meets ?_ ?_) fun _ => .pure fun _ h => h
  · rintro unknownId lane ⟨hstate, hlane⟩
    exact ⟨hstate, hlane.unknown⟩
  · rintro error' lane ⟨hstate, hlane⟩
    exact ⟨hstate, hlane.toCareful⟩

theorem executePrepared_path {worktree : TemporaryGitWorktree} {answers : ReplaceAnswers}
    {mutation : Utf8FileReplaceResult}
    (h : (worktree.executePreparedUtf8FileReplace sha256 prepared answers).1 = .ok mutation) :
    mutation.path = prepared.receipt.path := by
  unfold TemporaryGitWorktree.executePreparedUtf8FileReplace at h
  split at h
  · cases h
  · exact (executeUtf8FileReplace_ok h).1

/-- The effect of one replacement: it returns where just that replacement was executed. -/
theorem effect_meets {answers : ExecuteAnswers} :
    Meets (BeforeEffect sha256 encoding grant prepared content eventId)
      (effect sha256 encoding origin prepared eventId answers)
      (fun mutation lane => mutation.path = prepared.receipt.path ∧
        Effected sha256 encoding grant prepared content eventId lane)
      (fun _ => Kept sha256 encoding grant slots) := by
  refine .bind (M := fun _ => BeforeEffect sha256 encoding grant prepared content eventId)
    (.update fun lane h => ⟨⟨h.granted, h.allowed⟩, ⟨h.retained, h.last⟩, h.unexecuted⟩) fun _ => ?_
  refine .bind (M := fun outcome lane =>
    (∀ mutation, outcome = .ok mutation → mutation.path = prepared.receipt.path) ∧
      Effected sha256 encoding grant prepared content eventId lane) (.perform ?_ ?_)
    fun outcome => ?_
  · intro lane outcome after hbefore hrun
    cases hrun
    refine ⟨?_, hbefore.executed⟩
    intro mutation hok
    exact executePrepared_path hok
  · intro lane error after _ hrun
    cases hrun
  cases outcome with
  | ok mutation => exact .pure fun lane h => ⟨h.1 mutation rfl, h.2⟩
  | error error =>
    refine .bind (M := fun _ lane => lane.state = .reconciliationRequired ∧
      Effected sha256 encoding grant prepared content eventId lane) (.update ?_) fun _ => ?_
    · rintro lane ⟨_, h⟩
      exact ⟨rfl, ⟨h.granted, h.allowed⟩, ⟨h.retained, h.last⟩, h.started⟩
    have hthrow : Meets (fun lane => lane.state = .reconciliationRequired ∧
        Careful sha256 encoding grant lane)
        (throw (.reconciliationRequiredBy (.inl error)) : LaneCommand Utf8FileReplaceResult)
        (fun mutation lane => mutation.path = prepared.receipt.path ∧
          Effected sha256 encoding grant prepared content eventId lane)
        (fun _ => Kept sha256 encoding grant slots) := by
      refine .throw ?_
      rintro lane ⟨hstate, hcareful⟩
      have hsame : { lane with state := .reconciliationRequired } = lane := by
        rw [← hstate]
      rw [← hsame]
      exact hcareful.reconciled
    dsimp only
    split
    · exact .bind retainUnknown_meets fun _ => hthrow
    · exact hthrow.weaken (fun _ h => ⟨h.1, h.2.toCareful⟩) (fun _ _ h => h) fun _ _ h => h

/-- The outcome is the last thing that was acknowledged. -/
structure Replacement (sha256 : Bytes → Sha256Digest) (encoding : Encoding)
    (grant : ExactReplaceUtf8FileGrant) (content : RetainedArtifact)
    (mutation : Utf8FileReplaceResult) (replaceEventId : EventId) (lane : WorktreeWriteLane) : Prop
    extends Careful sha256 encoding grant lane where
  started : ∃ step ∈ lane.history, step.isExecuted = true
  path : mutation.path = grant.path
  retained : ∃ eventId origin materialization source worktreePath receipt,
    (eventId, .fileReplacePrepared origin grant materialization source worktreePath receipt
      content.artifact) ∈ acknowledgements lane.history
  last : ∃ binding toolCallId preparedEventId, (acknowledgements lane.history).getLast? =
    some (replaceEventId, .fileReplaceObserved binding toolCallId preparedEventId mutation)

theorem Effected.observed (h : Effected sha256 encoding grant prepared content eventId lane)
    {mutation : Utf8FileReplaceResult} (hpath : mutation.path = grant.path)
    {replaceEventId : EventId} : Replacement sha256 encoding grant content mutation replaceEventId
      { lane with history := lane.history ++ [.acknowledged replaceEventId (.fileReplaceObserved
        origin.binding origin.toolCallId eventId mutation)] } := by
  obtain ⟨step, hstep, hexecuted⟩ := h.started
  obtain ⟨_, _, _, _, hlast⟩ := h.last
  refine ⟨h.toCareful.acknowledged hlast rfl, ⟨step, List.mem_append_left _ hstep, hexecuted⟩,
    hpath, ?_, ?_⟩
  all_goals rw [acknowledgements_acknowledged]
  · obtain ⟨_, _, _, _, _, _, hmem⟩ := h.retained
    exact ⟨_, _, _, _, _, _, List.mem_append_left _ hmem⟩
  · exact ⟨_, _, _, List.getLast?_concat⟩

theorem acknowledgeObserved_meets {mutation : Utf8FileReplaceResult}
    {journal : Except WorktreeWriteLaneJournalError EventId} (hpath : mutation.path = grant.path) :
    Meets (Effected sha256 encoding grant prepared content eventId)
      (acknowledgeObserved sha256 encoding origin eventId mutation journal)
      (fun replaceEventId => Replacement sha256 encoding grant content mutation replaceEventId)
      (fun _ => Kept sha256 encoding grant slots) := by
  refine .bind (reconciling_meets (retainJson_meets fun _ h _ => h.toCareful)) fun artifact => ?_
  exact reconciling_meets (retain_meets (fun _ _ h => h.observed hpath) fun _ _ h => h.toCareful)

/-- The diff that is observed is one of the path of the write. -/
theorem observeDiff_meets {mutation : Utf8FileReplaceResult} {answers : ExecuteAnswers}
    (hP : ∀ lane, P lane → Careful sha256 encoding grant lane) :
    Meets P (observeDiff sha256 mutation answers)
      (fun diff lane => diff.changedPaths = [mutation.path] ∧ P lane)
      (fun _ => Kept sha256 encoding grant slots) := by
  have hcheck {condition : Prop} [Decidable condition] {error : WorktreeWriteLaneError}
      {P : WorktreeWriteLane → Prop} (hP : ∀ lane, P lane → Careful sha256 encoding grant lane) :
      Meets P (reconciling (.observe fun _ => ensure condition error))
        (fun _ lane => condition ∧ P lane) (fun _ => Kept sha256 encoding grant slots) :=
    checking_meets hP fun _ _ hlane hread => ⟨ensure_eq_ok.mp hread, hlane⟩
  refine .bind (M := fun _ => P) (reconcilingGit_meets hP fun _ _ h _ => h) fun diff => ?_
  refine .bind (hcheck hP) fun _ => ?_
  refine .bind (hcheck fun lane h => hP lane h.2) fun _ => ?_
  refine .bind (M := fun _ lane => diff.changedPaths = [mutation.path] ∧ P lane)
    (reconcilingGit_meets (fun lane h => hP lane h.2.2) ?_) fun additional => ?_
  · rintro lane _ ⟨⟨hlength, hhead⟩, _, hlane⟩ _
    obtain ⟨path, hpaths⟩ := List.length_eq_one_iff.mp hlength
    rw [hpaths] at hhead ⊢
    exact ⟨congrArg (fun path => [path]) (Option.some.inj hhead), hlane⟩
  refine .bind (hcheck fun lane h => hP lane h.2) fun _ => .pure fun _ h => h.2

theorem Replacement.wrote {mutation : Utf8FileReplaceResult} {replaceEventId diffEventId : EventId}
    {baseCommit : String} {diffArtifact : RetainedArtifact}
    (h : Replacement sha256 encoding grant content mutation replaceEventId lane) :
    Careful sha256 encoding grant { lane with
        history := lane.history ++ [.acknowledged diffEventId (.gitDiffObserved origin.binding
          origin.toolCallId replaceEventId baseCommit [grant.path] diffArtifact.artifact)] } ∧
      Wrote grant ⟨origin, mutation, replaceEventId, diffEventId, content, diffArtifact⟩
        (lane.history ++ [.acknowledged diffEventId (.gitDiffObserved origin.binding
          origin.toolCallId replaceEventId baseCommit [grant.path] diffArtifact.artifact)]) := by
  obtain ⟨step, hstep, hexecuted⟩ := h.started
  obtain ⟨_, _, _, hlast⟩ := h.last
  refine ⟨h.toCareful.acknowledged hlast rfl, ⟨step, List.mem_append_left _ hstep, hexecuted⟩,
    h.path, ?_, ?_, ?_, ?_⟩
  all_goals rw [acknowledgements_acknowledged]
  · obtain ⟨_, _, _, _, _, _, hmem⟩ := h.retained
    exact ⟨_, _, _, _, _, _, List.mem_append_left _ hmem⟩
  · exact ⟨_, _, _, List.mem_append_left _ (List.mem_of_getLast? hlast)⟩
  · exact ⟨_, _, _, List.mem_append_right _ (List.mem_singleton_self _)⟩
  · exact ⟨_, List.getLast?_concat, rfl⟩

end Execution

section Calls

variable (sha256 encoding) in
/-- A call that prepares a replacement whose receipt is not encoded. -/
def Strands (lane : WorktreeWriteLane) : SingleWriteCall → Prop
  | .executeOnce origin request answers => lane.mayWrite origin request answers = .ok () ∧
    ∃ prepared, (lane.prepareReplacement sha256 request answers).1 = .ok prepared ∧
      encoding.prepared prepared.receipt = none
  | .releaseAfterCandidatePublished .. => False

theorem mayWrite_ok {origin : WorktreeWriteOrigin} {request : ExactReplaceUtf8FileRequest}
    {answers : ExecuteAnswers} (h : lane.mayWrite origin request answers = .ok ()) :
    lane.state = .ready ∧ request.path = lane.grant.path := by
  simp only [WorktreeWriteLane.mayWrite, validateAuthority, bind_eq_ok, ensure_eq_ok] at h
  obtain ⟨_, hphase, _, ⟨_, hauthority, _⟩, _⟩ := h
  refine ⟨?_, hauthority.2.2.2.2.2.1⟩
  cases hstate : lane.state with
  | ready => rfl
  | effectInFlight => simp [hstate, WorktreeWriteLaneState.phase] at hphase
  | written => simp [hstate, WorktreeWriteLaneState.phase] at hphase
  | reconciliationRequired => simp [hstate, WorktreeWriteLaneState.phase] at hphase
  | cleanupInFlight => simp [hstate, WorktreeWriteLaneState.phase] at hphase
  | released => simp [hstate, WorktreeWriteLaneState.phase] at hphase

/-- The receipt of a prepared replacement names the path of the request. -/
theorem prepareUtf8FileReplace_path {worktree worktree' : TemporaryGitWorktree}
    {request : Utf8FileReplaceRequest} {found : Except FileReplaceError FileNode}
    {operationId : Uuid} {prepared : PreparedUtf8FileReplace}
    (h : worktree.prepareUtf8FileReplace sha256 request found operationId =
      (.ok prepared, worktree')) : prepared.receipt.path = request.path := by
  unfold TemporaryGitWorktree.prepareUtf8FileReplace at h
  dsimp only at h
  split at h
  · cases h
  · next hresult =>
    cases h
    simp only [bind_eq_ok] at hresult
    obtain ⟨_, _, _, _, _, _, hprepared⟩ := hresult
    simp only [WriteLane.prepareUtf8FileReplace, bind_eq_ok] at hprepared
    obtain ⟨_, _, _, _, _, _, _, _, _, _, _, _, hok⟩ := hprepared
    cases hok
    rfl

theorem prepareReplacement_ok {request : ExactReplaceUtf8FileRequest} {answers : ExecuteAnswers}
    {prepared : PreparedUtf8FileReplace}
    (h : (lane.prepareReplacement sha256 request answers).1 = .ok prepared) :
    lane.worktree.preparedMutationId = none ∧ prepared.receipt.path = request.path ∧
      (lane.prepareReplacement sha256 request answers).2 =
        { lane.worktree with preparedMutationId := some prepared.operationId } := by
  have hprepared : lane.worktree.prepareUtf8FileReplace sha256 (lane.replacement request)
      answers.preimage answers.operationId = (.ok prepared,
        (lane.prepareReplacement sha256 request answers).2) := Prod.ext h rfl
  obtain ⟨hslot, hworktree⟩ := prepareUtf8FileReplace_slot hprepared
  exact ⟨hslot, prepareUtf8FileReplace_path hprepared, hworktree⟩

theorem prepareReplacement_error {request : ExactReplaceUtf8FileRequest} {answers : ExecuteAnswers}
    {f : FileReplaceError → WorktreeWriteLaneError} {error : WorktreeWriteLaneError}
    (h : (lane.prepareReplacement sha256 request answers).1.mapError f = .error error) :
    (lane.prepareReplacement sha256 request answers).2 = lane.worktree := by
  cases hresult : (lane.prepareReplacement sha256 request answers).1 with
  | ok prepared =>
    rw [hresult] at h
    cases h
  | error cause =>
    exact prepareUtf8FileReplace_error (Prod.ext hresult rfl)

/-- What a call on a lane may leave in the slot of its worktree. -/
theorem executeOnce_meets {origin : WorktreeWriteOrigin} {request : ExactReplaceUtf8FileRequest}
    {answers : ExecuteAnswers} :
    Meets (fun lane => Kept sha256 encoding grant slots lane ∧
        ∀ prepared, lane.mayWrite origin request answers = .ok () →
          (lane.prepareReplacement sha256 request answers).1 = .ok prepared →
          encoding.prepared prepared.receipt = none → slots (some prepared.operationId))
      (executeOnce sha256 encoding origin request answers)
      (fun _ => Kept sha256 encoding grant slots) (fun _ => Kept sha256 encoding grant slots) := by
  refine .bind (M := fun _ lane => (Kept sha256 encoding grant slots lane ∧
      ∀ prepared, lane.mayWrite origin request answers = .ok () →
        (lane.prepareReplacement sha256 request answers).1 = .ok prepared →
        encoding.prepared prepared.receipt = none → slots (some prepared.operationId)) ∧
      lane.mayWrite origin request answers = .ok ()) (.observe ?_ ?_) fun _ => ?_
  · intro lane _ hlane hmay
    exact ⟨hlane, hmay⟩
  · intro lane error hlane _
    exact hlane.1
  refine .bind (M := fun prepared lane => (slots none ∧ prepared.receipt.path = grant.path ∧
      (encoding.prepared prepared.receipt = none → slots (some prepared.operationId))) ∧
      Reserved grant prepared lane) (.perform ?_ ?_) fun prepared => .given ?_
  · rintro lane prepared after ⟨⟨hkept, hstrands⟩, hmay⟩ hrun
    obtain ⟨hok, rfl⟩ := Prod.mk.inj hrun
    rw [mapError_eq_ok] at hok
    obtain ⟨hready, hpath⟩ := mayWrite_ok hmay
    obtain ⟨hslot, hreceipt, hworktree⟩ := prepareReplacement_ok hok
    obtain ⟨hhistory, hslots⟩ := hkept.ready hready
    rw [hslot] at hslots
    refine ⟨⟨hslots, ?_, hstrands prepared hmay hok⟩, hkept.granted, hready, hhistory, ?_⟩
    · rw [hreceipt, hpath, hkept.granted]
    · simp only [hworktree]
  · rintro lane error after ⟨⟨hkept, -⟩, -⟩ hrun
    obtain ⟨herror, rfl⟩ := Prod.mk.inj hrun
    rw [prepareReplacement_error herror]
    exact hkept
  rintro ⟨hnone, hpath, hstranded⟩
  refine .bind (retainJson_meets ?_) fun preparedArtifact => ?_
  · intro lane hreserved hencoded
    refine .ofReady hreserved.granted hreserved.history hreserved.state ?_
    rw [hreserved.slot]
    exact hstranded hencoded
  refine .bind (acknowledgePrepared_meets hnone) fun preparedEventId => ?_
  refine .bind effect_meets fun mutation => .given fun hmutation => ?_
  refine .bind (acknowledgeObserved_meets (hmutation.trans hpath)) fun replaceEventId => ?_
  refine .bind (observeDiff_meets fun _ h => h.toCareful) fun diff => .given fun hpaths => ?_
  rw [hpaths, hmutation, hpath]
  refine .bind (M := fun diffEventId lane => Careful sha256 encoding grant lane ∧
      Wrote grant ⟨origin, mutation, replaceEventId, diffEventId, _, _⟩ lane.history)
    (reconciling_meets (retain_meets (fun _ _ h => h.wrote) fun _ _ h => h.toCareful))
    fun diffEventId => ?_
  refine .bind (checking_meets (fun _ h => h.1) fun _ _ h _ => h) fun _ => ?_
  refine .bind (.update fun _ h => .ofWritten h.1 h.2) fun _ => .pure fun _ h => h

end Calls

section Release

variable {publication : RepositoryCandidatePublication} {observed : ObservedSingleWrite}
  {binding : ChildExecutionBinding} {eventId : EventId}

/-- The publication is a valid one of just the write that was observed. -/
structure Describes (sha256 : Bytes → Sha256Digest) (encoding : Encoding)
    (grant : ExactReplaceUtf8FileGrant) (publication : RepositoryCandidatePublication)
    (observed : ObservedSingleWrite) : Prop where
  valid : publication.isValid sha256 encoding = true
  path : publication.document.change.path = grant.path
  preimage : publication.document.change.preimage = observed.mutation.preimage
  postimage : publication.document.change.postimage = observed.mutation.postimage
  postimageArtifact : publication.document.change.postimageArtifact =
    observed.postimageArtifact.artifact
  diffArtifact : publication.document.change.diffArtifact = observed.diffArtifact.artifact
  replaceEventId : publication.document.change.replaceEventId = observed.replaceEventId
  diffEventId : publication.document.change.diffEventId = observed.diffEventId

theorem mayRelease_ok (h : lane.mayRelease sha256 encoding binding publication = .ok observed) :
    lane.state = .written observed ∧ Describes sha256 encoding lane.grant publication observed := by
  unfold WorktreeWriteLane.mayRelease at h
  split at h
  case h_2 => cases h
  case h_1 seen hstate =>
    simp only [validateCandidatePublication, bind_eq_ok, ensure_eq_ok] at h
    obtain ⟨_, _, _, ⟨_, hvalid, hbound⟩, hseen⟩ := h
    cases hseen
    obtain ⟨_, _, _, _, _, _, hpath, _, hpreimage, hpostimage, hpostimageArtifact, hdiffArtifact,
      hreplace, hdiff⟩ := hbound
    exact ⟨hstate, hvalid, hpath, hpreimage, hpostimage, hpostimageArtifact, hdiffArtifact,
      hreplace, hdiff⟩

/-- The cleanup is the last thing that was acknowledged, behind the publication of the write. -/
structure Cleaning (sha256 : Bytes → Sha256Digest) (encoding : Encoding)
    (grant : ExactReplaceUtf8FileGrant) (eventId : EventId) (lane : WorktreeWriteLane) : Prop
    extends Careful sha256 encoding grant lane where
  started : ∃ step ∈ lane.history, step.isExecuted = true
  last : ∃ binding document receipt diffEventId worktreeId,
    (acknowledgements lane.history).getLast? = some (eventId, .worktreeCleanupPrepared binding
      document receipt diffEventId worktreeId)
  published : ∃ publication,
    PublishedWrite sha256 encoding grant (acknowledgements lane.history) publication

theorem Wrote.published {history : List LaneStep} (h : Wrote grant observed history)
    (hdescribes : Describes sha256 encoding grant publication observed) {worktreeId : Uuid} :
    PublishedWrite sha256 encoding grant (acknowledgements (history ++ [.acknowledged eventId
      (.worktreeCleanupPrepared binding publication.document publication.receiptArtifact.artifact
        observed.diffEventId worktreeId)])) publication := by
  rw [acknowledgements_acknowledged]
  refine ⟨hdescribes.valid, ?_, hdescribes.path, ?_, ?_, ?_⟩
  · refine ⟨eventId, binding, worktreeId, List.mem_append_right _ ?_⟩
    rw [hdescribes.diffEventId]
    exact List.mem_singleton_self _
  · obtain ⟨_, _, _, _, _, _, hmem⟩ := h.content
    rw [hdescribes.postimageArtifact]
    exact ⟨_, _, _, _, _, _, List.mem_append_left _ hmem⟩
  · obtain ⟨_, _, _, hmem⟩ := h.replaced
    rw [hdescribes.replaceEventId]
    exact ⟨_, _, _, _, List.mem_append_left _ hmem, h.path, hdescribes.preimage.symm,
      hdescribes.postimage.symm⟩
  · obtain ⟨_, _, _, hmem⟩ := h.limited
    rw [hdescribes.diffEventId, hdescribes.replaceEventId, hdescribes.diffArtifact]
    exact ⟨_, _, _, List.mem_append_left _ hmem⟩

/-- A lane that waits for its release, with a publication of its write. -/
structure Publishable (sha256 : Bytes → Sha256Digest) (encoding : Encoding)
    (grant : ExactReplaceUtf8FileGrant) (publication : RepositoryCandidatePublication)
    (observed : ObservedSingleWrite) (lane : WorktreeWriteLane) : Prop
    extends Careful sha256 encoding grant lane where
  state : lane.state = .written observed
  wrote : Wrote grant observed lane.history
  described : Describes sha256 encoding grant publication observed

theorem Publishable.kept (h : Publishable sha256 encoding grant publication observed lane) :
    Kept sha256 encoding grant slots lane := by
  have hsame : { lane with state := .written observed } = lane := by
    rw [← h.state]
  rw [← hsame]
  exact .ofWritten h.toCareful h.wrote

theorem Publishable.cleaning (h : Publishable sha256 encoding grant publication observed lane)
    {worktreeId : Uuid} : Cleaning sha256 encoding grant eventId
      { lane with history := lane.history ++ [.acknowledged eventId
        (.worktreeCleanupPrepared binding publication.document publication.receiptArtifact.artifact
          observed.diffEventId worktreeId)] } := by
  obtain ⟨last, hlast, hawaits⟩ := h.wrote.last
  refine ⟨h.toCareful.acknowledged hlast (follows_cleanup hawaits), h.wrote.cleanup.started, ?_,
    ⟨publication, h.wrote.published h.described⟩⟩
  rw [acknowledgements_acknowledged]
  exact ⟨_, _, _, _, _, List.getLast?_concat⟩

theorem Cleaning.removed (h : Cleaning sha256 encoding grant eventId lane)
    {worktree : TemporaryGitWorktree} : Cleaning sha256 encoding grant eventId
      { lane with
        worktree
        history := lane.history ++ [.released] } := by
  have hsame : acknowledgements (lane.history ++ [.released]) = acknowledgements lane.history := by
    rw [acknowledgements_append]
    exact List.append_nil _
  obtain ⟨step, hstep, hexecuted⟩ := h.started
  refine ⟨⟨h.granted, h.allowed.append h.published⟩,
    ⟨step, List.mem_append_left _ hstep, hexecuted⟩, ?_, ?_⟩
  · rw [hsame]
    exact h.last
  · rw [hsame]
    exact h.published

/-- A release is given a lane that may be released, and leaves one that was or has to be reconciled.
-/
theorem releaseAfterCandidatePublished_meets {answers : PublishedAnswers} :
    Meets (Kept sha256 encoding grant slots)
      (releaseAfterCandidatePublished sha256 encoding binding publication answers)
      (fun _ => Kept sha256 encoding grant slots) (fun _ => Kept sha256 encoding grant slots) := by
  refine .bind (M := fun expected => Publishable sha256 encoding grant publication expected)
    (.observe ?_ fun lane _ hkept _ => hkept) fun expected => ?_
  · intro lane expected hkept hread
    obtain ⟨hstate, hdescribes⟩ := mayRelease_ok hread
    rw [hkept.granted] at hdescribes
    exact ⟨hkept.toCareful, hstate, hkept.written expected hstate, hdescribes⟩
  refine .bind (checking_meets (fun _ h => h.toCareful) fun _ _ h _ => h) fun _ => ?_
  refine .bind (M := fun _ => Publishable sha256 encoding grant publication expected)
    (.observe (fun _ _ h _ => h) fun _ _ _ hread => nomatch hread) fun seen => ?_
  refine .bind (retain_meets (fun _ _ h => h.cleaning) fun _ _ h => h.kept) fun eventId => ?_
  refine .bind (checking_meets (fun _ h => h.toCareful) fun _ _ h _ => h) fun _ => ?_
  refine .bind (M := fun _ => Cleaning sha256 encoding grant eventId)
    (.update fun _ h => ⟨⟨h.granted, h.allowed⟩, h.started, h.last, h.published⟩) fun _ => ?_
  have hremove : Meets (Cleaning sha256 encoding grant eventId) (removeWorktree answers.release)
      (fun _ => Cleaning sha256 encoding grant eventId)
      (fun _ => Careful sha256 encoding grant) := by
    refine .perform ?_ ?_
    · intro lane _ after hcleaning hrun
      obtain ⟨-, rfl⟩ := Prod.mk.inj hrun
      exact hcleaning.removed
    · intro lane error after hcleaning hrun
      obtain ⟨-, rfl⟩ := Prod.mk.inj hrun
      exact hcleaning.removed.toCareful
  refine .bind (hremove.closing fun _ _ hcareful => hcareful.reconciled) fun _ => ?_
  refine .bind (M := fun _ lane => Careful sha256 encoding grant lane ∧
    ∃ step ∈ lane.history, step.isExecuted = true) (reconciling_meets
      (retain_meets ?_ fun _ _ h => h.toCareful)) fun observedEventId => ?_
  · intro observedEventId lane hcleaning
    obtain ⟨_, _, _, _, _, hlast⟩ := hcleaning.last
    obtain ⟨step, hstep, hexecuted⟩ := hcleaning.started
    exact ⟨hcleaning.toCareful.acknowledged hlast rfl, step, List.mem_append_left _ hstep,
      hexecuted⟩
  refine .bind (checking_meets (fun _ h => h.1) fun _ _ h _ => h) fun release => ?_
  refine .bind (.update fun lane h => ?_) fun _ => .pure fun _ h => h
  refine ⟨⟨h.1.granted, h.1.allowed⟩, ?_, ?_, fun _ _ => h.2⟩
  · intro hready
    cases hready
  · intro other hwritten
    cases hwritten

end Release

end BirdCode.WriteLane
