import BirdCode.CandidateHead.Registry
import BirdCode.Lib.Run

/-! Everything that one call on the registry can do, and what no call takes back. -/
namespace BirdCode.CandidateHead

open Scheduler Lib

variable {Evidence : Type} {validateFor : ValidateFor Evidence} {s t : RegistryState}
  {authority : RepositoryCandidateTrackAuthority} {expected : Option RepositoryCandidateHeadBinding}
  {subject : VerifiedRepositoryReviewSubject Evidence}
  {selectionId : RepositoryCandidateSelectionId} {track : RepositoryCandidateTrackState}
  {call : Call Evidence} {reply : Reply}

section Calls

theorem authorizedTrack_eq_ok : authorizedTrack s authority = .ok track ↔
    s.tracks[authority.trackId]? = some track ∧ track.secret = authority.secret ∧
      track.targetWorkOrderId = authority.targetWorkOrderId := by
  unfold authorizedTrack
  split
  · next hnone => simp [hnone]
  · next found hfound =>
    split_ifs with hsecret htarget
    · simp only [hfound, Option.some.injEq, false_iff]
      rintro ⟨rfl, h, -⟩
      exact hsecret h
    · simp only [hfound, Option.some.injEq, false_iff]
      rintro ⟨rfl, -, h⟩
      exact htarget h
    · simp only [hfound, Option.some.injEq, Except.ok.injEq]
      constructor
      · rintro rfl
        exact ⟨rfl, not_not.mp hsecret, not_not.mp htarget⟩
      · rintro ⟨rfl, -, -⟩
        rfl

theorem nextGeneration_get {current : Option RepositoryCandidateHeadBinding}
    {generation : RepositoryCandidateGeneration} (h : nextGeneration current = .ok generation) :
    generation.get = (current.map (·.generation.get)).getD 0 + 1 := by
  unfold nextGeneration at h
  split at h
  · cases h
    rfl
  · split at h
    · cases h
    · next hvalue =>
      cases h
      exact checkedAdd_eq_some hvalue

/-- The head that a selection of a derived subject commits. -/
def committedHead (track : RepositoryCandidateTrackState) (trackId : RepositoryCandidateTrackId)
    (generation : RepositoryCandidateGeneration) (derived : RepositoryCandidateSelectionSubject)
    (selectionId : RepositoryCandidateSelectionId) : RepositoryCandidateHeadBinding :=
  bindHead derived trackId generation selectionId (track.current.map (·.selectionId))

/-- Everything that a selection can do. -/
inductive Selects (validateFor : ValidateFor Evidence) (s : RegistryState)
    (authority : RepositoryCandidateTrackAuthority)
    (expected : Option RepositoryCandidateHeadBinding)
    (subject : VerifiedRepositoryReviewSubject Evidence)
    (selectionId : RepositoryCandidateSelectionId) :
    Except RepositoryCandidateHeadError RepositoryCandidateHeadSelectionOutcome → RegistryState →
      Prop
  | failed (error : RepositoryCandidateHeadError) :
      Selects validateFor s authority expected subject selectionId (.error error) s
  | replayed {derived : RepositoryCandidateSelectionSubject}
      {track : RepositoryCandidateTrackState} {recorded : RepositoryCandidateSelectionRecord}
      {current : RepositoryCandidateHeadBinding} (hnonzero : selectionId.uuid ≠ 0)
      (hderive : derive validateFor subject = .ok derived)
      (hauthorized : authorizedTrack s authority = .ok track)
      (hscope : derived.targetWorkOrderId = authority.targetWorkOrderId)
      (hrecorded : s.selections[selectionId]? = some recorded)
      (hrequest : recorded.request = ⟨authority.trackId, expected, derived, selectionId⟩)
      (hcurrent : track.current = some current) :
      Selects validateFor s authority expected subject selectionId
        (.ok (.exactReplay recorded.selected current)) s
  | selected {derived : RepositoryCandidateSelectionSubject}
      {track : RepositoryCandidateTrackState} {generation : RepositoryCandidateGeneration}
      (hnonzero : selectionId.uuid ≠ 0) (hderive : derive validateFor subject = .ok derived)
      (hauthorized : authorizedTrack s authority = .ok track)
      (hscope : derived.targetWorkOrderId = authority.targetWorkOrderId)
      (hunused : s.selections[selectionId]? = none) (hexpected : expected = track.current)
      (hgeneration : nextGeneration track.current = .ok generation) :
      Selects validateFor s authority expected subject selectionId
        (.ok (.selected (committedHead track authority.trackId generation derived selectionId)))
        { tracks := s.tracks.insert authority.trackId { track with
            current := some (committedHead track authority.trackId generation derived selectionId) }
          selections := s.selections.insert selectionId
            ⟨⟨authority.trackId, expected, derived, selectionId⟩,
              committedHead track authority.trackId generation derived selectionId⟩ }

theorem selectSuccessor_cases {result} (h : selectSuccessor validateFor s authority expected subject
    selectionId = (result, t)) :
    Selects validateFor s authority expected subject selectionId result t := by
  unfold selectSuccessor at h
  split at h
  · cases h
    exact .failed _
  next hnonzero =>
  split at h
  · cases h
    exact .failed _
  next derived hderive =>
  split at h
  · cases h
    exact .failed _
  next track hauthorized =>
  have hfound := (authorizedTrack_eq_ok.mp hauthorized).1
  split at h
  · cases h
    exact .failed _
  next hscope =>
  split at h
  · next recorded hrecorded =>
    simp only [replaySelection, hfound, Option.bind_some] at h
    split at h
    · cases h
      exact .failed _
    next hrequest =>
    split at h
    · cases h
      exact .failed _
    · next current hcurrent =>
      cases h
      exact .replayed hnonzero hderive hauthorized (not_not.mp hscope) hrecorded
        (not_not.mp hrequest) hcurrent
  · next hunused =>
    simp only [commitSelection, hfound] at h
    split at h
    · cases h
      exact .failed _
    next hexpected =>
    split at h
    · cases h
      exact .failed _
    · next generation hgeneration =>
      cases h
      exact .selected hnonzero hderive hauthorized (not_not.mp hscope) hunused
        (not_not.mp hexpected) hgeneration

/-- Everything that a call can do. -/
inductive Responds (validateFor : ValidateFor Evidence) (s : RegistryState) :
    Call Evidence → Reply → RegistryState → Prop
  | opened {draws : List (RepositoryCandidateTrackId × Uuid)} {targetWorkOrderId : WorkOrderId}
      {trackId : RepositoryCandidateTrackId} {secret : Uuid} (hfresh : s.tracks[trackId]? = none) :
      Responds validateFor s (.openTrack draws targetWorkOrderId)
        (.opened ⟨trackId, targetWorkOrderId, secret⟩)
        { s with tracks := s.tracks.insert trackId ⟨secret, targetWorkOrderId, none⟩ }
  | read (authority : RepositoryCandidateTrackAuthority) :
      Responds validateFor s (.current authority) (.head (current s authority)) s
  | selects {authority : RepositoryCandidateTrackAuthority}
      {expected : Option RepositoryCandidateHeadBinding}
      {subject : VerifiedRepositoryReviewSubject Evidence}
      {selectionId : RepositoryCandidateSelectionId}
      {result : Except RepositoryCandidateHeadError RepositoryCandidateHeadSelectionOutcome}
      {t : RegistryState}
      (h : Selects validateFor s authority expected subject selectionId result t) :
      Responds validateFor s (.selectSuccessor authority expected subject selectionId)
        (.selection result) t

theorem respond_cases (h : respond validateFor s call = some (reply, t)) :
    Responds validateFor s call reply t := by
  cases call with
  | openTrack draws targetWorkOrderId =>
    simp only [respond, openTrack, Option.map_map, Option.map_eq_some_iff] at h
    obtain ⟨draw, hdraw, heq⟩ := h
    obtain ⟨rfl, rfl⟩ := Prod.mk.inj heq
    have hfresh := Bool.not_eq_true' _ ▸ List.find?_some hdraw
    exact .opened (Std.ExtTreeMap.getElem?_eq_none_of_contains_eq_false hfresh)
  | current authority =>
    obtain ⟨rfl, rfl⟩ := Prod.mk.inj (Option.some.inj h)
    exact .read authority
  | selectSuccessor authority expected subject selectionId =>
    obtain ⟨rfl, rfl⟩ := Prod.mk.inj (Option.some.inj h)
    exact .selects (selectSuccessor_cases rfl)

theorem step_eq_some : step validateFor s call = some t ↔
    ∃ reply, respond validateFor s call = some (reply, t) := by
  rw [step, Option.map_eq_some_iff]
  constructor
  · rintro ⟨⟨reply, _⟩, h, rfl⟩
    exact ⟨reply, h⟩
  · rintro ⟨reply, h⟩
    exact ⟨_, h, rfl⟩

end Calls

section Writes

def Reply.selectedHead? : Reply → Option RepositoryCandidateHeadBinding
  | .selection (.ok (.selected current)) => some current
  | _ => none

/-- The head of a track, if it is open and has one. -/
def headAt (s : RegistryState) (trackId : RepositoryCandidateTrackId) :
    Option RepositoryCandidateHeadBinding :=
  s.tracks[trackId]?.bind (·.current)

theorem current_eq_headAt {head : Option RepositoryCandidateHeadBinding}
    (h : current s authority = .ok head) : head = headAt s authority.trackId := by
  unfold current at h
  cases hauthorized : authorizedTrack s authority with
  | error error => rw [hauthorized] at h; cases h
  | ok track =>
    rw [hauthorized] at h
    obtain rfl := Except.ok.inj h
    rw [headAt, (authorizedTrack_eq_ok.mp hauthorized).1, Option.bind_some]

/-- What a call writes, as far as heads and records can tell. -/
inductive Writes (s : RegistryState) (reply : Reply) (t : RegistryState) : Prop
  | nothing (hreply : reply.selectedHead? = none) (hselections : t.selections = s.selections)
      (hheads : ∀ trackId, headAt t trackId = headAt s trackId)
  | head (head : RepositoryCandidateHeadBinding) (record : RepositoryCandidateSelectionRecord)
      (hreply : reply.selectedHead? = some head)
      (hgeneration : head.generation.get =
        ((headAt s head.trackId).map (·.generation.get)).getD 0 + 1)
      (hprevious : head.previousSelectionId = (headAt s head.trackId).map (·.selectionId))
      (hunused : s.selections[head.selectionId]? = none) (hrecord : record.selected = head)
      (hselections : t.selections = s.selections.insert head.selectionId record)
      (hheads : ∀ trackId, headAt t trackId =
        if trackId = head.trackId then some head else headAt s trackId)

theorem headAt_insert (trackId other : RepositoryCandidateTrackId) :
    headAt { s with tracks := s.tracks.insert trackId track } other =
      if other = trackId then track.current else headAt s other := by
  simp only [headAt, Std.ExtTreeMap.getElem?_insert, Std.compare_eq_iff_eq]
  by_cases h : trackId = other
  · subst h
    simp
  · rw [if_neg h, if_neg (Ne.symm h)]

theorem writes_of_respond (h : respond validateFor s call = some (reply, t)) :
    Writes s reply t := by
  cases respond_cases h with
  | @opened _ _ trackId _ hfresh =>
    refine .nothing rfl rfl fun other => ?_
    rw [headAt_insert]
    split
    · next heq => rw [heq, headAt, hfresh, Option.bind_none]
    · rfl
  | read => exact .nothing rfl rfl fun _ => rfl
  | @selects authority _ _ _ _ _ hselects =>
    cases hselects with
    | failed | replayed => exact .nothing rfl rfl fun _ => rfl
    | selected _ _ hauthorized _ hunused hexpected hgeneration =>
      have hfound := (authorizedTrack_eq_ok.mp hauthorized).1
      have hhead := congrArg (·.bind (·.current)) hfound
      change headAt s authority.trackId = _ at hhead
      refine .head _ _ rfl ?_ ?_ hunused rfl rfl fun other => ?_
      · exact hhead ▸ nextGeneration_get hgeneration
      · exact hhead ▸ rfl
      · exact headAt_insert ..

end Writes

section Persists

/-- What no call takes back. -/
structure Persists (s t : RegistryState) : Prop where
  track : ∀ (id : RepositoryCandidateTrackId) (track : RepositoryCandidateTrackState),
    s.tracks[id]? = some track → ∃ later, t.tracks[id]? = some later ∧
      later.secret = track.secret ∧ later.targetWorkOrderId = track.targetWorkOrderId ∧
        (track.current.isSome → later.current.isSome)
  selection : ∀ (id : RepositoryCandidateSelectionId) (record : RepositoryCandidateSelectionRecord),
    s.selections[id]? = some record → t.selections[id]? = some record

theorem Persists.refl (s : RegistryState) : Persists s s :=
  ⟨fun _ track h => ⟨track, h, rfl, rfl, id⟩, fun _ _ h => h⟩

theorem Persists.trans {u : RegistryState} (h : Persists s t) (h' : Persists t u) :
    Persists s u := by
  refine ⟨fun id track hfound => ?_, fun id record hfound =>
    h'.selection id record (h.selection id record hfound)⟩
  obtain ⟨later, hlater, hsecret, htarget, hcurrent⟩ := h.track id track hfound
  obtain ⟨last, hlast, hsecret', htarget', hcurrent'⟩ := h'.track id later hlater
  exact ⟨last, hlast, hsecret'.trans hsecret, htarget'.trans htarget, hcurrent' ∘ hcurrent⟩

/-- Inserting a track that was closed, or that keeps its secret and its target, takes nothing back. -/
theorem persists_insert {trackId : RepositoryCandidateTrackId}
    (htracks : t.tracks = s.tracks.insert trackId track)
    (hold : ∀ old, s.tracks[trackId]? = some old → track.secret = old.secret ∧
      track.targetWorkOrderId = old.targetWorkOrderId ∧ (old.current.isSome → track.current.isSome))
    (hselections : ∀ (id : RepositoryCandidateSelectionId)
      (record : RepositoryCandidateSelectionRecord),
      s.selections[id]? = some record → t.selections[id]? = some record) : Persists s t := by
  refine ⟨fun id old hfound => ?_, hselections⟩
  rw [htracks]
  by_cases hid : trackId = id
  · subst hid
    exact ⟨track, Std.ExtTreeMap.getElem?_insert_self, hold old hfound⟩
  · exact ⟨old, (getElem?_insert_of_ne hid).trans hfound, rfl, rfl, fun h => h⟩

theorem persists_of_step (h : step validateFor s call = some t) : Persists s t := by
  obtain ⟨reply, h⟩ := step_eq_some.mp h
  cases respond_cases h with
  | opened hfresh =>
    refine persists_insert rfl (fun old hold => ?_) fun _ _ hrecord => hrecord
    cases hfresh.symm.trans hold
  | read => exact .refl s
  | selects hselects =>
    cases hselects with
    | failed | replayed => exact .refl s
    | @selected derived track generation _ _ hauthorized _ hunused =>
      refine persists_insert rfl (fun old hold => ?_) fun id record hrecord => ?_
      · have hfound := (authorizedTrack_eq_ok.mp hauthorized).1
        obtain rfl := Option.some.inj (hfound.symm.trans hold)
        exact ⟨rfl, rfl, fun _ => rfl⟩
      · refine (getElem?_insert_of_ne fun heq => ?_).trans hrecord
        subst heq
        cases hunused.symm.trans hrecord

theorem persists_run {tr : List (RegistryState × Call Evidence)}
    (h : Run (step validateFor) s tr t) : Persists s t :=
  h.relates .refl fun _ _ _ _ hst hu => hst.trans (persists_of_step hu)

/-- A request that returned a head is recorded, and each later repetition of it replays that head. -/
theorem exactReplay_of_persists {outcome : RepositoryCandidateHeadSelectionOutcome}
    {u : RegistryState}
    (h : selectSuccessor validateFor s authority expected subject selectionId = (.ok outcome, t))
    (hpersists : Persists t u) :
    ∃ current, headAt u authority.trackId = some current ∧
      selectSuccessor validateFor u authority expected subject selectionId =
        (.ok (.exactReplay outcome.recorded current), u) := by
  obtain ⟨derived, later, record, hnonzero, hderive, hscope, hlater, hsecret, htarget, hcurrent,
      hselection, hrequest, hrecorded⟩ : ∃ derived later record, selectionId.uuid ≠ 0 ∧
      derive validateFor subject = .ok derived ∧
      derived.targetWorkOrderId = authority.targetWorkOrderId ∧
      u.tracks[authority.trackId]? = some later ∧ later.secret = authority.secret ∧
      later.targetWorkOrderId = authority.targetWorkOrderId ∧ later.current.isSome ∧
      u.selections[selectionId]? = some record ∧
      record.request = ⟨authority.trackId, expected, derived, selectionId⟩ ∧
      record.selected = outcome.recorded := by
    cases selectSuccessor_cases h with
    | replayed hnonzero hderive hauthorized hscope hrecorded hrequest hcurrent =>
      obtain ⟨hfound, hsecret, htarget⟩ := authorizedTrack_eq_ok.mp hauthorized
      obtain ⟨later, hlater, hsecret', htarget', hkept⟩ := hpersists.track _ _ hfound
      exact ⟨_, later, _, hnonzero, hderive, hscope, hlater, hsecret'.trans hsecret,
        htarget'.trans htarget, hkept (by rw [hcurrent]; rfl),
        hpersists.selection _ _ hrecorded, hrequest, rfl⟩
    | selected hnonzero hderive hauthorized hscope =>
      obtain ⟨hfound, hsecret, htarget⟩ := authorizedTrack_eq_ok.mp hauthorized
      obtain ⟨later, hlater, hsecret', htarget', hkept⟩ :=
        hpersists.track _ _ Std.ExtTreeMap.getElem?_insert_self
      exact ⟨_, later, _, hnonzero, hderive, hscope, hlater, hsecret'.trans hsecret,
        htarget'.trans htarget, hkept rfl,
        hpersists.selection _ _ Std.ExtTreeMap.getElem?_insert_self, rfl, rfl⟩
  obtain ⟨current, hcurrent⟩ := Option.isSome_iff_exists.mp hcurrent
  have hauthorized := authorizedTrack_eq_ok.mpr ⟨hlater, hsecret, htarget⟩
  refine ⟨current, by rw [headAt, hlater, Option.bind_some, hcurrent], ?_⟩
  simp only [selectSuccessor, if_neg hnonzero, hderive, hauthorized, hscope, ne_eq, not_true_eq_false,
    if_false, hselection, replaySelection, hrequest, hlater, Option.bind_some, hcurrent, hrecorded]

end Persists

end BirdCode.CandidateHead
