import BirdCode.CandidateHead.Calls

/-! Any interleaving of calls gives each track one chain of selections: none is lost, none is made
twice and none without the track's authority. -/
namespace BirdCode.CandidateHead

open Scheduler Lib

variable {Evidence : Type} {validateFor : ValidateFor Evidence} {s t : RegistryState}
  {authority : RepositoryCandidateTrackAuthority} {expected : Option RepositoryCandidateHeadBinding}
  {subject : VerifiedRepositoryReviewSubject Evidence}
  {selectionId : RepositoryCandidateSelectionId} {track : RepositoryCandidateTrackState}
  {call : Call Evidence}

section History

variable (validateFor)

def selectedHead? (p : RegistryState × Call Evidence) : Option RepositoryCandidateHeadBinding :=
  (respond validateFor p.1 p.2).bind (·.1.selectedHead?)

/-- The heads that the calls of a run select, in their order. -/
def selectedHeads (tr : List (RegistryState × Call Evidence)) :
    List RepositoryCandidateHeadBinding :=
  tr.filterMap (selectedHead? validateFor)

/-- Those of one track. -/
def chain (tr : List (RegistryState × Call Evidence)) (trackId : RepositoryCandidateTrackId) :
    List RepositoryCandidateHeadBinding :=
  (selectedHeads validateFor tr).filter (·.trackId = trackId)

/-- Generations count up from one and each head names the selection before it. -/
def Chained (heads : List RepositoryCandidateHeadBinding) : Prop :=
  ∀ (n : ℕ) (head : RepositoryCandidateHeadBinding), heads[n]? = some head →
    head.generation.get = n + 1 ∧
      head.previousSelectionId = (heads.take n).getLast?.map (·.selectionId)

/-- The registry is what the selections of a run leave. -/
structure Linked (tr : List (RegistryState × Call Evidence)) (s : RegistryState) : Prop where
  heads : ∀ trackId, headAt s trackId = (chain validateFor tr trackId).getLast?
  chained : ∀ trackId, Chained (chain validateFor tr trackId)
  once : ((selectedHeads validateFor tr).map (·.selectionId)).Nodup
  recorded : ∀ (id : RepositoryCandidateSelectionId) (head : RepositoryCandidateHeadBinding),
    s.selections[id]?.map (·.selected) = some head ↔
      head ∈ selectedHeads validateFor tr ∧ head.selectionId = id

variable {validateFor} {tr : List (RegistryState × Call Evidence)}
  {heads : List RepositoryCandidateHeadBinding} {head : RepositoryCandidateHeadBinding}

theorem Chained.last_generation (h : Chained heads) :
    (heads.getLast?.map (·.generation.get)).getD 0 = heads.length := by
  rcases List.eq_nil_or_concat' heads with rfl | ⟨pre, last, rfl⟩
  · rfl
  · have hlast := (h pre.length last List.getElem?_concat_length).1
    simpa using hlast

theorem Chained.append (h : Chained heads)
    (hgeneration : head.generation.get = (heads.getLast?.map (·.generation.get)).getD 0 + 1)
    (hprevious : head.previousSelectionId = heads.getLast?.map (·.selectionId)) :
    Chained (heads ++ [head]) := by
  intro n found hfound
  rcases Nat.lt_or_ge n heads.length with hlt | hge
  · rw [List.getElem?_append_left hlt] at hfound
    rw [List.take_append_of_le_length (Nat.le_of_lt hlt)]
    exact h n found hfound
  · rw [List.getElem?_append_right hge, List.getElem?_singleton] at hfound
    split at hfound
    · next hzero =>
      obtain rfl := Option.some.inj hfound
      obtain rfl : n = heads.length := by omega
      rw [List.take_left, hgeneration, h.last_generation]
      exact ⟨rfl, hprevious⟩
    · cases hfound

theorem selectedHeads_snoc (p : RegistryState × Call Evidence) :
    selectedHeads validateFor (tr ++ [p]) =
      selectedHeads validateFor tr ++ (selectedHead? validateFor p).toList := by
  rw [selectedHeads, List.filterMap_append, selectedHeads]
  cases hp : selectedHead? validateFor p <;> simp [hp]

theorem linked_empty : Linked validateFor [] .empty := by
  refine ⟨fun trackId => ?_, fun _ => ?_, List.nodup_nil, fun id head => ?_⟩
  · simp [RegistryState.empty, headAt, chain, selectedHeads]
  · simp [Chained, chain, selectedHeads]
  · simp [RegistryState.empty, selectedHeads]

theorem linked_step (hs : Linked validateFor tr s) (h : step validateFor s call = some t) :
    Linked validateFor (tr ++ [(s, call)]) t := by
  obtain ⟨reply, h⟩ := step_eq_some.mp h
  have hhead : selectedHead? validateFor (s, call) = reply.selectedHead? := by
    rw [selectedHead?, h, Option.bind_some]
  cases writes_of_respond h with
  | nothing hreply hselections hheads =>
    have hsame : selectedHeads validateFor (tr ++ [(s, call)]) = selectedHeads validateFor tr := by
      rw [selectedHeads_snoc, hhead, hreply, Option.toList_none, List.append_nil]
    refine ⟨fun trackId => ?_, fun trackId => ?_, ?_, fun id head => ?_⟩
    · rw [hheads, hs.heads, chain, chain, hsame]
    · rw [chain, hsame]
      exact hs.chained trackId
    · rw [hsame]
      exact hs.once
    · rw [hselections, hsame]
      exact hs.recorded id head
  | head head record hreply hgeneration hprevious hunused hrecord hselections hheads =>
    have hmore : selectedHeads validateFor (tr ++ [(s, call)]) =
        selectedHeads validateFor tr ++ [head] := by
      rw [selectedHeads_snoc, hhead, hreply, Option.toList_some]
    have hchain : ∀ trackId, chain validateFor (tr ++ [(s, call)]) trackId =
        chain validateFor tr trackId ++ if trackId = head.trackId then [head] else [] := by
      intro trackId
      rw [chain, hmore, List.filter_append, List.filter_singleton, chain]
      by_cases htrack : trackId = head.trackId
      · simp [htrack]
      · simp [htrack, Ne.symm htrack]
    have hnew : ∀ other ∈ selectedHeads validateFor tr, other.selectionId ≠ head.selectionId := by
      intro other hother heq
      have hfound := (hs.recorded head.selectionId other).mpr ⟨hother, heq⟩
      rw [hunused] at hfound
      cases hfound
    refine ⟨fun trackId => ?_, fun trackId => ?_, ?_, fun id other => ?_⟩
    · rw [hheads, hchain, hs.heads]
      by_cases htrack : trackId = head.trackId <;> simp [htrack]
    · rw [hchain]
      by_cases htrack : trackId = head.trackId
      · subst htrack
        rw [hs.heads] at hgeneration hprevious
        rw [if_pos rfl]
        exact (hs.chained _).append hgeneration hprevious
      · rw [if_neg htrack, List.append_nil]
        exact hs.chained trackId
    · rw [hmore, List.map_append, List.map_singleton]
      refine hs.once.append (List.nodup_singleton _) fun id hid hmem => ?_
      obtain ⟨other, hother, rfl⟩ := List.mem_map.mp hid
      exact hnew other hother (List.mem_singleton.mp hmem)
    · rw [hmore, hselections, List.mem_append, List.mem_singleton]
      by_cases hid : head.selectionId = id
      · subst hid
        rw [Std.ExtTreeMap.getElem?_insert_self, Option.map_some, hrecord, Option.some.injEq]
        constructor
        · rintro rfl
          exact ⟨.inr rfl, rfl⟩
        · rintro ⟨hother | rfl, heq⟩
          · exact absurd heq (hnew other hother)
          · rfl
      · rw [getElem?_insert_of_ne hid, hs.recorded]
        constructor
        · exact fun hother => ⟨.inl hother.1, hother.2⟩
        · rintro ⟨hother | rfl, heq⟩
          · exact ⟨hother, heq⟩
          · exact absurd heq hid

theorem linked_run (h : Run (step validateFor) .empty tr s) : Linked validateFor tr s := by
  induction h with
  | nil => exact linked_empty
  | snoc _ hs ih => exact linked_step ih hs

/-- Every open track was opened by a call that returned its authority. -/
theorem opened_run (h : Run (step validateFor) .empty tr s)
    (hauthorized : authorizedTrack s authority = .ok track) :
    ∃ p ∈ tr, (respond validateFor p.1 p.2).map (·.1) = some (.opened authority) := by
  obtain ⟨htrack, hsecret, htarget⟩ := authorizedTrack_eq_ok.mp hauthorized
  clear hauthorized
  induction h generalizing track with
  | nil => simp [RegistryState.empty] at htrack
  | @snoc t u call tr hr hs ih =>
    suffices hcase : (∃ old, t.tracks[authority.trackId]? = some old ∧
        old.secret = track.secret ∧ old.targetWorkOrderId = track.targetWorkOrderId) ∨
        (respond validateFor t call).map (·.1) = some (.opened authority) by
      rcases hcase with ⟨old, hold, hsecret', htarget'⟩ | hopened
      · obtain ⟨p, hp, hopened⟩ := ih hold (hsecret'.trans hsecret) (htarget'.trans htarget)
        exact ⟨p, List.mem_append_left _ hp, hopened⟩
      · exact ⟨(t, call), List.mem_append_right _ (List.mem_singleton_self _), hopened⟩
    obtain ⟨reply, hrespond⟩ := step_eq_some.mp hs
    rw [hrespond]
    cases respond_cases hrespond with
    | @opened draws target trackId secret hfresh =>
      by_cases hid : trackId = authority.trackId
      · subst hid
        obtain rfl := Option.some.inj (Std.ExtTreeMap.getElem?_insert_self.symm.trans htrack)
        cases authority
        simp only at hsecret htarget
        subst hsecret htarget
        exact .inr rfl
      · exact .inl ⟨track, (getElem?_insert_of_ne hid).symm.trans htrack, rfl, rfl⟩
    | read => exact .inl ⟨track, htrack, rfl, rfl⟩
    | @selects caller _ _ _ _ _ hselects =>
      cases hselects with
      | failed | replayed => exact .inl ⟨track, htrack, rfl, rfl⟩
      | @selected _ old _ _ _ hold =>
        by_cases hid : caller.trackId = authority.trackId
        · rw [hid] at htrack
          obtain rfl := Option.some.inj (Std.ExtTreeMap.getElem?_insert_self.symm.trans htrack)
          exact .inl ⟨old, hid ▸ (authorizedTrack_eq_ok.mp hold).1, rfl, rfl⟩
        · exact .inl ⟨track, (getElem?_insert_of_ne hid).symm.trans htrack, rfl, rfl⟩

/-- What a call that selects a head has checked. -/
theorem selectSuccessor_of_selectedHead? (h : selectedHead? validateFor
    (s, .selectSuccessor authority expected subject selectionId) = some head) :
    ∃ track, authorizedTrack s authority = .ok track ∧ expected = headAt s authority.trackId ∧
      head.trackId = authority.trackId ∧
      head.generation.get = (expected.map (·.generation.get)).getD 0 + 1 := by
  simp only [selectedHead?, respond, Option.bind_some] at h
  generalize hselect : selectSuccessor validateFor s authority expected subject selectionId = result
    at h
  obtain ⟨result, t⟩ := result
  cases selectSuccessor_cases hselect with
  | failed | replayed => cases h
  | @selected _ track _ _ _ hauthorized _ _ hexpected hgeneration =>
    obtain rfl := Option.some.inj h
    have hfound := (authorizedTrack_eq_ok.mp hauthorized).1
    refine ⟨track, hauthorized, ?_, rfl, ?_⟩
    · rw [hexpected, headAt, hfound, Option.bind_some]
    · rw [hexpected]
      exact nextGeneration_get hgeneration

end History

section Linearizable

variable (validateFor)

/-- The call at a position of a run selected a head. -/
def SelectsAt (tr : List (RegistryState × Call Evidence)) (n : ℕ)
    (authority : RepositoryCandidateTrackAuthority)
    (expected : Option RepositoryCandidateHeadBinding)
    (head : RepositoryCandidateHeadBinding) : Prop :=
  ∃ before subject selectionId,
    tr[n]? = some (before, .selectSuccessor authority expected subject selectionId) ∧
      selectedHead? validateFor (before, .selectSuccessor authority expected subject selectionId) =
        some head

/-- The selections of a run are compare-and-swaps on one head for each track, one after the
other. -/
structure Linearizable (tr : List (RegistryState × Call Evidence)) (s : RegistryState) :
    Prop where
  chained : ∀ trackId, Chained (chain validateFor tr trackId)
  head : ∀ trackId, headAt s trackId = (chain validateFor tr trackId).getLast?
  records : (s.selections.toList.map (·.2.selected)).Perm (selectedHeads validateFor tr)
  record_id : ∀ (id : RepositoryCandidateSelectionId) (record : RepositoryCandidateSelectionRecord),
    s.selections[id]? = some record → record.selected.selectionId = id
  race : ∀ (i j : ℕ) (authority authority' : RepositoryCandidateTrackAuthority)
    (expected : Option RepositoryCandidateHeadBinding) (head head' : RepositoryCandidateHeadBinding),
    SelectsAt validateFor tr i authority expected head →
      SelectsAt validateFor tr j authority' expected head' →
        authority.trackId = authority'.trackId ∨ expected ≠ none → i = j
  replay : ∀ (n : ℕ) (before : RegistryState) (authority : RepositoryCandidateTrackAuthority)
    (expected : Option RepositoryCandidateHeadBinding)
    (subject : VerifiedRepositoryReviewSubject Evidence)
    (selectionId : RepositoryCandidateSelectionId)
    (outcome : RepositoryCandidateHeadSelectionOutcome),
    tr[n]? = some (before, .selectSuccessor authority expected subject selectionId) →
      (selectSuccessor validateFor before authority expected subject selectionId).1 = .ok outcome →
        ∃ current, (chain validateFor tr authority.trackId).getLast? = some current ∧
          selectSuccessor validateFor s authority expected subject selectionId =
            (.ok (.exactReplay outcome.recorded current), s)
  unchanged : ∀ (call : Call Evidence) (reply : Reply) (t : RegistryState),
    respond validateFor s call = some (reply, t) → (∀ authority, reply ≠ .opened authority) →
      reply.selectedHead? = none → t = s
  read : ∀ (authority : RepositoryCandidateTrackAuthority)
    (head : Option RepositoryCandidateHeadBinding), current s authority = .ok head →
      head = (chain validateFor tr authority.trackId).getLast?
  authorized : ∀ (n : ℕ) (authority : RepositoryCandidateTrackAuthority)
    (expected : Option RepositoryCandidateHeadBinding) (head : RepositoryCandidateHeadBinding),
    SelectsAt validateFor tr n authority expected head →
      ∃ p ∈ tr.take n, (respond validateFor p.1 p.2).map (·.1) = some (.opened authority)

variable {validateFor} {tr : List (RegistryState × Call Evidence)}
  {head : RepositoryCandidateHeadBinding} {n : ℕ}

/-- Only a selection or a new track changes the registry. -/
theorem respond_unchanged {reply : Reply} (h : respond validateFor s call = some (reply, t))
    (hopened : ∀ authority, reply ≠ .opened authority) (hselected : reply.selectedHead? = none) :
    t = s := by
  cases respond_cases h with
  | opened => exact absurd rfl (hopened _)
  | read => rfl
  | selects hselects =>
    cases hselects with
    | failed | replayed => rfl
    | selected => cases hselected

/-- A selection extends the chain of its track by the generation after the expected head. -/
theorem SelectsAt.extends_chain (h : Run (step validateFor) .empty tr s)
    (hn : SelectsAt validateFor tr n authority expected head) :
    head.generation.get = (expected.map (·.generation.get)).getD 0 + 1 ∧
      head.generation.get = (chain validateFor (tr.take n) authority.trackId).length + 1 ∧
      chain validateFor (tr.take (n + 1)) authority.trackId =
        chain validateFor (tr.take n) authority.trackId ++ [head] ∧
      ∀ old, expected = some old → old.trackId = authority.trackId := by
  obtain ⟨before, subject, selectionId, hat, hhead⟩ := hn
  obtain ⟨next, hpre, hstep, -⟩ := h.at_index hat
  have hs := linked_run hpre
  obtain ⟨track, -, hexpected, htrack, hgeneration⟩ := selectSuccessor_of_selectedHead? hhead
  rw [hs.heads] at hexpected
  refine ⟨hgeneration, ?_, ?_, fun old hold => ?_⟩
  · rw [hgeneration, hexpected, (hs.chained _).last_generation]
  · rw [List.take_add_one, hat, Option.toList_some, chain, selectedHeads_snoc, hhead,
      Option.toList_some, List.filter_append, chain]
    simp [htrack]
  · have hmem := List.mem_of_getLast? (hexpected.symm.trans hold)
    simpa using (List.mem_filter.mp hmem).2

theorem SelectsAt.lt_length {m : ℕ} (h : Run (step validateFor) .empty tr s)
    (hn : SelectsAt validateFor tr n authority expected head) (hlt : n < m) :
    (chain validateFor (tr.take n) authority.trackId).length <
      (chain validateFor (tr.take m) authority.trackId).length := by
  have hshorter := (((List.take_prefix_take_left (l := tr) hlt).filterMap
    (selectedHead? validateFor)).filter (·.trackId = authority.trackId)).length_le
  have hextends := congrArg List.length (hn.extends_chain h).2.2.1
  rw [List.length_append, List.length_singleton] at hextends
  change (chain validateFor (tr.take (n + 1)) _).length ≤
    (chain validateFor (tr.take m) _).length at hshorter
  omega

/-- Of two selections with one expected head, neither comes after the other. -/
theorem SelectsAt.unique {m : ℕ} {authority' : RepositoryCandidateTrackAuthority}
    {head' : RepositoryCandidateHeadBinding} (h : Run (step validateFor) .empty tr s)
    (hn : SelectsAt validateFor tr n authority expected head)
    (hm : SelectsAt validateFor tr m authority' expected head')
    (hsame : authority.trackId = authority'.trackId ∨ expected ≠ none) : n = m := by
  obtain ⟨hgeneration, hlength, -, hold⟩ := hn.extends_chain h
  obtain ⟨hgeneration', hlength', -, hold'⟩ := hm.extends_chain h
  have htrack : authority.trackId = authority'.trackId := by
    rcases hsame with heq | hsome
    · exact heq
    · obtain ⟨old, rfl⟩ := Option.ne_none_iff_exists'.mp hsome
      exact (hold old rfl).symm.trans (hold' old rfl)
  rcases Nat.lt_trichotomy n m with hlt | heq | hgt
  · have hless := hn.lt_length h hlt
    rw [htrack] at hless hlength
    omega
  · exact heq
  · have hless := hm.lt_length h hgt
    rw [htrack] at hlength
    omega

/-- The selection index holds one record for each selected head, under its id. -/
theorem Linked.records_perm (hs : Linked validateFor tr s) :
    (s.selections.toList.map (·.2.selected)).Perm (selectedHeads validateFor tr) := by
  have hrecord : ∀ entry ∈ s.selections.toList, entry.2.selected ∈ selectedHeads validateFor tr ∧
      entry.2.selected.selectionId = entry.1 := by
    intro entry hentry
    refine (hs.recorded entry.1 entry.2.selected).mp ?_
    rw [Std.ExtTreeMap.mem_toList_iff_getElem?_eq_some.mp hentry, Option.map_some]
  refine (List.perm_ext_iff_of_nodup ?_ (List.Nodup.of_map _ hs.once)).mpr fun head => ?_
  · refine List.Nodup.of_map (·.selectionId) ?_
    have hkeys : s.selections.toList.map ((·.selectionId) ∘ (·.2.selected)) =
        s.selections.toList.map Prod.fst :=
      List.map_congr_left fun entry hentry => (hrecord entry hentry).2
    rw [List.map_map, hkeys, Std.ExtTreeMap.map_fst_toList_eq_keys]
    exact Std.ExtTreeMap.nodup_keys
  · rw [List.mem_map]
    constructor
    · rintro ⟨entry, hentry, rfl⟩
      exact (hrecord entry hentry).1
    · intro hhead
      obtain ⟨record, hrecord, hselected⟩ :=
        Option.map_eq_some_iff.mp ((hs.recorded head.selectionId head).mpr ⟨hhead, rfl⟩)
      exact ⟨(head.selectionId, record),
        Std.ExtTreeMap.mem_toList_iff_getElem?_eq_some.mpr hrecord, hselected⟩

theorem selections_linearizable (h : Run (step validateFor) .empty tr s) :
    Linearizable validateFor tr s := by
  have hs := linked_run h
  refine ⟨hs.chained, hs.heads, hs.records_perm, ?_, ?_, ?_, ?_, ?_, ?_⟩
  · intro id record hrecord
    exact ((hs.recorded id record.selected).mp (by rw [hrecord, Option.map_some])).2
  · intro i j authority authority' expected head head' hi hj hsame
    exact hi.unique h hj hsame
  · intro n before authority expected subject selectionId outcome hat houtcome
    obtain ⟨next, -, hstep, hpost⟩ := h.at_index hat
    obtain ⟨reply, hreply⟩ := step_eq_some.mp hstep
    obtain ⟨-, hnext⟩ := Prod.mk.inj (Option.some.inj hreply)
    obtain ⟨current, hcurrent, hreplay⟩ := exactReplay_of_persists
      (Prod.ext houtcome hnext) (persists_run hpost)
    exact ⟨current, hs.heads _ ▸ hcurrent, hreplay⟩
  · intro call reply t hrespond hopened hselected
    exact respond_unchanged hrespond hopened hselected
  · intro authority head hread
    rw [← hs.heads]
    exact current_eq_headAt hread
  · rintro n authority expected head ⟨before, subject, selectionId, hat, hhead⟩
    obtain ⟨next, hpre, -, -⟩ := h.at_index hat
    obtain ⟨track, hauthorized, -⟩ := selectSuccessor_of_selectedHead? hhead
    exact opened_run hpre hauthorized

end Linearizable

section Sample

def sampleArtifact : ArtifactRef := ⟨sampleSha256, 1, "application/json"⟩

def sampleDigest : Sha256Digest := ⟨sampleSha256, by decide⟩

/-- Two candidates of one work order, told apart by their ready events. -/
def sampleSubject (ready : EventId) : VerifiedRepositoryReviewSubject Unit where
  graphAcceptedEventId := ⟨1⟩
  reviewerDispatchEventId := ⟨2⟩
  targetWorkOrderId := ⟨1⟩
  producerDispatchEventId := ⟨3⟩
  dependencyHandoffEventId := ⟨4⟩
  targetWorkOrder := sampleOrder ⟨1⟩ sampleLease 1 []
  producerLocator := ⟨sampleDigest, ⟨1⟩, ⟨1⟩, ⟨1⟩, ⟨1⟩⟩
  candidate := ⟨⟨1⟩, sampleDigest, sampleArtifact, ⟨5⟩, sampleArtifact, ⟨6⟩, ⟨7⟩, sampleArtifact,
    ready, sampleArtifact, ()⟩

def acceptCandidate : ValidateFor Unit := fun _ _ => .ok ()

def sampleAuthority : RepositoryCandidateTrackAuthority := ⟨⟨1⟩, ⟨1⟩, 99⟩

/-- The head of the first selection. -/
def raceHead : Option RepositoryCandidateHeadBinding :=
  (derive acceptCandidate (sampleSubject ⟨8⟩)).toOption.map
    (bindHead · ⟨1⟩ ⟨1, firstGeneration_ne_zero⟩ ⟨1⟩ none)

/-- One selection, two that race for its successor, and a repetition of the first. -/
def raceCalls : List (Call Unit) :=
  [.openTrack [(⟨1⟩, 99)] ⟨1⟩, .selectSuccessor sampleAuthority none (sampleSubject ⟨8⟩) ⟨1⟩,
    .selectSuccessor sampleAuthority raceHead (sampleSubject ⟨9⟩) ⟨2⟩,
    .selectSuccessor sampleAuthority raceHead (sampleSubject ⟨10⟩) ⟨3⟩,
    .selectSuccessor sampleAuthority none (sampleSubject ⟨8⟩) ⟨1⟩]

theorem selections_linearizable_race : ∃ tr s, Run (step acceptCandidate) .empty tr s ∧
    (selectedHeads acceptCandidate tr).map (·.generation.get) = [1, 2] ∧
      Linearizable acceptCandidate tr s := by
  have hreached : (execute (step acceptCandidate) .empty raceCalls).any
      (fun run => (selectedHeads acceptCandidate run.1).map (·.generation.get) = [1, 2]) = true := by
    decide
  obtain ⟨⟨tr, s⟩, hexecute, hselected⟩ := (Option.any_eq_true _ _).mp hreached
  have hrun := (run_of_execute hexecute).1
  exact ⟨tr, s, hrun, of_decide_eq_true hselected, selections_linearizable hrun⟩

end Sample

end BirdCode.CandidateHead
