import BirdCode.Planner.Closure
import BirdCode.Planner.Replay

/-! Replay does not depend on how the records of different attempts interleave. -/
namespace BirdCode.Planner

open Std Lib

variable {T : PromptTypes} {boundary : JournalBoundary T}
  {expectedInferencePolicy : PlannerReplannerInferencePolicy}
  {record : PlannerJournalRecord T} {records others : List (PlannerJournalRecord T)}
  {projection : PlannerJournalProjection T} {attempt : PlannerAttemptProjection T}

/-- The only moves of an attempt. -/
inductive Moves : Option (PlannerAttemptProjection T) → Option (PlannerAttemptProjection T) → Prop
  | prepare (prepared : PlannerAttemptPrepared T) :
    Moves none (some (.reconciliationRequired prepared))
  | observe (prepared : PlannerAttemptPrepared T) (observed : PlannerAttemptObserved T) :
    Moves (some (.reconciliationRequired prepared))
      (some (.observedPendingDecision prepared observed))
  | accept (prepared : PlannerAttemptPrepared T) (observed : PlannerAttemptObserved T)
    (accepted : PlannerAttemptAccepted) :
    Moves (some (.observedPendingDecision prepared observed))
      (some (.accepted prepared observed accepted))
  | reject (prepared : PlannerAttemptPrepared T) (observed : PlannerAttemptObserved T)
    (rejected : PlannerAttemptRejected) :
    Moves (some (.observedPendingDecision prepared observed))
      (some (.rejected prepared observed rejected))

theorem observeAttempt_eq_ok {observed : PlannerAttemptObserved T}
    {before : Option (PlannerAttemptProjection T)} :
    observeAttempt boundary observed before = .ok attempt ↔ ∃ prepared,
      before = some (.reconciliationRequired prepared) ∧
      prepared.executionId = observed.executionId ∧
      boundary.prepared prepared = observed.preparedSha256 ∧
      attempt = .observedPendingDecision prepared observed := by
  unfold observeAttempt
  split
  · simp
  · next prepared =>
    simp only [bind_eq_ok, ensure_eq_ok, exists_const, pure, Except.pure, Except.ok.injEq,
      Option.some.injEq, PlannerAttemptProjection.reconciliationRequired.injEq]
    constructor
    · rintro ⟨⟨hexecution, hprepared⟩, rfl⟩
      exact ⟨prepared, rfl, hexecution, hprepared, rfl⟩
    · rintro ⟨_, rfl, hexecution, hprepared, rfl⟩
      exact ⟨⟨hexecution, hprepared⟩, rfl⟩
  · next hother =>
    simp only [reduceCtorEq, Option.some.injEq, false_iff, not_exists, not_and]
    intro prepared hprepared
    exact absurd hprepared (hother prepared)

theorem acceptAttempt_eq_ok {accepted : PlannerAttemptAccepted}
    {before : Option (PlannerAttemptProjection T)} :
    acceptAttempt boundary expectedInferencePolicy accepted before = .ok attempt ↔
      ∃ prepared observed, before = some (.observedPendingDecision prepared observed) ∧
      prepared.executionId = accepted.executionId ∧
      boundary.observed observed = accepted.observedSha256 ∧
      replayPlannerDecision boundary expectedInferencePolicy prepared observed =
        .accepted accepted.proposalSha256 accepted.result ∧
      attempt = .accepted prepared observed accepted := by
  unfold acceptAttempt
  split
  · simp
  · next prepared observed =>
    simp only [bind_eq_ok, ensure_eq_ok, exists_const, Option.some.injEq,
      PlannerAttemptProjection.observedPendingDecision.injEq]
    split
    · next hdecision => simp [hdecision]
    · next proposalSha256 result hdecision =>
      simp only [bind_eq_ok, ensure_eq_ok, exists_const, pure, Except.pure, Except.ok.injEq]
      constructor
      · rintro ⟨⟨hexecution, hobserved⟩, ⟨rfl, rfl⟩, rfl⟩
        exact ⟨prepared, observed, ⟨rfl, rfl⟩, hexecution, hobserved, hdecision, rfl⟩
      · rintro ⟨_, _, ⟨rfl, rfl⟩, hexecution, hobserved, hsame, rfl⟩
        rw [hdecision] at hsame
        cases hsame
        exact ⟨⟨hexecution, hobserved⟩, ⟨rfl, rfl⟩, rfl⟩
  · next hother =>
    simp only [reduceCtorEq, Option.some.injEq, false_iff, not_exists, not_and]
    intro prepared observed hpending
    exact absurd hpending (hother prepared observed)

theorem rejectAttempt_eq_ok {rejected : PlannerAttemptRejected}
    {before : Option (PlannerAttemptProjection T)} :
    rejectAttempt boundary expectedInferencePolicy rejected before = .ok attempt ↔
      ∃ prepared observed, before = some (.observedPendingDecision prepared observed) ∧
      prepared.executionId = rejected.executionId ∧
      boundary.observed observed = rejected.observedSha256 ∧
      replayPlannerDecision boundary expectedInferencePolicy prepared observed =
        .rejected rejected.rejection ∧
      attempt = .rejected prepared observed rejected := by
  unfold rejectAttempt
  split
  · simp
  · next prepared observed =>
    simp only [bind_eq_ok, ensure_eq_ok, exists_const, Option.some.injEq,
      PlannerAttemptProjection.observedPendingDecision.injEq]
    split
    · next hdecision => simp [hdecision]
    · next rejection hdecision =>
      simp only [bind_eq_ok, ensure_eq_ok, exists_const, pure, Except.pure, Except.ok.injEq]
      constructor
      · rintro ⟨⟨hexecution, hobserved⟩, rfl, rfl⟩
        exact ⟨prepared, observed, ⟨rfl, rfl⟩, hexecution, hobserved, hdecision, rfl⟩
      · rintro ⟨_, _, ⟨rfl, rfl⟩, hexecution, hobserved, hsame, rfl⟩
        rw [hdecision] at hsame
        cases hsame
        exact ⟨⟨hexecution, hobserved⟩, rfl, rfl⟩
  · next hother =>
    simp only [reduceCtorEq, Option.some.injEq, false_iff, not_exists, not_and]
    intro prepared observed hpending
    exact absurd hpending (hother prepared observed)

theorem moves_of_advance {before : Option (PlannerAttemptProjection T)}
    (h : advance boundary expectedInferencePolicy before record = some attempt) :
    Moves before (some attempt) := by
  cases record with
  | prepared prepared =>
    obtain ⟨⟨rfl, -⟩, rfl⟩ := advance_prepared_eq_some.mp h
    exact .prepare prepared
  | observed observed =>
    obtain ⟨prepared, rfl, -, -, rfl⟩ := observeAttempt_eq_ok.mp (toOption_eq_some.mp h)
    exact .observe prepared observed
  | accepted accepted =>
    obtain ⟨prepared, observed, rfl, -, -, -, rfl⟩ := acceptAttempt_eq_ok.mp (toOption_eq_some.mp h)
    exact .accept prepared observed accepted
  | rejected rejected =>
    obtain ⟨prepared, observed, rfl, -, -, -, rfl⟩ := rejectAttempt_eq_ok.mp (toOption_eq_some.mp h)
    exact .reject prepared observed rejected

/-- A record moves its own attempt and no other. -/
theorem moves_snoc
    (h : replay boundary expectedInferencePolicy (records ++ [record]) = .ok projection) :
    ∃ before, replay boundary expectedInferencePolicy records = .ok before ∧
      Moves before[record.attemptId]? projection[record.attemptId]? ∧
      ∀ id ≠ record.attemptId, projection[id]? = before[id]? := by
  obtain ⟨before, attempt, hbefore, hadvance, rfl, -⟩ := replay_of_snoc h
  refine ⟨before, hbefore, ?_, fun id hid => ?_⟩
  · rw [ExtTreeMap.getElem?_insert_self]
    exact moves_of_advance hadvance
  · rw [ExtTreeMap.getElem?_insert, if_neg fun heq => hid (Std.compare_eq_iff_eq.mp heq).symm]

/-- Along a journal every attempt only moves. -/
theorem moves_append
    (h : replay boundary expectedInferencePolicy (records ++ others) = .ok projection) :
    ∃ before, replay boundary expectedInferencePolicy records = .ok before ∧
      ∀ id : PlannerAttemptId, Relation.ReflTransGen Moves before[id]? projection[id]? := by
  induction others using List.reverseRecOn generalizing projection with
  | nil =>
    rw [List.append_nil] at h
    exact ⟨projection, h, fun _ => .refl⟩
  | append_singleton others record ih =>
    rw [← List.append_assoc] at h
    obtain ⟨middle, hmiddle, hmoves, hothers⟩ := moves_snoc h
    obtain ⟨before, hbefore, hreaches⟩ := ih hmiddle
    refine ⟨before, hbefore, fun id => ?_⟩
    by_cases hid : id = record.attemptId
    · subst hid
      exact (hreaches _).tail hmoves
    · rw [hothers id hid]
      exact hreaches id

/-- A journal that interleaves the records of a family, each attempt's in their order. -/
def Interleaving (family : PlannerAttemptId → List (PlannerJournalRecord T))
    (records : List (PlannerJournalRecord T)) : Prop :=
  ∀ id, recordsAt PlannerJournalRecord.attemptId records id = family id

theorem replay_sameOrder (hsame : SameOrder PlannerJournalRecord.attemptId records others)
    (h : replay boundary expectedInferencePolicy records = .ok projection) :
    replay boundary expectedInferencePolicy others = .ok projection := by
  obtain ⟨hpolicy, hlength, haccepted⟩ := replay_eq_ok.mp h
  exact replay_eq_ok.mpr ⟨hpolicy, hsame.perm.length_eq ▸ hlength, haccepted.interleave hsame⟩

/-- Interleavings of one family replay alike, attempts only move, and a rejected append changes
nothing. -/
theorem replay_independent_of_interleaving (boundary : JournalBoundary T)
    (expectedInferencePolicy : PlannerReplannerInferencePolicy) :
    (∀ (family : PlannerAttemptId → List (PlannerJournalRecord T)) records others,
      Interleaving family records → Interleaving family others →
      (∃ projection, replay boundary expectedInferencePolicy records = .ok projection ∧
        replay boundary expectedInferencePolicy others = .ok projection) ∨
      (replay boundary expectedInferencePolicy records).isOk = false ∧
        (replay boundary expectedInferencePolicy others).isOk = false) ∧
    (∀ records others projection,
      replay boundary expectedInferencePolicy (records ++ others) = .ok projection →
      ∃ before, replay boundary expectedInferencePolicy records = .ok before ∧
        ∀ id : PlannerAttemptId, Relation.ReflTransGen Moves before[id]? projection[id]?) ∧
    (∀ (journal : InMemoryPlannerJournal T) record error,
      (journal.retain boundary expectedInferencePolicy record).1 = .error error →
      (journal.retain boundary expectedInferencePolicy record).2.records = journal.records ∧
      (journal.retain boundary expectedInferencePolicy record).2.projection boundary
        expectedInferencePolicy = journal.projection boundary expectedInferencePolicy) := by
  refine ⟨fun family records others hrecords hothers => ?_, fun _ _ _ h => moves_append h,
    fun journal record error h => ?_⟩
  · have hsame : SameOrder PlannerJournalRecord.attemptId records others :=
      fun id => (hrecords id).trans (hothers id).symm
    by_cases hok : (replay boundary expectedInferencePolicy records).isOk = true
    · obtain ⟨projection, hreplay⟩ := isOk_eq_true.mp hok
      exact .inl ⟨projection, hreplay, replay_sameOrder hsame hreplay⟩
    · refine .inr ⟨eq_false_of_ne_true hok, eq_false_of_ne_true fun hother => hok ?_⟩
      obtain ⟨projection, hreplay⟩ := isOk_eq_true.mp hother
      exact isOk_eq_true.mpr ⟨projection, replay_sameOrder hsame.symm hreplay⟩
  · unfold InMemoryPlannerJournal.retain at h ⊢
    split at h
    · exact ⟨rfl, rfl⟩
    · cases h

end BirdCode.Planner
