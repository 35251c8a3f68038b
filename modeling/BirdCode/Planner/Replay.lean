import BirdCode.Lib.Interleave
import BirdCode.Planner.Journal

/-! Replay of a planner journal in terms of its attempts: a record advances its own attempt and draws
a reservation and an execution. -/
namespace BirdCode.Planner

open Std Lib

variable {T : PromptTypes} {boundary : JournalBoundary T}
  {expectedInferencePolicy : PlannerReplannerInferencePolicy} {state next : ReplayState T}
  {record : PlannerJournalRecord T} {records others : List (PlannerJournalRecord T)}
  {projection : PlannerJournalProjection T} {attempt : PlannerAttemptProjection T}

section Local

variable (boundary expectedInferencePolicy)

/-- What a record makes of its own attempt. -/
def advance (attempt : Option (PlannerAttemptProjection T)) :
    PlannerJournalRecord T → Option (PlannerAttemptProjection T)
  | .prepared prepared =>
    if attempt = none ∧ preparedIsInternallyValid boundary expectedInferencePolicy prepared = true ∧
        prepared.parentAttemptId = none then
      some (.reconciliationRequired prepared)
    else none
  | .observed observed => (observeAttempt boundary observed attempt).toOption
  | .accepted accepted => (acceptAttempt boundary expectedInferencePolicy accepted attempt).toOption
  | .rejected rejected => (rejectAttempt boundary expectedInferencePolicy rejected attempt).toOption

/-- The identities that a record may use only once in a journal. -/
def draws : PlannerJournalRecord T → List (BudgetReservationId ⊕ PlannerExecutionId)
  | .prepared prepared => [.inl prepared.budgetReservationId, .inr prepared.executionId]
  | _ => []

variable {boundary expectedInferencePolicy}

def ReplayState.Fresh (state : ReplayState T) : BudgetReservationId ⊕ PlannerExecutionId → Prop
  | .inl reservation => reservation ∉ state.reservations
  | .inr execution => execution ∉ state.executions

/-- The state after a record that advances its attempt. -/
def ReplayState.advanced (state : ReplayState T) (record : PlannerJournalRecord T)
    (attempt : PlannerAttemptProjection T) : ReplayState T where
  attempts := state.attempts.insert record.attemptId attempt
  reservations :=
    match record with
    | .prepared prepared => state.reservations.insert prepared.budgetReservationId
    | _ => state.reservations
  executions :=
    match record with
    | .prepared prepared => state.executions.insert prepared.executionId
    | _ => state.executions

theorem nodup_draws : (draws record).Nodup := by
  cases record <;> simp [draws]

theorem toOption_eq_some {E A : Type} {x : Except E A} {a : A} :
    x.toOption = some a ↔ x = .ok a := by
  cases x <;> simp [Except.toOption]

theorem isOk_eq_true {E A : Type} {x : Except E A} : x.isOk = true ↔ ∃ a, x = .ok a := by
  cases x <;> simp [Except.isOk, Except.toBool]

theorem replayPrepared_eq_ok {prepared : PlannerAttemptPrepared T} :
    replayPrepared boundary expectedInferencePolicy state prepared = .ok next ↔
      preparedIsInternallyValid boundary expectedInferencePolicy prepared = true ∧
      prepared.parentAttemptId = none ∧ state.attempts[prepared.attemptId]? = none ∧
      prepared.budgetReservationId ∉ state.reservations ∧ prepared.executionId ∉ state.executions ∧
      next = state.advanced (.prepared prepared) (.reconciliationRequired prepared) := by
  have hattempt : prepared.attemptId ∉ state.attempts ↔
      state.attempts[prepared.attemptId]? = none := by
    rw [ExtTreeMap.mem_iff_isSome_getElem?, Bool.not_eq_true, Option.isSome_eq_false_iff,
      Option.isNone_iff_eq_none]
  simp only [replayPrepared, bind_eq_ok, ensure_eq_ok, hattempt, exists_const]
  constructor
  · rintro ⟨hvalid, hreservation, hparent, hexecution, hnew, hnext⟩
    exact ⟨hvalid, hparent, hnew, hreservation, hexecution, (Except.ok.inj hnext).symm⟩
  · rintro ⟨hvalid, hparent, hnew, hreservation, hexecution, rfl⟩
    exact ⟨hvalid, hreservation, hparent, hexecution, hnew, rfl⟩

theorem updateAttempt_eq_ok {attemptId : PlannerAttemptId} {update : Option
    (PlannerAttemptProjection T) → Except PlannerJournalError (PlannerAttemptProjection T)} :
    updateAttempt state attemptId update = .ok next ↔
      ∃ attempt, update state.attempts[attemptId]? = .ok attempt ∧
        next = { state with attempts := state.attempts.insert attemptId attempt } := by
  simp only [updateAttempt, bind_eq_ok]
  constructor
  · rintro ⟨attempt, hupdate, hnext⟩
    exact ⟨attempt, hupdate, (Except.ok.inj hnext).symm⟩
  · rintro ⟨attempt, hupdate, rfl⟩
    exact ⟨attempt, hupdate, rfl⟩

theorem advance_prepared_eq_some {prepared : PlannerAttemptPrepared T}
    {before : Option (PlannerAttemptProjection T)} :
    advance boundary expectedInferencePolicy before (.prepared prepared) = some attempt ↔
      (before = none ∧ preparedIsInternallyValid boundary expectedInferencePolicy prepared = true ∧
        prepared.parentAttemptId = none) ∧ .reconciliationRequired prepared = attempt := by
  unfold advance
  split <;> simp_all

/-- A record is accepted exactly if it advances its attempt and what it draws is fresh. -/
theorem replayRecord_eq_ok : replayRecord boundary expectedInferencePolicy state record = .ok next ↔
    ∃ attempt, advance boundary expectedInferencePolicy state.attempts[record.attemptId]? record =
      some attempt ∧ (∀ token ∈ draws record, state.Fresh token) ∧
      next = state.advanced record attempt := by
  cases record with
  | prepared prepared =>
    simp only [replayRecord, replayPrepared_eq_ok, advance_prepared_eq_some, draws,
      PlannerJournalRecord.attemptId, List.forall_mem_cons, List.not_mem_nil, false_implies,
      implies_true, and_true]
    constructor
    · rintro ⟨hvalid, hparent, hnew, hreservation, hexecution, rfl⟩
      exact ⟨_, ⟨⟨hnew, hvalid, hparent⟩, rfl⟩, ⟨hreservation, hexecution⟩, rfl⟩
    · rintro ⟨_, ⟨⟨hnew, hvalid, hparent⟩, rfl⟩, ⟨hreservation, hexecution⟩, rfl⟩
      exact ⟨hvalid, hparent, hnew, hreservation, hexecution, rfl⟩
  | observed observed =>
    simp [replayRecord, updateAttempt_eq_ok, advance, draws, toOption_eq_some,
      ReplayState.advanced, PlannerJournalRecord.attemptId]
  | accepted accepted =>
    simp [replayRecord, updateAttempt_eq_ok, advance, draws, toOption_eq_some,
      ReplayState.advanced, PlannerJournalRecord.attemptId]
  | rejected rejected =>
    simp [replayRecord, updateAttempt_eq_ok, advance, draws, toOption_eq_some,
      ReplayState.advanced, PlannerJournalRecord.attemptId]

end Local

section Log

variable (boundary expectedInferencePolicy)

/-- The attempts of a journal that its records lead to. -/
abbrev AcceptedRecords (records : List (PlannerJournalRecord T))
    (states : PlannerAttemptId → Option (PlannerAttemptProjection T)) : Prop :=
  Accepted PlannerJournalRecord.attemptId (advance boundary expectedInferencePolicy) draws records
    states

/-- The replay state says of every attempt and every identity what the records say. -/
structure Tracks (records : List (PlannerJournalRecord T)) (state : ReplayState T) : Prop where
  accepted : AcceptedRecords boundary expectedInferencePolicy records (state.attempts[·]?)
  fresh : ∀ token, state.Fresh token ↔ token ∉ records.flatMap draws

variable {boundary expectedInferencePolicy}

theorem tracks_nil : Tracks boundary expectedInferencePolicy [] ⟨∅, ∅, ∅⟩ := by
  refine ⟨?_, ?_⟩
  · have hempty : (fun id : PlannerAttemptId => (∅ : PlannerJournalProjection T)[id]?) =
        fun _ => none := by
      funext id
      exact ExtTreeMap.getElem?_empty
    rw [hempty]
    exact accepted_nil
  · rintro (reservation | execution) <;> simp [ReplayState.Fresh]

theorem attempts_advanced : (fun id => (state.advanced record attempt).attempts[id]?) =
    Function.update (state.attempts[·]?) record.attemptId (some attempt) := by
  funext id
  by_cases hid : id = record.attemptId
  · subst hid
    simp [ReplayState.advanced]
  · rw [Function.update_of_ne hid]
    change (state.attempts.insert record.attemptId attempt)[id]? = state.attempts[id]?
    rw [ExtTreeMap.getElem?_insert, if_neg fun heq => hid (Std.compare_eq_iff_eq.mp heq).symm]

theorem fresh_advanced (token : BudgetReservationId ⊕ PlannerExecutionId) :
    (state.advanced record attempt).Fresh token ↔ state.Fresh token ∧ token ∉ draws record := by
  cases record with
  | prepared prepared =>
    rcases token with reservation | execution
    · simp only [ReplayState.Fresh, ReplayState.advanced, draws, ExtTreeSet.mem_insert,
        Std.compare_eq_iff_eq, List.mem_cons, Sum.inl.injEq, reduceCtorEq, List.not_mem_nil]
      grind
    · simp only [ReplayState.Fresh, ReplayState.advanced, draws, ExtTreeSet.mem_insert,
        Std.compare_eq_iff_eq, List.mem_cons, Sum.inr.injEq, reduceCtorEq, List.not_mem_nil]
      grind
  | observed => rcases token <;> simp [ReplayState.Fresh, ReplayState.advanced, draws]
  | accepted => rcases token <;> simp [ReplayState.Fresh, ReplayState.advanced, draws]
  | rejected => rcases token <;> simp [ReplayState.Fresh, ReplayState.advanced, draws]

theorem Tracks.snoc (h : Tracks boundary expectedInferencePolicy records state)
    (hadvance : advance boundary expectedInferencePolicy state.attempts[record.attemptId]? record =
      some attempt) (hfresh : ∀ token ∈ draws record, state.Fresh token) :
    Tracks boundary expectedInferencePolicy (records ++ [record]) (state.advanced record attempt) := by
  constructor
  · rw [attempts_advanced]
    exact h.accepted.snoc hadvance nodup_draws fun token hmem => (h.fresh token).mp (hfresh token hmem)
  · intro token
    rw [fresh_advanced, h.fresh, List.flatMap_append, List.flatMap_singleton, List.mem_append, not_or]

theorem tracks_of_foldlM (h : records.foldlM (replayRecord boundary expectedInferencePolicy)
    ⟨∅, ∅, ∅⟩ = .ok state) : Tracks boundary expectedInferencePolicy records state := by
  induction records using List.reverseRecOn generalizing state with
  | nil =>
    cases h
    exact tracks_nil
  | append_singleton records record ih =>
    rw [List.foldlM_append, bind_eq_ok] at h
    obtain ⟨before, hbefore, hlast⟩ := h
    rw [List.foldlM_cons, bind_eq_ok] at hlast
    obtain ⟨after, hrecord, hnil⟩ := hlast
    obtain rfl : after = state := Except.ok.inj hnil
    obtain ⟨attempt, hadvance, hfresh, rfl⟩ := replayRecord_eq_ok.mp hrecord
    exact (ih hbefore).snoc hadvance hfresh

/-- The other direction: a log that is accepted attempt by attempt is accepted as a whole. -/
theorem foldlM_of_accepted {states : PlannerAttemptId → Option (PlannerAttemptProjection T)}
    (h : AcceptedRecords boundary expectedInferencePolicy records states) :
    ∃ state, records.foldlM (replayRecord boundary expectedInferencePolicy) ⟨∅, ∅, ∅⟩ = .ok state ∧
      (state.attempts[·]?) = states := by
  induction records using List.reverseRecOn generalizing states with
  | nil => exact ⟨_, rfl, tracks_nil.accepted.unique h⟩
  | append_singleton records record ih =>
    obtain ⟨before, attempt, hbefore, hadvance, rfl, hfresh⟩ := h.of_snoc
    obtain ⟨state, hfold, rfl⟩ := ih hbefore
    have htracks := tracks_of_foldlM hfold
    have hrecord : replayRecord boundary expectedInferencePolicy state record =
        .ok (state.advanced record attempt) :=
      replayRecord_eq_ok.mpr ⟨attempt, hadvance,
        fun token hmem => (htracks.fresh token).mpr (hfresh token hmem), rfl⟩
    refine ⟨state.advanced record attempt, ?_, attempts_advanced⟩
    rw [List.foldlM_append, hfold]
    change ([record].foldlM (replayRecord boundary expectedInferencePolicy) state) = _
    rw [List.foldlM_cons, hrecord]
    rfl

end Log

section Replay

theorem mapError_eq_ok {E F A : Type} {x : Except E A} {f : E → F} {a : A} :
    x.mapError f = .ok a ↔ x = .ok a := by
  cases x <;> simp [Except.mapError]

/-- A journal is accepted exactly if the policy is intact, there is room for the records, and every
attempt accepts its own. -/
theorem replay_eq_ok : replay boundary expectedInferencePolicy records = .ok projection ↔
    expectedInferencePolicy.validateIntegrity boundary.toPlannerBoundary = .ok () ∧
      records.length ≤ hardMaxActiveJournalRecords ∧
      AcceptedRecords boundary expectedInferencePolicy records (projection[·]?) := by
  simp only [replay, bind_eq_ok, ensure_eq_ok, mapError_eq_ok, exists_const]
  constructor
  · rintro ⟨_, hpolicy, hlength, state, hfold, hprojection⟩
    obtain rfl : state.attempts = projection := Except.ok.inj hprojection
    exact ⟨hpolicy, hlength, (tracks_of_foldlM hfold).accepted⟩
  · rintro ⟨hpolicy, hlength, haccepted⟩
    obtain ⟨state, hfold, hstates⟩ := foldlM_of_accepted haccepted
    refine ⟨(), hpolicy, hlength, state, hfold, congrArg Except.ok ?_⟩
    exact ExtTreeMap.ext_getElem? fun {id} => congrFun hstates id

/-- A record that advances its attempt and draws fresh identities is accepted while there is room. -/
theorem replay_snoc (h : replay boundary expectedInferencePolicy records = .ok projection)
    (hroom : records.length < hardMaxActiveJournalRecords)
    (hadvance : advance boundary expectedInferencePolicy projection[record.attemptId]? record =
      some attempt) (hfresh : ∀ token ∈ draws record, token ∉ records.flatMap draws) :
    replay boundary expectedInferencePolicy (records ++ [record]) =
      .ok (projection.insert record.attemptId attempt) := by
  obtain ⟨hpolicy, -, haccepted⟩ := replay_eq_ok.mp h
  refine replay_eq_ok.mpr ⟨hpolicy, ?_, ?_⟩
  · rw [List.length_append, List.length_singleton]
    exact hroom
  · have hstates : (fun id => (projection.insert record.attemptId attempt)[id]?) =
        Function.update (projection[·]?) record.attemptId (some attempt) := by
      have hattempts : (fun id => ((⟨projection, ∅, ∅⟩ : ReplayState T).advanced record
        attempt).attempts[id]?) = _ := attempts_advanced
      exact hattempts
    rw [hstates]
    exact haccepted.snoc hadvance nodup_draws hfresh

/-- A journal without its last record is accepted, and the last record advances its attempt. -/
theorem replay_of_snoc
    (h : replay boundary expectedInferencePolicy (records ++ [record]) = .ok projection) :
    ∃ before attempt, replay boundary expectedInferencePolicy records = .ok before ∧
      advance boundary expectedInferencePolicy before[record.attemptId]? record = some attempt ∧
      projection = before.insert record.attemptId attempt ∧
      ∀ token ∈ draws record, token ∉ records.flatMap draws := by
  obtain ⟨hpolicy, hlength, haccepted⟩ := replay_eq_ok.mp h
  obtain ⟨states, attempt, hbefore, hadvance, hstates, hfresh⟩ := haccepted.of_snoc
  obtain ⟨state, -, rfl⟩ := foldlM_of_accepted hbefore
  refine ⟨state.attempts, attempt, replay_eq_ok.mpr ⟨hpolicy, ?_, hbefore⟩, hadvance, ?_, hfresh⟩
  · rw [List.length_append] at hlength
    omega
  · refine ExtTreeMap.ext_getElem? fun {id} => ?_
    have hid := congrFun hstates id
    rw [← attempts_advanced] at hid
    exact hid

end Replay

end BirdCode.Planner
