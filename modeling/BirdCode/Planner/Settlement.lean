import BirdCode.Planner.Execution

/-! The settlement of a prepared attempt, which needs room for the records that it is still to
append. -/
namespace BirdCode.Planner

open Std Lib

variable {T : PromptTypes} {boundary : JournalBoundary T}
  {inferencePolicy : PlannerReplannerInferencePolicy} {journal : InMemoryPlannerJournal T}
  {projection : PlannerJournalProjection T} {id : PlannerAttemptId}

/-- A record that decides an attempt, and the attempt that it leads to. -/
inductive Decides : PlannerJournalRecord T → Option (PlannerAttemptProjection T) → Prop
  | accept (prepared : PlannerAttemptPrepared T) (observed : PlannerAttemptObserved T)
    (accepted : PlannerAttemptAccepted) :
    Decides (.accepted accepted) (some (.accepted prepared observed accepted))
  | reject (prepared : PlannerAttemptPrepared T) (observed : PlannerAttemptObserved T)
    (rejected : PlannerAttemptRejected) :
    Decides (.rejected rejected) (some (.rejected prepared observed rejected))

theorem decides_settlement {prepared : PlannerAttemptPrepared T}
    {observed : PlannerAttemptObserved T} (decision : ReplayedPlannerDecision) :
    Decides (settlement boundary id prepared observed decision).1
      (some (settlement boundary id prepared observed decision).2) := by
  cases decision with
  | accepted proposalSha256 result => exact .accept prepared observed _
  | rejected rejection => exact .reject prepared observed _

variable (boundary inferencePolicy) in
/-- The attempt is decided by one more record. -/
def SettlesWithDecision (journal : InMemoryPlannerJournal T) (id : PlannerAttemptId) : Prop :=
  ∃ decision final projection,
    decision.attemptId = id ∧
    journal.retain boundary inferencePolicy decision = (.ok (), final) ∧
    final.projection boundary inferencePolicy = .ok projection ∧
    Decides decision projection[id]?

theorem settlesWithDecision {prepared : PlannerAttemptPrepared T}
    {observed : PlannerAttemptObserved T}
    (h : journal.projection boundary inferencePolicy = .ok projection)
    (hopen : projection[id]? = some (.observedPendingDecision prepared observed))
    (hroom : journal.records.length + 1 ≤ hardMaxActiveJournalRecords) :
    SettlesWithDecision boundary inferencePolicy journal id := by
  have hsettled := replay_settlement h hroom hopen
  refine ⟨_, _, _, attemptId_settlement, retain_eq_ok.mpr ⟨⟨_, hsettled⟩, rfl⟩, hsettled, ?_⟩
  rw [ExtTreeMap.getElem?_insert_self]
  exact decides_settlement _

/-- An attempt that is prepared is settled by any observation and a decision, if the journal has
room for two records; one that is observed by a decision, if it has room for one. -/
theorem prepared_attempt_settles
    (h : journal.projection boundary inferencePolicy = .ok projection) :
    (∀ prepared, projection[id]? = some (.reconciliationRequired prepared) →
      journal.records.length + 2 ≤ hardMaxActiveJournalRecords →
      ∀ observation, ∃ observed next,
        observed.attemptId = id ∧ observed.observation = observation ∧
        journal.retain boundary inferencePolicy (.observed observed) = (.ok (), next) ∧
        SettlesWithDecision boundary inferencePolicy next id) ∧
    (∀ prepared observed, projection[id]? = some (.observedPendingDecision prepared observed) →
      journal.records.length + 1 ≤ hardMaxActiveJournalRecords →
      SettlesWithDecision boundary inferencePolicy journal id) := by
  constructor
  · intro prepared hopen hroom observation
    have hobserved := replay_observed
      ⟨prepared.executionId, id, boundary.prepared prepared, observation⟩ h (by omega) hopen rfl rfl
      rfl
    refine ⟨_, _, rfl, rfl, retain_eq_ok.mpr ⟨⟨_, hobserved⟩, rfl⟩, ?_⟩
    refine settlesWithDecision hobserved ExtTreeMap.getElem?_insert_self ?_
    rw [List.length_append, List.length_singleton]
    exact hroom
  · intro prepared observed hopen hroom
    exact settlesWithDecision h hopen hroom

/-- A full journal retains nothing. -/
theorem retain_full (hfull : hardMaxActiveJournalRecords ≤ journal.records.length)
    (record : PlannerJournalRecord T) :
    (journal.retain boundary inferencePolicy record).1.isOk = false := by
  unfold InMemoryPlannerJournal.retain
  split
  · rfl
  · next projection hreplay =>
    have hlength := (replay_eq_ok.mp hreplay).2.1
    rw [List.length_append, List.length_singleton] at hlength
    omega

section Sample

def sampleUuid (n : ℕ) : Uuid := Fin.ofNat (2 ^ 128) n

def samplePreparations (n : ℕ) : List (PlannerJournalRecord sampleTypes) :=
  (List.range n).map fun k => .prepared (samplePreparation (sampleUuid k))

theorem sampleUuid_injective {m n : ℕ} (hm : m < 2 ^ 128) (hn : n < 2 ^ 128)
    (h : sampleUuid m = sampleUuid n) : m = n := by
  have hval : m % 2 ^ 128 = n % 2 ^ 128 := congrArg Fin.val h
  rwa [Nat.mod_eq_of_lt hm, Nat.mod_eq_of_lt hn] at hval

/-- The checks on a preparation do not read its identities. -/
theorem samplePreparation_valid (n : Uuid) : preparedIsInternallyValid sampleBoundary
    sampleInferencePolicy (samplePreparation n) = true := by
  change preparedIsInternallyValid sampleBoundary sampleInferencePolicy (samplePreparation 0) = true
  decide

theorem mem_draws_samplePreparations {n : ℕ} {token : BudgetReservationId ⊕ PlannerExecutionId} :
    token ∈ (samplePreparations n).flatMap draws ↔
      ∃ k < n, token = .inl ⟨sampleUuid k⟩ ∨ token = .inr ⟨sampleUuid k⟩ := by
  simp only [samplePreparations, List.mem_flatMap, List.mem_map, List.mem_range]
  constructor
  · rintro ⟨_, ⟨k, hk, rfl⟩, htoken⟩
    refine ⟨k, hk, ?_⟩
    rcases List.mem_cons.mp htoken with rfl | htoken
    · exact .inl rfl
    · exact .inr (List.mem_singleton.mp htoken)
  · rintro ⟨k, hk, rfl | rfl⟩
    · exact ⟨_, ⟨k, hk, rfl⟩, List.mem_cons_self⟩
    · exact ⟨_, ⟨k, hk, rfl⟩, List.mem_cons_of_mem _ (List.mem_singleton.mpr rfl)⟩

/-- Preparations with different identities fill a journal up to its cap. -/
theorem replay_samplePreparations (n : ℕ) (hn : n ≤ hardMaxActiveJournalRecords) :
    ∃ projection, replay sampleBoundary sampleInferencePolicy (samplePreparations n) =
        .ok projection ∧
      (∀ k < n, projection[(⟨sampleUuid k⟩ : PlannerAttemptId)]? =
        some (.reconciliationRequired (samplePreparation (sampleUuid k)))) ∧
      ∀ k < hardMaxActiveJournalRecords, n ≤ k →
        projection[(⟨sampleUuid k⟩ : PlannerAttemptId)]? = none := by
  have hdistinct : ∀ k < hardMaxActiveJournalRecords, ∀ m < hardMaxActiveJournalRecords,
      sampleUuid k = sampleUuid m → k = m := by
    intro k hk m hm
    exact sampleUuid_injective (hk.trans (by decide)) (hm.trans (by decide))
  induction n with
  | zero =>
    have hreplay : (replay sampleBoundary sampleInferencePolicy []).isOk = true := by
      decide
    obtain ⟨projection, hprojection⟩ := isOk_eq_true.mp hreplay
    obtain rfl : ∅ = projection := Except.ok.inj (Eq.trans (by decide) hprojection)
    exact ⟨∅, hprojection, fun k hk => absurd hk (Nat.not_lt_zero k),
      fun k _ _ => ExtTreeMap.getElem?_empty⟩
  | succ n ih =>
    obtain ⟨projection, hreplay, hprepared, hnone⟩ := ih (Nat.le_of_succ_le hn)
    have hnew := hnone n hn le_rfl
    have hsnoc : samplePreparations (n + 1) =
        samplePreparations n ++ [.prepared (samplePreparation (sampleUuid n))] := by
      simp [samplePreparations, List.range_succ]
    have hfresh : ∀ token ∈ draws (PlannerJournalRecord.prepared
        (samplePreparation (sampleUuid n))), token ∉ (samplePreparations n).flatMap draws := by
      intro token htoken hdrawn
      obtain ⟨k, hk, hcases⟩ := mem_draws_samplePreparations.mp hdrawn
      have huuid : sampleUuid k = sampleUuid n := by
        rcases List.mem_cons.mp htoken with rfl | htoken
        · rcases hcases with h | h
          · exact (congrArg UuidId.uuid (Sum.inl.inj h)).symm
          · cases h
        · rw [List.mem_singleton.mp htoken] at hcases
          rcases hcases with h | h
          · cases h
          · exact (congrArg UuidId.uuid (Sum.inr.inj h)).symm
      exact absurd (hdistinct k (hk.trans hn) n hn huuid) (Nat.ne_of_lt hk)
    have hlength : (samplePreparations n).length < hardMaxActiveJournalRecords := by
      rw [samplePreparations, List.length_map, List.length_range]
      exact hn
    have hadvance : advance sampleBoundary sampleInferencePolicy
        projection[(⟨sampleUuid n⟩ : PlannerAttemptId)]?
        (.prepared (samplePreparation (sampleUuid n))) = _ :=
      advance_prepared_eq_some.mpr ⟨⟨hnew, samplePreparation_valid _, rfl⟩, rfl⟩
    have hnext : replay sampleBoundary sampleInferencePolicy (samplePreparations n ++
        [.prepared (samplePreparation (sampleUuid n))]) = .ok _ :=
      replay_snoc hreplay hlength hadvance hfresh
    have hkeeps : ∀ k < hardMaxActiveJournalRecords, k ≠ n →
        (projection.insert (⟨sampleUuid n⟩ : PlannerAttemptId) (.reconciliationRequired
          (samplePreparation (sampleUuid n))))[(⟨sampleUuid k⟩ : PlannerAttemptId)]? =
          projection[(⟨sampleUuid k⟩ : PlannerAttemptId)]? := by
      intro k hk hkn
      rw [ExtTreeMap.getElem?_insert, if_neg]
      intro heq
      have huuid := congrArg UuidId.uuid (Std.compare_eq_iff_eq.mp heq)
      exact hkn (hdistinct k hk n hn huuid.symm)
    rw [hsnoc]
    refine ⟨_, hnext, fun k hk => ?_, fun k hk hnk => ?_⟩
    · rcases Nat.lt_succ_iff_lt_or_eq.mp hk with hlt | rfl
      · exact (hkeeps k (hlt.trans hn) (Nat.ne_of_lt hlt)).trans (hprepared k hlt)
      · exact ExtTreeMap.getElem?_insert_self
    · exact (hkeeps k hk (Nat.ne_of_gt hnk)).trans (hnone k hk (Nat.le_of_succ_le hnk))

def sampleJournal (n : ℕ) : InMemoryPlannerJournal sampleTypes := ⟨samplePreparations n⟩

theorem sampleJournal_spec {n : ℕ} (hn : n ≤ hardMaxActiveJournalRecords) :
    (sampleJournal n).records.length = n ∧ ∃ projection,
      (sampleJournal n).projection sampleBoundary sampleInferencePolicy = .ok projection ∧
      ∀ k < n, projection[(⟨sampleUuid k⟩ : PlannerAttemptId)]? =
        some (.reconciliationRequired (samplePreparation (sampleUuid k))) := by
  obtain ⟨projection, hreplay, hprepared, -⟩ := replay_samplePreparations n hn
  refine ⟨?_, projection, hreplay, hprepared⟩
  rw [sampleJournal, samplePreparations, List.length_map, List.length_range]

/-- Every attempt of a full journal is prepared, and no record can be appended. -/
theorem full_journal_strands_attempts : ∃ projection,
    (sampleJournal hardMaxActiveJournalRecords).projection sampleBoundary sampleInferencePolicy =
      .ok projection ∧
    (∀ k < hardMaxActiveJournalRecords, projection[(⟨sampleUuid k⟩ : PlannerAttemptId)]? =
      some (.reconciliationRequired (samplePreparation (sampleUuid k)))) ∧
    ∀ record, ((sampleJournal hardMaxActiveJournalRecords).retain sampleBoundary
      sampleInferencePolicy record).1.isOk = false := by
  obtain ⟨hlength, projection, hreplay, hprepared⟩ :=
    sampleJournal_spec (Nat.le_refl hardMaxActiveJournalRecords)
  exact ⟨projection, hreplay, hprepared, retain_full (Nat.le_of_eq hlength.symm)⟩

/-- The attempt of a journal with one preparation is settled by a response. -/
theorem prepared_attempt_settles_response : ∃ observed next,
    observed.attemptId = ⟨sampleUuid 0⟩ ∧ observed.observation = .response sampleResponse ∧
    (sampleJournal 1).retain sampleBoundary sampleInferencePolicy (.observed observed) =
      (.ok (), next) ∧
    SettlesWithDecision sampleBoundary sampleInferencePolicy next ⟨sampleUuid 0⟩ := by
  obtain ⟨hlength, projection, hreplay, hprepared⟩ :=
    sampleJournal_spec (n := 1) (by decide)
  exact (prepared_attempt_settles hreplay).1 _ (hprepared 0 Nat.one_pos) (by rw [hlength]; decide) _

end Sample

end BirdCode.Planner
