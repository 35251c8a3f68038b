import BirdCode.Validation.Sealing

/-! What a run whose report has no structural violation is. Every violation of a record is structural, so
its log is free of violations altogether. -/
namespace BirdCode.Validation

open Std Lib

section Structural

/-- Each of the violations is structural. -/
def AllStructural (violations : List ValidationViolation) : Prop :=
  ∀ violation ∈ violations, isStructuralViolation violation = true

theorem allStructural_nil : AllStructural [] := List.forall_mem_nil _

theorem allStructural_report {condition : Prop} [Decidable condition]
    {violation : ValidationViolation} (h : isStructuralViolation violation = true) :
    AllStructural (report condition violation) := by
  intro other hmem
  rw [(mem_report.mp hmem).2, h]

theorem allStructural_append {left right : List ValidationViolation} (hleft : AllStructural left)
    (hright : AllStructural right) : AllStructural (left ++ right) :=
  List.forall_mem_append.mpr ⟨hleft, hright⟩

theorem allStructural_collect {passes : List (List ValidationViolation)} :
    AllStructural (collect passes) ↔ ∀ pass ∈ passes, AllStructural pass := by
  unfold AllStructural collect
  simp only [List.mem_flatten]
  exact ⟨fun h pass hpass violation hmem => h violation ⟨pass, hpass, hmem⟩,
    fun h violation ⟨pass, hpass, hmem⟩ => h pass hpass violation hmem⟩

theorem allStructural_mapIdx {A : Type} {items : List A} {f : ℕ → A → List ValidationViolation}
    (h : ∀ position item, AllStructural (f position item)) :
    AllStructural (items.mapIdx f).flatten := by
  intro violation hmem
  obtain ⟨pass, hpass, hviolation⟩ := List.mem_flatten.mp hmem
  obtain ⟨position, hposition, rfl⟩ := List.mem_mapIdx.mp hpass
  exact h _ _ violation hviolation

theorem allStructural_elim {A : Type} {option : Option A} {f : A → List ValidationViolation}
    (h : ∀ item, AllStructural (f item)) : AllStructural (option.elim [] f) := by
  cases option with
  | none => exact allStructural_nil
  | some item => exact h item

theorem eq_nil_of_structural {violations : List ValidationViolation} (h : AllStructural violations)
    (hnone : OnlyJudgements violations) : violations = [] := by
  rw [List.eq_nil_iff_forall_not_mem]
  intro violation hmem
  have hstructural := h violation hmem
  rw [hnone violation hmem] at hstructural
  cases hstructural

/-- A structural violation that is not reported did not hold. -/
theorem not_of_onlyJudgements {condition : Prop} [Decidable condition]
    {violation : ValidationViolation} (hnone : OnlyJudgements (report condition violation))
    (h : isStructuralViolation violation = true) : ¬condition :=
  report_eq_nil.mp (eq_nil_of_structural (allStructural_report h) hnone)

end Structural

section Records

theorem validateCommand_structural (attemptId : AttemptId) (command : CommandSpec)
    (bounds : ExecutionBounds) (encoding : Option NativeEncoding) :
    AllStructural (validateCommand attemptId command bounds encoding) := by
  have hpath (path : NativeArgument) (component : CommandComponent) :
      AllStructural (validatePath attemptId path component) := by
    simp only [validatePath, allStructural_collect, List.forall_mem_cons]
    exact ⟨allStructural_report rfl, allStructural_report rfl, List.forall_mem_nil _⟩
  simp only [validateCommand, allStructural_collect, List.forall_mem_cons]
  refine ⟨hpath _ _, allStructural_report rfl, allStructural_report rfl, hpath _ _,
    allStructural_report rfl, allStructural_report rfl, allStructural_report rfl, ?_,
    allStructural_report rfl, allStructural_report rfl, ?_, allStructural_report rfl,
    allStructural_report rfl, allStructural_report rfl, allStructural_report rfl,
    List.forall_mem_nil _⟩
  · refine allStructural_mapIdx fun position argument => ?_
    simp only [argumentViolations, allStructural_collect, List.forall_mem_cons]
    exact ⟨allStructural_report rfl, allStructural_report rfl, List.forall_mem_nil _⟩
  · refine allStructural_mapIdx fun position entry => ?_
    simp only [environmentEntryViolations, validateNativeValue, allStructural_collect,
      List.forall_mem_cons]
    exact ⟨allStructural_report rfl, allStructural_report rfl, allStructural_report rfl,
      ⟨allStructural_report rfl, allStructural_report rfl, List.forall_mem_nil _⟩,
      allStructural_report rfl, allStructural_report rfl, allStructural_report rfl,
      List.forall_mem_nil _⟩

theorem startViolations_structural (header : RunHeader) (state : Collected)
    (start : AttemptStarted) : AllStructural (startViolations header state start) := by
  simp only [startViolations, allStructural_collect, List.forall_mem_cons]
  refine ⟨?_, allStructural_elim fun parent => allStructural_report rfl, allStructural_report rfl,
    allStructural_report rfl, allStructural_elim fun command => validateCommand_structural _ _ _ _,
    List.forall_mem_nil _⟩
  refine allStructural_elim fun previous => ?_
  split
  · simp [AllStructural, isStructuralViolation]
  · exact allStructural_report rfl

theorem finishViolations_structural (state : Collected) (sequence : UInt64)
    (finish : AttemptFinished) : AllStructural (finishViolations state sequence finish) := by
  simp only [finishViolations, allStructural_collect, List.forall_mem_cons]
  exact ⟨allStructural_report rfl, allStructural_report rfl, allStructural_report rfl,
    allStructural_report rfl, allStructural_elim fun exit => allStructural_report rfl,
    allStructural_elim fun kept => allStructural_report rfl, List.forall_mem_nil _⟩

theorem validateArtifact_structural (artifact : ArtifactRecord) (bounds : ExecutionBounds) :
    AllStructural (validateArtifact artifact bounds) := by
  simp only [validateArtifact, allStructural_collect, List.forall_mem_cons]
  refine ⟨allStructural_report rfl, allStructural_report rfl, allStructural_report rfl,
    allStructural_report rfl, allStructural_report rfl, ?_, List.forall_mem_nil _⟩
  split
  · exact allStructural_nil
  · exact allStructural_report rfl

theorem eventViolations_structural (header : RunHeader) (state : Collected)
    (record : ProvenanceRecord) : AllStructural (eventViolations header state record) := by
  unfold eventViolations
  cases record.event with
  | attemptStarted start => exact startViolations_structural _ _ _
  | attemptFinished finish => exact finishViolations_structural _ _ _
  | artifactRecorded artifact =>
    simp only [allStructural_collect, List.forall_mem_cons]
    exact ⟨allStructural_report rfl, allStructural_report rfl, validateArtifact_structural _ _,
      List.forall_mem_nil _⟩
  | checkRecorded check =>
    simp only [allStructural_collect, List.forall_mem_cons]
    exact ⟨allStructural_report rfl, allStructural_report rfl, List.forall_mem_nil _⟩

theorem recordViolations_structural (hashing : Hashing) (run : RunProvenance)
    (before : List ProvenanceRecord) (record : ProvenanceRecord) :
    AllStructural (recordViolations hashing run before record) := by
  refine allStructural_append ?_ (eventViolations_structural _ _ _)
  simp only [chainViolations, allStructural_collect, List.forall_mem_cons]
  exact ⟨allStructural_report rfl, allStructural_report rfl, allStructural_report rfl,
    allStructural_report rfl, List.forall_mem_nil _⟩

end Records

variable {hashing : Hashing} {run : RunProvenance} {policy : ValidationPolicy}

section Clean

/-- The log holds what a piece of evidence names, whatever is to be thought of it. -/
def Held (records : List ProvenanceRecord) : CheckEvidence → Prop
  | .artifact artifactId => artifactId ∈ (artifacts records).map ArtifactRecord.artifactId
  | .attemptExit attemptId => attemptId ∈ (starts records).map AttemptStarted.attemptId

instance (records : List ProvenanceRecord) (item : CheckEvidence) : Decidable (Held records item) := by
  cases item <;> exact inferInstanceAs (Decidable (_ ∈ _))

/-- A run without structural violations. -/
structure Clean (hashing : Hashing) (run : RunProvenance) (policy : ValidationPolicy) : Prop where
  context : computeRunContextHash hashing run.toRunHeader = run.runContextSha256
  log : Stepwise (Unobjectionable hashing run) run.records
  recordCount : run.records.length < 2 ^ 64
  nonempty : run.records ≠ []
  ended : ∀ start ∈ starts run.records, ∃ finish ∈ finishes run.records,
    finish.attemptId = start.attemptId
  checkCount : policy.checkRequirements.size < 2 ^ 32
  held : ∀ check ∈ checks run.records, check.checkId ∈ policy.checkRequirements →
    ∀ item ∈ check.evidence, Held run.records item

theorem Clean.chain (h : Clean hashing run policy) : OneChain hashing run :=
  chained_of_unobjectionable h.log h.recordCount

/-- The evidence of a declared check that the log does not hold is a structural violation. -/
theorem held_of_onlyJudgements (hlog : Stepwise (Unobjectionable hashing run) run.records)
    (h : OnlyJudgements (validateChecks (absorbAll run.records) policy)) {check : ValidationCheck}
    (hmem : check ∈ checks run.records) (hdeclared : check.checkId ∈ policy.checkRequirements)
    {item : CheckEvidence} (hitem : item ∈ check.evidence) : Held run.records item := by
  have hvalue := onlyJudgements_flatMap.mp h check ((checks_perm hlog).mem_iff.mpr hmem)
  rw [ExtTreeMap.mem_iff_isSome_getElem?, Option.isSome_iff_exists] at hdeclared
  obtain ⟨requirement, hrequirement⟩ := hdeclared
  rw [hrequirement] at hvalue
  simp only [declaredCheckViolations, onlyJudgements_collect, List.forall_mem_cons] at hvalue
  obtain ⟨-, -, -, hevidence, -⟩ := hvalue
  have hjudged := onlyJudgements_flatMap.mp hevidence _ hitem
  cases item with
  | artifact artifactId =>
    cases hfound : (absorbAll run.records).artifacts[artifactId]? with
    | none =>
      simp only [judgeEvidence, hfound] at hjudged
      cases hjudged _ (List.mem_singleton.mpr rfl)
    | some artifact =>
      obtain ⟨hrecorded, rfl⟩ := (artifacts_eq_some hlog).mp hfound
      exact List.mem_map_of_mem hrecorded
  | attemptExit attemptId =>
    cases hexit : (absorbAll run.records).processExit attemptId with
    | none =>
      simp only [judgeEvidence, hexit] at hjudged
      cases hjudged _ (List.mem_singleton.mpr rfl)
    | some exit =>
      obtain ⟨finish, hfinish, rfl, -⟩ := (processExit_eq_some hlog).mp hexit
      obtain ⟨record, hrecord, hevent⟩ := mem_finishes.mp hfinish
      obtain ⟨before, after, heq, hsound⟩ := hlog.of_mem hrecord
      obtain ⟨start, hstart, hid⟩ := List.mem_map.mp (hsound.ofFinish hevent).1
      refine List.mem_map.mpr ⟨start, ?_, hid⟩
      rw [heq, starts, List.filterMap_append]
      exact List.mem_append_left _ hstart

theorem ended_of_attemptCompletion
    (h : OnlyJudgements (validateAttemptCompletion (absorbAll run.records))) {start : AttemptStarted}
    (hmem : start ∈ starts run.records) :
    ∃ finish ∈ finishes run.records, finish.attemptId = start.attemptId := by
  have hkey : start.attemptId ∈ (absorbAll run.records).started.keys := by
    rw [started_absorbAll, ExtTreeMap.mem_keys, mem_toMap, List.map_map]
    exact List.mem_map_of_mem hmem
  have hfinished := not_of_onlyJudgements (onlyJudgements_flatMap.mp h _ hkey) rfl
  rw [Bool.not_eq_false, finished_absorbAll, contains_toMap, List.map_map] at hfinished
  exact List.mem_map.mp hfinished

theorem clean_of_validate (h : (validate hashing run policy).hasStructuralViolations = false) :
    Clean hashing run policy := by
  rw [hasStructuralViolations_eq_false] at h
  simp only [validationViolations, onlyJudgements_collect, List.forall_mem_cons, validateHeader,
    collectRecords_fst] at h
  obtain ⟨hheader, hrecords, htotals, hcompletion, hphases, -, -, hchecks, -⟩ := h
  have hown : OnlyJudgements (headerViolations hashing run policy) :=
    fun violation hmem => hheader violation (List.mem_append_left _ hmem)
  have hpolicy : OnlyJudgements (policyViolations policy run.bounds) :=
    fun violation hmem => hheader violation (List.mem_append_right _ hmem)
  simp only [headerViolations, onlyJudgements_collect, List.forall_mem_cons] at hown
  simp only [policyViolations, onlyJudgements_collect, List.forall_mem_cons] at hpolicy
  simp only [validateExecutionTotals, onlyJudgements_collect, List.forall_mem_cons] at htotals
  have hlog : Stepwise (Unobjectionable hashing run) run.records :=
    (forall_mem_collectRecords_snd.mp hrecords).imp fun before record hrecord =>
      recordViolations_eq_nil.mp
        (eq_nil_of_structural (recordViolations_structural hashing run before record) hrecord)
  refine ⟨?_, hlog, ?_, ?_, ?_, ?_, ?_⟩
  · exact not_not.mp (not_of_onlyJudgements hown.2.2.2.2.2.1 rfl)
  · have hcount := asU64_le.mp (not_of_onlyJudgements htotals.1 rfl)
    have hmax := run.bounds.maxRecords.toNat_lt
    omega
  · intro hempty
    rw [hempty] at hphases
    have hprepare := onlyJudgements_flatMap.mp hphases _ (mem_executionPhases .prepare)
    cases hprepare (.missingPhaseTerminal .prepare) List.mem_cons_self
  · intro start hmem
    exact ended_of_attemptCompletion hcompletion hmem
  · have hsize := asU64_le.mp (not_of_onlyJudgements hpolicy.2.2.2.2.1 rfl)
    have hmax := run.bounds.maxChecks.toNat_lt
    omega
  · intro check hmem hdeclared item hitem
    exact held_of_onlyJudgements hlog hchecks hmem hdeclared hitem

/-- What a successful seal retains. -/
theorem sealRun_eq_ok {sealed : SealedRunProvenance} (h : sealRun hashing run policy = .ok sealed) :
    (validate hashing run policy).hasStructuralViolations = false ∧
      ∃ terminal, run.records.getLast? = some terminal ∧
        sealed = {
          provenance := run
          policy
          report := validate hashing run policy
          terminalSequence := terminal.sequence
          terminalRecordSha256 := terminal.recordSha256
          reportSha256 := hashing.sha256 (hashing.reportJson (validate hashing run policy))
          sealedRunSha256 := computeSealHash hashing (sealMaterial hashing run policy terminal
            (hashing.sha256 (hashing.reportJson (validate hashing run policy)))) } := by
  unfold sealRun at h
  dsimp only at h
  split at h
  · cases h
  · next hclean =>
    split at h
    · cases h
    · next terminal hterminal =>
      injection h with hsealed
      exact ⟨Bool.not_eq_true _ ▸ hclean, terminal, hterminal, hsealed.symm⟩

end Clean

end BirdCode.Validation
