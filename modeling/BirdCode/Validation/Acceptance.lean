import BirdCode.Validation.Totals
import BirdCode.Validation.Fixtures

/-! What an accepted run is: every phase ended as the policy asks, no attempt failed, every check is
declared, passed and supported, and enough of them rest on mechanical evidence. -/
namespace BirdCode.Validation

open Std Lib

section Evidence

/-- The log holds what the evidence names, of a kind the requirement allows. -/
def Supports (records : List ProvenanceRecord) (requirement : CheckRequirement) :
    CheckEvidence → Prop
  | .artifact artifactId => ∃ artifact ∈ artifacts records, artifact.artifactId = artifactId ∧
      artifact.kind ∈ requirement.allowedArtifactKinds ∧
      (artifact.truncated = true → requirement.allowTruncatedArtifacts = true)
  | .attemptExit attemptId => ∃ finish ∈ finishes records, finish.attemptId = attemptId ∧
      ∃ exit ∈ finish.processExit, requirement.attemptExit.accepts exit = true

/-- The evidence is a process exit or an artifact that is neither a picture nor auxiliary. -/
def IsMechanical (records : List ProvenanceRecord) : CheckEvidence → Prop
  | .artifact artifactId => ∃ artifact ∈ artifacts records, artifact.artifactId = artifactId ∧
      artifact.kind.evidenceClass = some .primaryMechanical
  | .attemptExit attemptId => ∃ finish ∈ finishes records, finish.attemptId = attemptId ∧
      finish.processExit ≠ none

variable {hashing : Hashing} {run : RunProvenance} {records : List ProvenanceRecord}
  {checkId : CheckId} {requirement : CheckRequirement} {item : CheckEvidence}
  {evidenceClass : Option EvidenceClass}

theorem supports_of_judgeEvidence (h : Stepwise (Unobjectionable hashing run) records)
    (hjudge : judgeEvidence (absorbAll records) checkId requirement item = .ok evidenceClass) :
    Supports records requirement item ∧
      (evidenceClass = some .primaryMechanical → IsMechanical records item) := by
  cases item with
  | artifact artifactId =>
    simp only [judgeEvidence] at hjudge
    cases hfound : (absorbAll records).artifacts[artifactId]? with
    | none =>
      rw [hfound] at hjudge
      cases hjudge
    | some artifact =>
      obtain ⟨hmem, hid⟩ := (artifacts_eq_some h).mp hfound
      rw [hfound] at hjudge
      dsimp only at hjudge
      split at hjudge
      · cases hjudge
      · next hkind =>
        split at hjudge
        · cases hjudge
        · next htruncated =>
          injection hjudge with hclass
          rw [Bool.not_eq_false, ExtTreeSet.contains_iff_mem] at hkind
          refine ⟨⟨artifact, hmem, hid, hkind, ?_⟩, fun hmechanical => ⟨artifact, hmem, hid, ?_⟩⟩
          · intro htrue
            by_contra hdisallowed
            exact htruncated ⟨htrue, Bool.not_eq_true _ ▸ hdisallowed⟩
          · rw [hclass, hmechanical]
  | attemptExit attemptId =>
    simp only [judgeEvidence] at hjudge
    cases hfound : (absorbAll records).processExit attemptId with
    | none =>
      rw [hfound] at hjudge
      cases hjudge
    | some exit =>
      obtain ⟨finish, hmem, hid, hexit⟩ := (processExit_eq_some h).mp hfound
      rw [hfound] at hjudge
      dsimp only at hjudge
      split at hjudge
      · cases hjudge
      · next haccepts =>
        rw [Bool.not_eq_false] at haccepts
        refine ⟨⟨finish, hmem, hid, exit, hexit, haccepts⟩, fun _ => ⟨finish, hmem, hid, ?_⟩⟩
        rw [hexit]
        exact Option.some_ne_none exit

theorem nodup_of_duplicateEvidenceViolations {evidence : List CheckEvidence}
    (h : duplicateEvidenceViolations checkId evidence = []) : evidence.Nodup := by
  rw [List.nodup_iff_getElem?_ne_getElem?]
  intro i j hij hj heq
  rw [duplicateEvidenceViolations, List.flatten_eq_nil_iff] at h
  have hreport := h _ (List.mem_mapIdx.mpr ⟨j, hj, rfl⟩)
  rw [report_eq_nil] at hreport
  refine hreport (List.mem_iff_getElem?.mpr ⟨i, ?_⟩)
  rw [List.getElem?_take_of_lt hij, heq, List.getElem?_eq_getElem hj]

end Evidence

section Phases

/-- The outcome a phase requirement asks for. -/
def PhaseRequirement.outcome : PhaseRequirement → PhaseOutcome
  | .requiredSuccess => .succeeded
  | .declaredNotApplicable => .notApplicable

/-- Some attempt of a phase ended with an outcome. -/
def EndedWith (records : List ProvenanceRecord) (phase : ExecutionPhase) (outcome : PhaseOutcome) :
    Prop :=
  ∃ finish ∈ finishes records, finish.outcome = outcome ∧
    ∃ start ∈ starts records, start.attemptId = finish.attemptId ∧ start.phase = phase

theorem EndedWith.append {records : List ProvenanceRecord} {phase : ExecutionPhase}
    {outcome : PhaseOutcome} (h : EndedWith records phase outcome) (record : ProvenanceRecord) :
    EndedWith (records ++ [record]) phase outcome := by
  obtain ⟨finish, hfinish, houtcome, start, hstart, hid⟩ := h
  refine ⟨finish, ?_, houtcome, start, ?_, hid⟩
  · rw [finishes_concat]
    exact List.mem_append_left _ hfinish
  · rw [starts_concat]
    exact List.mem_append_left _ hstart

/-- The start the validator keeps of an attempt is one of the log. -/
theorem exists_start {records : List ProvenanceRecord} {attemptId : AttemptId}
    {kept : AttemptStart} (h : (absorbAll records).started[attemptId]? = some kept) :
    ∃ start ∈ starts records, start.attemptId = attemptId ∧ start.kept = kept := by
  rw [started_absorbAll] at h
  obtain ⟨start, hmem, heq⟩ := List.mem_map.mp (mem_of_getElem?_toMap h)
  obtain ⟨hid, hkept⟩ := Prod.mk.inj heq
  exact ⟨start, hmem, hid, hkept⟩

/-- The phases an event adds are those of an attempt it ends. -/
theorem phases_absorb (state : Collected) (record : ProvenanceRecord) (phase : ExecutionPhase) :
    (phase ∈ (state.absorb record).succeededPhases → phase ∈ state.succeededPhases ∨
      ∃ finish, record.event = .attemptFinished finish ∧ finish.outcome = .succeeded ∧
        ∃ kept, state.started[finish.attemptId]? = some kept ∧ kept.phase = phase) ∧
    (phase ∈ (state.absorb record).notApplicablePhases → phase ∈ state.notApplicablePhases ∨
      ∃ finish, record.event = .attemptFinished finish ∧ finish.outcome = .notApplicable ∧
        ∃ kept, state.started[finish.attemptId]? = some kept ∧ kept.phase = phase) := by
  unfold Collected.absorb
  cases record.event with
  | attemptStarted start => exact ⟨Or.inl, Or.inl⟩
  | artifactRecorded artifact => exact ⟨Or.inl, Or.inl⟩
  | checkRecorded check => exact ⟨Or.inl, Or.inl⟩
  | attemptFinished finish =>
    dsimp only [Collected.finish]
    split
    · exact ⟨Or.inl, Or.inl⟩
    · cases hstart : state.started[finish.attemptId]? with
      | none => exact ⟨Or.inl, Or.inl⟩
      | some kept =>
        simp only [Option.elim_some, Collected.endPhase]
        constructor
        · intro hphase
          split at hphase
          · next houtcome =>
            rw [ExtTreeSet.mem_insert, Std.compare_eq_iff_eq] at hphase
            rcases hphase with heq | hmem
            · exact Or.inr ⟨finish, rfl, houtcome, kept, hstart, heq⟩
            · exact Or.inl hmem
          · exact Or.inl hphase
        · intro hphase
          split at hphase
          · next houtcome =>
            rw [ExtTreeSet.mem_insert, Std.compare_eq_iff_eq] at hphase
            rcases hphase with heq | hmem
            · exact Or.inr ⟨finish, rfl, houtcome, kept, hstart, heq⟩
            · exact Or.inl hmem
          · exact Or.inl hphase

theorem endedWith_of_end {records : List ProvenanceRecord} {record : ProvenanceRecord}
    {finish : AttemptFinished} {kept : AttemptStart} (hevent : record.event = .attemptFinished finish)
    (hstart : (absorbAll records).started[finish.attemptId]? = some kept) :
    EndedWith (records ++ [record]) kept.phase finish.outcome := by
  obtain ⟨start, hmem, hid, rfl⟩ := exists_start hstart
  refine ⟨finish, ?_, rfl, start, ?_, hid, rfl⟩
  · rw [finishes_concat, finishOf_eq_some.mpr hevent]
    exact List.mem_append_right _ (List.mem_singleton.mpr rfl)
  · rw [starts_concat]
    exact List.mem_append_left _ hmem

theorem endedWith_of_mem (records : List ProvenanceRecord) (phase : ExecutionPhase) :
    (phase ∈ (absorbAll records).succeededPhases → EndedWith records phase .succeeded) ∧
    (phase ∈ (absorbAll records).notApplicablePhases → EndedWith records phase .notApplicable) := by
  induction records using List.reverseRecOn with
  | nil => exact ⟨fun h => absurd h ExtTreeSet.not_mem_empty, fun h => absurd h ExtTreeSet.not_mem_empty⟩
  | append_singleton records record ih =>
    rw [absorbAll_concat]
    obtain ⟨hsucceeded, hnotApplicable⟩ := phases_absorb (absorbAll records) record phase
    constructor
    · intro hphase
      rcases hsucceeded hphase with hbefore | ⟨finish, hevent, houtcome, kept, hkept, rfl⟩
      · exact (ih.1 hbefore).append record
      · rw [← houtcome]
        exact endedWith_of_end hevent hkept
    · intro hphase
      rcases hnotApplicable hphase with hbefore | ⟨finish, hevent, houtcome, kept, hkept, rfl⟩
      · exact (ih.2 hbefore).append record
      · rw [← houtcome]
        exact endedWith_of_end hevent hkept

theorem endedWith_of_requirementMet {records : List ProvenanceRecord} {phase : ExecutionPhase}
    {requirement : PhaseRequirement}
    (h : requirementMet (absorbAll records) phase requirement = true) :
    EndedWith records phase requirement.outcome := by
  cases requirement with
  | requiredSuccess =>
    exact (endedWith_of_mem records phase).1 (ExtTreeSet.contains_iff_mem.mp h)
  | declaredNotApplicable =>
    exact (endedWith_of_mem records phase).2 (ExtTreeSet.contains_iff_mem.mp h)

end Phases

section Accepted

/-- A check that passed on mechanical evidence. -/
structure PassesMechanically (records : List ProvenanceRecord) (check : ValidationCheck) : Prop where
  recorded : check ∈ checks records
  passed : check.outcome = .passed
  kind : check.kind ≠ .visual
  evidence : ∃ item ∈ check.evidence, IsMechanical records item

/-- A check that its policy declares, with the declared kind, and that passed on distinct evidence the
log holds and the policy allows. -/
structure CheckAccepted (records : List ProvenanceRecord) (policy : ValidationPolicy)
    (check : ValidationCheck) (requirement : CheckRequirement) : Prop where
  declared : policy.checkRequirements[check.checkId]? = some requirement
  kind : check.kind = requirement.expectedKind
  passed : check.outcome = .passed
  distinct : check.evidence.Nodup
  supported : ∀ item ∈ check.evidence, Supports records requirement item
  enough : requirement.minimumEvidenceItems.toNat ≤ check.evidence.length

/-- What acceptance of a run by a policy says of the log. -/
structure RunAccepted (hashing : Hashing) (run : RunProvenance) (policy : ValidationPolicy) :
    Prop where
  phases : ∀ phase, ∃ requirement, policy.phaseRequirements[phase]? = some requirement ∧
    EndedWith run.records phase requirement.outcome
  outcomes : ∀ finish ∈ finishes run.records,
    finish.outcome = .succeeded ∨ finish.outcome = .notApplicable
  required : ∀ checkId ∈ policy.checkRequirements, ∃ check ∈ checks run.records,
    check.checkId = checkId
  checked : ∀ check ∈ checks run.records, ∃ requirement,
    CheckAccepted run.records policy check requirement
  minimum : policy.minimumPrimaryPasses ≠ 0
  primary : ∃ passes : List ValidationCheck, (passes.map ValidationCheck.checkId).Nodup ∧
    policy.minimumPrimaryPasses.toNat ≤ passes.length ∧
    ∀ check ∈ passes, PassesMechanically run.records check
  bounds : RunWithinBounds run
  chain : OneChain hashing run

variable {hashing : Hashing} {run : RunProvenance} {policy : ValidationPolicy}

theorem violations_eq_nil_of_accepted (h : (validate hashing run policy).isAccepted = true) :
    validationViolations hashing run policy = [] ∧
      ∀ outcome ∈ finishedOutcomes run.records, failedOutcome outcome = false ∧ outcome ≠ .cancelled := by
  simp only [ValidationReport.isAccepted, validate] at h
  split at h
  · next hverdict =>
    simp only [deriveVerdict] at hverdict
    split at hverdict
    · cases hverdict
    split at hverdict
    · cases hverdict
    next hfailed =>
    split at hverdict
    · cases hverdict
    next hcancelled =>
    split at hverdict
    · cases hverdict
    split at hverdict
    · next hempty =>
      refine ⟨List.isEmpty_iff.mp hempty, ?_⟩
      intro outcome hmem
      rw [not_or, Bool.not_eq_true, List.any_eq_false] at hfailed
      refine ⟨Bool.not_eq_true _ ▸ hfailed.1 outcome hmem, ?_⟩
      rintro rfl
      exact hcancelled (List.contains_iff_mem.mpr hmem)
    · cases hverdict
  · cases h

theorem mem_finishedOutcomes {records : List ProvenanceRecord} {finish : AttemptFinished}
    (h : finish ∈ finishes records) : finish.outcome ∈ finishedOutcomes records := by
  obtain ⟨record, hmem, hevent⟩ := mem_finishes.mp h
  refine List.mem_filterMap.mpr ⟨record, hmem, ?_⟩
  rw [hevent]

theorem outcome_of_not_failed {outcome : PhaseOutcome} (hfailed : failedOutcome outcome = false)
    (hcancelled : outcome ≠ .cancelled) : outcome = .succeeded ∨ outcome = .notApplicable := by
  cases outcome <;> simp_all [failedOutcome]

theorem phases_accepted (hheader : policyViolations policy run.bounds = [])
    (hphases : validatePhaseCoverage policy (absorbAll run.records) = []) (phase : ExecutionPhase) :
    ∃ requirement, policy.phaseRequirements[phase]? = some requirement ∧
      EndedWith run.records phase requirement.outcome := by
  simp only [policyViolations, collect_eq_nil, List.forall_mem_cons, List.flatMap_eq_nil_iff,
    report_eq_nil, Bool.not_eq_false] at hheader
  have hcontains := hheader.2.1 phase (mem_executionPhases phase)
  rw [ExtTreeMap.contains_eq_isSome_getElem?, Option.isSome_iff_exists] at hcontains
  obtain ⟨requirement, hrequirement⟩ := hcontains
  refine ⟨requirement, hrequirement, ?_⟩
  have hcoverage := List.flatMap_eq_nil_iff.mp hphases phase (mem_executionPhases phase)
  split at hcoverage
  · cases hcoverage
  · rw [hrequirement, Option.elim_some, report_eq_nil, Bool.not_eq_false] at hcoverage
    exact endedWith_of_requirementMet hcoverage

/-- Evidence that leaves no violation is judged well, item by item. -/
theorem judged_of_evidenceViolations {state : Collected} {check : ValidationCheck}
    {requirement : CheckRequirement} {item : CheckEvidence}
    (h : evidenceViolations state check requirement = []) (hmem : item ∈ check.evidence) :
    ∃ evidenceClass, judgeEvidence state check.checkId requirement item = .ok evidenceClass := by
  have hitem := List.flatMap_eq_nil_iff.mp h item hmem
  cases hjudge : judgeEvidence state check.checkId requirement item with
  | ok evidenceClass => exact ⟨evidenceClass, rfl⟩
  | error violation =>
    rw [hjudge] at hitem
    cases hitem

theorem required_accepted (hlog : Stepwise (Unobjectionable hashing run) run.records)
    (hpolicy : validatePolicy (absorbAll run.records) policy = []) {checkId : CheckId}
    (hmem : checkId ∈ policy.checkRequirements) :
    ∃ check ∈ checks run.records, check.checkId = checkId ∧ check.outcome = .passed := by
  simp only [validatePolicy, collect_eq_nil, List.forall_mem_cons, List.flatMap_eq_nil_iff] at hpolicy
  have hrequired := hpolicy.1 checkId (ExtTreeMap.mem_keys.mpr hmem)
  cases hfound : (absorbAll run.records).checks[checkId]? with
  | none =>
    rw [hfound] at hrequired
    cases hrequired
  | some check =>
    rw [hfound, report_eq_nil, not_not] at hrequired
    obtain ⟨hrecorded, hid⟩ := (checks_eq_some hlog).mp hfound
    exact ⟨check, hrecorded, hid, hrequired⟩

theorem check_accepted (hlog : Stepwise (Unobjectionable hashing run) run.records)
    (hchecks : validateChecks (absorbAll run.records) policy = [])
    (hpolicy : validatePolicy (absorbAll run.records) policy = []) {check : ValidationCheck}
    (hmem : check ∈ checks run.records) :
    ∃ requirement, CheckAccepted run.records policy check requirement := by
  have hcheck := List.flatMap_eq_nil_iff.mp hchecks check ((checks_perm hlog).mem_iff.mpr hmem)
  cases hrequirement : policy.checkRequirements[check.checkId]? with
  | none =>
    rw [hrequirement] at hcheck
    cases hcheck
  | some requirement =>
    rw [hrequirement] at hcheck
    simp only [declaredCheckViolations, collect_eq_nil, List.forall_mem_cons, report_eq_nil,
      not_not] at hcheck
    obtain ⟨hduplicates, hkind, -, hevidence, -, hcount, -⟩ := hcheck
    have hdistinct := nodup_of_duplicateEvidenceViolations hduplicates
    refine ⟨requirement, hrequirement, hkind, ?_, hdistinct, ?_, ?_⟩
    · have hdeclared : check.checkId ∈ policy.checkRequirements := by
        rw [ExtTreeMap.mem_iff_isSome_getElem?, hrequirement]
        rfl
      obtain ⟨other, hother, hid, hpassed⟩ := required_accepted hlog hpolicy hdeclared
      have hsame : other = check :=
        List.inj_on_of_nodup_map (nodup_checks hlog) hother hmem hid
      rwa [← hsame]
    · intro item hitem
      obtain ⟨evidenceClass, hjudge⟩ := judged_of_evidenceViolations hevidence hitem
      exact (supports_of_judgeEvidence hlog hjudge).1
    · have hqualifying : qualifyingEvidence (absorbAll run.records) check requirement =
          check.evidence := by
        have hall : (check.evidence.filter fun item => (judgeEvidence (absorbAll run.records)
            check.checkId requirement item).isOk) = check.evidence := by
          refine List.filter_eq_self.mpr ?_
          intro item hitem
          obtain ⟨evidenceClass, hjudge⟩ := judged_of_evidenceViolations hevidence hitem
          rw [hjudge]
          rfl
        rw [qualifyingEvidence, hall, hdistinct.dedup]
      rw [hqualifying] at hcount
      unfold asU32 at hcount
      omega

theorem primary_accepted (hlog : Stepwise (Unobjectionable hashing run) run.records)
    (hpolicy : validatePolicy (absorbAll run.records) policy = []) :
    ∃ passes : List ValidationCheck, (passes.map ValidationCheck.checkId).Nodup ∧
      policy.minimumPrimaryPasses.toNat ≤ passes.length ∧
      ∀ check ∈ passes, PassesMechanically run.records check := by
  simp only [validatePolicy, collect_eq_nil, List.forall_mem_cons, report_eq_nil] at hpolicy
  refine ⟨primaryPasses (absorbAll run.records) policy, ?_, ?_, ?_⟩
  · have hnodup : ((mapValues (absorbAll run.records).checks).map ValidationCheck.checkId).Nodup :=
      ((checks_perm hlog).map _).nodup_iff.mpr (nodup_checks hlog)
    exact hnodup.sublist (List.filter_sublist.map _)
  · have hcount := hpolicy.2.1
    unfold asU32 at hcount
    omega
  · intro check hmem
    obtain ⟨hvalue, hpasses⟩ := List.mem_filter.mp hmem
    simp only [Bool.and_eq_true, decide_eq_true_eq] at hpasses
    obtain ⟨⟨hpassed, hclass⟩, hsatisfied⟩ := hpasses
    refine ⟨(checks_perm hlog).mem_iff.mp hvalue, hpassed, ?_, ?_⟩
    · intro hvisual
      rw [hvisual] at hclass
      cases hclass
    · unfold checkSatisfiesRequirement at hsatisfied
      cases hrequirement : policy.checkRequirements[check.checkId]? with
      | none =>
        rw [hrequirement] at hsatisfied
        cases hsatisfied
      | some requirement =>
        rw [hrequirement] at hsatisfied
        dsimp only at hsatisfied
        split at hsatisfied
        · cases hsatisfied
        split at hsatisfied
        · cases hsatisfied
        obtain ⟨item, hitem, hmechanical⟩ := List.any_eq_true.mp hsatisfied
        rw [decide_eq_true_eq] at hmechanical
        cases hjudge : judgeEvidence (absorbAll run.records) check.checkId requirement item with
        | error violation =>
          rw [hjudge] at hmechanical
          cases hmechanical
        | ok evidenceClass =>
          rw [hjudge] at hmechanical
          exact ⟨item, List.mem_dedup.mp hitem,
            (supports_of_judgeEvidence hlog hjudge).2 (Option.some.inj hmechanical)⟩

/-- A run is accepted only if it is all that acceptance says: its phases, its attempts, its checks and
their evidence, its totals and its chain. -/
theorem validate_accepted (h : (validate hashing run policy).isAccepted = true) :
    RunAccepted hashing run policy := by
  obtain ⟨hviolations, houtcomes⟩ := violations_eq_nil_of_accepted h
  simp only [validationViolations, collect_eq_nil, List.forall_mem_cons, validateHeader,
    List.append_eq_nil_iff, collectRecords_fst, collectRecords_snd_eq_nil] at hviolations
  obtain ⟨⟨hheader, hdeclared⟩, hlog, htotals, -, hphases, hartifacts, -, hchecks, hpolicy, -⟩ :=
    hviolations
  simp only [headerViolations, collect_eq_nil, List.forall_mem_cons] at hheader
  have hbounds := runWithinBounds hlog hheader.2.2.2.2.2.2.2.2.1 htotals hartifacts
  refine ⟨phases_accepted hdeclared hphases, ?_, ?_, ?_, ?_, primary_accepted hlog hpolicy, hbounds, ?_⟩
  · intro finish hfinish
    obtain ⟨hfailed, hcancelled⟩ := houtcomes _ (mem_finishedOutcomes hfinish)
    exact outcome_of_not_failed hfailed hcancelled
  · intro checkId hmem
    obtain ⟨check, hcheck, hid, -⟩ := required_accepted hlog hpolicy hmem
    exact ⟨check, hcheck, hid⟩
  · intro check hcheck
    exact check_accepted hlog hchecks hpolicy hcheck
  · simp only [policyViolations, collect_eq_nil, List.forall_mem_cons, report_eq_nil] at hdeclared
    exact hdeclared.1
  · refine chained_of_unobjectionable hlog ?_
    have hcount := hbounds.recordCount
    have hmax := run.bounds.maxRecords.toNat_lt
    omega

theorem validate_accepted_sample : RunAccepted sampleHashing acceptedRun samplePolicy :=
  validate_accepted (by decide +kernel)

/-- The sample run under the largest bounds on time, every attempt of which took all of it. -/
def saturatedRun : RunProvenance :=
  sampleRun { defaultBounds with
    maxTotalElapsedMs := 18446744073709551615
    maxTimeoutMs := 18446744073709551615 } 18446744073709551615 18446744073709551615
    (.artifact (sampleId .artifact 1))

/-- The saturated total of the times fits the largest bound, which the times together exceed. -/
theorem saturated_accepted : (validate sampleHashing saturatedRun samplePolicy).isAccepted = true ∧
    saturatedRun.bounds.maxTotalElapsedMs.toNat <
      ((finishes saturatedRun.records).map fun finish => finish.elapsedMs.toNat).sum := by
  decide +kernel

end Accepted

end BirdCode.Validation
