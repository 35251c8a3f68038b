import BirdCode.Validation.Acceptance
import BirdCode.Validation.Appending

/-! Runs built by appending, and whether they can be sealed. A refused append changes nothing, and a
complete run is sealed unless a declared check cites the process exit of an attempt that had none. -/
namespace BirdCode.Validation

open Std Lib

variable {hashing : Hashing} {run after : RunProvenance} {policy : ValidationPolicy}
  {records : List ProvenanceRecord} {record : ProvenanceRecord}

section Appends

/-- Built from `with_run_id` by appends that succeeded. -/
inductive Built (hashing : Hashing) : RunProvenance → Prop
  | fresh (runId : RunId) (candidateId : CandidateId) (evaluationCaseId : EvaluationCaseId)
      (target : ExecutionTarget) (bounds : ExecutionBounds) (environment : EnvironmentSnapshot)
      (manifest : RunContextManifest) :
      Built hashing
        (withRunId hashing runId candidateId evaluationCaseId target bounds environment manifest)
  | append {run after : RunProvenance} {observedAtUnixMs : UInt64} {event : ProvenanceEvent}
      {record : ProvenanceRecord} (h : Built hashing run)
      (hstep : append hashing run observedAtUnixMs event = (.ok record, after)) : Built hashing after

theorem append_cases (hashing : Hashing) (run : RunProvenance) (observedAtUnixMs : UInt64)
    (event : ProvenanceEvent) :
    (∃ error, append hashing run observedAtUnixMs event = (.error error, run)) ∨
      ∃ record, append hashing run observedAtUnixMs event =
          (.ok record, { run with records := run.records ++ [record] }) ∧
        isAppendablePrefix hashing { run with records := run.records ++ [record] } = true := by
  unfold append
  split
  · exact Or.inl ⟨_, rfl⟩
  · split
    · exact Or.inl ⟨_, rfl⟩
    · next sequence =>
      dsimp only
      split
      · rw [List.dropLast_concat]
        exact Or.inl ⟨_, rfl⟩
      · next happendable =>
        rw [List.getLast?_concat]
        exact Or.inr ⟨_, rfl, Bool.not_eq_false _ ▸ happendable⟩

/-- A refused append leaves the log as it was. -/
theorem append_refused {observedAtUnixMs : UInt64} {event : ProvenanceEvent} {error : AppendError}
    (h : append hashing run observedAtUnixMs event = (.error error, after)) : after = run := by
  rcases append_cases hashing run observedAtUnixMs event with ⟨_, hcase⟩ | ⟨_, hcase, _⟩
  · rw [hcase] at h
    exact (Prod.mk.inj h).2.symm
  · rw [hcase] at h
    cases (Prod.mk.inj h).1

theorem Built.appendable (h : Built hashing run) (hne : run.records ≠ []) :
    isAppendablePrefix hashing run = true := by
  cases h with
  | fresh => exact absurd rfl hne
  | append h hstep =>
    rename_i before observedAtUnixMs event record
    rcases append_cases hashing before observedAtUnixMs event with ⟨_, hcase⟩ | ⟨_, hcase, happendable⟩
    · rw [hcase] at hstep
      cases (Prod.mk.inj hstep).1
    · rw [hcase] at hstep
      obtain ⟨-, rfl⟩ := Prod.mk.inj hstep
      exact happendable

end Appends

section Totals

/-- The totals of the resource scan are those of the log. -/
theorem totals_of_account {header : RunHeader} {totals : ResourceTotals}
    (h : records.foldlM (accountRecord header) (initialTotals header) = some totals) :
    totals.artifacts = artifacts records ∧
      totals.checkCount = asU64 (checks records).length ∧
      totals.totalEvidence = evidenceTotal (checks records) ∧
      totals.totalElapsed = elapsedTotal records := by
  induction records using List.reverseRecOn generalizing totals with
  | nil =>
    cases h
    exact ⟨rfl, rfl, rfl, rfl⟩
  | append_singleton records record ih =>
    obtain ⟨before, hbefore, hrecord⟩ := foldlM_concat h
    obtain ⟨hartifacts, hcount, hevidence, helapsed⟩ := ih hbefore
    rw [artifacts_concat, checks_concat]
    simp only [evidenceTotal, elapsedTotal, List.foldl_append, List.foldl_cons,
      List.foldl_nil] at hevidence helapsed ⊢
    unfold accountRecord at hrecord
    unfold artifactOf checkOf
    cases hevent : record.event with
    | attemptStarted start =>
      rw [hevent] at hrecord
      cases hrecord
      simpa [ResourceTotals.start] using ⟨hartifacts, hcount, hevidence, helapsed⟩
    | attemptFinished finish =>
      rw [hevent] at hrecord
      cases hrecord
      simpa [ResourceTotals.finish, helapsed] using ⟨hartifacts, hcount, hevidence⟩
    | artifactRecorded artifact =>
      rw [hevent] at hrecord
      cases hrecord
      simpa [ResourceTotals.artifact, hartifacts] using ⟨hcount, hevidence, helapsed⟩
    | checkRecorded check =>
      rw [hevent] at hrecord
      simp only [ResourceTotals.check] at hrecord
      split at hrecord
      · cases hrecord
      · cases hrecord
        refine ⟨by simpa using hartifacts, ?_, by simp [hevidence], by simpa using helapsed⟩
        simp only [hcount, Option.toList_some, List.length_append, List.length_singleton]
        unfold saturatingAdd asU64
        omega

end Totals

section Complete

/-- A run that the appender still takes: its header is in order and its records are admitted. -/
structure Appended (hashing : Hashing) (run : RunProvenance) : Prop where
  schema : run.schemaVersion = provenanceSchemaVersion
  target : run.target.kind.isOk = true
  adapter : okOf run.target.requiredAdapter = some run.manifest.adapter.requirement
  context : computeRunContextHash hashing run.toRunHeader = run.runContextSha256
  platform : targetEnvironmentMatches run.target run.environment = true
  url : (targetUrlBytes run.target).any (run.bounds.maxUrlBytes.toNat < ·) = false
  environment : validateEnvironmentSnapshot run.environment run.bounds = []
  log : Stepwise (Admitted hashing run) run.records
  executionTotals : validateExecutionTotals run (absorbAll run.records) = []
  artifactTotals : validateArtifactTotals run (absorbAll run.records) = []

theorem unobjectionable_of_admitted (h : Stepwise (Admitted hashing run) records) :
    Stepwise (Unobjectionable hashing run) records := h.imp fun _ _ hrecord => hrecord.1

/-- No violation is lost on the way to the end of the resource scan. -/
theorem initial_clean {header : RunHeader} {totals : ResourceTotals}
    (h : records.foldlM (accountRecord header) (initialTotals header) = some totals)
    (hclean : totals.violations = []) :
    validateEnvironmentSnapshot header.environment header.bounds = [] := by
  induction records using List.reverseRecOn generalizing totals with
  | nil =>
    cases h
    exact hclean
  | append_singleton records record ih =>
    obtain ⟨before, hbefore, hrecord⟩ := foldlM_concat h
    exact ih hbefore (violations_of_account hrecord hclean)

theorem appended_of_appendable (h : isAppendablePrefix hashing run = true) : Appended hashing run := by
  unfold isAppendablePrefix at h
  split at h
  · cases h
  next hheader =>
  split at h
  · cases h
  next hresources =>
  simp only [not_or, not_not, Bool.not_eq_false] at hheader hresources
  obtain ⟨hschema, htarget, hadapter, hcontext⟩ := hheader
  obtain ⟨state, hadmit⟩ := Option.isSome_iff_exists.mp h
  unfold appendPrefixResourcesAreValid at hresources
  split at hresources
  · cases hresources
  next hcount =>
  split at hresources
  · cases hresources
  next hplatform =>
  split at hresources
  · cases hresources
  next hurl =>
  split at hresources
  · cases hresources
  next totals haccount =>
  obtain ⟨hartifact, hattempts, hchecks, hevidence, helapsed, hbytes, hscreenshots, hvideos, hclean⟩ :=
    of_decide_eq_true hresources
  obtain ⟨hlog, hagrees, haccounts⟩ := admitted_log hadmit haccount hclean
  have hsound := unobjectionable_of_admitted hlog
  obtain ⟨hartifacts, hcheckCount, hevidenceTotal, helapsedTotal⟩ := totals_of_account haccount
  have hperm := checks_perm hsound
  have hretained := artifacts_perm hsound
  have hsize : totals.starts.size = (absorbAll run.records).started.size := by
    refine size_eq_of_mem_iff fun id => ?_
    rw [ExtTreeMap.mem_iff_isSome_getElem?, ExtTreeMap.mem_iff_isSome_getElem?, haccounts id,
      Option.isSome_map]
  refine ⟨hschema, htarget, hadapter, hcontext, (Bool.not_eq_false _).mp hplatform,
    (Bool.not_eq_true _).mp hurl, initial_clean haccount hclean, hlog, ?_, ?_⟩
  · simp only [validateExecutionTotals, collect_eq_nil, List.forall_mem_cons, report_eq_nil,
      List.flatMap_eq_nil_iff]
    refine ⟨hcount, ?_, ?_, ?_, ?_, ?_, List.forall_mem_nil _⟩
    · rw [← hsize]
      exact Nat.not_lt.mpr hattempts
    · rw [size_checks hsound, ← hcheckCount]
      exact Nat.not_lt.mpr hchecks
    · intro check hmem
      obtain ⟨record, hrecord, hevent⟩ := mem_checks.mp (hperm.mem_iff.mp hmem)
      obtain ⟨before, rest, heq, -, hreferenced⟩ := hlog.of_mem hrecord
      exact asU64_le.mpr (hreferenced.evidence check hevent).2
    · rw [evidenceTotal_eq, (hperm.map fun check => check.evidence.length).sum_eq,
        ← evidenceTotal_eq, ← hevidenceTotal]
      exact Nat.not_lt.mpr hevidence
    · rw [← helapsedTotal]
      exact Nat.not_lt.mpr helapsed
  · simp only [validateArtifactTotals, collect_eq_nil, List.forall_mem_cons, report_eq_nil]
    rw [hartifacts] at hartifact hbytes hscreenshots hvideos
    refine ⟨?_, ?_, ?_, ?_, List.forall_mem_nil _⟩
    · rw [size_artifacts hsound]
      exact Nat.not_lt.mpr hartifact
    · rw [retainedTotal_eq, (hretained.map fun artifact => artifact.retainedBytes.toNat).sum_eq,
        ← retainedTotal_eq]
      exact Nat.not_lt.mpr hbytes
    · rw [kindCount, hretained.countP_eq]
      exact Nat.not_lt.mpr hscreenshots
    · rw [kindCount, hretained.countP_eq]
      exact Nat.not_lt.mpr hvideos

theorem finishedPhases_absorb {state : Collected} {phase : ExecutionPhase}
    (h : phase ∈ state.finishedPhases) (record : ProvenanceRecord) :
    phase ∈ (state.absorb record).finishedPhases := by
  unfold Collected.absorb
  cases record.event with
  | attemptStarted start => exact h
  | artifactRecorded artifact => exact h
  | checkRecorded check => exact h
  | attemptFinished finish =>
    dsimp only [Collected.finish]
    split
    · exact h
    · cases state.started[finish.attemptId]? with
      | none => exact h
      | some kept =>
        simp only [Option.elim_some, Collected.endPhase, ExtTreeSet.mem_insert]
        exact Or.inr h

/-- The end of a started attempt ends its phase. -/
theorem finishedPhases_of_finish (h : Stepwise (Unobjectionable hashing run) records) :
    ∀ finish ∈ finishes records, ∃ start ∈ starts records, start.attemptId = finish.attemptId ∧
      start.phase ∈ (absorbAll records).finishedPhases := by
  refine h.induct (P := fun records => ∀ finish ∈ finishes records, ∃ start ∈ starts records,
    start.attemptId = finish.attemptId ∧ start.phase ∈ (absorbAll records).finishedPhases) ?_ ?_
  · intro finish hmem
    cases hmem
  · intro before record ih hrecord finish hmem
    rw [finishes_concat, List.mem_append] at hmem
    rw [starts_concat, absorbAll_concat]
    rcases hmem with hearlier | hnew
    · obtain ⟨start, hstart, hid, hphase⟩ := ih finish hearlier
      exact ⟨start, List.mem_append_left _ hstart, hid, finishedPhases_absorb hphase record⟩
    · have hevent : record.event = .attemptFinished finish :=
        finishOf_eq_some.mp (Option.mem_toList.mp hnew)
      obtain ⟨hstarted, hfresh⟩ := hrecord.ofFinish hevent
      have hkept : finish.attemptId ∈ (absorbAll before).started := by
        rw [started_absorbAll, mem_toMap, List.map_map]
        exact hstarted
      have hunfinished : (absorbAll before).finished.contains finish.attemptId = false := by
        rw [finished_absorbAll, contains_toMap_eq_false, List.map_map]
        exact hfresh
      rw [ExtTreeMap.mem_iff_isSome_getElem?, Option.isSome_iff_exists] at hkept
      obtain ⟨kept, hkept⟩ := hkept
      obtain ⟨start, hstart, hid, rfl⟩ := exists_start hkept
      refine ⟨start, List.mem_append_left _ hstart, hid, ?_⟩
      simp only [Collected.absorb, hevent, Collected.finish, hunfinished, hkept, Option.elim_some,
        Collected.endPhase, AttemptStarted.kept, Bool.false_eq_true, if_false]
      exact ExtTreeSet.mem_insert_self

end Complete

section Structure

/-- None of the violations is structural. -/
def OnlyJudgements (violations : List ValidationViolation) : Prop :=
  ∀ violation ∈ violations, isStructuralViolation violation = false

theorem onlyJudgements_nil : OnlyJudgements [] := List.forall_mem_nil _

theorem onlyJudgements_report {condition : Prop} [Decidable condition]
    {violation : ValidationViolation} (h : isStructuralViolation violation = false) :
    OnlyJudgements (report condition violation) := by
  intro other hmem
  rw [(mem_report.mp hmem).2, h]

theorem onlyJudgements_collect {passes : List (List ValidationViolation)} :
    OnlyJudgements (collect passes) ↔ ∀ pass ∈ passes, OnlyJudgements pass := by
  unfold OnlyJudgements collect
  simp only [List.mem_flatten]
  exact ⟨fun h pass hpass violation hmem => h violation ⟨pass, hpass, hmem⟩,
    fun h violation ⟨pass, hpass, hmem⟩ => h pass hpass violation hmem⟩

theorem onlyJudgements_flatMap {A : Type} {items : List A} {f : A → List ValidationViolation} :
    OnlyJudgements (items.flatMap f) ↔ ∀ item ∈ items, OnlyJudgements (f item) := by
  unfold OnlyJudgements
  simp only [List.mem_flatMap]
  exact ⟨fun h item hitem violation hmem => h violation ⟨item, hitem, hmem⟩,
    fun h violation ⟨item, hitem, hmem⟩ => h item hitem violation hmem⟩

theorem hasStructuralViolations_eq_false :
    (validate hashing run policy).hasStructuralViolations = false ↔
      OnlyJudgements (validationViolations hashing run policy) := by
  simp only [ValidationReport.hasStructuralViolations, validate, List.any_eq_false, OnlyJudgements,
    Bool.not_eq_true]

theorem duplicateEvidenceViolations_eq_nil {checkId : CheckId} {evidence : List CheckEvidence}
    (h : evidence.Nodup) : duplicateEvidenceViolations checkId evidence = [] := by
  rw [duplicateEvidenceViolations, List.flatten_eq_nil_iff]
  intro violations hmem
  obtain ⟨position, hposition, rfl⟩ := List.mem_mapIdx.mp hmem
  rw [report_eq_nil]
  intro hrepeated
  obtain ⟨i, hi⟩ := List.mem_iff_getElem?.mp hrepeated
  rw [List.getElem?_take] at hi
  split at hi
  · next hlt =>
    refine List.nodup_iff_getElem?_ne_getElem?.mp h i position hlt hposition ?_
    rw [hi, List.getElem?_eq_getElem hposition]
  · cases hi

/-- The violations of evidence that the log holds are judgements. -/
theorem onlyJudgements_of_held {state : Collected} {check : ValidationCheck}
    {requirement : CheckRequirement}
    (hartifacts : ∀ id, .artifact id ∈ check.evidence → state.artifacts.contains id = true)
    (hexits : ∀ id, .attemptExit id ∈ check.evidence → state.processExit id ≠ none) :
    OnlyJudgements (evidenceViolations state check requirement) := by
  refine onlyJudgements_flatMap.mpr ?_
  intro item hitem
  cases item with
  | artifact id =>
    have hheld := hartifacts id hitem
    rw [ExtTreeMap.contains_eq_isSome_getElem?, Option.isSome_iff_exists] at hheld
    obtain ⟨artifact, hartifact⟩ := hheld
    simp only [judgeEvidence, hartifact]
    split
    · exact onlyJudgements_nil
    · next violation hjudge =>
      split at hjudge
      · cases hjudge
        simp [OnlyJudgements, isStructuralViolation]
      split at hjudge
      · cases hjudge
        simp [OnlyJudgements, isStructuralViolation]
      · cases hjudge
  | attemptExit id =>
    obtain ⟨exit, hexit⟩ := Option.ne_none_iff_exists'.mp (hexits id hitem)
    simp only [judgeEvidence, hexit]
    split
    · exact onlyJudgements_nil
    · next violation hjudge =>
      split at hjudge
      · cases hjudge
        simp [OnlyJudgements, isStructuralViolation]
      · cases hjudge

theorem onlyJudgements_declaredCheck {state : Collected} {check : ValidationCheck}
    {requirement : CheckRequirement} (hdistinct : check.evidence.Nodup)
    (hevidence : OnlyJudgements (evidenceViolations state check requirement)) :
    OnlyJudgements (declaredCheckViolations state check requirement) := by
  simp only [declaredCheckViolations, onlyJudgements_collect, List.forall_mem_cons]
  refine ⟨?_, onlyJudgements_report rfl, onlyJudgements_report rfl, hevidence, ?_,
    onlyJudgements_report rfl, onlyJudgements_report rfl, List.forall_mem_nil _⟩
  · rw [duplicateEvidenceViolations_eq_nil hdistinct]
    exact onlyJudgements_nil
  · split <;> exact onlyJudgements_report rfl

theorem onlyJudgements_policy {state : Collected} : OnlyJudgements (validatePolicy state policy) := by
  simp only [validatePolicy, onlyJudgements_collect, List.forall_mem_cons, onlyJudgements_flatMap]
  refine ⟨?_, onlyJudgements_report rfl, List.forall_mem_nil _⟩
  intro requiredId _
  split
  · simp [OnlyJudgements, isStructuralViolation]
  · exact onlyJudgements_report rfl

end Structure

section Sealable

/-- Every attempt of the log has ended, and some attempt of every phase. -/
structure Complete (records : List ProvenanceRecord) : Prop where
  attempts : ∀ start ∈ starts records, ∃ finish ∈ finishes records,
    finish.attemptId = start.attemptId
  phases : ∀ phase, ∃ finish ∈ finishes records, ∃ start ∈ starts records,
    start.attemptId = finish.attemptId ∧ start.phase = phase

/-- The policy is the one the run was bound to, and asks for nothing impossible. -/
structure BoundPolicy (hashing : Hashing) (run : RunProvenance) (policy : ValidationPolicy) :
    Prop where
  plan : policy.validationPlanSha256 = run.manifest.validationPlanSha256
  digest : hashing.policySha256 policy = run.manifest.validationPolicySha256
  possible : policyViolations policy run.bounds = []

/-- The process exits that declared checks cite are exits of attempts that ended with one. -/
def ExitsRecorded (run : RunProvenance) (policy : ValidationPolicy) : Prop :=
  ∀ check ∈ checks run.records, check.checkId ∈ policy.checkRequirements →
    ∀ attemptId, .attemptExit attemptId ∈ check.evidence →
      ∃ finish ∈ finishes run.records, finish.attemptId = attemptId ∧ finish.processExit ≠ none

theorem headerViolations_eq_nil (h : Appended hashing run) (hbound : BoundPolicy hashing run policy)
    (hstarted : starts run.records ≠ []) : headerViolations hashing run policy = [] := by
  simp only [headerViolations, collect_eq_nil, List.forall_mem_cons, report_eq_nil, not_not, not_or,
    Bool.not_eq_false]
  refine ⟨h.schema, ?_, h.adapter, h.platform, ⟨hbound.plan, hbound.digest⟩, h.context, ?_, ?_,
    h.environment, List.forall_mem_nil _⟩
  · cases hkind : run.target.kind with
    | ok kind => rfl
    | error error =>
      have htarget := h.target
      rw [hkind] at htarget
      cases htarget
  · obtain ⟨start, hmem⟩ := List.exists_mem_of_ne_nil _ hstarted
    obtain ⟨record, hrecord, hevent⟩ := mem_starts.mp hmem
    obtain ⟨before, rest, heq, hadmitted, -⟩ := h.log.of_mem hrecord
    obtain ⟨-, -, hzero, hmax, -⟩ := hadmitted.ofStart hevent
    intro hnone
    rw [hnone] at hmax
    exact hzero (UInt64.le_antisymm hmax (UInt64.zero_le))
  · have hurl := h.url
    cases hbytes : targetUrlBytes run.target with
    | none => rfl
    | some actual =>
      rw [hbytes, Option.any_some, decide_eq_false_iff_not] at hurl
      rw [Option.elim_some, report_eq_nil]
      exact hurl

theorem attemptCompletion_eq_nil (hcomplete : Complete records) : validateAttemptCompletion (absorbAll records) = [] := by
  refine List.flatMap_eq_nil_iff.mpr ?_
  intro attemptId hmem
  rw [ExtTreeMap.mem_keys, started_absorbAll, mem_toMap, List.map_map] at hmem
  obtain ⟨start, hstart, rfl⟩ := List.mem_map.mp hmem
  obtain ⟨finish, hfinish, hid⟩ := hcomplete.attempts start hstart
  rw [report_eq_nil, finished_absorbAll, Bool.not_eq_false, contains_toMap, List.map_map]
  exact List.mem_map.mpr ⟨finish, hfinish, hid⟩

theorem onlyJudgements_phases (h : Stepwise (Unobjectionable hashing run) records)
    (hcomplete : Complete records) :
    OnlyJudgements (validatePhaseCoverage policy (absorbAll records)) := by
  refine onlyJudgements_flatMap.mpr ?_
  intro phase _
  obtain ⟨finish, hfinish, start, hstart, hid, rfl⟩ := hcomplete.phases phase
  obtain ⟨other, hother, hsame, hphase⟩ := finishedPhases_of_finish h finish hfinish
  have heq : other = start :=
    List.inj_on_of_nodup_map (nodup_starts h) hother hstart (hsame.trans hid.symm)
  rw [heq] at hphase
  rw [if_neg (by rw [ExtTreeSet.contains_iff_mem.mpr hphase]; exact Bool.noConfusion)]
  cases policy.phaseRequirements[start.phase]? with
  | none => exact onlyJudgements_nil
  | some requirement => exact onlyJudgements_report rfl

theorem finishedArtifactLinks_eq_nil (h : Appended hashing run) :
    validateFinishedArtifactLinks run (absorbAll run.records) = [] := by
  have hsound := unobjectionable_of_admitted h.log
  refine List.flatMap_eq_nil_iff.mpr ?_
  intro record hmem
  cases hevent : record.event with
  | attemptStarted start => rfl
  | artifactRecorded artifact => rfl
  | checkRecorded check => rfl
  | attemptFinished finish =>
    obtain ⟨before, rest, heq, -, hreferenced⟩ := h.log.of_mem hmem
    obtain ⟨hstdout, hstderr⟩ := hreferenced.streams finish hevent
    have hkept {id : ArtifactId} {kind : ArtifactKind}
        (hheld : ∃ artifact, (absorbAll before).artifacts[id]? = some artifact ∧
          artifact.attemptId = finish.attemptId ∧ artifact.kind = kind) :
        validateFinishedArtifact (absorbAll run.records) finish.attemptId id kind = [] := by
      obtain ⟨artifact, hfound, hattempt, hkind⟩ := hheld
      rw [artifacts_absorbAll] at hfound
      obtain ⟨other, hother, hentry⟩ := List.mem_map.mp (mem_of_getElem?_toMap hfound)
      obtain ⟨hid, rfl⟩ := Prod.mk.inj hentry
      have hfinal : (absorbAll run.records).artifacts[id]? = some other := by
        refine (artifacts_eq_some hsound).mpr ⟨?_, hid⟩
        obtain ⟨earlier, hearlier, hrecorded⟩ := mem_artifacts.mp hother
        refine mem_artifacts.mpr ⟨earlier, ?_, hrecorded⟩
        rw [heq]
        exact List.mem_append_left _ hearlier
      rw [validateFinishedArtifact, hfinal, report_eq_nil, not_or, not_not, not_not]
      exact ⟨hattempt, hkind⟩
    simp only [collect_eq_nil, List.forall_mem_cons]
    refine ⟨?_, ?_, List.forall_mem_nil _⟩
    · cases hid : finish.stdoutArtifactId with
      | none => rfl
      | some id => exact hkept (hstdout id hid)
    · cases hid : finish.stderrArtifactId with
      | none => rfl
      | some id => exact hkept (hstderr id hid)

theorem onlyJudgements_checks (h : Appended hashing run) (hexits : ExitsRecorded run policy) :
    OnlyJudgements (validateChecks (absorbAll run.records) policy) := by
  have hsound := unobjectionable_of_admitted h.log
  refine onlyJudgements_flatMap.mpr ?_
  intro check hvalue
  have hmem := (checks_perm hsound).mem_iff.mp hvalue
  cases hrequirement : policy.checkRequirements[check.checkId]? with
  | none => simp [OnlyJudgements, isStructuralViolation]
  | some requirement =>
    obtain ⟨record, hrecord, hevent⟩ := mem_checks.mp hmem
    obtain ⟨before, rest, heq, -, hreferenced⟩ := h.log.of_mem hrecord
    obtain ⟨⟨hdistinct, hartifacts, -⟩, -⟩ := hreferenced.evidence check hevent
    refine onlyJudgements_declaredCheck hdistinct (onlyJudgements_of_held ?_ ?_)
    · intro id hid
      have hheld := hartifacts id hid
      rw [artifacts_absorbAll, contains_toMap, List.map_map] at hheld
      obtain ⟨artifact, hartifact, rfl⟩ := List.mem_map.mp hheld
      rw [artifacts_absorbAll, contains_toMap, List.map_map]
      refine List.mem_map.mpr ⟨artifact, ?_, rfl⟩
      obtain ⟨earlier, hearlier, hrecorded⟩ := mem_artifacts.mp hartifact
      refine mem_artifacts.mpr ⟨earlier, ?_, hrecorded⟩
      rw [heq]
      exact List.mem_append_left _ hearlier
    · intro id hid
      have hdeclared : check.checkId ∈ policy.checkRequirements := by
        rw [ExtTreeMap.mem_iff_isSome_getElem?, hrequirement]
        rfl
      obtain ⟨finish, hfinish, hattempt, hexit⟩ := hexits check hmem hdeclared id hid
      obtain ⟨exit, hsome⟩ := Option.ne_none_iff_exists'.mp hexit
      rw [(processExit_eq_some hsound).mpr ⟨finish, hfinish, hattempt, hsome⟩]
      exact Option.some_ne_none exit

/-- What keeps a run from being sealed is a structural violation of a declared check. -/
theorem onlyJudgements_iff (h : Appended hashing run) (hcomplete : Complete run.records)
    (hbound : BoundPolicy hashing run policy) :
    OnlyJudgements (validationViolations hashing run policy) ↔ ExitsRecorded run policy := by
  have hsound := unobjectionable_of_admitted h.log
  constructor
  · intro hreport check hmem hdeclared attemptId hcited
    simp only [validationViolations, onlyJudgements_collect, List.forall_mem_cons,
      collectRecords_fst] at hreport
    obtain ⟨-, -, -, -, -, -, -, hchecks, -⟩ := hreport
    have hvalue := onlyJudgements_flatMap.mp hchecks check ((checks_perm hsound).mem_iff.mpr hmem)
    rw [ExtTreeMap.mem_iff_isSome_getElem?, Option.isSome_iff_exists] at hdeclared
    obtain ⟨requirement, hrequirement⟩ := hdeclared
    rw [hrequirement] at hvalue
    simp only [declaredCheckViolations, onlyJudgements_collect, List.forall_mem_cons] at hvalue
    obtain ⟨-, -, -, hevidence, -⟩ := hvalue
    have hitem := onlyJudgements_flatMap.mp hevidence _ hcited
    cases hexit : (absorbAll run.records).processExit attemptId with
    | none =>
      simp only [judgeEvidence, hexit] at hitem
      cases hitem _ (List.mem_singleton.mpr rfl)
    | some exit =>
      obtain ⟨finish, hfinish, hid, hsome⟩ := (processExit_eq_some hsound).mp hexit
      refine ⟨finish, hfinish, hid, ?_⟩
      rw [hsome]
      exact Option.some_ne_none exit
  · intro hexits
    have hstarted : starts run.records ≠ [] := by
      obtain ⟨_, _, start, hstart, _⟩ := hcomplete.phases .prepare
      exact List.ne_nil_of_mem hstart
    simp only [validationViolations, onlyJudgements_collect, List.forall_mem_cons,
      collectRecords_fst, validateHeader, headerViolations_eq_nil h hbound hstarted, hbound.possible,
      collectRecords_snd_eq_nil.mpr hsound, h.executionTotals, h.artifactTotals,
      attemptCompletion_eq_nil hcomplete, finishedArtifactLinks_eq_nil h, List.append_nil]
    exact ⟨onlyJudgements_nil, onlyJudgements_nil, onlyJudgements_nil, onlyJudgements_nil,
      onlyJudgements_phases hsound hcomplete, onlyJudgements_nil, onlyJudgements_nil,
      onlyJudgements_checks h hexits, onlyJudgements_policy, List.forall_mem_nil _⟩

/-- A refused append changes nothing, and a complete run built by appending is free of structural
violations and sealed just if its declared checks cite only process exits that the log holds. -/
theorem built_sealable (hbuilt : Built hashing run) (hcomplete : Complete run.records)
    (hbound : BoundPolicy hashing run policy) :
    (∀ observedAtUnixMs event error after,
      append hashing run observedAtUnixMs event = (.error error, after) → after = run) ∧
    ((validate hashing run policy).hasStructuralViolations = false ∧
      (∃ sealed, sealRun hashing run policy = .ok sealed) ↔ ExitsRecorded run policy) := by
  refine ⟨fun _ _ _ _ => append_refused, ?_⟩
  obtain ⟨_, _, start, hstart, _⟩ := hcomplete.phases .prepare
  obtain ⟨record, hrecord, _⟩ := mem_starts.mp hstart
  have hne : run.records ≠ [] := List.ne_nil_of_mem hrecord
  have happended := appended_of_appendable (hbuilt.appendable hne)
  rw [← onlyJudgements_iff happended hcomplete hbound, ← hasStructuralViolations_eq_false]
  refine ⟨And.left, fun hclean => ⟨hclean, ?_⟩⟩
  rw [sealRun, hclean, List.getLast?_eq_some_getLast hne]
  exact ⟨_, rfl⟩

theorem built_of_appendAll {events : List ProvenanceEvent} (hbuilt : Built hashing run)
    (h : appendAll hashing run events = some after) : Built hashing after := by
  induction events using List.reverseRecOn generalizing after with
  | nil =>
    cases h
    exact hbuilt
  | append_singleton events event ih =>
    obtain ⟨before, hbefore, hevent⟩ := foldlM_concat h
    split at hevent
    · next record other hstep =>
      cases hevent
      exact .append (ih hbefore) hstep
    · cases hevent

theorem sampleRun_built (bounds : ExecutionBounds) (timeoutMs elapsedMs : UInt64)
    (evidence : CheckEvidence) :
    Built sampleHashing (sampleRun bounds timeoutMs elapsedMs evidence) := by
  unfold sampleRun
  cases hall : appendAll sampleHashing (emptyRun 1 bounds) (sampleEvents timeoutMs elapsedMs evidence) with
  | none => exact .fresh ..
  | some run => exact built_of_appendAll (.fresh ..) hall

theorem acceptedRun_sealable :
    Complete acceptedRun.records ∧ BoundPolicy sampleHashing acceptedRun samplePolicy := by
  -- one evaluation of the run decides all that is asked of it
  obtain ⟨hattempts, hphases, hplan, hdigest, hpossible⟩ :
      (∀ start ∈ starts acceptedRun.records, ∃ finish ∈ finishes acceptedRun.records,
        finish.attemptId = start.attemptId) ∧
      (∀ phase ∈ executionPhases, ∃ finish ∈ finishes acceptedRun.records,
        ∃ start ∈ starts acceptedRun.records,
          start.attemptId = finish.attemptId ∧ start.phase = phase) ∧
      samplePolicy.validationPlanSha256 = acceptedRun.manifest.validationPlanSha256 ∧
      sampleHashing.policySha256 samplePolicy = acceptedRun.manifest.validationPolicySha256 ∧
      policyViolations samplePolicy acceptedRun.bounds = [] := by
    decide +kernel
  exact ⟨⟨hattempts, fun phase => hphases phase (mem_executionPhases phase)⟩,
    ⟨hplan, hdigest, hpossible⟩⟩

theorem built_sealable_sample :
    (∀ observedAtUnixMs event error after,
      append sampleHashing acceptedRun observedAtUnixMs event = (.error error, after) →
        after = acceptedRun) ∧
    ((validate sampleHashing acceptedRun samplePolicy).hasStructuralViolations = false ∧
      (∃ sealed, sealRun sampleHashing acceptedRun samplePolicy = .ok sealed) ↔
        ExitsRecorded acceptedRun samplePolicy) :=
  built_sealable (sampleRun_built ..) acceptedRun_sealable.1 acceptedRun_sealable.2

/-- The sample run with a check that cites the exit of an attempt that ran no process. -/
def unsealableRun : RunProvenance :=
  sampleRun defaultBounds 1000 10 (.attemptExit (sampleAttempt .build))

/-- Every append was accepted and every phase has ended, and the run cannot be sealed. -/
theorem built_unsealable : Built sampleHashing unsealableRun ∧ Complete unsealableRun.records ∧
    BoundPolicy sampleHashing unsealableRun samplePolicy ∧
    (validate sampleHashing unsealableRun samplePolicy).hasStructuralViolations = true := by
  obtain ⟨hattempts, hphases, hplan, hdigest, hpossible, hviolated⟩ :
      (∀ start ∈ starts unsealableRun.records, ∃ finish ∈ finishes unsealableRun.records,
        finish.attemptId = start.attemptId) ∧
      (∀ phase ∈ executionPhases, ∃ finish ∈ finishes unsealableRun.records,
        ∃ start ∈ starts unsealableRun.records,
          start.attemptId = finish.attemptId ∧ start.phase = phase) ∧
      samplePolicy.validationPlanSha256 = unsealableRun.manifest.validationPlanSha256 ∧
      sampleHashing.policySha256 samplePolicy = unsealableRun.manifest.validationPolicySha256 ∧
      policyViolations samplePolicy unsealableRun.bounds = [] ∧
      (validate sampleHashing unsealableRun samplePolicy).hasStructuralViolations = true := by
    decide +kernel
  exact ⟨sampleRun_built .., ⟨hattempts, fun phase => hphases phase (mem_executionPhases phase)⟩,
    ⟨hplan, hdigest, hpossible⟩, hviolated⟩

end Sealable

end BirdCode.Validation
