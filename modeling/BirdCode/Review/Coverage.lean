import BirdCode.Review.Repair

/-! What the contract says about missing evidence: an output meets it when its entries are acceptable
under distinct identities and cover what is open, and the rest of it does not look at them. -/
namespace BirdCode.Review

open Std

section Sets

variable {K : Type} [Ord K] [TransOrd K] [LawfulEqOrd K]

theorem toList_toSet_perm {keys : List K} (h : keys.Nodup) : (toSet keys).toList.Perm keys := by
  refine (List.perm_ext_iff_of_nodup (nodup_toList _) h).mpr ?_
  intro key
  rw [ExtTreeSet.mem_toList, toSet, mem_foldl_insert]
  simp

end Sets

variable {policy : RepositoryReviewPolicy} {output : RepositoryReviewOutput}

section Entries

/-- What the contract asks of one missing-evidence entry by itself. -/
structure AcceptableEntry (policy : RepositoryReviewPolicy)
    (missing : RepositoryReviewMissingEvidence) : Prop where
  identifier : boundedIdentifier missing.missingEvidenceId = true
  described : boundedText missing.description = true
  nonempty : missing.requirementRefs ≠ []
  known : ∀ requirement ∈ missing.requirementRefs, requirement ∈ policy.requirements

theorem refusedIdentifier_eq_false {seen : List String} {value : String} :
    refusedIdentifier seen value = false ↔ boundedIdentifier value = true ∧ value ∉ seen := by
  simp [refusedIdentifier]

theorem missingEntryViolations_eq_nil {seen : List String}
    {missing : RepositoryReviewMissingEvidence} :
    missingEntryViolations policy seen missing = [] ↔
      AcceptableEntry policy missing ∧ missing.missingEvidenceId ∉ seen := by
  simp only [missingEntryViolations, collect_eq_nil, List.forall_mem_cons, report_eq_nil,
    Bool.not_eq_true, refusedIdentifier_eq_false, List.map_eq_nil_iff, List.filter_eq_nil_iff]
  constructor
  · rintro ⟨⟨hid, hnew⟩, hentry, hknown, -⟩
    simp only [Bool.not_eq_true', not_or, Bool.not_eq_false] at hentry
    exact ⟨⟨hid, hentry.1, hentry.2, by simpa using hknown⟩, hnew⟩
  · rintro ⟨⟨hid, hdescribed, hrefs, hknown⟩, hnew⟩
    exact ⟨⟨hid, hnew⟩, by simp [hdescribed, hrefs], by simpa using hknown, by simp⟩

theorem missingEvidenceViolations_eq_nil {seen : List String}
    {entries : List RepositoryReviewMissingEvidence} :
    missingEvidenceViolations policy seen entries = [] ↔
      (∀ missing ∈ entries, AcceptableEntry policy missing) ∧
      (entries.map (·.missingEvidenceId)).Nodup ∧
      ∀ missing ∈ entries, missing.missingEvidenceId ∉ seen := by
  induction entries generalizing seen with
  | nil => simp [missingEvidenceViolations]
  | cons missing rest ih =>
    rw [missingEvidenceViolations, List.append_eq_nil_iff, missingEntryViolations_eq_nil, ih,
      List.map_cons, List.nodup_cons, List.forall_mem_cons, List.forall_mem_cons]
    constructor
    · rintro ⟨⟨hentry, hnew⟩, hrest, hnodup, hseen⟩
      have hinsert : insertIdentifier seen missing.missingEvidenceId =
          missing.missingEvidenceId :: seen := by
        simp [insertIdentifier, refusedIdentifier, hentry.identifier, hnew]
      rw [hinsert] at hseen
      refine ⟨⟨hentry, hrest⟩, ⟨?_, hnodup⟩, hnew, fun other hother hmem =>
        hseen other hother (List.mem_cons_of_mem _ hmem)⟩
      intro hmem
      obtain ⟨other, hother, heq⟩ := List.mem_map.mp hmem
      exact hseen other hother (heq ▸ List.mem_cons_self)
    · rintro ⟨⟨hentry, hrest⟩, ⟨hdistinct, hnodup⟩, hnew, hseen⟩
      refine ⟨⟨hentry, hnew⟩, hrest, hnodup, fun other hother hmem => ?_⟩
      unfold insertIdentifier at hmem
      split at hmem
      · exact hseen other hother hmem
      · rcases List.mem_cons.mp hmem with heq | hmem
        · exact hdistinct (heq ▸ List.mem_map_of_mem hother)
        · exact hseen other hother hmem

end Entries

section Assessments

theorem nodup_of_assessmentViolations {seen : List RepositoryReviewRequirementRef}
    {assessments : List RepositoryReviewRequirementAssessment}
    (h : assessmentViolations policy seen assessments = []) :
    (assessments.map (·.requirement)).Nodup ∧
      ∀ assessment ∈ assessments, assessment.requirement ∉ seen := by
  induction assessments generalizing seen with
  | nil => simp
  | cons assessment rest ih =>
    rw [assessmentViolations, List.append_eq_nil_iff] at h
    obtain ⟨hchecks, hrest⟩ := h
    obtain ⟨hnodup, hseen⟩ := ih hrest
    have hnew : assessment.requirement ∉ seen := by
      have := collect_eq_nil.mp hchecks _ List.mem_cons_self
      simpa using this
    refine ⟨List.nodup_cons.mpr ⟨?_, hnodup⟩, ?_⟩
    · intro hmem
      obtain ⟨other, hother, heq⟩ := List.mem_map.mp hmem
      exact hseen other hother (heq ▸ List.mem_cons_self)
    · intro other hother
      rcases List.mem_cons.mp hother with rfl | hother
      · exact hnew
      · exact fun hmem => hseen other hother (List.mem_cons_of_mem _ hmem)

end Assessments

section Contract

/-- Everything that the contract checks besides the missing evidence. -/
structure MeetsOtherwise (policy : RepositoryReviewPolicy) (output : RepositoryReviewOutput) :
    Prop where
  bound : ¬(output.schemaVersion ≠ 1 ∨ output.bindings.blindSubjectId ≠ policy.blindSubjectId ∨
    output.bindings.scope ≠ policy.scope ∨
    output.bindings.visiblePayloadSha256 ≠ policy.visiblePayloadSha256 ∨
    output.bindings.reviewPolicySha256 ≠ policy.reviewPolicySha256)
  assessments : collectAssessmentViolations policy output = []
  findings : collectFindingViolations policy output = []
  evidence : output.evidenceCount ≤ 128
  summary : boundedText output.summary = true

theorem contractViolations_eq_nil : contractViolations policy output = [] ↔
    MeetsOtherwise policy output ∧ missingEvidenceViolations policy [] output.missingEvidence = [] ∧
      coverageViolations output = [] ∧ output.shaped = true := by
  constructor
  · intro h
    simp only [contractViolations, collect_eq_nil, List.forall_mem_cons, report_eq_nil,
      collectMissingEvidenceViolations, collectVerdictShapeViolations, List.append_eq_nil_iff,
      Bool.not_eq_true', Bool.not_eq_false, Nat.not_lt] at h
    obtain ⟨hbound, hassessments, hfindings, ⟨hentries, hcovered⟩, ⟨hshaped, hcount⟩, hsummary, -⟩ := h
    exact ⟨⟨hbound, hassessments, hfindings, hcount, hsummary⟩, hentries, hcovered, hshaped⟩
  · rintro ⟨hmeets, hentries, hcovered, hshaped⟩
    simp only [contractViolations, collect_eq_nil, List.forall_mem_cons, report_eq_nil,
      collectMissingEvidenceViolations, collectVerdictShapeViolations, List.append_eq_nil_iff,
      Bool.not_eq_true', Bool.not_eq_false, Nat.not_lt]
    exact ⟨hmeets.bound, hmeets.assessments, hmeets.findings, ⟨hentries, hcovered⟩,
      ⟨hshaped, hmeets.evidence⟩, hmeets.summary, by simp⟩

/-- What the contract asks besides missing evidence does not depend on it. -/
theorem MeetsOtherwise.withMissingEvidence {entries : List RepositoryReviewMissingEvidence}
    (h : MeetsOtherwise policy output) : MeetsOtherwise policy (output.withMissingEvidence entries) :=
  ⟨h.bound, h.assessments, h.findings, h.evidence, h.summary⟩

theorem MeetsOtherwise.of_withMissingEvidence {entries : List RepositoryReviewMissingEvidence}
    (h : MeetsOtherwise policy (output.withMissingEvidence entries)) : MeetsOtherwise policy output :=
  ⟨h.bound, h.assessments, h.findings, h.evidence, h.summary⟩

theorem MeetsOtherwise.nodup_requirements (h : MeetsOtherwise policy output) :
    (output.requirementAssessments.map (·.requirement)).Nodup :=
  (nodup_of_assessmentViolations (List.append_eq_nil_iff.mp h.assessments).1).1

/-- With the rest in order, what is left to report is about missing evidence or the verdict. -/
theorem MeetsOtherwise.contractViolations_eq (h : MeetsOtherwise policy output)
    (hentries : missingEvidenceViolations policy [] output.missingEvidence = []) :
    contractViolations policy output =
      coverageViolations output ++ report (!output.shaped) .verdictShape := by
  have hcount : ¬128 < output.evidenceCount := Nat.not_lt.mpr h.evidence
  have hsummary : ¬(!boundedText output.summary) = true := by simp [h.summary]
  simp only [contractViolations, collect, collectMissingEvidenceViolations,
    collectVerdictShapeViolations, report, if_neg h.bound, h.assessments, h.findings, hentries,
    if_neg hcount, if_neg hsummary, List.flatten_cons, List.flatten_nil, List.nil_append,
    List.append_nil]

end Contract

section Coverage

theorem mem_notEvaluable {requirement : RepositoryReviewRequirementRef} :
    requirement ∈ output.notEvaluable ↔
      ∃ assessment ∈ output.requirementAssessments, assessment.status = .notEvaluable ∧
        assessment.requirement = requirement := by
  simp [RepositoryReviewOutput.notEvaluable, and_assoc]

theorem map_uncovered : output.uncovered.map (·.requirement) =
    output.notEvaluable.filter (· ∉ output.covered) := by
  rw [RepositoryReviewOutput.uncovered, RepositoryReviewOutput.notEvaluable, List.filter_map,
    List.filter_filter]
  congr 1
  refine List.filter_congr fun assessment _ => ?_
  simp [Bool.and_comm]

theorem nodup_notEvaluable (h : (output.requirementAssessments.map (·.requirement)).Nodup) :
    output.notEvaluable.Nodup :=
  h.sublist (List.filter_sublist.map _)

theorem nodup_uncovered (h : (output.requirementAssessments.map (·.requirement)).Nodup) :
    (output.uncovered.map (·.requirement)).Nodup :=
  h.sublist (List.filter_sublist.map _)

/-- The uncovered requirements are reported once each. -/
theorem coverageViolations_perm (h : (output.requirementAssessments.map (·.requirement)).Nodup) :
    (coverageViolations output).Perm (output.uncovered.map fun assessment =>
      .missingEvidenceCoverage assessment.requirement.requirementId) := by
  have hperm : ((toSet output.notEvaluable).toList.filter (· ∉ output.covered)).Perm
      (output.uncovered.map (·.requirement)) := by
    rw [map_uncovered]
    exact (toList_toSet_perm (nodup_notEvaluable h)).filter _
  have hmap := hperm.map fun requirement =>
    RepositoryReviewInvariantViolation.missingEvidenceCoverage requirement.requirementId
  rw [List.map_map] at hmap
  exact hmap

theorem coverageViolations_eq_nil : coverageViolations output = [] ↔
    ∀ requirement ∈ output.notEvaluable, requirement ∈ output.covered := by
  rw [coverageViolations, List.map_eq_nil_iff, List.filter_eq_nil_iff]
  refine forall_congr' fun requirement => ?_
  rw [ExtTreeSet.mem_toList, toSet, mem_foldl_insert]
  simp

end Coverage

end BirdCode.Review
