import BirdCode.Lib.Positions
import BirdCode.Prompting.PlanCritic

/-! What the critic's checks accept: an output that assesses every obligation of the policy once, cites only
what exists, and has the directive of its verdict. -/
namespace BirdCode.Prompting

open Lib Lib.Json Review

variable {N Payload : Type} {hashing : Hashing N} {policy : PlanCriticPolicy}
  {output : PlanCriticOutput}

section Parts

variable {sections known ids : List String}

theorem unknownWorkOrders_eq_nil : unknownWorkOrders ids known = [] ↔ ids ⊆ known := by
  simp [unknownWorkOrders, List.subset_def]

theorem knownSectionViolations_eq_nil :
    knownSectionViolations sections known = [] ↔ sections ⊆ known ∧ sections.Nodup := by
  rw [knownSectionViolations, zipIdx_flatMap_eq_nil, nodup_iff_not_mem_take, List.subset_def]
  simp only [List.append_eq_nil_iff, report_eq_nil, not_not]
  constructor
  · intro h
    exact ⟨fun {a} hmem => forall_getElem?.mp (fun index a hindex => (h index a hindex).1) a hmem,
      fun index a hindex => (h index a hindex).2⟩
  · rintro ⟨hknown, hdistinct⟩ index a hindex
    exact ⟨hknown (List.mem_of_getElem? hindex), hdistinct index a hindex⟩

theorem bindingViolations_eq_nil {bindings : PlanCriticBindings} :
    bindingViolations bindings policy = [] ↔ bindings = policy.bindings := by
  obtain ⟨root, planner, context, candidate, critic⟩ := bindings
  simp only [bindingViolations, collect_eq_nil, List.forall_mem_cons, bindingViolation,
    report_eq_nil, not_not, PlanCriticPolicy.bindings, PlanCriticBindings.mk.injEq]
  constructor
  · rintro ⟨rfl, rfl, rfl, rfl, rfl, _⟩
    exact ⟨rfl, rfl, rfl, rfl, rfl⟩
  · rintro ⟨rfl, rfl, rfl, rfl, rfl⟩
    exact ⟨rfl, rfl, rfl, rfl, rfl, by simp⟩

theorem foreignReference_eq_nil {reference : ProtectedObligationRef} :
    foreignReference policy reference = [] ↔
      reference ∈ policy.obligations.map ProtectedObligation.reference := by
  unfold foreignReference
  split
  · simp [*]
  · next hnot =>
    split <;> simp [hnot]

/-- How many sections and work orders an output cites. -/
def citations (output : PlanCriticOutput) : ℕ :=
  (output.findings.map fun finding =>
      finding.sourceSections.length + finding.affectedWorkOrderIds.length).sum +
    output.decisionEvidence.length +
    (output.obligationAssessments.map fun assessment => assessment.affectedWorkOrderIds.length).sum

theorem evidenceReferences_eq : evidenceReferences output = min (citations output) (2 ^ 64 - 1) := by
  have hsplit : (fun (count : ℕ) (finding : PlanCriticFinding) => saturatingAdd
      (saturatingAdd count finding.sourceSections.length) finding.affectedWorkOrderIds.length) =
      fun count finding => saturatingAdd count
        (finding.sourceSections.length + finding.affectedWorkOrderIds.length) := by
    funext count finding
    unfold saturatingAdd
    omega
  rw [evidenceReferences, hsplit]
  rw [foldl_saturatingAdd_zero, foldl_saturatingAdd_zero, citations]
  unfold saturatingAdd
  omega

/-- The limit of a policy lies below saturation. -/
theorem evidenceReferences_le_iff {maximum : UInt32} :
    evidenceReferences output ≤ maximum.toNat ↔ citations output ≤ maximum.toNat := by
  have hlt := maximum.toNat_lt
  rw [evidenceReferences_eq]
  omega

end Parts

section Assessments

/-- Each of the policy's obligations is assessed once, and nothing else is. -/
def Assesses (output : PlanCriticOutput) (policy : PlanCriticPolicy) : Prop :=
  Set.BijOn
    (fun index : Fin output.obligationAssessments.length =>
      (output.obligationAssessments.get index).obligationRef)
    Set.univ {reference | reference ∈ policy.obligations.map ProtectedObligation.reference}

variable {references others : List ProtectedObligationRef}

/-- A list without repetitions within another, and as long as it, has the same elements. -/
theorem subset_of_nodup_subset {A : Type*} {l l' : List A} (h : l.Nodup) (hsubset : l ⊆ l')
    (hlength : l.length = l'.length) : l' ⊆ l :=
  ((List.subperm_of_subset h hsubset).perm_of_length_le hlength.ge).symm.subset

theorem assesses_iff (hpolicy : (policy.obligations.map ProtectedObligation.reference).Nodup) :
    Assesses output policy ↔
      (output.obligationAssessments.map ObligationAssessment.obligationRef).Nodup ∧
      (output.obligationAssessments.map ObligationAssessment.obligationRef) ⊆
        policy.obligations.map ProtectedObligation.reference ∧
      output.obligationAssessments.length = policy.obligations.length := by
  have hget : ∀ index : Fin output.obligationAssessments.length,
      (output.obligationAssessments.get index).obligationRef ∈
        output.obligationAssessments.map ObligationAssessment.obligationRef := fun index =>
    List.mem_map_of_mem (List.get_mem _ index)
  constructor
  · rintro ⟨hmaps, hinj, hsurj⟩
    have hdistinct : (output.obligationAssessments.map ObligationAssessment.obligationRef).Nodup := by
      rw [List.nodup_iff_injective_get]
      rintro ⟨i, hi⟩ ⟨j, hj⟩ heq
      rw [List.length_map] at hi hj
      have hsame : (output.obligationAssessments.get ⟨i, hi⟩).obligationRef =
          (output.obligationAssessments.get ⟨j, hj⟩).obligationRef := by simpa using heq
      have hindex := hinj (Set.mem_univ _) (Set.mem_univ _) hsame
      simpa using hindex
    have hsubset : (output.obligationAssessments.map ObligationAssessment.obligationRef) ⊆
        policy.obligations.map ProtectedObligation.reference := by
      intro reference hmem
      obtain ⟨assessment, hassessment, rfl⟩ := List.mem_map.mp hmem
      obtain ⟨index, rfl⟩ := List.get_of_mem hassessment
      exact hmaps (Set.mem_univ index)
    have hsuperset : policy.obligations.map ProtectedObligation.reference ⊆
        output.obligationAssessments.map ObligationAssessment.obligationRef := by
      intro reference hmem
      obtain ⟨index, _, rfl⟩ := hsurj hmem
      exact hget index
    have hle := (List.subperm_of_subset hdistinct hsubset).length_le
    have hge := (List.subperm_of_subset hpolicy hsuperset).length_le
    rw [List.length_map, List.length_map] at hle hge
    exact ⟨hdistinct, hsubset, le_antisymm hle hge⟩
  · rintro ⟨hdistinct, hsubset, hlength⟩
    refine ⟨fun index _ => hsubset (hget index), ?_, ?_⟩
    · intro i _ j _ heq
      have hsame : (output.obligationAssessments.map ObligationAssessment.obligationRef)[i.val]? =
          (output.obligationAssessments.map ObligationAssessment.obligationRef)[j.val]? := by
        rw [List.getElem?_map, List.getElem?_map, List.getElem?_eq_getElem i.isLt,
          List.getElem?_eq_getElem j.isLt]
        exact congrArg some heq
      exact Fin.ext ((List.getElem?_inj (by simp) hdistinct).mp hsame)
    · intro reference hmem
      have hsuperset := subset_of_nodup_subset hdistinct hsubset (by simpa using hlength)
      obtain ⟨assessment, hassessment, rfl⟩ := List.mem_map.mp (hsuperset hmem)
      obtain ⟨index, rfl⟩ := List.get_of_mem hassessment
      exact ⟨index, Set.mem_univ index, rfl⟩

/-- An obligation of an accepted output is addressed by its only assessment. -/
theorem mandatoryViolations_eq_nil {obligation : ProtectedObligation}
    (hdistinct : (output.obligationAssessments.map ObligationAssessment.obligationRef).Nodup)
    (hassessed : obligation.reference ∈
      output.obligationAssessments.map ObligationAssessment.obligationRef) :
    mandatoryViolations output obligation = [] ↔ (output.verdict = .accept →
      ∀ assessment ∈ output.obligationAssessments, assessment.obligationRef = obligation.reference →
        assessment.status = .addressed) := by
  obtain ⟨assessed, hmem, hreference⟩ := List.mem_map.mp hassessed
  unfold mandatoryViolations
  split
  · next hnone =>
    have hnot := List.find?_eq_none.mp hnone assessed hmem
    exact absurd (decide_eq_true hreference) hnot
  · next found hfound =>
    have hfoundref : found.obligationRef = obligation.reference := by
      simpa using List.find?_some hfound
    have hunique : ∀ assessment ∈ output.obligationAssessments,
        assessment.obligationRef = obligation.reference → assessment = found := by
      intro assessment hassessment heq
      exact List.inj_on_of_nodup_map hdistinct hassessment (List.mem_of_find?_eq_some hfound)
        (heq.trans hfoundref.symm)
    rw [report_eq_nil, not_and_or, not_not]
    constructor
    · rintro (hverdict | hstatus) haccept assessment hassessment heq
      · exact absurd haccept hverdict
      · rw [hunique assessment hassessment heq]
        exact hstatus
    · intro h
      by_cases haccept : output.verdict = .accept
      · right
        exact h haccept found (List.mem_of_find?_eq_some hfound) hfoundref
      · exact .inl haccept

/-- The assessments are accepted exactly if they are a bijection, cite known work orders, and leave no
mandatory obligation of an accepted output open. -/
theorem assessmentViolations_eq_nil
    (hpolicy : (policy.obligations.map ProtectedObligation.reference).Nodup) :
    assessmentViolations output policy = [] ↔ Assesses output policy ∧
      (∀ assessment ∈ output.obligationAssessments,
        assessment.affectedWorkOrderIds ⊆ policy.candidateWorkOrderIds) ∧
      (output.verdict = .accept → ∀ obligation ∈ policy.obligations, obligation.mandatory = true →
        ∀ assessment ∈ output.obligationAssessments,
          assessment.obligationRef = obligation.reference → assessment.status = .addressed) := by
  rw [assesses_iff hpolicy, assessmentViolations]
  simp only [collect_eq_nil, List.forall_mem_cons, zipIdx_flatMap_eq_nil]
  simp only [report_eq_nil, foreignReference_eq_nil, unknownWorkOrders_eq_nil, not_not,
    List.flatMap_eq_nil_iff, List.mem_filter]
  constructor
  · rintro ⟨heach, hlength, hmandatory, _⟩
    have hdistinct : (output.obligationAssessments.map ObligationAssessment.obligationRef).Nodup :=
      nodup_map_iff.mpr fun index assessment hindex => (heach index assessment hindex).1
    have hknown : ∀ assessment ∈ output.obligationAssessments, assessment.obligationRef ∈
        policy.obligations.map ProtectedObligation.reference :=
      forall_getElem?.mp fun index assessment hindex => (heach index assessment hindex).2.1
    have hsubset : output.obligationAssessments.map ObligationAssessment.obligationRef ⊆
        policy.obligations.map ProtectedObligation.reference := by
      intro reference hmem
      obtain ⟨assessment, hassessment, rfl⟩ := List.mem_map.mp hmem
      exact hknown assessment hassessment
    refine ⟨⟨hdistinct, hsubset, hlength⟩,
      forall_getElem?.mp fun index assessment hindex => (heach index assessment hindex).2.2.1, ?_⟩
    intro haccept obligation hobligation hflag
    have hassessed := subset_of_nodup_subset hdistinct hsubset (by simpa using hlength)
      (List.mem_map_of_mem (f := ProtectedObligation.reference) hobligation)
    exact (mandatoryViolations_eq_nil hdistinct hassessed).mp
      (hmandatory obligation ⟨hobligation, hflag⟩) haccept
  · rintro ⟨⟨hdistinct, hsubset, hlength⟩, horders, haddressed⟩
    refine ⟨?_, hlength, ?_, by simp⟩
    · intro index assessment hindex
      have hmem := List.mem_of_getElem? hindex
      exact ⟨nodup_map_iff.mp hdistinct index assessment hindex,
        hsubset (List.mem_map_of_mem hmem), horders assessment hmem, by simp⟩
    · rintro obligation ⟨hobligation, hflag⟩
      have hassessed := subset_of_nodup_subset hdistinct hsubset (by simpa using hlength)
        (List.mem_map_of_mem (f := ProtectedObligation.reference) hobligation)
      exact (mandatoryViolations_eq_nil hdistinct hassessed).mpr
        fun haccept => haddressed haccept obligation hobligation hflag

end Assessments

section Findings

variable {sections : List String}

/-- The findings and the evidence of an output: within the limits, told apart by their ids, and citing
only what exists, no section twice in one place. -/
structure FindingsHold (output : PlanCriticOutput) (sections : List String)
    (policy : PlanCriticPolicy) : Prop where
  findings_le : output.findings.length ≤ policy.maxFindings.toNat
  citations_le : citations output ≤ policy.maxEvidenceReferences.toNat
  distinct : (output.findings.map PlanCriticFinding.findingId).Nodup
  knownSections : ∀ finding ∈ output.findings, finding.sourceSections ⊆ sections
  distinctSections : ∀ finding ∈ output.findings, finding.sourceSections.Nodup
  workOrders : ∀ finding ∈ output.findings,
    finding.affectedWorkOrderIds ⊆ policy.candidateWorkOrderIds
  knownEvidence : output.decisionEvidence.map RootPlannerDecisionEvidence.section ⊆ sections
  distinctEvidence : (output.decisionEvidence.map RootPlannerDecisionEvidence.section).Nodup

theorem findingAndEvidenceViolations_eq_nil :
    findingAndEvidenceViolations output sections policy = [] ↔
      FindingsHold output sections policy := by
  rw [findingAndEvidenceViolations]
  simp only [collect_eq_nil, List.forall_mem_cons, zipIdx_flatMap_eq_nil]
  simp only [report_eq_nil, knownSectionViolations_eq_nil, unknownWorkOrders_eq_nil, Nat.not_lt,
    evidenceReferences_le_iff]
  constructor
  · rintro ⟨hfindings, heach, hcitations, ⟨hknown, hdistinct⟩, _⟩
    exact {
      findings_le := hfindings
      citations_le := hcitations
      distinct := nodup_map_iff.mpr fun index finding hindex => (heach index finding hindex).1
      knownSections := forall_getElem?.mp fun index finding hindex =>
        (heach index finding hindex).2.1.1
      distinctSections := forall_getElem?.mp fun index finding hindex =>
        (heach index finding hindex).2.1.2
      workOrders := forall_getElem?.mp fun index finding hindex =>
        (heach index finding hindex).2.2.1
      knownEvidence := hknown
      distinctEvidence := hdistinct }
  · intro h
    refine ⟨h.findings_le, ?_, h.citations_le, ⟨h.knownEvidence, h.distinctEvidence⟩, by simp⟩
    intro index finding hindex
    have hmem := List.mem_of_getElem? hindex
    exact ⟨nodup_map_iff.mp h.distinct index finding hindex,
      ⟨h.knownSections finding hmem, h.distinctSections finding hmem⟩,
      h.workOrders finding hmem, by simp⟩

/-- The directive that a verdict comes with. -/
def Directed (output : PlanCriticOutput) : Prop :=
  match output.verdict with
  | .accept => output.findings = [] ∧ output.clarificationQuestions = [] ∧
      output.escalationRequests = []
  | .revise => output.findings ≠ [] ∧ output.clarificationQuestions = [] ∧
      output.escalationRequests = []
  | .clarify => 1 ≤ output.clarificationQuestions.length ∧
      output.clarificationQuestions.length ≤ 3 ∧ output.escalationRequests = []
  | .escalate => output.clarificationQuestions = [] ∧ output.escalationRequests.length = 1

theorem shapeMatches_iff : shapeMatches output = true ↔ Directed output := by
  unfold shapeMatches Directed
  cases output.verdict <;> simp [and_assoc]

end Findings

section Reviews

variable {invocation : PromptInvocation Payload}

/-- A review that counts: of one schema and this policy, complete and exact in its assessments, with
findings that hold and the directive of its verdict. -/
structure Reviews (output : PlanCriticOutput) (invocation : PromptInvocation Payload)
    (policy : PlanCriticPolicy) : Prop where
  schemaVersion : output.schemaVersion = 1
  bindings : output.bindings = policy.bindings
  assesses : Assesses output policy
  workOrders : ∀ assessment ∈ output.obligationAssessments,
    assessment.affectedWorkOrderIds ⊆ policy.candidateWorkOrderIds
  addressed : output.verdict = .accept → ∀ obligation ∈ policy.obligations,
    obligation.mandatory = true → ∀ assessment ∈ output.obligationAssessments,
      assessment.obligationRef = obligation.reference → assessment.status = .addressed
  findings : FindingsHold output (invocation.sections.map DataSection.name) policy
  directed : Directed output

/-- No two obligations of a policy share an id, and so none share a reference. -/
theorem nodup_references (h : criticPolicyIntegrityViolations hashing policy = []) :
    (policy.obligations.map ProtectedObligation.reference).Nodup := by
  simp only [criticPolicyIntegrityViolations, criticPolicyStructureViolations, collect_eq_nil,
    List.forall_mem_cons, zipIdx_flatMap_eq_nil, policyObligationViolations, report_eq_nil] at h
  obtain ⟨⟨_, _, _, _, _, heach, _⟩, _⟩ := h
  rw [nodup_map_iff]
  intro index obligation hindex hmem
  refine (heach index obligation hindex).2.2.1 ?_
  rwa [List.map_take]

/-- Under a policy of integrity, the checks accept exactly the reviews. -/
theorem criticInvariantViolations_eq_nil
    (hpolicy : criticPolicyIntegrityViolations hashing policy = []) :
    criticInvariantViolations output invocation policy = [] ↔ Reviews output invocation policy := by
  have hreferences := nodup_references hpolicy
  simp only [criticInvariantViolations, collect_eq_nil, List.forall_mem_cons, report_eq_nil,
    not_not, bindingViolations_eq_nil, assessmentViolations_eq_nil hreferences,
    findingAndEvidenceViolations_eq_nil, Bool.not_eq_false, shapeMatches_iff]
  constructor
  · rintro ⟨hschema, hbindings, ⟨hassesses, horders, haddressed⟩, hfindings, hdirected, _⟩
    exact ⟨hschema, hbindings, hassesses, horders, haddressed, hfindings, hdirected⟩
  · intro h
    exact ⟨h.schemaVersion, h.bindings, ⟨h.assesses, h.workOrders, h.addressed⟩, h.findings,
      h.directed, by simp⟩

def sampleDigest : String := String.ofList (List.replicate 64 'a')

def sampleHashing : Hashing ℤ := ⟨integers, fun _ => sampleDigest⟩

def samplePolicy : PlanCriticPolicy :=
  { rootSnapshotSha256 := sampleDigest
    plannerPolicySha256 := sampleDigest
    contextManifestSha256 := sampleDigest
    candidatePlanSha256 := sampleDigest
    obligations := [⟨"obligation", sampleDigest, "statement", true, ["evidence"]⟩]
    candidateWorkOrderIds := ["order"]
    maxFindings := 16
    maxEvidenceReferences := 48
    criticPolicySha256 := sampleDigest }

/-- An output that asks for a revision and finds nothing. -/
def emptyRevision : PlanCriticOutput :=
  { schemaVersion := 1
    bindings := samplePolicy.bindings
    verdict := .revise
    summary := "summary"
    obligationAssessments := [⟨⟨"obligation", sampleDigest⟩, .addressed, "basis", ["order"]⟩]
    findings := []
    clarificationQuestions := []
    escalationRequests := []
    decisionEvidence := [] }

def sampleInvocation : PromptInvocation Unit := ⟨[], ⟨0⟩, []⟩

theorem sample_nodup : (samplePolicy.obligations.map ProtectedObligation.reference).Nodup := by
  decide

theorem emptyRevision_assesses : Assesses emptyRevision samplePolicy :=
  (assesses_iff sample_nodup).mpr ⟨by decide, by decide, rfl⟩

/-- Without findings and evidence there is nothing to hold but the limit on citations. -/
theorem findingsHold_of_none {sections : List String} (hfindings : output.findings = [])
    (hevidence : output.decisionEvidence = [])
    (hcitations : citations output ≤ policy.maxEvidenceReferences.toNat) :
    FindingsHold output sections policy := by
  refine ⟨?_, hcitations, ?_, ?_, ?_, ?_, ?_, ?_⟩ <;> simp [hfindings, hevidence]

/-- Everything an output cites exists, its assessments are exact and nothing is left open, and still it is
refused: its verdict has another directive. -/
theorem emptyRevision_refused :
    criticPolicyIntegrityViolations sampleHashing samplePolicy = [] ∧
      emptyRevision.bindings = samplePolicy.bindings ∧ Assesses emptyRevision samplePolicy ∧
      (∀ assessment ∈ emptyRevision.obligationAssessments,
        assessment.affectedWorkOrderIds ⊆ samplePolicy.candidateWorkOrderIds) ∧
      FindingsHold emptyRevision [] samplePolicy ∧ emptyRevision.verdict ≠ .accept ∧
      criticInvariantViolations emptyRevision sampleInvocation samplePolicy =
        [.directiveShapeMismatch .revise] := by
  exact ⟨by decide, rfl, emptyRevision_assesses, by decide,
    findingsHold_of_none rfl rfl (by decide), by decide, by decide⟩

theorem criticInvariantViolations_sample :
    criticInvariantViolations { emptyRevision with verdict := .accept } sampleInvocation
      samplePolicy = [] := by
  have hpolicy : criticPolicyIntegrityViolations sampleHashing samplePolicy = [] := by
    decide
  exact (criticInvariantViolations_eq_nil hpolicy).mpr {
    schemaVersion := rfl
    bindings := rfl
    assesses := emptyRevision_assesses
    workOrders := by decide
    addressed := by
      intro _ _ _ _ assessment hassessment _
      obtain rfl := List.mem_singleton.mp hassessment
      rfl
    findings := findingsHold_of_none rfl rfl (by decide)
    directed := ⟨rfl, rfl, rfl⟩ }

end Reviews

end BirdCode.Prompting
