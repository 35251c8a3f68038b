import BirdCode.Lib.Collecting
import BirdCode.Prompting.Material
import BirdCode.Review.Contract

/-! The semantic critic of a root plan: the integrity of its policy, and the checks that its output passes
before a verdict counts. -/
namespace BirdCode.Prompting

open Lib Lib.Json Review

variable {N Payload : Type}

section Digests

/-- The canonical text of numbers and the digest of a text. -/
structure Hashing (N : Type) where
  numbers : Numbers N
  sha256 : Text → String

def Hashing.canonicalSha256 (hashing : Hashing N) (value : JsonTree N) : String :=
  hashing.sha256 (encode hashing.numbers value)

end Digests

section Obligations

def maxObligationIdCharacters : ℕ := 128
def maxObligationStatementCharacters : ℕ := 4000
def maxEvidenceRequirements : ℕ := 8
def maxEvidenceRequirementCharacters : ℕ := 1000

inductive ProtectedObligationViolation
  | emptyObligationId
  | obligationIdTooLong (maximum actual : UInt32)
  | emptyStatement
  | statementTooLong (maximum actual : UInt32)
  | evidenceRequirementCount (minimum maximum actual : UInt32)
  | emptyEvidenceRequirement (index : UInt32)
  | evidenceRequirementTooLong (index maximum actual : UInt32)
  | invalidObligationSha256 (actual : String)
  | obligationSha256Mismatch (expected actual : String)
  deriving DecidableEq

/-- A text is not empty, and has no more characters than the limit. -/
def characterViolations {V : Type} (value : String) (maximum : ℕ) (empty : V)
    (tooLong : UInt32 → UInt32 → V) : List V :=
  if value.length = 0 then [empty]
  else report (maximum < value.length) (tooLong (wireU32 maximum) (wireU32 value.length))

def obligationStructureViolations (obligation : ProtectedObligation) :
    List ProtectedObligationViolation :=
  let evidenceCount := obligation.evidenceRequirements.length
  collect [
    characterViolations obligation.obligationId maxObligationIdCharacters .emptyObligationId
      .obligationIdTooLong,
    characterViolations obligation.statement maxObligationStatementCharacters .emptyStatement
      .statementTooLong,
    report (¬(1 ≤ evidenceCount ∧ evidenceCount ≤ maxEvidenceRequirements))
      (.evidenceRequirementCount 1 (wireU32 maxEvidenceRequirements) (wireU32 evidenceCount)),
    obligation.evidenceRequirements.zipIdx.flatMap fun (requirement, index) =>
      characterViolations requirement maxEvidenceRequirementCharacters
        (.emptyEvidenceRequirement (wireU32 index)) (.evidenceRequirementTooLong (wireU32 index))]

def obligationContentSha256 (hashing : Hashing N) (obligation : ProtectedObligation) : String :=
  hashing.canonicalSha256 obligation.hashMaterial

def obligationIntegrityViolations (hashing : Hashing N) (obligation : ProtectedObligation) :
    List ProtectedObligationViolation :=
  collect [
    obligationStructureViolations obligation,
    report (validSha256 obligation.obligationSha256 = false)
      (.invalidObligationSha256 obligation.obligationSha256),
    report (obligationContentSha256 hashing obligation ≠ obligation.obligationSha256)
      (.obligationSha256Mismatch (obligationContentSha256 hashing obligation)
        obligation.obligationSha256)]

end Obligations

section Policy

def maxPolicyObligations : ℕ := 32
def maxCandidateWorkOrders : ℕ := 16
def maxPolicyFindings : UInt32 := 32
def maxPolicyEvidenceReferences : UInt32 := 64

inductive PlanCriticPolicyViolation
  | invalidDigest (field actual : String)
  | obligationCount (minimum maximum actual : UInt32)
  | obligationIntegrity (index : UInt32) (violations : List ProtectedObligationViolation)
  | duplicateObligationId (obligationId : String)
  | duplicateObligationReference (obligationId obligationSha256 : String)
  | candidateWorkOrderCount (maximum actual : UInt32)
  | emptyCandidateWorkOrderId (index : UInt32)
  | duplicateCandidateWorkOrderId (workOrderId : String)
  | maxFindingsOutOfRange (minimum maximum actual : UInt32)
  | maxEvidenceReferencesOutOfRange (minimum maximum actual : UInt32)
  | criticPolicySha256Mismatch (expected actual : String)
  deriving DecidableEq

def digestViolations (field value : String) : List PlanCriticPolicyViolation :=
  report (validSha256 value = false) (.invalidDigest field value)

/-- What is found of an obligation that stands behind others. -/
def policyObligationViolations (hashing : Hashing N) (before : List ProtectedObligation)
    (obligation : ProtectedObligation) (index : ℕ) : List PlanCriticPolicyViolation :=
  collect [
    report (obligationIntegrityViolations hashing obligation ≠ [])
      (.obligationIntegrity (wireU32 index) (obligationIntegrityViolations hashing obligation)),
    report (obligation.obligationId ∈ before.map ProtectedObligation.obligationId)
      (.duplicateObligationId obligation.obligationId),
    report (obligation.reference ∈ before.map ProtectedObligation.reference)
      (.duplicateObligationReference obligation.obligationId obligation.obligationSha256)]

/-- `policy_structure_violations`. -/
def criticPolicyStructureViolations (hashing : Hashing N) (policy : PlanCriticPolicy) :
    List PlanCriticPolicyViolation :=
  let obligationCount := policy.obligations.length
  collect [
    digestViolations "root_snapshot_sha256" policy.rootSnapshotSha256,
    digestViolations "planner_policy_sha256" policy.plannerPolicySha256,
    digestViolations "context_manifest_sha256" policy.contextManifestSha256,
    digestViolations "candidate_plan_sha256" policy.candidatePlanSha256,
    report (¬(1 ≤ obligationCount ∧ obligationCount ≤ maxPolicyObligations))
      (.obligationCount 1 (wireU32 maxPolicyObligations) (wireU32 obligationCount)),
    policy.obligations.zipIdx.flatMap fun (obligation, index) =>
      policyObligationViolations hashing (policy.obligations.take index) obligation index,
    report (maxCandidateWorkOrders < policy.candidateWorkOrderIds.length)
      (.candidateWorkOrderCount (wireU32 maxCandidateWorkOrders)
        (wireU32 policy.candidateWorkOrderIds.length)),
    policy.candidateWorkOrderIds.zipIdx.flatMap fun (id, index) =>
      if id = "" then [.emptyCandidateWorkOrderId (wireU32 index)]
      else report (id ∈ policy.candidateWorkOrderIds.take index) (.duplicateCandidateWorkOrderId id),
    report (¬(1 ≤ policy.maxFindings ∧ policy.maxFindings ≤ maxPolicyFindings))
      (.maxFindingsOutOfRange 1 maxPolicyFindings policy.maxFindings),
    report (¬(1 ≤ policy.maxEvidenceReferences ∧
        policy.maxEvidenceReferences ≤ maxPolicyEvidenceReferences))
      (.maxEvidenceReferencesOutOfRange 1 maxPolicyEvidenceReferences policy.maxEvidenceReferences)]

/-- `policy_content_sha256`. -/
def criticPolicyContentSha256 (hashing : Hashing N) (policy : PlanCriticPolicy) : String :=
  hashing.canonicalSha256 (policy.hashMaterial hashing.numbers)

/-- `policy_integrity_violations`. -/
def criticPolicyIntegrityViolations (hashing : Hashing N) (policy : PlanCriticPolicy) :
    List PlanCriticPolicyViolation :=
  collect [
    criticPolicyStructureViolations hashing policy,
    digestViolations "critic_policy_sha256" policy.criticPolicySha256,
    report (criticPolicyContentSha256 hashing policy ≠ policy.criticPolicySha256)
      (.criticPolicySha256Mismatch (criticPolicyContentSha256 hashing policy)
        policy.criticPolicySha256)]

end Policy

section Output

inductive PlanCriticVerdict
  | accept | revise | clarify | escalate
  deriving DecidableEq

inductive ObligationAssessmentStatus
  | addressed | incomplete | missing | altered | ambiguous | conflicting | unverifiable
  deriving DecidableEq

inductive PlanCriticFindingSeverity
  | blocker | major | minor
  deriving DecidableEq

inductive PlanCriticFindingCategory
  | obligationCoverage | decomposition | parallelism | dependencyOrdering | handoff
  | independentReview | verification | feasibility | ambiguity | conflict | authorityBoundary | other
  deriving DecidableEq

structure PlanCriticBindings where
  rootSnapshotSha256 : String
  plannerPolicySha256 : String
  contextManifestSha256 : String
  candidatePlanSha256 : String
  criticPolicySha256 : String
  deriving DecidableEq

structure ObligationAssessment where
  obligationRef : ProtectedObligationRef
  status : ObligationAssessmentStatus
  basis : String
  affectedWorkOrderIds : List String
  deriving DecidableEq

structure PlanCriticFinding where
  findingId : String
  severity : PlanCriticFindingSeverity
  category : PlanCriticFindingCategory
  statement : String
  sourceSections : List String
  affectedWorkOrderIds : List String
  requiredChange : String
  deriving DecidableEq

structure RootPlannerDecisionEvidence where
  «section» : String
  basis : String
  deriving DecidableEq

structure PlanCriticOutput where
  schemaVersion : UInt32
  bindings : PlanCriticBindings
  verdict : PlanCriticVerdict
  summary : String
  obligationAssessments : List ObligationAssessment
  findings : List PlanCriticFinding
  clarificationQuestions : List String
  escalationRequests : List String
  decisionEvidence : List RootPlannerDecisionEvidence
  deriving DecidableEq

def PlanCriticPolicy.bindings (policy : PlanCriticPolicy) : PlanCriticBindings :=
  { rootSnapshotSha256 := policy.rootSnapshotSha256
    plannerPolicySha256 := policy.plannerPolicySha256
    contextManifestSha256 := policy.contextManifestSha256
    candidatePlanSha256 := policy.candidatePlanSha256
    criticPolicySha256 := policy.criticPolicySha256 }

inductive PlanCriticBindingField
  | rootSnapshotSha256 | plannerPolicySha256 | contextManifestSha256 | candidatePlanSha256
  | criticPolicySha256
  deriving DecidableEq

/-- The violations of an output that was decoded, under a policy that was. -/
inductive PlanCriticInvariantViolation
  | schemaVersion (expected actual : UInt32)
  | bindingMismatch (field : PlanCriticBindingField) (expected actual : String)
  | assessmentCount (expected actual : UInt32)
  | duplicateAssessment (obligationId obligationSha256 : String)
  | unknownObligationReference (obligationId obligationSha256 : String)
  | obligationDigestMismatch (obligationId expectedSha256 actualSha256 : String)
  | mandatoryObligationMissing (obligationId obligationSha256 : String)
  | acceptedMandatoryObligationNotAddressed (obligationId : String)
      (status : ObligationAssessmentStatus)
  | unknownWorkOrderReference (workOrderId : String)
  | duplicateFindingId (findingId : String)
  | findingLimitExceeded (maximum actual : UInt32)
  | evidenceReferenceLimitExceeded (maximum actual : UInt32)
  | unknownEvidenceSection («section» : String)
  | duplicateEvidenceSection («section» : String)
  | directiveShapeMismatch (verdict : PlanCriticVerdict)
  deriving DecidableEq

end Output

section Checks

def bindingViolation (field : PlanCriticBindingField) (expected actual : String) :
    List PlanCriticInvariantViolation :=
  report (expected ≠ actual) (.bindingMismatch field expected actual)

/-- `collect_binding_violations`. -/
def bindingViolations (bindings : PlanCriticBindings) (policy : PlanCriticPolicy) :
    List PlanCriticInvariantViolation :=
  collect [
    bindingViolation .rootSnapshotSha256 policy.rootSnapshotSha256 bindings.rootSnapshotSha256,
    bindingViolation .plannerPolicySha256 policy.plannerPolicySha256 bindings.plannerPolicySha256,
    bindingViolation .contextManifestSha256 policy.contextManifestSha256
      bindings.contextManifestSha256,
    bindingViolation .candidatePlanSha256 policy.candidatePlanSha256 bindings.candidatePlanSha256,
    bindingViolation .criticPolicySha256 policy.criticPolicySha256 bindings.criticPolicySha256]

/-- `collect_unknown_work_orders`. -/
def unknownWorkOrders (ids known : List String) : List PlanCriticInvariantViolation :=
  ids.flatMap fun id => report (id ∉ known) (.unknownWorkOrderReference id)

/-- `collect_known_sections`. -/
def knownSectionViolations (sections known : List String) : List PlanCriticInvariantViolation :=
  sections.zipIdx.flatMap fun (name, index) =>
    report (name ∉ known) (.unknownEvidenceSection name) ++
      report (name ∈ sections.take index) (.duplicateEvidenceSection name)

/-- A reference that the policy does not hold, and whether it has another digest there. -/
def foreignReference (policy : PlanCriticPolicy) (reference : ProtectedObligationRef) :
    List PlanCriticInvariantViolation :=
  if reference ∈ policy.obligations.map ProtectedObligation.reference then []
  else match policy.obligations.find? fun obligation =>
      obligation.obligationId = reference.obligationId with
    | some expected => [.obligationDigestMismatch reference.obligationId expected.obligationSha256
        reference.obligationSha256]
    | none => [.unknownObligationReference reference.obligationId reference.obligationSha256]

/-- What is found of a mandatory obligation. -/
def mandatoryViolations (output : PlanCriticOutput) (obligation : ProtectedObligation) :
    List PlanCriticInvariantViolation :=
  match output.obligationAssessments.find? fun assessment =>
      assessment.obligationRef = obligation.reference with
  | none => [.mandatoryObligationMissing obligation.obligationId obligation.obligationSha256]
  | some assessment => report (output.verdict = .accept ∧ assessment.status ≠ .addressed)
      (.acceptedMandatoryObligationNotAddressed obligation.obligationId assessment.status)

/-- `collect_assessment_violations`. -/
def assessmentViolations (output : PlanCriticOutput) (policy : PlanCriticPolicy) :
    List PlanCriticInvariantViolation :=
  let references := output.obligationAssessments.map ObligationAssessment.obligationRef
  collect [
    output.obligationAssessments.zipIdx.flatMap fun (assessment, index) => collect [
      report (assessment.obligationRef ∈ references.take index)
        (.duplicateAssessment assessment.obligationRef.obligationId
          assessment.obligationRef.obligationSha256),
      foreignReference policy assessment.obligationRef,
      unknownWorkOrders assessment.affectedWorkOrderIds policy.candidateWorkOrderIds],
    report (output.obligationAssessments.length ≠ policy.obligations.length)
      (.assessmentCount (wireU32 policy.obligations.length)
        (wireU32 output.obligationAssessments.length)),
    (policy.obligations.filter ProtectedObligation.mandatory).flatMap (mandatoryViolations output)]

/-- The sections and work orders that an output cites, in `u64`. -/
def evidenceReferences (output : PlanCriticOutput) : ℕ :=
  let inFindings := output.findings.foldl (fun count finding => saturatingAdd
    (saturatingAdd count finding.sourceSections.length) finding.affectedWorkOrderIds.length) 0
  let inAssessments := output.obligationAssessments.foldl (fun count assessment =>
    saturatingAdd count assessment.affectedWorkOrderIds.length) 0
  saturatingAdd (saturatingAdd inFindings output.decisionEvidence.length) inAssessments

/-- `collect_finding_and_evidence_violations`. -/
def findingAndEvidenceViolations (output : PlanCriticOutput) (sections : List String)
    (policy : PlanCriticPolicy) : List PlanCriticInvariantViolation :=
  let ids := output.findings.map PlanCriticFinding.findingId
  collect [
    report (policy.maxFindings.toNat < output.findings.length)
      (.findingLimitExceeded policy.maxFindings (wireU32 output.findings.length)),
    output.findings.zipIdx.flatMap fun (finding, index) => collect [
      report (finding.findingId ∈ ids.take index) (.duplicateFindingId finding.findingId),
      knownSectionViolations finding.sourceSections sections,
      unknownWorkOrders finding.affectedWorkOrderIds policy.candidateWorkOrderIds],
    report (policy.maxEvidenceReferences.toNat < evidenceReferences output)
      (.evidenceReferenceLimitExceeded policy.maxEvidenceReferences
        (wireU32 (evidenceReferences output))),
    knownSectionViolations (output.decisionEvidence.map RootPlannerDecisionEvidence.section)
      sections]

/-- The directive that belongs to a verdict. -/
def shapeMatches (output : PlanCriticOutput) : Bool :=
  let questions := output.clarificationQuestions
  let escalations := output.escalationRequests
  match output.verdict with
  | .accept => output.findings.isEmpty && questions.isEmpty && escalations.isEmpty
  | .revise => !output.findings.isEmpty && questions.isEmpty && escalations.isEmpty
  | .clarify => decide (1 ≤ questions.length) && decide (questions.length ≤ 3) && escalations.isEmpty
  | .escalate => questions.isEmpty && decide (escalations.length = 1)

def criticInvariantViolations (output : PlanCriticOutput) (invocation : PromptInvocation Payload)
    (policy : PlanCriticPolicy) : List PlanCriticInvariantViolation :=
  collect [
    report (output.schemaVersion ≠ 1) (.schemaVersion 1 output.schemaVersion),
    bindingViolations output.bindings policy,
    assessmentViolations output policy,
    findingAndEvidenceViolations output (invocation.sections.map DataSection.name) policy,
    report (shapeMatches output = false) (.directiveShapeMismatch output.verdict)]

end Checks

end BirdCode.Prompting
