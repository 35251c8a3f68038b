import BirdCode.Store.Records

/-! The contract of a repository review: what the reviewer sees, the policy derived from it, and every
violation that its answer is checked for. -/
namespace BirdCode.Review

open Std Store

section Prompts

inductive TrustLevel
  | applicationPolicy | user | repository | tool | untrustedExternal
  deriving DecidableEq

inductive SourceKind
  | user | repository | tool | external
  deriving DecidableEq

structure DataProvenance where
  sourceKind : SourceKind
  sourceId : String
  artifactSha256 : Option String
  eventId : Option String
  deriving DecidableEq

structure DataSection (Value : Type) where
  name : String
  trust : TrustLevel
  provenance : DataProvenance
  payload : Value
  deriving DecidableEq

structure RuntimeConstraint (Value : Type) where
  name : String
  payload : Value
  deriving DecidableEq

structure PromptLimits where
  maxSuggestedSubtasks : UInt32
  deriving DecidableEq

structure PromptInvocation (Value : Type) where
  sections : List (DataSection Value)
  limits : PromptLimits
  runtimeConstraints : List (RuntimeConstraint Value)
  deriving DecidableEq

structure PromptKey where
  id : String
  version : String
  deriving DecidableEq

end Prompts

section Inputs

inductive RepositoryReviewScope
  | exactUtf8ReplaceArtifactReview
  deriving DecidableEq

inductive RepositoryReviewEvidenceHandle
  | preimage | postimage | diff
  deriving DecidableEq

inductive RepositoryReviewPathComponent
  | utf8 (value : String)
  | unixBytes (value : List UInt8)
  deriving DecidableEq

structure RepositoryReviewPath where
  components : List RepositoryReviewPathComponent
  deriving DecidableEq

structure RepositoryReviewSourceInput where
  blindSubjectId : String
  scope : RepositoryReviewScope
  identityBlinding : String
  deriving DecidableEq

structure RepositoryReviewRequirementRef where
  requirementId : String
  requirementSha256 : String
  deriving DecidableEq

instance : Ord RepositoryReviewRequirementRef :=
  ⟨compareLex (compareOn (·.requirementId)) (compareOn (·.requirementSha256))⟩

instance : TransOrd RepositoryReviewRequirementRef :=
  inferInstanceAs (TransCmp (compareLex (compareOn RepositoryReviewRequirementRef.requirementId)
    (compareOn RepositoryReviewRequirementRef.requirementSha256)))

instance : LawfulEqOrd RepositoryReviewRequirementRef where
  eq_of_compare {a b} h := by
    obtain ⟨hid, hdigest⟩ := compareLex_eq_eq.mp h
    have hid : a.requirementId = b.requirementId :=
      (inferInstance : LawfulEqOrd String).eq_of_compare hid
    have hdigest : a.requirementSha256 = b.requirementSha256 :=
      (inferInstance : LawfulEqOrd String).eq_of_compare hdigest
    cases a
    cases b
    simp_all

inductive RepositoryReviewRequirementKind
  | objective | acceptanceCriterion
  deriving DecidableEq

structure RepositoryReviewRequirementInput where
  requirement : RepositoryReviewRequirementRef
  kind : RepositoryReviewRequirementKind
  text : String
  deriving DecidableEq

structure RepositoryReviewArtifactInput where
  handle : RepositoryReviewEvidenceHandle
  contentUtf8 : String
  complete : Bool
  deriving DecidableEq

structure RepositoryReviewCandidateArtifactsInput where
  path : RepositoryReviewPath
  artifacts : List RepositoryReviewArtifactInput
  deriving DecidableEq

structure RepositoryReviewProducerClaimInput where
  summary : String
  findings : List String
  unknowns : List String
  recommendedFollowups : List String
  deriving DecidableEq

structure RepositoryReviewInput where
  source : RepositoryReviewSourceInput
  requirements : List RepositoryReviewRequirementInput
  candidateArtifacts : RepositoryReviewCandidateArtifactsInput
  producerClaim : RepositoryReviewProducerClaimInput
  deriving DecidableEq

structure RepositoryReviewEvidenceBinding where
  handle : RepositoryReviewEvidenceHandle
  lineCount : UInt32
  deriving DecidableEq

structure RepositoryReviewPolicyMaterial where
  blindSubjectId : String
  scope : RepositoryReviewScope
  visiblePayloadSha256 : String
  requirements : List RepositoryReviewRequirementRef
  evidence : List RepositoryReviewEvidenceBinding
  deriving DecidableEq

structure RepositoryReviewPolicy extends RepositoryReviewPolicyMaterial where
  contractVersion : UInt32
  maxFindings : UInt32
  maxEvidenceReferences : UInt32
  reviewPolicySha256 : String
  deriving DecidableEq

inductive RepositoryReviewPolicyViolation
  | invalidContractVersion (actual : UInt32)
  | invalidIdentifier (field : String)
  | invalidDigest (field : String)
  | requirementCount (actual : UInt32)
  | duplicateRequirement (requirementId : String)
  | requirementDigestMismatch (requirementId : String)
  | evidenceSetMismatch
  | evidenceIncomplete (handle : RepositoryReviewEvidenceHandle)
  | collectionLimit (field : String)
  | policyDigestMismatch
  deriving DecidableEq

end Inputs

section Outputs

structure RepositoryReviewBindings where
  blindSubjectId : String
  scope : RepositoryReviewScope
  visiblePayloadSha256 : String
  reviewPolicySha256 : String
  deriving DecidableEq

inductive RepositoryReviewVerdict
  | pass | revise | inconclusive
  deriving DecidableEq

inductive RepositoryReviewRequirementStatus
  | satisfied | partiallySatisfied | unsatisfied | notEvaluable
  deriving DecidableEq

structure RepositoryReviewLineSpan where
  startLine : UInt32
  endLine : UInt32
  deriving DecidableEq

structure RepositoryReviewEvidenceRef where
  handle : RepositoryReviewEvidenceHandle
  lineSpan : Option RepositoryReviewLineSpan
  deriving DecidableEq

structure RepositoryReviewRequirementAssessment where
  requirement : RepositoryReviewRequirementRef
  status : RepositoryReviewRequirementStatus
  basis : String
  evidence : List RepositoryReviewEvidenceRef
  deriving DecidableEq

inductive RepositoryReviewFindingSeverity
  | blocker | major | minor
  deriving DecidableEq

inductive RepositoryReviewFindingCategory
  | correctness | requirements | buildability | security | maintainability | compatibility
  | dataIntegrity | evidenceGap
  deriving DecidableEq

inductive RepositoryReviewConfidence
  | low | medium | high
  deriving DecidableEq

structure RepositoryReviewFinding where
  findingId : String
  severity : RepositoryReviewFindingSeverity
  category : RepositoryReviewFindingCategory
  statement : String
  causalConsequence : String
  requiredChange : String
  confidence : RepositoryReviewConfidence
  evidence : List RepositoryReviewEvidenceRef
  deriving DecidableEq

structure RepositoryReviewMissingEvidence where
  missingEvidenceId : String
  requirementRefs : List RepositoryReviewRequirementRef
  description : String
  deriving DecidableEq

structure RepositoryReviewOutput where
  schemaVersion : UInt32
  bindings : RepositoryReviewBindings
  verdict : RepositoryReviewVerdict
  summary : String
  requirementAssessments : List RepositoryReviewRequirementAssessment
  findings : List RepositoryReviewFinding
  missingEvidence : List RepositoryReviewMissingEvidence
  deriving DecidableEq

inductive RepositoryReviewInvariantViolation
  | invalidInvocation
  | invalidOutput
  | bindingMismatch
  | assessmentCount (expected actual : UInt32)
  | duplicateAssessment (requirementId : String)
  | unknownRequirement (requirementId : String)
  | requirementDigestMismatch (requirementId : String)
  | duplicateFindingId (findingId : String)
  | duplicateMissingEvidenceId (missingEvidenceId : String)
  | missingEvidenceCoverage (requirementId : String)
  | unknownEvidenceHandle
  | invalidEvidenceSpan
  | evidenceReferenceLimit
  | invalidText (field : String)
  | verdictShape
  deriving DecidableEq

end Outputs

/-- A JSON document type and one of its Rust types: what serde writes for a value is read back as that
value. -/
structure Codec (Value T : Type) where
  write : T → Value
  read : Value → Option T
  read_write : ∀ value, read (write value) = some value

/-- Where a review leaves the code that is modelled: JSON and SHA-256. -/
structure ReviewEncoding where
  Value : Type
  source : Codec Value RepositoryReviewSourceInput
  requirements : Codec Value (List RepositoryReviewRequirementInput)
  candidateArtifacts : Codec Value RepositoryReviewCandidateArtifactsInput
  producerClaim : Codec Value RepositoryReviewProducerClaimInput
  policy : Codec Value RepositoryReviewPolicy
  output : Codec Value RepositoryReviewOutput
  sha256 : List UInt8 → Sha256Digest
  /-- The canonical encodings, with the keys of an object in order. -/
  inputJson : RepositoryReviewInput → List UInt8
  policyJson : RepositoryReviewPolicy → List UInt8

section Policies

def boundedIdentifier (value : String) : Bool := !value.isEmpty && value.length ≤ 128

def boundedText (value : String) : Bool :=
  !value.isEmpty && value.length ≤ 16384 && value.utf8ByteSize ≤ 64 * 1024

def wireU32 (value : ℕ) : UInt32 := UInt32.ofNat (min value (2 ^ 32 - 1))

def logicalLineCount (value : String) : UInt32 :=
  if value.isEmpty then 0 else wireU32 (value.toList.count '\n' + 1)

variable (encoding : ReviewEncoding)

def canonicalSha256 (bytes : List UInt8) : String := (encoding.sha256 bytes).value

/-- The digest of the text after the bytes of the domain. -/
def repositoryReviewRequirementSha256 (text : String) : String :=
  canonicalSha256 encoding ("birdcode.repository-review-requirement.v1\x00" ++ text).toUTF8.data.toList

/-- `seen` holds the identifiers of the requirements before these. -/
def requirementViolations : List String → List RepositoryReviewRequirementInput →
    List RepositoryReviewPolicyViolation
  | _, [] => []
  | seen, requirement :: rest =>
    let requirementId := requirement.requirement.requirementId
    collect [
      report (!boundedIdentifier requirementId) (.invalidIdentifier "requirement_id"),
      report (!boundedText requirement.text) (.collectionLimit "requirement_text"),
      report (requirementId ∈ seen) (.duplicateRequirement requirementId),
      report (requirement.requirement.requirementSha256 ≠
          repositoryReviewRequirementSha256 encoding requirement.text)
        (.requirementDigestMismatch requirementId)] ++
    requirementViolations (requirementId :: seen) rest

def artifactViolations : List RepositoryReviewEvidenceHandle → List RepositoryReviewArtifactInput →
    List RepositoryReviewPolicyViolation
  | _, [] => []
  | seen, artifact :: rest =>
    collect [
      report (!artifact.complete) (.evidenceIncomplete artifact.handle),
      report (artifact.handle ∈ seen) .evidenceSetMismatch] ++
    artifactViolations (artifact.handle :: seen) rest

/-- The handles of a set are these three. -/
def allHandles (handles : List RepositoryReviewEvidenceHandle) : Bool :=
  .preimage ∈ handles && .postimage ∈ handles && .diff ∈ handles

def inputViolations (input : RepositoryReviewInput) : List RepositoryReviewPolicyViolation :=
  let claims := input.producerClaim
  collect [
    report (!boundedIdentifier input.source.blindSubjectId) (.invalidIdentifier "blind_subject_id"),
    report (input.source.identityBlinding ≠ "runtime_identity_blinded")
      (.invalidIdentifier "identity_blinding"),
    report (input.requirements = [] ∨ 32 < input.requirements.length)
      (.requirementCount (wireU32 input.requirements.length)),
    requirementViolations encoding [] input.requirements,
    artifactViolations [] input.candidateArtifacts.artifacts,
    report (!allHandles (input.candidateArtifacts.artifacts.map (·.handle))) .evidenceSetMismatch,
    report (!boundedText claims.summary ∨ 32 < claims.findings.length ∨ 32 < claims.unknowns.length ∨
        32 < claims.recommendedFollowups.length ∨
        (claims.findings ++ claims.unknowns ++ claims.recommendedFollowups).any (!boundedText ·))
      (.collectionLimit "producer_claim")]

def policyRequirementViolations : List RepositoryReviewRequirementRef →
    List RepositoryReviewRequirementRef → List RepositoryReviewPolicyViolation
  | _, [] => []
  | seen, requirement :: rest =>
    collect [
      report (requirement ∈ seen) (.duplicateRequirement requirement.requirementId),
      report (!boundedIdentifier requirement.requirementId ∨
          !validSha256 requirement.requirementSha256)
        (.invalidDigest "requirement")] ++
    policyRequirementViolations (requirement :: seen) rest

def policyStructureViolations (policy : RepositoryReviewPolicy) :
    List RepositoryReviewPolicyViolation :=
  let handles := policy.evidence.map (·.handle)
  collect [
    report (policy.contractVersion ≠ 1) (.invalidContractVersion policy.contractVersion),
    report (!boundedIdentifier policy.blindSubjectId) (.invalidIdentifier "blind_subject_id"),
    report (!validSha256 policy.visiblePayloadSha256) (.invalidDigest "visible_payload_sha256"),
    report (!policy.reviewPolicySha256.isEmpty ∧ !validSha256 policy.reviewPolicySha256)
      (.invalidDigest "review_policy_sha256"),
    report (policy.requirements = [] ∨ 32 < policy.requirements.length)
      (.requirementCount (wireU32 policy.requirements.length)),
    policyRequirementViolations [] policy.requirements,
    report (!allHandles handles ∨ ¬handles.Nodup) .evidenceSetMismatch,
    report (policy.maxFindings ≠ 24 ∨ policy.maxEvidenceReferences ≠ 128)
      (.collectionLimit "policy_limits")]

def policyContentSha256 (policy : RepositoryReviewPolicy) : String :=
  canonicalSha256 encoding (encoding.policyJson { policy with reviewPolicySha256 := "" })

def RepositoryReviewPolicy.new (material : RepositoryReviewPolicyMaterial) :
    Except (List RepositoryReviewPolicyViolation) RepositoryReviewPolicy :=
  let policy : RepositoryReviewPolicy :=
    { material with
      contractVersion := 1, maxFindings := 24, maxEvidenceReferences := 128
      reviewPolicySha256 := "" }
  let violations := policyStructureViolations policy
  if violations = [] then
    .ok { policy with reviewPolicySha256 := policyContentSha256 encoding policy }
  else .error violations

def RepositoryReviewPolicy.integrityViolations (policy : RepositoryReviewPolicy) :
    List RepositoryReviewPolicyViolation :=
  policyStructureViolations policy ++
    report (policyContentSha256 encoding policy ≠ policy.reviewPolicySha256) .policyDigestMismatch

def deriveRepositoryReviewPolicy (input : RepositoryReviewInput) :
    Except (List RepositoryReviewPolicyViolation) RepositoryReviewPolicy :=
  let violations := inputViolations encoding input
  if violations = [] then
    RepositoryReviewPolicy.new encoding {
      blindSubjectId := input.source.blindSubjectId
      scope := input.source.scope
      visiblePayloadSha256 := canonicalSha256 encoding (encoding.inputJson input)
      requirements := input.requirements.map (·.requirement)
      evidence := input.candidateArtifacts.artifacts.map fun artifact =>
        ⟨artifact.handle, logicalLineCount artifact.contentUtf8⟩ }
  else .error violations

end Policies

section Invocations

variable (encoding : ReviewEncoding)

def reviewSection (name : String) (trust : TrustLevel) (sourceKind : SourceKind)
    (payload : encoding.Value) : DataSection encoding.Value where
  name
  trust
  provenance := ⟨sourceKind, "repository-review:" ++ name, none, none⟩
  payload

/-- The invocation of the prompt for this input, when the policy is the one derived from it. -/
def repositoryReviewInvocation (input : RepositoryReviewInput) (policy : RepositoryReviewPolicy) :
    Except (List RepositoryReviewPolicyViolation) (PromptInvocation encoding.Value) := do
  let derived ← deriveRepositoryReviewPolicy encoding input
  ensure (derived = policy) [.policyDigestMismatch]
  return {
    sections := [
      reviewSection encoding "review_source" .tool .tool (encoding.source.write input.source),
      reviewSection encoding "requirements" .untrustedExternal .external
        (encoding.requirements.write input.requirements),
      reviewSection encoding "candidate_artifacts" .repository .repository
        (encoding.candidateArtifacts.write input.candidateArtifacts),
      reviewSection encoding "producer_claim" .untrustedExternal .external
        (encoding.producerClaim.write input.producerClaim)]
    limits := ⟨0⟩
    runtimeConstraints := [⟨"review_policy", encoding.policy.write policy⟩] }

/-- The payload of the last section of this name, the one a map of the sections keeps. -/
def sectionPayload {T : Type} (sections : List (DataSection encoding.Value))
    (codec : Codec encoding.Value T) (name : String) (trust : TrustLevel) (sourceKind : SourceKind) :
    Option T := do
  let found ← sections.reverse.find? (·.name = name)
  if found.trust ≠ trust ∨ found.provenance.sourceKind ≠ sourceKind then none
  else codec.read found.payload

def inputAndPolicyFromInvocation (invocation : PromptInvocation encoding.Value) :
    Option (RepositoryReviewInput × RepositoryReviewPolicy) :=
  match invocation.runtimeConstraints with
  | [constraint] =>
    if invocation.limits ≠ ⟨0⟩ ∨ constraint.name ≠ "review_policy" then none
    else do
      let policy ← encoding.policy.read constraint.payload
      if (invocation.sections.map (·.name)).dedup.length ≠ 4 then none
      else do
        let source ← sectionPayload encoding invocation.sections encoding.source "review_source"
          .tool .tool
        let requirements ← sectionPayload encoding invocation.sections encoding.requirements
          "requirements" .untrustedExternal .external
        let candidateArtifacts ← sectionPayload encoding invocation.sections
          encoding.candidateArtifacts "candidate_artifacts" .repository .repository
        let producerClaim ← sectionPayload encoding invocation.sections encoding.producerClaim
          "producer_claim" .untrustedExternal .external
        some (⟨source, requirements, candidateArtifacts, producerClaim⟩, policy)
  | _ => none

end Invocations

section Violations

variable (policy : RepositoryReviewPolicy)

/-- `seen` holds the references before these, and the lines of an artifact are those of the last binding
of its handle. -/
def evidenceViolations : List RepositoryReviewEvidenceRef → List RepositoryReviewEvidenceRef →
    List RepositoryReviewInvariantViolation
  | _, [] => []
  | seen, reference :: rest =>
    report (reference ∈ seen) .invalidEvidenceSpan ++
    (match policy.evidence.reverse.find? (·.handle = reference.handle) with
      | none => [.unknownEvidenceHandle]
      | some binding =>
        match reference.lineSpan with
        | none => []
        | some span =>
          report (span.startLine = 0 ∨ span.endLine < span.startLine ∨
            binding.lineCount < span.endLine) .invalidEvidenceSpan) ++
    evidenceViolations (reference :: seen) rest

def assessmentViolations : List RepositoryReviewRequirementRef →
    List RepositoryReviewRequirementAssessment → List RepositoryReviewInvariantViolation
  | _, [] => []
  | seen, assessment :: rest =>
    let requirement := assessment.requirement
    collect [
      report (requirement ∈ seen) (.duplicateAssessment requirement.requirementId),
      report (requirement ∉ policy.requirements)
        (if policy.requirements.any (·.requirementId = requirement.requirementId) then
          .requirementDigestMismatch requirement.requirementId
        else .unknownRequirement requirement.requirementId),
      report (!boundedText assessment.basis) (.invalidText "assessment_basis"),
      report (assessment.status ≠ .notEvaluable ∧ assessment.evidence = []) .verdictShape,
      evidenceViolations policy [] assessment.evidence] ++
    assessmentViolations (requirement :: seen) rest

def collectAssessmentViolations (output : RepositoryReviewOutput) :
    List RepositoryReviewInvariantViolation :=
  assessmentViolations policy [] output.requirementAssessments ++
    report (output.requirementAssessments.length ≠ policy.requirements.length)
      (.assessmentCount (wireU32 policy.requirements.length)
        (wireU32 output.requirementAssessments.length))

/-- An identifier that is out of bounds, or among those before it. -/
def refusedIdentifier (seen : List String) (value : String) : Bool :=
  !boundedIdentifier value || value ∈ seen

/-- A refused identifier is not inserted. -/
def insertIdentifier (seen : List String) (value : String) : List String :=
  if refusedIdentifier seen value then seen else value :: seen

def findingViolations : List String → List RepositoryReviewFinding →
    List RepositoryReviewInvariantViolation
  | _, [] => []
  | seen, finding :: rest =>
    collect [
      report (refusedIdentifier seen finding.findingId) (.duplicateFindingId finding.findingId),
      report (!boundedText finding.statement) (.invalidText "finding_statement"),
      report (!boundedText finding.causalConsequence) (.invalidText "finding_causal_consequence"),
      report (!boundedText finding.requiredChange) (.invalidText "finding_required_change"),
      report (finding.evidence = []) .verdictShape,
      evidenceViolations policy [] finding.evidence] ++
    findingViolations (insertIdentifier seen finding.findingId) rest

def collectFindingViolations (output : RepositoryReviewOutput) :
    List RepositoryReviewInvariantViolation :=
  report (policy.maxFindings < wireU32 output.findings.length) .verdictShape ++
    findingViolations policy [] output.findings

def missingEntryViolations (seen : List String) (missing : RepositoryReviewMissingEvidence) :
    List RepositoryReviewInvariantViolation :=
  collect [
    report (refusedIdentifier seen missing.missingEvidenceId)
      (.duplicateMissingEvidenceId missing.missingEvidenceId),
    report (!boundedText missing.description ∨ missing.requirementRefs = []) .verdictShape,
    (missing.requirementRefs.filter (· ∉ policy.requirements)).map
      fun requirement => .unknownRequirement requirement.requirementId]

def missingEvidenceViolations : List String → List RepositoryReviewMissingEvidence →
    List RepositoryReviewInvariantViolation
  | _, [] => []
  | seen, missing :: rest =>
    missingEntryViolations policy seen missing ++
      missingEvidenceViolations (insertIdentifier seen missing.missingEvidenceId) rest

/-- The requirements that an output leaves open. -/
def RepositoryReviewOutput.notEvaluable (output : RepositoryReviewOutput) :
    List RepositoryReviewRequirementRef :=
  (output.requirementAssessments.filter (·.status = .notEvaluable)).map (·.requirement)

/-- The requirements some missing evidence is about. -/
def RepositoryReviewOutput.covered (output : RepositoryReviewOutput) :
    List RepositoryReviewRequirementRef :=
  output.missingEvidence.flatMap (·.requirementRefs)

/-- The open requirements that no missing evidence covers are reported in their order. -/
def coverageViolations (output : RepositoryReviewOutput) : List RepositoryReviewInvariantViolation :=
  ((toSet output.notEvaluable).toList.filter (· ∉ output.covered)).map
    fun requirement => .missingEvidenceCoverage requirement.requirementId

def collectMissingEvidenceViolations (output : RepositoryReviewOutput) :
    List RepositoryReviewInvariantViolation :=
  missingEvidenceViolations policy [] output.missingEvidence ++ coverageViolations output

def RepositoryReviewOutput.shaped (output : RepositoryReviewOutput) : Bool :=
  match output.verdict with
  | .pass =>
    output.requirementAssessments.all (·.status = .satisfied) && output.findings.isEmpty &&
      output.missingEvidence.isEmpty
  | .revise =>
    output.requirementAssessments.any
        (fun assessment => assessment.status = .partiallySatisfied ∨
          assessment.status = .unsatisfied) &&
      !output.findings.isEmpty && output.missingEvidence.isEmpty
  | .inconclusive =>
    output.requirementAssessments.any (·.status = .notEvaluable) && !output.missingEvidence.isEmpty

/-- No list is so long that the sum leaves 64 bits. -/
def RepositoryReviewOutput.evidenceCount (output : RepositoryReviewOutput) : ℕ :=
  (output.requirementAssessments.map (·.evidence.length)).sum +
    (output.findings.map (·.evidence.length)).sum

def collectVerdictShapeViolations (output : RepositoryReviewOutput) :
    List RepositoryReviewInvariantViolation :=
  report (!output.shaped) .verdictShape ++
    report (128 < output.evidenceCount) .evidenceReferenceLimit

/-- Every violation of the contract, for an invocation whose policy this is. -/
def contractViolations (output : RepositoryReviewOutput) : List RepositoryReviewInvariantViolation :=
  collect [
    report (output.schemaVersion ≠ 1 ∨ output.bindings.blindSubjectId ≠ policy.blindSubjectId ∨
        output.bindings.scope ≠ policy.scope ∨
        output.bindings.visiblePayloadSha256 ≠ policy.visiblePayloadSha256 ∨
        output.bindings.reviewPolicySha256 ≠ policy.reviewPolicySha256) .bindingMismatch,
    collectAssessmentViolations policy output,
    collectFindingViolations policy output,
    collectMissingEvidenceViolations policy output,
    collectVerdictShapeViolations output,
    report (!boundedText output.summary) (.invalidText "summary")]

end Violations

section Validation

variable (encoding : ReviewEncoding)

/-- The policy of an invocation, when it is the one its input determines. -/
def invocationPolicy (invocation : PromptInvocation encoding.Value) :
    Option RepositoryReviewPolicy := do
  let (input, policy) ← inputAndPolicyFromInvocation encoding invocation
  match deriveRepositoryReviewPolicy encoding input with
  | .error _ => none
  | .ok expected =>
    if policy ≠ expected ∨ policy.integrityViolations encoding ≠ [] then none else some policy

def validateRepositoryReviewOutput (value : encoding.Value)
    (invocation : PromptInvocation encoding.Value) :
    Except (List RepositoryReviewInvariantViolation) Unit := do
  let policy ← expect [.invalidInvocation] (invocationPolicy encoding invocation)
  let output ← expect [.invalidOutput] (encoding.output.read value)
  let violations := contractViolations policy output
  ensure (violations = []) violations

end Validation

end BirdCode.Review
