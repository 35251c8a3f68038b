import BirdCode.Review.Contract

/-! The repair of a review that lacks missing evidence: the controller decides which entries are added
and under which identities, and the repair model only describes them. -/
namespace BirdCode.Review

open Std Store

section Contexts

structure MissingEvidenceRepairContext where
  slotId : String
  requirementText : String
  priorAssessmentBasis : String
  deriving DecidableEq

structure MissingEvidenceRepairInput where
  contexts : List MissingEvidenceRepairContext
  deriving DecidableEq

structure MissingEvidenceRepairSlot where
  slotId : String
  missingEvidenceId : String
  requirement : RepositoryReviewRequirementRef
  deriving DecidableEq

structure MissingEvidenceRepairPolicy where
  contractVersion : UInt32
  repairOrdinal : UInt32
  blindSubjectId : String
  parentRawTextSha256 : String
  parentResponseArtifactSha256 : String
  immutableProjectionSha256 : String
  existingMissingEvidenceSha256 : String
  slots : List MissingEvidenceRepairSlot
  repairPolicySha256 : String
  deriving DecidableEq

structure MissingEvidenceRepairBindings where
  blindSubjectId : String
  parentRawTextSha256 : String
  repairPolicySha256 : String
  deriving DecidableEq

structure MissingEvidenceCompletion where
  slotId : String
  description : String
  deriving DecidableEq

/-- The patch that the repair model answers with. -/
structure MissingEvidenceRepairOutput where
  schemaVersion : UInt32
  bindings : MissingEvidenceRepairBindings
  completions : List MissingEvidenceCompletion
  deriving DecidableEq

inductive MissingEvidenceRepairViolation
  | notRepairable
  | bindingMismatch
  | completionCount (expected actual : ℕ)
  | completionOrder (index : ℕ)
  | duplicateSlot
  | originalProjectionMismatch
  | finalContractInvalid (detail : String)
  deriving DecidableEq

/-- The search for an identity ends in `unreachable!` when every counter is taken. -/
inductive PrepareFailure
  | violation (violation : MissingEvidenceRepairViolation)
  | unreachable
  deriving DecidableEq

end Contexts

/-- What the repair calls besides JSON and SHA-256: the registry's checks of a compiled prompt and of the
output schema, which come before the reviewer's own rules, and the repair prompt's compilation. -/
structure RepairEncoding extends ReviewEncoding where
  CompiledPrompt : Type
  prompt : CompiledPrompt → PromptKey
  schemaChecked : CompiledPrompt → PromptInvocation Value → Value → Except String Unit
  describeViolations : List RepositoryReviewInvariantViolation → String
  compileRepair : PromptInvocation Value → Option CompiledPrompt
  repairInput : MissingEvidenceRepairInput → Value
  repairPolicy : MissingEvidenceRepairPolicy → Value
  outputJson : RepositoryReviewOutput → List UInt8
  missingEvidenceJson : List RepositoryReviewMissingEvidence → List UInt8
  repairPolicyJson : MissingEvidenceRepairPolicy → List UInt8

structure PreparedMissingEvidenceRepair (encoding : RepairEncoding) where
  input : MissingEvidenceRepairInput
  policy : MissingEvidenceRepairPolicy
  invocation : PromptInvocation encoding.Value
  compiled : encoding.CompiledPrompt

def repositoryReviewerKey : PromptKey := ⟨"birdcode.repository-semantic-reviewer", "1.0.0"⟩

variable (encoding : RepairEncoding)

/-- `PromptRegistry::validate_output`, up to the rules of other prompts. -/
def validateOutput (compiled : encoding.CompiledPrompt) (invocation : PromptInvocation encoding.Value)
    (value : encoding.Value) : Except String Unit := do
  encoding.schemaChecked compiled invocation value
  if encoding.prompt compiled = repositoryReviewerKey then
    match validateRepositoryReviewOutput encoding.toReviewEncoding value invocation with
    | .error violations => .error (encoding.describeViolations violations)
    | .ok () => .ok ()
  else .ok ()

section Digests

def RepositoryReviewOutput.withMissingEvidence (output : RepositoryReviewOutput)
    (missingEvidence : List RepositoryReviewMissingEvidence) : RepositoryReviewOutput :=
  { output with missingEvidence }

def immutableProjectionSha256 (candidate : RepositoryReviewOutput) : String :=
  canonicalSha256 encoding.toReviewEncoding (encoding.outputJson (candidate.withMissingEvidence []))

def missingEvidenceSha256 (missingEvidence : List RepositoryReviewMissingEvidence) : String :=
  canonicalSha256 encoding.toReviewEncoding (encoding.missingEvidenceJson missingEvidence)

end Digests

section Identities

/-- `format!("missing-{:03}", index + 1)`. -/
def slotIdAt (index : ℕ) : String :=
  let digits := Nat.toDigits 10 (index + 1)
  "missing-" ++ String.ofList (List.replicate (3 - digits.length) '0' ++ digits)

def missingEvidenceIdAt (parentRawTextSha256 : String) (requirement : RepositoryReviewRequirementRef)
    (counter : ℕ) : String :=
  let material := "birdcode.repository-review-missing-evidence-id.v1\x00" ++ parentRawTextSha256 ++
    "\x00" ++ requirement.requirementId ++ "\x00" ++ requirement.requirementSha256 ++ "\x00" ++
    String.ofList (Nat.toDigits 10 counter)
  "missing-" ++ String.ofList ((encoding.sha256 material.toUTF8.data.toList).value.toList.take 32)

/-- The first identity from this counter on that is not taken. -/
def missingEvidenceIdFrom (parentRawTextSha256 : String) (requirement : RepositoryReviewRequirementRef)
    (taken : List String) : ℕ → ℕ → Option String
  | 0, _ => none
  | fuel + 1, counter =>
    let candidate := missingEvidenceIdAt encoding parentRawTextSha256 requirement counter
    if candidate ∉ taken then some candidate
    else missingEvidenceIdFrom parentRawTextSha256 requirement taken fuel (counter + 1)

/-- The counter runs over the values of a `u32`. -/
def deterministicMissingEvidenceId (parentRawTextSha256 : String)
    (requirement : RepositoryReviewRequirementRef) (existing generated : List String) :
    Option String :=
  missingEvidenceIdFrom encoding parentRawTextSha256 requirement (existing ++ generated) (2 ^ 32) 0

end Identities

section Preparation

/-- Each covered requirement is one that the candidate leaves open, and is covered once. -/
def coveredOnce (notEvaluable : List RepositoryReviewRequirementRef) :
    List RepositoryReviewRequirementRef → List RepositoryReviewRequirementRef → Bool
  | _, [] => true
  | covered, requirement :: rest =>
    requirement ∈ notEvaluable && requirement ∉ covered &&
      coveredOnce notEvaluable (requirement :: covered) rest

/-- The open assessments that no missing evidence covers, in the order of the assessments. -/
def RepositoryReviewOutput.uncovered (candidate : RepositoryReviewOutput) :
    List RepositoryReviewRequirementAssessment :=
  candidate.requirementAssessments.filter fun assessment =>
    assessment.status = .notEvaluable && assessment.requirement ∉ candidate.covered

def RepositoryReviewOutput.missingEvidenceIds (output : RepositoryReviewOutput) : List String :=
  output.missingEvidence.map (·.missingEvidenceId)

/-- `generated` holds the identities of the slots before these. -/
def repairSlots (requirementTexts : BTreeMap RepositoryReviewRequirementRef String)
    (parentRawTextSha256 : String) (existing : List String) :
    ℕ → List String → List RepositoryReviewRequirementAssessment →
      Except PrepareFailure (List MissingEvidenceRepairContext × List MissingEvidenceRepairSlot)
  | _, _, [] => .ok ([], [])
  | index, generated, assessment :: rest => do
    let requirementText ← expect (.violation .notRepairable)
      requirementTexts[assessment.requirement]?
    let missingEvidenceId ← expect .unreachable
      (deterministicMissingEvidenceId encoding parentRawTextSha256 assessment.requirement existing
        generated)
    let (contexts, slots) ← repairSlots requirementTexts parentRawTextSha256 existing (index + 1)
      (missingEvidenceId :: generated) rest
    .ok (⟨slotIdAt index, requirementText, assessment.basis⟩ :: contexts,
      ⟨slotIdAt index, missingEvidenceId, assessment.requirement⟩ :: slots)

def MissingEvidenceRepairSlot.entry (slot : MissingEvidenceRepairSlot) (description : String) :
    RepositoryReviewMissingEvidence where
  missingEvidenceId := slot.missingEvidenceId
  requirementRefs := [slot.requirement]
  description

def placeholderDescription : String :=
  "Independent runtime evidence is required to evaluate this requirement."

/-- The candidate with a valid placeholder in every slot. -/
def eligibilityProbe (candidate : RepositoryReviewOutput) (slots : List MissingEvidenceRepairSlot) :
    RepositoryReviewOutput :=
  candidate.withMissingEvidence
    (candidate.missingEvidence ++ slots.map (·.entry placeholderDescription))

def repairPolicyFor (candidate : RepositoryReviewOutput) (parentRawTextSha256
    parentResponseArtifactSha256 : String) (slots : List MissingEvidenceRepairSlot) :
    MissingEvidenceRepairPolicy :=
  let policy : MissingEvidenceRepairPolicy := {
    contractVersion := 1
    repairOrdinal := 1
    blindSubjectId := candidate.bindings.blindSubjectId
    parentRawTextSha256
    parentResponseArtifactSha256
    immutableProjectionSha256 := immutableProjectionSha256 encoding candidate
    existingMissingEvidenceSha256 := missingEvidenceSha256 encoding candidate.missingEvidence
    slots
    repairPolicySha256 := "" }
  { policy with
    repairPolicySha256 :=
      canonicalSha256 encoding.toReviewEncoding (encoding.repairPolicyJson policy) }

def repairInvocation (input : MissingEvidenceRepairInput) (policy : MissingEvidenceRepairPolicy) :
    PromptInvocation encoding.Value where
  sections := [{
    name := "missing_evidence_context"
    trust := .untrustedExternal
    provenance := {
      sourceKind := .external
      sourceId := "repository-review-response-sha256:" ++ policy.parentRawTextSha256
      artifactSha256 := some policy.parentResponseArtifactSha256
      eventId := none }
    payload := encoding.repairInput input }]
  limits := ⟨0⟩
  runtimeConstraints := [⟨"repair_policy", encoding.repairPolicy policy⟩]

def prepareRepositoryReviewMissingEvidenceRepair (input : RepositoryReviewInput)
    (originalInvocation : PromptInvocation encoding.Value) (originalCompiled : encoding.CompiledPrompt)
    (candidate : RepositoryReviewOutput) (parentRawTextSha256 parentResponseArtifactSha256 : String) :
    Except PrepareFailure (PreparedMissingEvidenceRepair encoding) := do
  let requirementTexts := toMap (input.requirements.map fun requirement =>
    (requirement.requirement, requirement.text))
  ensure (candidate.verdict = .inconclusive ∧
    candidate.bindings.blindSubjectId = input.source.blindSubjectId) (.violation .notRepairable)
  ensure (candidate.notEvaluable ≠ []) (.violation .notRepairable)
  ensure (coveredOnce candidate.notEvaluable [] candidate.covered) (.violation .notRepairable)
  ensure (candidate.uncovered ≠ []) (.violation .notRepairable)
  let (contexts, slots) ← repairSlots encoding requirementTexts parentRawTextSha256
    candidate.missingEvidenceIds 0 [] candidate.uncovered
  -- If valid placeholders make the complete contract pass, nothing else is wrong with the candidate.
  let probeValue := encoding.output.write (eligibilityProbe candidate slots)
  ensure (validateOutput encoding originalCompiled originalInvocation probeValue = .ok () ∧
    validateRepositoryReviewOutput encoding.toReviewEncoding probeValue originalInvocation = .ok ())
    (.violation .notRepairable)
  let policy := repairPolicyFor encoding candidate parentRawTextSha256 parentResponseArtifactSha256
    slots
  let invocation := repairInvocation encoding ⟨contexts⟩ policy
  let compiled ← expect (.violation .notRepairable) (encoding.compileRepair invocation)
  return ⟨⟨contexts⟩, policy, invocation, compiled⟩

end Preparation

section Application

def patchBound (policy : MissingEvidenceRepairPolicy) (patch : MissingEvidenceRepairOutput) : Bool :=
  patch.schemaVersion = 1 && patch.bindings.blindSubjectId = policy.blindSubjectId &&
    patch.bindings.parentRawTextSha256 = policy.parentRawTextSha256 &&
    patch.bindings.repairPolicySha256 = policy.repairPolicySha256

/-- `seen` holds the slots of the completions before these. -/
def completionViolations (slots : List MissingEvidenceRepairSlot) :
    ℕ → List String → List MissingEvidenceCompletion → List MissingEvidenceRepairViolation
  | _, _, [] => []
  | index, seen, completion :: rest =>
    report (completion.slotId ∈ seen) .duplicateSlot ++
    report (slots[index]?.map (·.slotId) ≠ some completion.slotId) (.completionOrder index) ++
    completionViolations slots (index + 1) (completion.slotId :: seen) rest

def patchViolations (candidate : RepositoryReviewOutput) (policy : MissingEvidenceRepairPolicy)
    (patch : MissingEvidenceRepairOutput) : List MissingEvidenceRepairViolation :=
  collect [
    report (!patchBound policy patch) .bindingMismatch,
    report (patch.completions.length ≠ policy.slots.length)
      (.completionCount policy.slots.length patch.completions.length),
    completionViolations policy.slots 0 [] patch.completions,
    report (immutableProjectionSha256 encoding candidate ≠ policy.immutableProjectionSha256 ∨
        missingEvidenceSha256 encoding candidate.missingEvidence ≠
          policy.existingMissingEvidenceSha256)
      .originalProjectionMismatch]

def completedEntries (slots : List MissingEvidenceRepairSlot)
    (completions : List MissingEvidenceCompletion) : List RepositoryReviewMissingEvidence :=
  (slots.zip completions).map fun (slot, completion) => slot.entry completion.description

def applyRepositoryReviewMissingEvidenceRepair (candidate : RepositoryReviewOutput)
    (originalInvocation : PromptInvocation encoding.Value) (originalCompiled : encoding.CompiledPrompt)
    (prepared : PreparedMissingEvidenceRepair encoding) (patch : MissingEvidenceRepairOutput) :
    Except (List MissingEvidenceRepairViolation) RepositoryReviewOutput := do
  let policy := prepared.policy
  let violations := patchViolations encoding candidate policy patch
  ensure (violations = []) violations
  let existingLen := candidate.missingEvidence.length
  let repaired := candidate.withMissingEvidence
    (candidate.missingEvidence ++ completedEntries policy.slots patch.completions)
  match validateOutput encoding originalCompiled originalInvocation
      (encoding.output.write repaired) with
  | .error detail => .error [.finalContractInvalid detail]
  | .ok () =>
    ensure (immutableProjectionSha256 encoding repaired = policy.immutableProjectionSha256 ∧
      missingEvidenceSha256 encoding (repaired.missingEvidence.take existingLen) =
        policy.existingMissingEvidenceSha256) [.finalContractInvalid "immutable projection changed"]
    return repaired

end Application

end BirdCode.Review
