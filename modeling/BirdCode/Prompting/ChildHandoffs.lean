import BirdCode.Prompting.PlanCritic

/-! The handoff of a child as the planner sees it: how it is serialized, and the bounds it has to keep before
it is evidence. -/
namespace BirdCode.Prompting

open Lib Lib.Json Review

variable {N : Type} (numbers : Numbers N)

section Handoffs

inductive PlannerChildFindingConfidence
  | low | medium | high
  deriving DecidableEq

def PlannerChildFindingConfidence.name : PlannerChildFindingConfidence → String
  | .low => "low"
  | .medium => "medium"
  | .high => "high"

inductive PlannerChildHandoffStatus
  | complete | incomplete | blocked
  deriving DecidableEq

/-- The name of a status, where an incomplete handoff is called partial. -/
def PlannerChildHandoffStatus.name : PlannerChildHandoffStatus → String
  | .complete => "complete"
  | .incomplete => "partial"
  | .blocked => "blocked"

structure PlannerEvidenceArtifactRef where
  sha256 : String
  sizeBytes : UInt64
  mediaType : String
  deriving DecidableEq

structure PlannerChildExecutionBinding where
  workOrderId : String
  executionId : String
  attemptId : String
  childActorId : String
  contextId : String
  workOrderDigest : String
  contextManifestDigest : String
  deriving DecidableEq

structure PlannerChildHandoffEvidenceBinding where
  toolCallId : String
  observedEventId : String
  resultArtifact : PlannerEvidenceArtifactRef
  deriving DecidableEq

structure PlannerChildHandoffFinding where
  findingId : String
  statement : String
  confidence : PlannerChildFindingConfidence
  evidence : List PlannerChildHandoffEvidenceBinding
  deriving DecidableEq

structure PlannerChildHandoffUnknown where
  unknownId : String
  question : String
  deriving DecidableEq

structure PlannerChildHandoffRecommendedFollowup where
  followupId : String
  text : String
  deriving DecidableEq

structure PlannerChildHandoff where
  contractVersion : UInt32
  binding : PlannerChildExecutionBinding
  handoffId : String
  status : PlannerChildHandoffStatus
  summary : String
  findings : List PlannerChildHandoffFinding
  unknowns : List PlannerChildHandoffUnknown
  recommendedFollowups : List PlannerChildHandoffRecommendedFollowup
  deriving DecidableEq

end Handoffs

section Serialized

def natural64 (value : UInt64) : JsonTree N := .number (numbers.natural value.toNat)

def PlannerEvidenceArtifactRef.toValue (artifact : PlannerEvidenceArtifactRef) : JsonTree N :=
  .object [
    ("sha256", .string artifact.sha256),
    ("size_bytes", natural64 numbers artifact.sizeBytes),
    ("media_type", .string artifact.mediaType)]

def PlannerChildExecutionBinding.toValue (binding : PlannerChildExecutionBinding) : JsonTree N :=
  .object [
    ("work_order_id", .string binding.workOrderId),
    ("execution_id", .string binding.executionId),
    ("attempt_id", .string binding.attemptId),
    ("child_actor_id", .string binding.childActorId),
    ("context_id", .string binding.contextId),
    ("work_order_digest", .string binding.workOrderDigest),
    ("context_manifest_digest", .string binding.contextManifestDigest)]

def PlannerChildHandoffEvidenceBinding.toValue (citation : PlannerChildHandoffEvidenceBinding) :
    JsonTree N :=
  .object [
    ("tool_call_id", .string citation.toolCallId),
    ("observed_event_id", .string citation.observedEventId),
    ("result_artifact", citation.resultArtifact.toValue numbers)]

def PlannerChildHandoffFinding.toValue (finding : PlannerChildHandoffFinding) : JsonTree N :=
  .object [
    ("finding_id", .string finding.findingId),
    ("statement", .string finding.statement),
    ("confidence", .string finding.confidence.name),
    ("evidence",
      .array (finding.evidence.map (PlannerChildHandoffEvidenceBinding.toValue numbers)))]

def PlannerChildHandoffUnknown.toValue (unknown : PlannerChildHandoffUnknown) : JsonTree N :=
  .object [
    ("unknown_id", .string unknown.unknownId),
    ("question", .string unknown.question)]

def PlannerChildHandoffRecommendedFollowup.toValue
    (followup : PlannerChildHandoffRecommendedFollowup) : JsonTree N :=
  .object [
    ("followup_id", .string followup.followupId),
    ("text", .string followup.text)]

/-- What a handoff says, apart from who says it. -/
def PlannerChildHandoff.contentFields (handoff : PlannerChildHandoff) : List (String × JsonTree N) :=
  [("status", .string handoff.status.name),
    ("summary", .string handoff.summary),
    ("findings", .array (handoff.findings.map (PlannerChildHandoffFinding.toValue numbers))),
    ("unknowns", .array (handoff.unknowns.map PlannerChildHandoffUnknown.toValue)),
    ("recommended_followups",
      .array (handoff.recommendedFollowups.map PlannerChildHandoffRecommendedFollowup.toValue))]

def PlannerChildHandoff.toValue (handoff : PlannerChildHandoff) : JsonTree N :=
  .object ([
    ("contract_version", natural numbers handoff.contractVersion),
    ("binding", handoff.binding.toValue),
    ("handoff_id", .string handoff.handoffId)] ++ handoff.contentFields numbers)

/-- `ChildHandoffArtifactHashMaterial`, in which the content is an object of its own. -/
def PlannerChildHandoff.artifactMaterial (handoff : PlannerChildHandoff) : JsonTree N :=
  .object [
    ("contract_version", natural numbers handoff.contractVersion),
    ("binding", handoff.binding.toValue),
    ("handoff_id", .string handoff.handoffId),
    ("content", .object (handoff.contentFields numbers))]

end Serialized

section Bounds

def handoffContractVersion : UInt32 := 1
def maxEvidenceFindings : ℕ := 64
def maxEvidenceUnknowns : ℕ := 64
def maxEvidenceFollowups : ℕ := 64
def maxEvidenceReferences : ℕ := 64
def maxEvidenceSummaryCharacters : ℕ := 16384
def maxEvidenceTextCharacters : ℕ := 8192
def maxEvidenceFindingIdCharacters : ℕ := 128
def maxEvidenceIdCharacters : ℕ := 512
def maxEvidenceStableIdCharacters : ℕ := 128
def maxEvidenceMediaTypeCharacters : ℕ := 256

/-- What can be wrong with a handoff, at the index of its entry where one is named. -/
inductive PlannerEvidencePacketViolation
  | handoffContractVersion (expected actual : UInt32)
  | invalidDigest (field : String)
  | emptyEvidenceId (index : UInt32)
  | evidenceIdTooLong (index maximum actual : UInt32)
  | emptyText (field : String)
  | textTooLong (field : String) (maximum actual : UInt32)
  | findingCount (entryIndex maximum actual : UInt32)
  | unknownCount (entryIndex maximum actual : UInt32)
  | followupCount (entryIndex maximum actual : UInt32)
  | evidenceReferenceCount (entryIndex findingIndex minimum maximum actual : UInt32)
  | duplicateFindingId (entryIndex : UInt32) (findingId : String)
  | duplicateUnknownId (entryIndex : UInt32) (unknownId : String)
  | duplicateFollowupId (entryIndex : UInt32) (followupId : String)
  deriving DecidableEq

def validateEvidenceText (field value : String) (maximum : ℕ) :
    List PlannerEvidencePacketViolation :=
  characterViolations value maximum (.emptyText field) (.textTooLong field)

def validateStableId (field value : String) : List PlannerEvidencePacketViolation :=
  validateEvidenceText field value maxEvidenceStableIdCharacters

def validateHandoffDigest (field value : String) : List PlannerEvidencePacketViolation :=
  report (validSha256 value = false) (.invalidDigest field)

def validateCount (actual maximum : ℕ)
    (violation : UInt32 → UInt32 → PlannerEvidencePacketViolation) :
    List PlannerEvidencePacketViolation :=
  report (maximum < actual) (violation (wireU32 maximum) (wireU32 actual))

def validateCitedArtifact (field : String) (artifact : PlannerEvidenceArtifactRef) :
    List PlannerEvidencePacketViolation :=
  validateHandoffDigest s!"{field}.sha256" artifact.sha256 ++
    validateEvidenceText s!"{field}.media_type" artifact.mediaType maxEvidenceMediaTypeCharacters

def validateChildExecutionBinding (binding : PlannerChildExecutionBinding) :
    List PlannerEvidencePacketViolation :=
  collect [
    validateStableId "handoff.binding.work_order_id" binding.workOrderId,
    validateStableId "handoff.binding.execution_id" binding.executionId,
    validateStableId "handoff.binding.attempt_id" binding.attemptId,
    validateStableId "handoff.binding.child_actor_id" binding.childActorId,
    validateStableId "handoff.binding.context_id" binding.contextId,
    validateHandoffDigest "handoff.binding.work_order_digest" binding.workOrderDigest,
    validateHandoffDigest "handoff.binding.context_manifest_digest" binding.contextManifestDigest]

def validateCitation (field : String) (citation : PlannerChildHandoffEvidenceBinding) :
    List PlannerEvidencePacketViolation :=
  collect [
    validateStableId s!"{field}.tool_call_id" citation.toolCallId,
    validateStableId s!"{field}.observed_event_id" citation.observedEventId,
    validateCitedArtifact s!"{field}.result_artifact" citation.resultArtifact]

/-- What is found of a finding that stands behind others. -/
def findingViolations (before : List PlannerChildHandoffFinding)
    (finding : PlannerChildHandoffFinding) (index : ℕ) : List PlannerEvidencePacketViolation :=
  let references := finding.evidence.length
  collect [
    validateEvidenceText s!"handoff.findings[{index}].finding_id" finding.findingId
      maxEvidenceFindingIdCharacters,
    validateEvidenceText s!"handoff.findings[{index}].statement" finding.statement
      maxEvidenceTextCharacters,
    report (finding.findingId ∈ before.map PlannerChildHandoffFinding.findingId)
      (.duplicateFindingId 0 finding.findingId),
    report (¬(1 ≤ references ∧ references ≤ maxEvidenceReferences))
      (.evidenceReferenceCount 0 (wireU32 index) 1 (wireU32 maxEvidenceReferences)
        (wireU32 references)),
    finding.evidence.zipIdx.flatMap fun (citation, place) =>
      validateCitation s!"handoff.findings[{index}].evidence[{place}]" citation]

def unknownViolations (before : List PlannerChildHandoffUnknown)
    (unknown : PlannerChildHandoffUnknown) (index : ℕ) : List PlannerEvidencePacketViolation :=
  collect [
    validateStableId s!"handoff.unknowns[{index}].unknown_id" unknown.unknownId,
    validateEvidenceText s!"handoff.unknowns[{index}].question" unknown.question
      maxEvidenceTextCharacters,
    report (unknown.unknownId ∈ before.map PlannerChildHandoffUnknown.unknownId)
      (.duplicateUnknownId 0 unknown.unknownId)]

def followupViolations (before : List PlannerChildHandoffRecommendedFollowup)
    (followup : PlannerChildHandoffRecommendedFollowup) (index : ℕ) :
    List PlannerEvidencePacketViolation :=
  collect [
    validateStableId s!"handoff.recommended_followups[{index}].followup_id" followup.followupId,
    validateEvidenceText s!"handoff.recommended_followups[{index}].text" followup.text
      maxEvidenceTextCharacters,
    report (followup.followupId ∈ before.map PlannerChildHandoffRecommendedFollowup.followupId)
      (.duplicateFollowupId 0 followup.followupId)]

/-- `planner_replanner::validate_child_handoff`. -/
def childHandoffViolations (handoff : PlannerChildHandoff) : List PlannerEvidencePacketViolation :=
  collect [
    report (handoff.contractVersion ≠ handoffContractVersion)
      (.handoffContractVersion handoffContractVersion handoff.contractVersion),
    validateStableId "handoff.handoff_id" handoff.handoffId,
    validateChildExecutionBinding handoff.binding,
    validateEvidenceText "handoff.summary" handoff.summary maxEvidenceSummaryCharacters,
    validateCount handoff.findings.length maxEvidenceFindings (.findingCount 0),
    validateCount handoff.unknowns.length maxEvidenceUnknowns (.unknownCount 0),
    validateCount handoff.recommendedFollowups.length maxEvidenceFollowups (.followupCount 0),
    handoff.findings.zipIdx.flatMap fun (finding, index) =>
      findingViolations (handoff.findings.take index) finding index,
    handoff.unknowns.zipIdx.flatMap fun (unknown, index) =>
      unknownViolations (handoff.unknowns.take index) unknown index,
    handoff.recommendedFollowups.zipIdx.flatMap fun (followup, index) =>
      followupViolations (handoff.recommendedFollowups.take index) followup index]

/-- `planner_replanner::evidence_entry_structure_violations`, which is all that can fail when an entry is
built. -/
def handoffEntryViolations (evidenceId sourceArtifactSha256 : String) (handoff : PlannerChildHandoff) :
    List PlannerEvidencePacketViolation :=
  collect [
    characterViolations evidenceId maxEvidenceIdCharacters (.emptyEvidenceId 0) (.evidenceIdTooLong 0),
    validateHandoffDigest "source_artifact_sha256" sourceArtifactSha256,
    childHandoffViolations handoff]

end Bounds

end BirdCode.Prompting
