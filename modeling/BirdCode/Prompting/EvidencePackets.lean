import BirdCode.Lib.Positions
import BirdCode.Prompting.ChildHandoffs

/-! The evidence packets of the second planner contract: entries addressed by their content, in the order of
their ids. -/
namespace BirdCode.Prompting

open Lib Lib.Json Review

variable {N : Type}

section Entries

inductive PlannerReplannerV2Purpose
  | initialDelegation | evidenceReplan
  deriving DecidableEq

def PlannerReplannerV2Purpose.name : PlannerReplannerV2Purpose → String
  | .initialDelegation => "initial_delegation"
  | .evidenceReplan => "evidence_replan"

inductive RootPlannerDirective
  | plan | clarify | escalate
  deriving DecidableEq

def RootPlannerDirective.name : RootPlannerDirective → String
  | .plan => "plan"
  | .clarify => "clarify"
  | .escalate => "escalate"

/-- A root plan, its evidence, work orders and requests as they are serialized. -/
structure RootPlannerOutput (N : Type) where
  schemaVersion : UInt32
  rootSnapshotSha256 : String
  plannerPolicySha256 : String
  contextManifestSha256 : String
  directive : RootPlannerDirective
  rationale : String
  decisionEvidence : Value N
  workOrders : Value N
  clarificationQuestions : List String
  escalationRequests : Value N

structure PlannerAcceptedRootPlanEvidenceV2 (N : Type) where
  contractVersion : UInt32
  reviewEventId : String
  reviewId : String
  proposalEventId : String
  planRevision : UInt64
  planDigest : String
  planArtifact : PlannerEvidenceArtifactRef
  critiqueArtifact : PlannerEvidenceArtifactRef
  validationEvidenceArtifact : PlannerEvidenceArtifactRef
  plan : RootPlannerOutput N

structure PlannerVerifiedChildHandoffV2 where
  contractVersion : UInt32
  committedEventId : String
  handoffArtifact : PlannerEvidenceArtifactRef
  handoff : PlannerChildHandoff

inductive PlannerChildFailureKindV2
  | model | tool | context | budget | protocol | durableState
  deriving DecidableEq

def PlannerChildFailureKindV2.name : PlannerChildFailureKindV2 → String
  | .model => "model"
  | .tool => "tool"
  | .context => "context"
  | .budget => "budget"
  | .protocol => "protocol"
  | .durableState => "durable_state"

inductive PlannerChildRetryDispositionV2
  | never | requiresNewAttempt
  deriving DecidableEq

def PlannerChildRetryDispositionV2.name : PlannerChildRetryDispositionV2 → String
  | .never => "never"
  | .requiresNewAttempt => "requires_new_attempt"

inductive PlannerChildFailureCauseV2
  | modelTerminal (terminalEventId modelCallId : String)
  | toolTerminal (terminalEventId toolCallId : String)
  | runtimeEvidence (evidenceArtifact : PlannerEvidenceArtifactRef) (evidenceDigest : String)
  deriving DecidableEq

structure PlannerChildFailedV2 (N : Type) where
  contractVersion : UInt32
  binding : PlannerChildExecutionBinding
  finishedEventId : String
  completedModelCalls : UInt32
  completedToolCalls : UInt32
  kind : PlannerChildFailureKindV2
  retry : PlannerChildRetryDispositionV2
  cause : PlannerChildFailureCauseV2
  evidenceArtifact : PlannerEvidenceArtifactRef
  evidenceDigest : String
  diagnostic : Value N

structure PlannerChildCancellationCauseV2 where
  requestEventId : String
  requestId : String
  cancellationGeneration : UInt64

structure PlannerChildCancelledV2 where
  contractVersion : UInt32
  binding : PlannerChildExecutionBinding
  finishedEventId : String
  completedModelCalls : UInt32
  completedToolCalls : UInt32
  cause : PlannerChildCancellationCauseV2

inductive PlannerReplannerV2EvidenceContent (N : Type)
  | acceptedRootPlan (acceptedRootPlan : PlannerAcceptedRootPlanEvidenceV2 N)
  | childHandoff (childHandoff : PlannerVerifiedChildHandoffV2)
  | childFailed (childFailed : PlannerChildFailedV2 N)
  | childCancelled (childCancelled : PlannerChildCancelledV2)

def PlannerReplannerV2EvidenceContent.kind :
    PlannerReplannerV2EvidenceContent N → PlannerReplannerV2EvidenceKind
  | .acceptedRootPlan _ => .acceptedRootPlan
  | .childHandoff _ => .childHandoff
  | .childFailed _ => .childFailed
  | .childCancelled _ => .childCancelled

/-- An entry. Its id and digest stand beside whichever content it has. -/
structure PlannerReplannerV2EvidenceEntry (N : Type) where
  evidenceId : String
  content : PlannerReplannerV2EvidenceContent N
  normalizedContentSha256 : String

def PlannerReplannerV2EvidenceEntry.kind (entry : PlannerReplannerV2EvidenceEntry N) :
    PlannerReplannerV2EvidenceKind := entry.content.kind

structure PlannerReplannerV2EvidencePacket (N : Type) where
  schemaVersion : UInt32
  purpose : PlannerReplannerV2Purpose
  contextManifestSha256 : String
  entries : List (PlannerReplannerV2EvidenceEntry N)
  packetSha256 : String

end Entries

section Serialized

variable (numbers : Numbers N)

def RootPlannerOutput.toValue (plan : RootPlannerOutput N) : JsonTree N :=
  .object [
    ("schema_version", natural numbers plan.schemaVersion),
    ("root_snapshot_sha256", .string plan.rootSnapshotSha256),
    ("planner_policy_sha256", .string plan.plannerPolicySha256),
    ("context_manifest_sha256", .string plan.contextManifestSha256),
    ("directive", .string plan.directive.name),
    ("rationale", .string plan.rationale),
    ("decision_evidence", plan.decisionEvidence.tree),
    ("work_orders", plan.workOrders.tree),
    ("clarification_questions", texts plan.clarificationQuestions),
    ("escalation_requests", plan.escalationRequests.tree)]

def PlannerAcceptedRootPlanEvidenceV2.toValue (evidence : PlannerAcceptedRootPlanEvidenceV2 N) :
    JsonTree N :=
  .object [
    ("contract_version", natural numbers evidence.contractVersion),
    ("review_event_id", .string evidence.reviewEventId),
    ("review_id", .string evidence.reviewId),
    ("proposal_event_id", .string evidence.proposalEventId),
    ("plan_revision", natural64 numbers evidence.planRevision),
    ("plan_digest", .string evidence.planDigest),
    ("plan_artifact", evidence.planArtifact.toValue numbers),
    ("critique_artifact", evidence.critiqueArtifact.toValue numbers),
    ("validation_evidence_artifact", evidence.validationEvidenceArtifact.toValue numbers),
    ("plan", evidence.plan.toValue numbers)]

def PlannerVerifiedChildHandoffV2.toValue (evidence : PlannerVerifiedChildHandoffV2) : JsonTree N :=
  .object [
    ("contract_version", natural numbers evidence.contractVersion),
    ("committed_event_id", .string evidence.committedEventId),
    ("handoff_artifact", evidence.handoffArtifact.toValue numbers),
    ("handoff", evidence.handoff.toValue numbers)]

def PlannerChildFailureCauseV2.toValue : PlannerChildFailureCauseV2 → JsonTree N
  | .modelTerminal terminalEventId modelCallId => .object [
      ("source", .string "model_terminal"),
      ("terminal_event_id", .string terminalEventId),
      ("model_call_id", .string modelCallId)]
  | .toolTerminal terminalEventId toolCallId => .object [
      ("source", .string "tool_terminal"),
      ("terminal_event_id", .string terminalEventId),
      ("tool_call_id", .string toolCallId)]
  | .runtimeEvidence evidenceArtifact evidenceDigest => .object [
      ("source", .string "runtime_evidence"),
      ("evidence_artifact", evidenceArtifact.toValue numbers),
      ("evidence_digest", .string evidenceDigest)]

/-- The diagnostic is a JSON value, whose entries are kept sorted. -/
def PlannerChildFailedV2.toValue (evidence : PlannerChildFailedV2 N) : JsonTree N :=
  .object [
    ("contract_version", natural numbers evidence.contractVersion),
    ("binding", evidence.binding.toValue),
    ("finished_event_id", .string evidence.finishedEventId),
    ("completed_model_calls", natural numbers evidence.completedModelCalls),
    ("completed_tool_calls", natural numbers evidence.completedToolCalls),
    ("kind", .string evidence.kind.name),
    ("retry", .string evidence.retry.name),
    ("cause", evidence.cause.toValue numbers),
    ("evidence_artifact", evidence.evidenceArtifact.toValue numbers),
    ("evidence_digest", .string evidence.evidenceDigest),
    ("diagnostic", evidence.diagnostic.tree.sorted)]

/-- `ChildFailureArtifactHashMaterial`. -/
def PlannerChildFailedV2.artifactMaterial (evidence : PlannerChildFailedV2 N) : JsonTree N :=
  .object [
    ("contract_version", natural numbers evidence.contractVersion),
    ("binding", evidence.binding.toValue),
    ("kind", .string evidence.kind.name),
    ("retry", .string evidence.retry.name),
    ("diagnostic", evidence.diagnostic.tree.sorted)]

def PlannerChildCancelledV2.toValue (evidence : PlannerChildCancelledV2) : JsonTree N :=
  .object [
    ("contract_version", natural numbers evidence.contractVersion),
    ("binding", evidence.binding.toValue),
    ("finished_event_id", .string evidence.finishedEventId),
    ("completed_model_calls", natural numbers evidence.completedModelCalls),
    ("completed_tool_calls", natural numbers evidence.completedToolCalls),
    ("cause", .object [
      ("request_event_id", .string evidence.cause.requestEventId),
      ("request_id", .string evidence.cause.requestId),
      ("cancellation_generation", natural64 numbers evidence.cause.cancellationGeneration)])]

def PlannerReplannerV2EvidenceContent.toValue :
    PlannerReplannerV2EvidenceContent N → JsonTree N
  | .acceptedRootPlan evidence => evidence.toValue numbers
  | .childHandoff evidence => evidence.toValue numbers
  | .childFailed evidence => evidence.toValue numbers
  | .childCancelled evidence => evidence.toValue numbers

/-- `EvidenceEntryHashMaterial`. -/
def PlannerReplannerV2EvidenceEntry.hashMaterial (entry : PlannerReplannerV2EvidenceEntry N) :
    JsonTree N :=
  .object [
    ("kind", .string entry.kind.name),
    ("schema_version", natural numbers evidencePacketSchemaVersion),
    ("evidence_id", .string entry.evidenceId),
    (entry.kind.name, entry.content.toValue numbers)]

def PlannerReplannerV2EvidenceEntry.toValue (entry : PlannerReplannerV2EvidenceEntry N) :
    JsonTree N :=
  .object [
    ("kind", .string entry.kind.name),
    ("evidence_id", .string entry.evidenceId),
    (entry.kind.name, entry.content.toValue numbers),
    ("normalized_content_sha256", .string entry.normalizedContentSha256)]

/-- `EvidencePacketHashMaterial`: the packet without its digest. -/
def PlannerReplannerV2EvidencePacket.hashFields (packet : PlannerReplannerV2EvidencePacket N) :
    List (String × JsonTree N) :=
  [("schema_version", natural numbers packet.schemaVersion),
    ("purpose", .string packet.purpose.name),
    ("context_manifest_sha256", .string packet.contextManifestSha256),
    ("entries", .array (packet.entries.map (PlannerReplannerV2EvidenceEntry.toValue numbers)))]

def PlannerReplannerV2EvidencePacket.toValue (packet : PlannerReplannerV2EvidencePacket N) :
    JsonTree N :=
  .object (packet.hashFields numbers ++ [("packet_sha256", .string packet.packetSha256)])

end Serialized

section Checks

def sourceContractVersion : UInt32 := 1
def maxEvidencePacketEntries : ℕ := 256
def maxEvidencePacketBytes : ℕ := 1024 * 1024
def maxEvidenceIdBytes : ℕ := 512
def maxMediaTypeBytes : ℕ := 256
def maxFailureDiagnosticBytes : ℕ := 64 * 1024
def acceptedPlanMediaType : String := "application/vnd.birdcode.accepted-plan+json"
def planCritiqueMediaType : String := "application/vnd.birdcode.plan-critique+json"
def planValidationMediaType : String := "application/vnd.birdcode.plan-validation+json"
def childHandoffMediaType : String := "application/vnd.birdcode.child-handoff+json"
def childExecutionFailureMediaType : String :=
  "application/vnd.birdcode.child-execution-failure.v1+json"

inductive PlannerReplannerV2EvidenceViolation
  | schemaVersion (expected actual : UInt32)
  | entryCount (minimum maximum actual : UInt32)
  | initialDelegationEvidenceShape
  | evidenceReplanEvidenceShape
  | emptyEvidenceId
  | evidenceIdTooLong (maximum actual : UInt32)
  | duplicateEvidenceId (evidenceId : String)
  | duplicateSourceEvent (eventId : String)
  | duplicateTerminalBinding
  | nonCanonicalOrder (index : UInt32)
  | invalidDigest (field : String)
  | invalidIdentifier (field : String)
  | invalidContractVersion (field : String) (expected actual : UInt32)
  | invalidArtifact (field : String)
  | acceptedRootPlanShape
  | childHandoff (violation : PlannerEvidencePacketViolation)
  | failureCauseMismatch
  | normalizedContentDigestMismatch (evidenceId : String)
  | packetDigestMismatch
  | deltaPurposeMismatch
  | deltaShapeMismatch
  | deltaUnknownEvidence (evidenceId : String)
  | deltaDigestMismatch (evidenceId : String)
  | deltaSha256Mismatch
  | packetTooLarge (maximum actual : UInt32)
  deriving DecidableEq

/-- The text of a UUID of a version. A character that takes more than a byte is in none of the ranges, so
that testing characters is testing bytes. -/
def isUuidWithVersion (value : String) (version : Char) : Bool :=
  let chars := value.toList
  value.utf8ByteSize = 36 &&
    [8, 13, 18, 23].all (fun index => chars[index]? = some '-') &&
    chars[14]? = some version &&
    (chars[19]?.any fun c => c = '8' || c = '9' || c = 'a' || c = 'b') &&
    chars.zipIdx.all fun (c, index) =>
      index = 8 || index = 13 || index = 18 || index = 23 ||
        ('0' ≤ c && c ≤ '9') || ('a' ≤ c && c ≤ 'f')

def isUuidV7 (value : String) : Bool := isUuidWithVersion value '7'

def isPlanChildUuid (value : String) : Bool :=
  isUuidWithVersion value '7' || isUuidWithVersion value '8'

def validateContractVersion (field : String) (actual : UInt32) :
    List PlannerReplannerV2EvidenceViolation :=
  report (actual ≠ sourceContractVersion)
    (.invalidContractVersion field sourceContractVersion actual)

def validateDigest (field value : String) : List PlannerReplannerV2EvidenceViolation :=
  report (validSha256 value = false) (.invalidDigest field)

def validateUuid (field value : String) : List PlannerReplannerV2EvidenceViolation :=
  report (isUuidV7 value = false) (.invalidIdentifier field)

def validateArtifact (field : String) (artifact : PlannerEvidenceArtifactRef) :
    List PlannerReplannerV2EvidenceViolation :=
  let mediaBytes := artifact.mediaType.utf8ByteSize
  validateDigest s!"{field}.sha256" artifact.sha256 ++
    report (mediaBytes = 0 ∨ maxMediaTypeBytes < mediaBytes)
      (.invalidArtifact s!"{field}.media_type")

def validateArtifactMediaType (field : String) (artifact : PlannerEvidenceArtifactRef)
    (expected : String) : List PlannerReplannerV2EvidenceViolation :=
  report (artifact.mediaType ≠ expected) (.invalidArtifact s!"{field}.media_type")

def validateChildBinding (field : String) (binding : PlannerChildExecutionBinding) :
    List PlannerReplannerV2EvidenceViolation :=
  collect [
    report (isPlanChildUuid binding.workOrderId = false)
      (.invalidIdentifier s!"{field}.work_order_id"),
    validateUuid s!"{field}.execution_id" binding.executionId,
    validateUuid s!"{field}.attempt_id" binding.attemptId,
    validateUuid s!"{field}.child_actor_id" binding.childActorId,
    validateUuid s!"{field}.context_id" binding.contextId,
    validateDigest s!"{field}.work_order_digest" binding.workOrderDigest,
    validateDigest s!"{field}.context_manifest_digest" binding.contextManifestDigest]

variable (hashing : Hashing N)

/-- The text that `serde_json::to_vec` writes. -/
def Hashing.wire (value : JsonTree N) : Text := write hashing.numbers value

def Hashing.wireSha256 (value : JsonTree N) : String := hashing.sha256 (hashing.wire value)

def wireArtifactMatches (value : JsonTree N) (artifact : PlannerEvidenceArtifactRef) : Bool :=
  artifact.sizeBytes = UInt64.ofNat (min (hashing.wire value).length (2 ^ 64 - 1)) &&
    artifact.sha256 = hashing.wireSha256 value

/-- `child_handoff_artifact_size` and `child_failure_artifact_size`. -/
def wireSize (value : JsonTree N) : Option UInt64 :=
  let size := (hashing.wire value).length
  if size < 2 ^ 64 then some (UInt64.ofNat size) else none

def validateAcceptedRootPlan (evidence : PlannerAcceptedRootPlanEvidenceV2 N) :
    List PlannerReplannerV2EvidenceViolation :=
  collect [
    validateContractVersion "accepted_root_plan.contract_version" evidence.contractVersion,
    validateUuid "accepted_root_plan.review_event_id" evidence.reviewEventId,
    validateUuid "accepted_root_plan.review_id" evidence.reviewId,
    validateUuid "accepted_root_plan.proposal_event_id" evidence.proposalEventId,
    validateDigest "accepted_root_plan.plan_digest" evidence.planDigest,
    validateArtifact "accepted_root_plan.plan_artifact" evidence.planArtifact,
    validateArtifactMediaType "accepted_root_plan.plan_artifact" evidence.planArtifact
      acceptedPlanMediaType,
    validateArtifact "accepted_root_plan.critique_artifact" evidence.critiqueArtifact,
    validateArtifactMediaType "accepted_root_plan.critique_artifact" evidence.critiqueArtifact
      planCritiqueMediaType,
    validateArtifact "accepted_root_plan.validation_evidence_artifact"
      evidence.validationEvidenceArtifact,
    validateArtifactMediaType "accepted_root_plan.validation_evidence_artifact"
      evidence.validationEvidenceArtifact planValidationMediaType,
    report (evidence.planArtifact.sha256 ≠ evidence.planDigest)
      (.invalidArtifact "accepted_root_plan.plan_artifact.sha256"),
    report (wireArtifactMatches hashing (evidence.plan.toValue hashing.numbers)
        evidence.planArtifact = false)
      (.invalidArtifact "accepted_root_plan.plan_artifact.content"),
    report (evidence.plan.schemaVersion ≠ sourceContractVersion ∨ evidence.plan.directive ≠ .plan)
      .acceptedRootPlanShape]

def validateChildHandoff (evidence : PlannerVerifiedChildHandoffV2) :
    List PlannerReplannerV2EvidenceViolation :=
  let material := evidence.handoff.artifactMaterial hashing.numbers
  collect [
    validateContractVersion "child_handoff.contract_version" evidence.contractVersion,
    validateUuid "child_handoff.committed_event_id" evidence.committedEventId,
    validateArtifact "child_handoff.handoff_artifact" evidence.handoffArtifact,
    validateArtifactMediaType "child_handoff.handoff_artifact" evidence.handoffArtifact
      childHandoffMediaType,
    report (hashing.wireSha256 material ≠ evidence.handoffArtifact.sha256 ∨
        wireSize hashing material ≠ some evidence.handoffArtifact.sizeBytes)
      (.invalidArtifact "child_handoff.handoff_artifact.content"),
    (handoffEntryViolations "v2-handoff-validation" evidence.handoffArtifact.sha256
      evidence.handoff).map .childHandoff]

def validateChildFailureCause (evidence : PlannerChildFailedV2 N) :
    List PlannerReplannerV2EvidenceViolation :=
  match evidence.kind, evidence.cause with
  | .model, .modelTerminal terminalEventId modelCallId =>
      validateUuid "child_failed.cause.terminal_event_id" terminalEventId ++
        validateUuid "child_failed.cause.model_call_id" modelCallId
  | .tool, .toolTerminal terminalEventId toolCallId =>
      validateUuid "child_failed.cause.terminal_event_id" terminalEventId ++
        validateUuid "child_failed.cause.tool_call_id" toolCallId
  | .context, .runtimeEvidence evidenceArtifact evidenceDigest
  | .budget, .runtimeEvidence evidenceArtifact evidenceDigest
  | .protocol, .runtimeEvidence evidenceArtifact evidenceDigest
  | .durableState, .runtimeEvidence evidenceArtifact evidenceDigest =>
      collect [
        validateArtifact "child_failed.cause.evidence_artifact" evidenceArtifact,
        validateArtifactMediaType "child_failed.cause.evidence_artifact" evidenceArtifact
          childExecutionFailureMediaType,
        validateDigest "child_failed.cause.evidence_digest" evidenceDigest,
        report (evidenceArtifact.sha256 ≠ evidenceDigest ∨
            evidenceArtifact ≠ evidence.evidenceArtifact ∨ evidenceDigest ≠ evidence.evidenceDigest)
          .failureCauseMismatch]
  | _, _ => [.failureCauseMismatch]

def isNull : JsonTree N → Bool
  | .null => true
  | _ => false

def validateChildFailed (evidence : PlannerChildFailedV2 N) :
    List PlannerReplannerV2EvidenceViolation :=
  let material := evidence.artifactMaterial hashing.numbers
  collect [
    validateContractVersion "child_failed.contract_version" evidence.contractVersion,
    validateChildBinding "child_failed.binding" evidence.binding,
    validateUuid "child_failed.finished_event_id" evidence.finishedEventId,
    validateArtifact "child_failed.evidence_artifact" evidence.evidenceArtifact,
    validateArtifactMediaType "child_failed.evidence_artifact" evidence.evidenceArtifact
      childExecutionFailureMediaType,
    validateDigest "child_failed.evidence_digest" evidence.evidenceDigest,
    report (isNull evidence.diagnostic.tree = true ∨
        evidence.evidenceArtifact.sha256 ≠ evidence.evidenceDigest ∨
        hashing.wireSha256 material ≠ evidence.evidenceDigest ∨
        wireSize hashing material ≠ some evidence.evidenceArtifact.sizeBytes ∨
        maxFailureDiagnosticBytes < (hashing.wire evidence.diagnostic.tree.sorted).length)
      (.invalidArtifact "child_failed.evidence_artifact.content"),
    validateChildFailureCause evidence]

def validateChildCancelled (evidence : PlannerChildCancelledV2) :
    List PlannerReplannerV2EvidenceViolation :=
  collect [
    validateContractVersion "child_cancelled.contract_version" evidence.contractVersion,
    validateChildBinding "child_cancelled.binding" evidence.binding,
    validateUuid "child_cancelled.finished_event_id" evidence.finishedEventId,
    validateUuid "child_cancelled.cause.request_event_id" evidence.cause.requestEventId,
    validateUuid "child_cancelled.cause.request_id" evidence.cause.requestId]

def evidenceEntryStructureViolations (entry : PlannerReplannerV2EvidenceEntry N) :
    List PlannerReplannerV2EvidenceViolation :=
  let evidenceIdBytes := entry.evidenceId.utf8ByteSize
  (if evidenceIdBytes = 0 then [.emptyEvidenceId]
    else report (maxEvidenceIdBytes < evidenceIdBytes)
      (.evidenceIdTooLong (wireU32 maxEvidenceIdBytes) (wireU32 evidenceIdBytes))) ++
  match entry.content with
  | .acceptedRootPlan evidence => validateAcceptedRootPlan hashing evidence
  | .childHandoff evidence => validateChildHandoff hashing evidence
  | .childFailed evidence => validateChildFailed hashing evidence
  | .childCancelled evidence => validateChildCancelled evidence

def evidenceEntrySha256 (entry : PlannerReplannerV2EvidenceEntry N) : String :=
  hashing.canonicalSha256 (entry.hashMaterial hashing.numbers)

def evidenceEntryIntegrityViolations (entry : PlannerReplannerV2EvidenceEntry N) :
    List PlannerReplannerV2EvidenceViolation :=
  collect [
    evidenceEntryStructureViolations hashing entry,
    validateDigest "normalized_content_sha256" entry.normalizedContentSha256,
    report (evidenceEntrySha256 hashing entry ≠ entry.normalizedContentSha256)
      (.normalizedContentDigestMismatch entry.evidenceId)]

end Checks

section Packets

def evidenceSourceEventId (entry : PlannerReplannerV2EvidenceEntry N) : String :=
  match entry.content with
  | .acceptedRootPlan evidence => evidence.reviewEventId
  | .childHandoff evidence => evidence.committedEventId
  | .childFailed evidence => evidence.finishedEventId
  | .childCancelled evidence => evidence.finishedEventId

def PlannerChildExecutionBinding.terminalKey (binding : PlannerChildExecutionBinding) :
    String × String × String :=
  (binding.workOrderId, binding.executionId, binding.attemptId)

def terminalBindingKey (entry : PlannerReplannerV2EvidenceEntry N) :
    Option (String × String × String) :=
  match entry.content with
  | .acceptedRootPlan _ => none
  | .childHandoff evidence => some evidence.handoff.binding.terminalKey
  | .childFailed evidence => some evidence.binding.terminalKey
  | .childCancelled evidence => some evidence.binding.terminalKey

variable (hashing : Hashing N)

/-- What is found of an entry that stands behind others. -/
def packetEntryViolations (before : List (PlannerReplannerV2EvidenceEntry N))
    (entry : PlannerReplannerV2EvidenceEntry N) (index : ℕ) :
    List PlannerReplannerV2EvidenceViolation :=
  collect [
    evidenceEntryIntegrityViolations hashing entry,
    report (entry.evidenceId ∈ before.map PlannerReplannerV2EvidenceEntry.evidenceId)
      (.duplicateEvidenceId entry.evidenceId),
    report (evidenceSourceEventId entry ∈ before.map evidenceSourceEventId)
      (.duplicateSourceEvent (evidenceSourceEventId entry)),
    report (∃ key ∈ terminalBindingKey entry, key ∈ before.filterMap terminalBindingKey)
      .duplicateTerminalBinding,
    report (∃ previous ∈ before.getLast?, compare previous.evidenceId entry.evidenceId ≠ .lt)
      (.nonCanonicalOrder (wireU32 index))]

def packetShapeViolations (packet : PlannerReplannerV2EvidencePacket N) :
    List PlannerReplannerV2EvidenceViolation :=
  match packet.purpose with
  | .initialDelegation =>
      report (packet.entries.length ≠ 1 ∨
          packet.entries.head?.map PlannerReplannerV2EvidenceEntry.kind ≠ some .acceptedRootPlan)
        .initialDelegationEvidenceShape
  | .evidenceReplan =>
      report (packet.entries.length < 2 ∨
          packet.entries.countP (fun entry => entry.kind = .acceptedRootPlan) ≠ 1 ∨
          ¬∃ entry ∈ packet.entries, entry.kind ≠ .acceptedRootPlan)
        .evidenceReplanEvidenceShape

def evidencePacketStructureViolations (packet : PlannerReplannerV2EvidencePacket N) :
    List PlannerReplannerV2EvidenceViolation :=
  let entryCount := packet.entries.length
  let size := (hashing.wire (packet.toValue hashing.numbers)).length
  collect [
    report (packet.schemaVersion ≠ evidencePacketSchemaVersion)
      (.schemaVersion evidencePacketSchemaVersion packet.schemaVersion),
    validateDigest "context_manifest_sha256" packet.contextManifestSha256,
    report (¬(1 ≤ entryCount ∧ entryCount ≤ maxEvidencePacketEntries))
      (.entryCount 1 (wireU32 maxEvidencePacketEntries) (wireU32 entryCount)),
    packetShapeViolations packet,
    packet.entries.zipIdx.flatMap fun (entry, index) =>
      packetEntryViolations hashing (packet.entries.take index) entry index,
    report (maxEvidencePacketBytes < size)
      (.packetTooLarge (wireU32 maxEvidencePacketBytes) (wireU32 size))]

def evidencePacketSha256 (packet : PlannerReplannerV2EvidencePacket N) : String :=
  hashing.canonicalSha256 (.object (packet.hashFields hashing.numbers))

def evidencePacketIntegrityViolations (packet : PlannerReplannerV2EvidencePacket N) :
    List PlannerReplannerV2EvidenceViolation :=
  collect [
    evidencePacketStructureViolations hashing packet,
    validateDigest "packet_sha256" packet.packetSha256,
    report (evidencePacketSha256 hashing packet ≠ packet.packetSha256) .packetDigestMismatch]

def PlannerReplannerV2EvidencePacket.new (purpose : PlannerReplannerV2Purpose)
    (contextManifestSha256 : String) (entries : List (PlannerReplannerV2EvidenceEntry N)) :
    Except (List PlannerReplannerV2EvidenceViolation) (PlannerReplannerV2EvidencePacket N) := do
  let packet : PlannerReplannerV2EvidencePacket N :=
    { schemaVersion := evidencePacketSchemaVersion
      purpose
      contextManifestSha256
      entries := sortBy PlannerReplannerV2EvidenceEntry.evidenceId entries
      packetSha256 := "" }
  let violations := evidencePacketStructureViolations hashing packet
  if violations ≠ [] then throw violations
  let packet := { packet with packetSha256 := evidencePacketSha256 hashing packet }
  let violations := evidencePacketIntegrityViolations hashing packet
  if violations ≠ [] then throw violations
  pure packet

end Packets

end BirdCode.Prompting
