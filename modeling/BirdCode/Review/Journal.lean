import BirdCode.Review.Repair
import BirdCode.Scheduler.Verifier

/-! What a reviewer's worker keeps in its journal: the claim of an execution, what was shown to the
model, what it answered, and the receipt of an accepted verdict. -/
namespace BirdCode.Review

open Std
open Store hiding ModelLineage
open Scheduler (SchedulerEventId WorkOrderId ExecutionId AttemptId ModelLineage)

abbrev GraphActorId := Scheduler.ActorId

section Backends

structure TokenUsage where
  inputTokens : Option UInt64
  outputTokens : Option UInt64
  totalTokens : Option UInt64
  deriving DecidableEq

structure BackendIdentity where
  schemaVersion : UInt32
  backendId : String
  endpointOrigin : String
  configuredDeploymentId : String
  identitySha256 : String
  deriving DecidableEq

structure InferenceEvidence (Value : Type) where
  backendId : String
  backendInstance : Option BackendIdentity
  endpoint : String
  status : UInt16
  completionId : Option String
  responseBodySha256 : Option String
  rawResponse : Value
  deriving DecidableEq

inductive ReasoningSetting
  | off | on | low | medium | high
  deriving DecidableEq

inductive MessageRole
  | system | user
  deriving DecidableEq

structure Message where
  role : MessageRole
  content : String
  deriving DecidableEq

structure StructuredOutputSpec (Value : Type) where
  name : String
  validationSchema : Value
  deriving DecidableEq

structure StructuredInferenceRequest (Value : Type) where
  modelId : String
  messages : List Message
  output : StructuredOutputSpec Value
  maxOutputTokens : UInt32
  reasoning : Option ReasoningSetting
  deriving DecidableEq

structure StructuredInferenceResponse (Value : Type) where
  modelId : String
  value : Value
  rawText : String
  finishReason : Option String
  usage : Option TokenUsage
  evidence : InferenceEvidence Value
  deriving DecidableEq

def StructuredInferenceResponse.outputTokens {Value : Type}
    (response : StructuredInferenceResponse Value) : Option UInt64 :=
  response.usage.bind (·.outputTokens)

end Backends

section Records

structure ReviewerArtifact where
  artifact : ArtifactRef
  bytes : List UInt8
  deriving DecidableEq

structure CandidateProducerLocator where
  graphSha256 : String
  workOrderId : WorkOrderId
  actorId : GraphActorId
  executionId : ExecutionId
  attemptId : AttemptId
  deriving DecidableEq

structure DisclosureArtifact where
  handle : RepositoryReviewEvidenceHandle
  sourceArtifact : ArtifactRef
  deriving DecidableEq

/-- The real identities behind a subject, which the model never sees. -/
structure ReviewDisclosure where
  contractVersion : UInt32
  blindSubjectId : String
  graphAcceptedEventId : SchedulerEventId
  reviewerDispatchEventId : SchedulerEventId
  reviewerWorkOrderId : WorkOrderId
  reviewerActorId : GraphActorId
  reviewerExecutionId : ExecutionId
  reviewerAttemptId : AttemptId
  dependencyHandoffEventId : SchedulerEventId
  producerDispatchEventId : SchedulerEventId
  producerLocator : CandidateProducerLocator
  candidateSha256 : String
  reviewerLineage : ModelLineage
  producerLineage : ModelLineage
  artifacts : List DisclosureArtifact
  publicationEventId : EventId
  cleanupObservedEventId : EventId
  readyEventId : EventId
  deriving DecidableEq

structure RepairReceipt (Value : Type) where
  repairInputArtifact : ArtifactRef
  repairPolicyArtifact : ArtifactRef
  repairCompiledPromptArtifact : ArtifactRef
  repairRequestArtifact : ArtifactRef
  repairResponseArtifact : ArtifactRef
  repairPatchArtifact : ArtifactRef
  promptContract : String
  promptManifestSha256 : String
  repairPolicySha256 : String
  parentRawTextSha256 : String
  responseEvidence : InferenceEvidence Value
  finishReason : Option String
  usage : Option TokenUsage
  repairPreparedEventId : EventId
  repairObservedEventId : EventId
  deriving DecidableEq

inductive VerdictAcceptanceSource
  | firstPass (modelObservedEventId : EventId)
  | afterMissingEvidenceRepair (parentModelObservedEventId repairObservedEventId : EventId)
      (repairPatchArtifact : ArtifactRef)
  deriving DecidableEq

structure ReviewReceipt (Value : Type) where
  contractVersion : UInt32
  executionClaimedEventId : EventId
  disclosureArtifact : ArtifactRef
  modelInputArtifact : ArtifactRef
  compiledPromptArtifact : ArtifactRef
  requestArtifact : ArtifactRef
  responseArtifact : ArtifactRef
  verdictArtifact : ArtifactRef
  promptContract : String
  promptManifestSha256 : String
  blindSubjectId : String
  visiblePayloadSha256 : String
  reviewPolicySha256 : String
  configuredReviewerLineage : ModelLineage
  configuredBackendInstance : BackendIdentity
  reportedModelId : String
  responseEvidence : InferenceEvidence Value
  finishReason : Option String
  usage : Option TokenUsage
  aggregateOutputTokens : Option UInt64
  repair : Option (RepairReceipt Value)
  acceptanceSource : VerdictAcceptanceSource
  subjectPreparedEventId : EventId
  modelPreparedEventId : EventId
  modelObservedEventId : EventId
  deriving DecidableEq

inductive ReviewModelViolation
  | outputTokenCeilingExceeded | responseBindingMismatch | structuredResponseInvalid
  | repairResponseInvalid | repairedVerdictInvalid
  deriving DecidableEq

inductive ReviewInputRejection
  | contextByteBudgetExceeded | inputCannotBeRepresentedExactly
  deriving DecidableEq

structure ReviewExecutionClaim where
  contractVersion : UInt32
  graphAcceptedEventId : SchedulerEventId
  graphSha256 : String
  reviewerWorkOrderId : WorkOrderId
  reviewerActorId : GraphActorId
  reviewerExecutionId : ExecutionId
  reviewerAttemptId : AttemptId
  targetWorkOrderId : WorkOrderId
  producerActorId : GraphActorId
  producerExecutionId : ExecutionId
  producerAttemptId : AttemptId
  candidateSha256 : String
  deriving DecidableEq

inductive ReviewRecord
  | executionClaimed (claim : ReviewExecutionClaim)
  | executionStarted (executionClaimedEventId : EventId) (reviewerWorkOrderId : WorkOrderId)
      (reviewerActorId : GraphActorId) (reviewerExecutionId : ExecutionId)
      (reviewerAttemptId : AttemptId) (reviewerLineage : ModelLineage)
  | subjectPrepared (blindSubjectId : String) (targetWorkOrderId : WorkOrderId)
      (modelInputArtifact disclosureArtifact compiledPromptArtifact : ArtifactRef)
  | inputRejected (subjectPreparedEventId : EventId) (rejection : ReviewInputRejection)
      (observedRequestBytes maximumRequestBytes : UInt64) (requestArtifact : Option ArtifactRef)
  | modelPrepared (subjectPreparedEventId : EventId) (requestArtifact : ArtifactRef)
  | modelObserved (modelPreparedEventId : EventId) (responseArtifact : ArtifactRef)
      (outputTokens : Option UInt64)
  | modelFailed (modelPreparedEventId : EventId) (errorArtifact : ArtifactRef)
  | missingEvidenceRepairPrepared (modelObservedEventId : EventId) (parentRawTextSha256 : String)
      (repairInputArtifact repairPolicyArtifact repairCompiledPromptArtifact
        repairRequestArtifact : ArtifactRef)
  | missingEvidenceRepairInputRejected (modelObservedEventId : EventId)
      (observedRequestBytes maximumRequestBytes : UInt64) (repairRequestArtifact : ArtifactRef)
  | missingEvidenceRepairObserved (repairPreparedEventId : EventId)
      (repairResponseArtifact : ArtifactRef) (outputTokens : Option UInt64)
  | missingEvidenceRepairFailed (repairPreparedEventId : EventId) (errorArtifact : ArtifactRef)
  | missingEvidenceRepairRejected (repairObservedEventId : EventId)
      (violation : ReviewModelViolation) (rejectionArtifact : ArtifactRef)
  | modelContractRejected (modelObservedEventId : EventId) (violation : ReviewModelViolation)
      (rejectionArtifact : ArtifactRef)
  | verdictAccepted (source : VerdictAcceptanceSource)
      (verdictArtifact receiptArtifact : ArtifactRef)
  deriving DecidableEq

structure ReviewEntry where
  eventId : EventId
  record : ReviewRecord
  artifacts : List ReviewerArtifact
  deriving DecidableEq

section References

/-- The subject that a model request was prepared for. -/
def ReviewRecord.modelPreparedFor : ReviewRecord → Option EventId
  | .modelPrepared subjectPreparedEventId _ => some subjectPreparedEventId
  | _ => none

def ReviewRecord.inputRejectedFor : ReviewRecord → Option EventId
  | .inputRejected subjectPreparedEventId _ _ _ _ => some subjectPreparedEventId
  | _ => none

/-- The request that a response or a failure belongs to. -/
def ReviewRecord.modelObservedFor : ReviewRecord → Option EventId
  | .modelObserved modelPreparedEventId _ _ => some modelPreparedEventId
  | _ => none

def ReviewRecord.modelFailedFor : ReviewRecord → Option EventId
  | .modelFailed modelPreparedEventId _ => some modelPreparedEventId
  | _ => none

/-- The response that a repair was begun for, whether its request was sent or refused. -/
def ReviewRecord.repairBranchOf : ReviewRecord → Option EventId
  | .missingEvidenceRepairPrepared modelObservedEventId _ _ _ _ _ => some modelObservedEventId
  | .missingEvidenceRepairInputRejected modelObservedEventId _ _ _ => some modelObservedEventId
  | _ => none

def ReviewRecord.repairObservedFor : ReviewRecord → Option EventId
  | .missingEvidenceRepairObserved repairPreparedEventId _ _ => some repairPreparedEventId
  | _ => none

def ReviewRecord.repairFailedFor : ReviewRecord → Option EventId
  | .missingEvidenceRepairFailed repairPreparedEventId _ => some repairPreparedEventId
  | _ => none

def countFor (entries : List ReviewEntry) (reference : ReviewRecord → Option EventId)
    (eventId : EventId) : ℕ :=
  entries.countP fun entry => reference entry.record = some eventId

end References

end Records

/-- The worker's bounds, which the resolver rebuilds its requests from. -/
structure ReviewerWorkerPolicy where
  maxRequestBytes : UInt64
  maxOutputTokens : UInt32
  repairMaxOutputTokens : UInt32
  reasoning : Option ReasoningSetting
  deriving DecidableEq

/-- A type that is kept as the bytes of a JSON document. -/
structure Document (T : Type) where
  write : T → List UInt8
  read : List UInt8 → Option T

/-- What the worker and the resolver call besides what the repair calls: the documents they keep as
JSON, the reading of JSON text, the compilation of the reviewer's prompt, and what they read off a
compiled prompt and a backend's identity. -/
structure ReviewRuntime extends RepairEncoding where
  valueEq : DecidableEq Value
  compiledEq : DecidableEq CompiledPrompt
  inputDocument : Document RepositoryReviewInput
  disclosureDocument : Document ReviewDisclosure
  compiledDocument : Document CompiledPrompt
  requestDocument : Document (StructuredInferenceRequest Value)
  responseDocument : Document (StructuredInferenceResponse Value)
  receiptDocument : Document (ReviewReceipt Value)
  repairInputDocument : Document MissingEvidenceRepairInput
  repairPolicyDocument : Document MissingEvidenceRepairPolicy
  patchDocument : Document MissingEvidenceRepairOutput
  patch : Codec Value MissingEvidenceRepairOutput
  /-- `serde_json::from_str::<Value>`, and the same with repeated names refused. -/
  parseText : String → Option Value
  parseUnique : List UInt8 → Option Value
  compileReview : PromptInvocation Value → Option CompiledPrompt
  manifestSha256 : CompiledPrompt → String
  backendMessages : CompiledPrompt → Option (List Message)
  generationSchema : CompiledPrompt → Value
  /-- The checks of the repair prompt's registry. -/
  repairChecked : CompiledPrompt → PromptInvocation Value → Value → Bool
  identitySha256 : String → String → String → String
  endpointMatches : String → String → Bool
  uuidText : Uuid → String

instance (runtime : ReviewRuntime) : DecidableEq runtime.Value := runtime.valueEq

instance (runtime : ReviewRuntime) : DecidableEq runtime.CompiledPrompt := runtime.compiledEq

def PromptKey.text (key : PromptKey) : String := key.id ++ "@" ++ key.version

def repairKey : PromptKey := ⟨"birdcode.repository-review-missing-evidence-repair", "1.0.0"⟩

section Documents

variable (runtime : ReviewRuntime)

def ReviewerArtifact.isExact (artifact : ReviewerArtifact) : Bool :=
  artifact.artifact.sizeBytes = UInt64.ofNat (min artifact.bytes.length (2 ^ 64 - 1)) &&
    artifact.artifact.sha256 = (runtime.sha256 artifact.bytes).value

def ReviewerArtifact.fromBytes (mediaType : String) (bytes : List UInt8) : ReviewerArtifact where
  artifact := {
    sha256 := (runtime.sha256 bytes).value
    sizeBytes := UInt64.ofNat (min bytes.length (2 ^ 64 - 1))
    mediaType }
  bytes

def BackendIdentity.isIntact (identity : BackendIdentity) : Bool :=
  identity.schemaVersion = 1 &&
    identity.identitySha256 = runtime.identitySha256 identity.backendId identity.endpointOrigin
      identity.configuredDeploymentId

def BackendIdentity.matchesResponseEvidence (identity : BackendIdentity)
    (evidence : InferenceEvidence runtime.Value) : Bool :=
  evidence.backendId = identity.backendId && evidence.backendInstance = some identity &&
    runtime.endpointMatches identity.endpointOrigin evidence.endpoint

/-- `PromptRegistry::decode_output` of the built-in registry. -/
def decodeOutput (compiled : runtime.CompiledPrompt) (invocation : PromptInvocation runtime.Value)
    (bytes : List UInt8) : Option RepositoryReviewOutput := do
  let value ← runtime.parseUnique bytes
  if validateOutput runtime.toRepairEncoding compiled invocation value = .ok () then
    runtime.output.read value
  else none

/-- `PromptRegistry::decode_output` of the repair prompt's registry. -/
def decodePatch (compiled : runtime.CompiledPrompt) (invocation : PromptInvocation runtime.Value)
    (bytes : List UInt8) : Option MissingEvidenceRepairOutput := do
  let value ← runtime.parseUnique bytes
  if runtime.repairChecked compiled invocation value then runtime.patch.read value else none

/-- The request that both the worker and the resolver build. -/
def structuredRequest (compiled : runtime.CompiledPrompt) (modelId schemaName : String)
    (maxOutputTokens : UInt32) (policy : ReviewerWorkerPolicy) :
    Option (StructuredInferenceRequest runtime.Value) := do
  let messages ← runtime.backendMessages compiled
  if messages = [] ∨ maxOutputTokens = 0 then none
  else some {
    modelId, messages, maxOutputTokens
    output := ⟨schemaName, runtime.generationSchema compiled⟩
    reasoning := policy.reasoning }

end Documents

section MediaTypes

def reviewInputMediaType : String := "application/vnd.birdcode.repository-review-model-input.v1+json"
def reviewDisclosureMediaType : String :=
  "application/vnd.birdcode.repository-review-disclosure.v1+json"
def reviewCompiledPromptMediaType : String :=
  "application/vnd.birdcode.repository-review-compiled-prompt.v1+json"
def reviewRequestMediaType : String := "application/vnd.birdcode.repository-review-request.v1+json"
def reviewResponseMediaType : String := "application/vnd.birdcode.repository-review-response.v1+json"
def reviewRepairInputMediaType : String :=
  "application/vnd.birdcode.repository-review-missing-evidence-repair-input.v1+json"
def reviewRepairPolicyMediaType : String :=
  "application/vnd.birdcode.repository-review-missing-evidence-repair-policy.v1+json"
def reviewRepairCompiledPromptMediaType : String :=
  "application/vnd.birdcode.repository-review-missing-evidence-repair-prompt.v1+json"
def reviewRepairRequestMediaType : String :=
  "application/vnd.birdcode.repository-review-missing-evidence-repair-request.v1+json"
def reviewRepairResponseMediaType : String :=
  "application/vnd.birdcode.repository-review-missing-evidence-repair-response.v1+json"
def reviewRepairPatchMediaType : String :=
  "application/vnd.birdcode.repository-review-missing-evidence-repair-patch.v1+json"
def reviewVerdictMediaType : String := "application/vnd.birdcode.repository-review-verdict.v1+json"
def reviewReceiptMediaType : String := "application/vnd.birdcode.repository-review-receipt.v1+json"

end MediaTypes

end BirdCode.Review
