import BirdCode.Planner.Apply

/-! The inference that proposes a turn: the backend's identity, the trusted policy, the prepared
request, and what is checked of a response. -/
namespace BirdCode.Planner

structure BackendId where
  value : String
  nonempty : value.isEmpty = false
  deriving DecidableEq

structure ModelId where
  value : String
  nonempty : value.isEmpty = false
  deriving DecidableEq

structure BackendEndpointOrigin where
  value : String
  deriving DecidableEq

structure BackendDeploymentId where
  value : String
  nonempty : value.isEmpty = false
  deriving DecidableEq

inductive BackendTransportIdentity
  | httpOrigin (origin : BackendEndpointOrigin)
  deriving DecidableEq

structure BackendInstanceIdentity where
  schemaVersion : UInt32
  backendId : BackendId
  transport : BackendTransportIdentity
  configuredDeploymentId : BackendDeploymentId
  identitySha256 : PlannerDigest
  deriving DecidableEq

def BackendInstanceIdentity.endpointOrigin (identity : BackendInstanceIdentity) :
    BackendEndpointOrigin :=
  match identity.transport with
  | .httpOrigin origin => origin

def backendInstanceIdentitySchemaVersion : UInt32 := 1
def plannerReplannerMaxOutputTokens : UInt32 := 16384

inductive ReasoningSetting
  | off | on | low | medium | high
  deriving DecidableEq

structure PlannerReplannerInferencePolicy where
  backendInstance : BackendInstanceIdentity
  modelId : ModelId
  reasoning : Option ReasoningSetting
  maxOutputTokens : UInt32
  policySha256 : PlannerDigest
  deriving DecidableEq

def PlannerReplannerInferencePolicy.backendId (policy : PlannerReplannerInferencePolicy) :
    BackendId :=
  policy.backendInstance.backendId

inductive MessageRole
  | system | developer | user | assistant
  deriving DecidableEq

structure Message where
  role : MessageRole
  content : String
  deriving DecidableEq

/-- The types of the JSON library and of the prompt compiler, which the planner only compares and
passes on. -/
structure PromptTypes where
  Value : Type
  PromptInvocation : Type
  CompiledPrompt : Type
  PlannerEvidencePacket : Type
  decideValue : DecidableEq Value
  decideInvocation : DecidableEq PromptInvocation
  decideCompiled : DecidableEq CompiledPrompt
  decidePacket : DecidableEq PlannerEvidencePacket

variable {T : PromptTypes}

instance : DecidableEq T.Value := T.decideValue
instance : DecidableEq T.PromptInvocation := T.decideInvocation
instance : DecidableEq T.CompiledPrompt := T.decideCompiled
instance : DecidableEq T.PlannerEvidencePacket := T.decidePacket

structure StructuredOutputSpec (T : PromptTypes) where
  name : String
  validationSchema : T.Value
  generationSchema : Option T.Value
  deriving DecidableEq

structure StructuredInferenceRequest (T : PromptTypes) where
  modelId : ModelId
  messages : List Message
  output : StructuredOutputSpec T
  maxOutputTokens : UInt32
  reasoning : Option ReasoningSetting
  deriving DecidableEq

structure PreparedPlannerReplannerRequest (T : PromptTypes) where
  inferencePolicySha256 : PlannerDigest
  invocation : T.PromptInvocation
  compiledPrompt : T.CompiledPrompt
  evidencePacket : T.PlannerEvidencePacket
  inference : StructuredInferenceRequest T
  deriving DecidableEq

structure TokenUsage where
  inputTokens : Option UInt64
  outputTokens : Option UInt64
  totalTokens : Option UInt64
  deriving DecidableEq

structure InferenceEvidence (T : PromptTypes) where
  backendId : BackendId
  backendInstance : Option BackendInstanceIdentity
  endpoint : String
  status : UInt16
  completionId : Option String
  responseBodySha256 : Option String
  rawResponse : T.Value
  deriving DecidableEq

structure StructuredInferenceResponse (T : PromptTypes) where
  modelId : ModelId
  value : T.Value
  rawText : String
  finishReason : Option String
  usage : Option TokenUsage
  evidence : InferenceEvidence T
  deriving DecidableEq

inductive BackendOperation
  | configure | discoverOpenAiModels | discoverNativeModels | structuredInference
  deriving DecidableEq

inductive BackendErrorKind
  | invalidConfiguration | invalidRequest | unsupported | invalidSchema | transport | timeout
  | requestTooLarge | responseTooLarge | httpStatus | malformedResponse | responseContractViolation
  | schemaViolation | incompleteResponse
  deriving DecidableEq

structure BackendErrorEvidence (T : PromptTypes) where
  endpoint : Option String
  status : Option UInt16
  responseBodySha256 : Option String
  rawResponse : Option T.Value
  responsePreview : Option String
  deriving DecidableEq

structure BackendError (T : PromptTypes) where
  backendId : BackendId
  backendInstance : Option BackendInstanceIdentity
  operation : BackendOperation
  kind : BackendErrorKind
  message : String
  evidence : Option (BackendErrorEvidence T)
  deriving DecidableEq

/-- What the JSON library, the URL library, the hash function and the prompt compiler compute. Their
errors are the texts that they display. -/
structure PlannerBoundary (T : PromptTypes) where
  encoding : PlannerEncoding
  identity : BackendId → BackendTransportIdentity → BackendDeploymentId → PlannerDigest
  inferencePolicy : BackendInstanceIdentity → ModelId → Option ReasoningSetting → UInt32 →
    PlannerDigest
  promptBundle : PreparedPlannerReplannerRequest T → PlannerDigest
  proposal : PlannerTurnProposal → PlannerDigest
  /-- `Url::parse` and the origin of the URL. -/
  matchesEndpoint : BackendEndpointOrigin → String → Bool
  /-- `serde_json::from_str`. -/
  parse : String → Option T.Value
  /-- The invocation over the serialized inputs, if it is valid. -/
  plannerReplannerInvocation : PlanSnapshot → ProtectedObligationCatalog → PlannerContextCatalog →
    T.PlannerEvidencePacket → PlannerPolicy → PlannerTurnBindings → Except String T.PromptInvocation
  compile : T.PromptInvocation → Except String T.CompiledPrompt
  messages : T.CompiledPrompt → Except String (List Message)
  outputSchema : T.CompiledPrompt → T.Value
  generationSchema : T.CompiledPrompt → T.Value
  validateOutput : T.CompiledPrompt → T.PromptInvocation → T.Value → Except String Unit
  /-- `serde_json::from_value`. -/
  decodeProposal : T.Value → Except String PlannerTurnProposal

variable (boundary : PlannerBoundary T)

section Policy

def BackendInstanceIdentity.validateIntegrity (identity : BackendInstanceIdentity) :
    Except String Unit := do
  ensure (identity.schemaVersion = backendInstanceIdentitySchemaVersion)
    s!"unsupported backend instance identity schema version {identity.schemaVersion}"
  ensure (boundary.identity identity.backendId identity.transport identity.configuredDeploymentId =
      identity.identitySha256)
    "backend instance identity digest does not bind its exact content"

def PlannerReplannerInferencePolicy.validateIntegrity (policy : PlannerReplannerInferencePolicy) :
    Except String Unit := do
  ensure (policy.maxOutputTokens ≠ 0)
    "planner/replanner inference token ceiling must be positive"
  ensure (policy.maxOutputTokens ≤ plannerReplannerMaxOutputTokens)
    (s!"planner/replanner inference token ceiling {policy.maxOutputTokens} exceeds product maximum "
      ++ toString plannerReplannerMaxOutputTokens)
  policy.backendInstance.validateIntegrity boundary
  ensure (boundary.inferencePolicy policy.backendInstance policy.modelId policy.reasoning
      policy.maxOutputTokens = policy.policySha256)
    "planner/replanner inference policy digest does not bind its exact content"

end Policy

section Request

variable (basePlan : PlanSnapshot) (obligations : ProtectedObligationCatalog)
  (context : PlannerContextCatalog) (policy : PlannerPolicy)
  (inferencePolicy : PlannerReplannerInferencePolicy)

def PlannerTurnBindings.new : PlannerTurnBindings where
  planId := basePlan.planId
  baseRevision := basePlan.revision
  basePlanSha256 := boundary.encoding.plan basePlan
  obligationSnapshotSha256 := obligations.snapshotSha256
  acceptancePolicySha256 := obligations.acceptancePolicySha256
  contextManifestSha256 := context.manifestSha256
  plannerPolicySha256 := policy.policySha256

/-- `StructuredInferenceRequest::new` and the reasoning of the policy. -/
def inferenceRequest (messages : List Message) (output : StructuredOutputSpec T) :
    Except String (StructuredInferenceRequest T) := do
  ensure (messages ≠ []) "a structured inference request requires at least one message"
  ensure (inferencePolicy.maxOutputTokens ≠ 0) "max_output_tokens must be greater than zero"
  return ⟨inferencePolicy.modelId, messages, output, inferencePolicy.maxOutputTokens,
    inferencePolicy.reasoning⟩

/-- `PlannerReplannerRequestBuilder::build`. -/
def buildRequest (evidencePacket : T.PlannerEvidencePacket) :
    Except String (PreparedPlannerReplannerRequest T) := do
  inferencePolicy.validateIntegrity boundary
  let invocation ← boundary.plannerReplannerInvocation basePlan obligations context evidencePacket
    policy (.new boundary basePlan obligations context policy)
  let compiledPrompt ← boundary.compile invocation
  let messages ← boundary.messages compiledPrompt
  let inference ← inferenceRequest inferencePolicy messages
    ⟨"planner_replanner_turn", boundary.outputSchema compiledPrompt,
      some (boundary.generationSchema compiledPrompt)⟩
  return ⟨inferencePolicy.policySha256, invocation, compiledPrompt, evidencePacket, inference⟩

def PreparedPlannerReplannerRequest.validateAgainst (prepared : PreparedPlannerReplannerRequest T) :
    Except String Unit := do
  inferencePolicy.validateIntegrity boundary
  let expected ← buildRequest boundary basePlan obligations context policy inferencePolicy
    prepared.evidencePacket
  ensure (prepared = expected)
    "planner/replanner compiled request does not match authoritative inputs"

inductive PlannerReplannerApplyError
  | setup (message : String)
  | prompt (message : String)
  | outputDecode (message : String)
  | plan (violations : List PlannerViolation)
  deriving DecidableEq

def decodeAndApplyPlannerReplannerOutput (prepared : PreparedPlannerReplannerRequest T)
    (value : T.Value) :
    Except PlannerReplannerApplyError (PlannerTurnProposal × ValidatedPlannerTurn) := do
  (prepared.validateAgainst boundary basePlan obligations context policy inferencePolicy).mapError
    .setup
  (boundary.validateOutput prepared.compiledPrompt prepared.invocation value).mapError .prompt
  let proposal ← (boundary.decodeProposal value).mapError .outputDecode
  let result ← (validateAndApply boundary.encoding proposal basePlan obligations context
    policy).mapError .plan
  return (proposal, result)

end Request

section Response

inductive PlannerResponseViolation
  | modelIdentityMismatch
  | backendIdentityMismatch
  | backendInstanceIdentityMismatch
  | endpointOriginMismatch
  | rawTextIsNotJson
  | rawTextValueMismatch
  | outputTokenLimitExceeded (maximum actual : UInt64)
  deriving DecidableEq

def rawTextViolations (response : StructuredInferenceResponse T) : List PlannerResponseViolation :=
  match boundary.parse response.rawText with
  | some value => report (value ≠ response.value) .rawTextValueMismatch
  | none => [.rawTextIsNotJson]

def outputTokenViolations (response : StructuredInferenceResponse T) (maxOutputTokens : UInt32) :
    List PlannerResponseViolation :=
  match response.usage.bind (·.outputTokens) with
  | some actual =>
    report (actual > maxOutputTokens.toUInt64)
      (.outputTokenLimitExceeded maxOutputTokens.toUInt64 actual)
  | none => []

def plannerResponseViolations (response : StructuredInferenceResponse T) (expectedModel : ModelId)
    (expectedBackend : BackendId) (expectedInstance : BackendInstanceIdentity)
    (maxOutputTokens : UInt32) : List PlannerResponseViolation :=
  collect [
    report (response.modelId ≠ expectedModel) .modelIdentityMismatch,
    report (response.evidence.backendId ≠ expectedBackend) .backendIdentityMismatch,
    report (response.evidence.backendInstance ≠ some expectedInstance)
      .backendInstanceIdentityMismatch,
    report (boundary.matchesEndpoint expectedInstance.endpointOrigin response.evidence.endpoint =
      false) .endpointOriginMismatch,
    rawTextViolations boundary response,
    outputTokenViolations response maxOutputTokens]

def plannerBackendErrorViolations (error : BackendError T)
    (expectedInstance : BackendInstanceIdentity) : List PlannerResponseViolation :=
  collect [
    report (error.backendId ≠ expectedInstance.backendId) .backendIdentityMismatch,
    report (error.backendInstance ≠ some expectedInstance) .backendInstanceIdentityMismatch,
    report ((error.evidence.bind (·.endpoint)).any fun endpoint =>
        !boundary.matchesEndpoint expectedInstance.endpointOrigin endpoint)
      .endpointOriginMismatch]

end Response

end BirdCode.Planner
