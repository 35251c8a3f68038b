import BirdCode.Review.Journal

/-! The resolver re-derives a reviewer's result from the review journal and the scheduler's records: it
rebuilds the prompt and both requests, repeats the repair, and never looks at a summary for the verdict. -/
namespace BirdCode.Review

open Std
open Store hiding ModelLineage
open Scheduler (SchedulerEventId WorkOrderId ExecutionId AttemptId WorkOrder DispatchAttestation
  SchedulerRecord CanonicalDigest Handoff AgentDispatch)

/-- What the controller selects from a scheduler run. -/
structure ReviewResultQuery where
  graphAcceptedEventId : SchedulerEventId
  reviewerHandoffEventId : SchedulerEventId
  reviewerWorkOrderId : WorkOrderId
  reviewerActorId : GraphActorId
  reviewerExecutionId : ExecutionId
  reviewerAttemptId : AttemptId
  deriving DecidableEq

/-- One reviewer of a graph, its target, and the policy its worker was configured with. -/
structure ReviewResultAuthority where
  graphSha256 : String
  reviewerWorkOrder : WorkOrder
  reviewerAttestation : DispatchAttestation
  producers : BTreeMap WorkOrderId DispatchAttestation
  targetWorkOrderId : WorkOrderId
  workerPolicy : ReviewerWorkerPolicy

inductive ReviewRoute
  | semanticGateSatisfied
  | revisionRequired (findingIds : List String)
  | evidenceRequired (missingEvidenceIds : List String)
  deriving DecidableEq

structure VerifiedReviewResult where
  query : ReviewResultQuery
  claim : ReviewExecutionClaim
  verdictAcceptedEventId : EventId
  verdictArtifact : ArtifactRef
  receiptArtifact : ArtifactRef
  output : RepositoryReviewOutput
  route : ReviewRoute
  deriving DecidableEq

inductive ReviewResultError
  | authoritySubjectMismatch
  | schedulerDispatch (error : Scheduler.DispatchVerificationError)
  | queryAuthorityMismatch
  | duplicateEventIdentity
  | executionClaimMismatch
  | executionStartMismatch
  | verdictAcceptanceMismatch
  | schedulerHandoffMismatch
  | eventChainMismatch
  | artifactMismatch
  | documentInvalid
  | disclosureMismatch
  | promptMismatch
  | verdictContractMismatch
  | conflictingTerminal
  deriving DecidableEq

abbrev Resolved := Except ReviewResultError

section Lookups

/-- A slice pattern of one element. -/
def exactlyOne {A : Type} (error : ReviewResultError) : List A → Resolved A
  | [found] => .ok found
  | _ => .error error

/-- The next match, with no match after it. -/
def uniqueMatch {A : Type} (missing ambiguous : ReviewResultError) : List A → Resolved A
  | [] => .error missing
  | [found] => .ok found
  | _ :: _ :: _ => .error ambiguous

def exactEntry (entries : List ReviewEntry) (eventId : EventId) : Resolved ReviewEntry :=
  uniqueMatch .eventChainMismatch .duplicateEventIdentity (entries.filter (·.eventId = eventId))

variable (runtime : ReviewRuntime)

def exactArtifact (entry : ReviewEntry) (reference : ArtifactRef) (mediaType : String) :
    Resolved ReviewerArtifact := do
  ensure (reference.mediaType = mediaType) .artifactMismatch
  let found ← exactlyOne .artifactMismatch (entry.artifacts.filter (·.artifact = reference))
  ensure (found.isExact runtime) .artifactMismatch
  return found

def decodeCanonical {T : Type} (document : Document T) (artifact : ReviewerArtifact) :
    Resolved T := do
  let decoded ← expect .documentInvalid (document.read artifact.bytes)
  ensure (document.write decoded = artifact.bytes ∧
    artifact.artifact.sha256 = (runtime.sha256 artifact.bytes).value) .documentInvalid
  return decoded

/-- The document that an entry keeps under this reference. -/
def retained {T : Type} (document : Document T) (entry : ReviewEntry)
    (reference : ArtifactRef) (mediaType : String) : Resolved T := do
  let artifact ← exactArtifact runtime entry reference mediaType
  decodeCanonical runtime document artifact

end Lookups

section Claims

/-- The claims of the execution that a query asks for. -/
def slotClaim (query : ReviewResultQuery) (entry : ReviewEntry) :
    Option (ReviewEntry × ReviewExecutionClaim) :=
  match entry.record with
  | .executionClaimed claim =>
    if claim.graphAcceptedEventId = query.graphAcceptedEventId ∧
        claim.reviewerWorkOrderId = query.reviewerWorkOrderId ∧
        claim.reviewerActorId = query.reviewerActorId ∧
        claim.reviewerExecutionId = query.reviewerExecutionId ∧
        claim.reviewerAttemptId = query.reviewerAttemptId then some (entry, claim) else none
  | _ => none

variable (authority : ReviewResultAuthority) (query : ReviewResultQuery)

def isStart (claimedEventId : EventId) (record : ReviewRecord) : Bool :=
  record = .executionStarted claimedEventId query.reviewerWorkOrderId query.reviewerActorId
    query.reviewerExecutionId query.reviewerAttemptId authority.reviewerWorkOrder.assignment.lineage

def resolveClaim (entries : List ReviewEntry) : Resolved (ReviewEntry × ReviewExecutionClaim) := do
  let (entry, claim) ← exactlyOne .executionClaimMismatch (entries.filterMap (slotClaim query))
  ensure (claim.contractVersion = 1 ∧ claim.graphSha256 = authority.graphSha256 ∧
    claim.targetWorkOrderId = authority.targetWorkOrderId) .executionClaimMismatch
  ensure (entries.countP (fun start => isStart authority query entry.eventId start.record) = 1)
    .executionStartMismatch
  return (entry, claim)

end Claims

variable (runtime : ReviewRuntime)

section Verdicts

/-- An accepted verdict with its receipt. -/
structure AcceptedVerdict where
  entry : ReviewEntry
  source : VerdictAcceptanceSource
  verdictArtifact : ArtifactRef
  receiptArtifact : ArtifactRef
  receipt : ReviewReceipt runtime.Value

def acceptedVerdict (entry : ReviewEntry) : Resolved (Option (AcceptedVerdict runtime)) :=
  match entry.record with
  | .verdictAccepted source verdictArtifact receiptArtifact => do
    let receipt ← retained runtime runtime.receiptDocument entry receiptArtifact
      reviewReceiptMediaType
    return some ⟨entry, source, verdictArtifact, receiptArtifact, receipt⟩
  | _ => return none

/-- Every accepted verdict must be readable, whichever execution it belongs to. -/
def acceptedFor (entries : List ReviewEntry) (claimedEventId : EventId) :
    Resolved (List (AcceptedVerdict runtime)) := do
  let accepted ← entries.mapM (acceptedVerdict runtime)
  return accepted.reduceOption.filter (·.receipt.executionClaimedEventId = claimedEventId)

def receiptBound (authority : ReviewResultAuthority) (accepted : AcceptedVerdict runtime) : Bool :=
  let receipt := accepted.receipt
  let instance_ := receipt.configuredBackendInstance
  let lineage := receipt.configuredReviewerLineage
  receipt.verdictArtifact = accepted.verdictArtifact &&
    receipt.acceptanceSource = accepted.source &&
    receipt.contractVersion = 1 &&
    receipt.promptContract = repositoryReviewerKey.text &&
    lineage = authority.reviewerWorkOrder.assignment.lineage &&
    !receipt.blindSubjectId.isEmpty &&
    instance_.isIntact runtime &&
    instance_.backendId = lineage.backendId &&
    instance_.configuredDeploymentId = lineage.deploymentId &&
    receipt.reportedModelId = lineage.modelId &&
    instance_.matchesResponseEvidence runtime receipt.responseEvidence

def resolveVerdict (authority : ReviewResultAuthority) (entries : List ReviewEntry)
    (claimedEventId : EventId) : Resolved (AcceptedVerdict runtime × ReviewerArtifact) := do
  let candidates ← acceptedFor runtime entries claimedEventId
  let accepted ← exactlyOne .verdictAcceptanceMismatch candidates
  ensure (receiptBound runtime authority accepted) .verdictAcceptanceMismatch
  let verdict ← exactArtifact runtime accepted.entry accepted.verdictArtifact reviewVerdictMediaType
  return (accepted, verdict)

end Verdicts

section Subjects

/-- What was prepared for the model. -/
structure PreparedSubject where
  input : RepositoryReviewInput
  disclosure : ReviewDisclosure
  compiled : runtime.CompiledPrompt

def disclosureBound (claim : ReviewExecutionClaim) (receipt : ReviewReceipt runtime.Value)
    (disclosure : ReviewDisclosure) : Bool :=
  let producer := disclosure.producerLocator
  disclosure.contractVersion = 1 &&
    disclosure.blindSubjectId = receipt.blindSubjectId &&
    disclosure.graphAcceptedEventId = claim.graphAcceptedEventId &&
    disclosure.reviewerWorkOrderId = claim.reviewerWorkOrderId &&
    disclosure.reviewerActorId = claim.reviewerActorId &&
    disclosure.reviewerExecutionId = claim.reviewerExecutionId &&
    disclosure.reviewerAttemptId = claim.reviewerAttemptId &&
    producer.graphSha256 = claim.graphSha256 &&
    producer.workOrderId = claim.targetWorkOrderId &&
    producer.actorId = claim.producerActorId &&
    producer.executionId = claim.producerExecutionId &&
    producer.attemptId = claim.producerAttemptId &&
    disclosure.candidateSha256 = claim.candidateSha256 &&
    disclosure.reviewerLineage = receipt.configuredReviewerLineage

def resolveSubject (entries : List ReviewEntry) (claim : ReviewExecutionClaim)
    (receipt : ReviewReceipt runtime.Value) : Resolved (PreparedSubject runtime) := do
  let entry ← exactEntry entries receipt.subjectPreparedEventId
  match entry.record with
  | .subjectPrepared blindSubjectId targetWorkOrderId modelInputArtifact disclosureArtifact
      compiledPromptArtifact => do
    ensure (blindSubjectId = receipt.blindSubjectId ∧ targetWorkOrderId = claim.targetWorkOrderId ∧
      modelInputArtifact = receipt.modelInputArtifact ∧
      disclosureArtifact = receipt.disclosureArtifact ∧
      compiledPromptArtifact = receipt.compiledPromptArtifact) .eventChainMismatch
    let input ← retained runtime runtime.inputDocument entry modelInputArtifact reviewInputMediaType
    let disclosure ← retained runtime runtime.disclosureDocument entry disclosureArtifact
      reviewDisclosureMediaType
    let compiled ← retained runtime runtime.compiledDocument entry compiledPromptArtifact
      reviewCompiledPromptMediaType
    ensure (disclosureBound runtime claim receipt disclosure) .disclosureMismatch
    return ⟨input, disclosure, compiled⟩
  | _ => .error .eventChainMismatch

/-- The invocation of the input, when its policy and its prompt are the ones retained. -/
def resolveInvocation (receipt : ReviewReceipt runtime.Value) (subject : PreparedSubject runtime) :
    Resolved (PromptInvocation runtime.Value) := do
  let policy ← (deriveRepositoryReviewPolicy runtime.toReviewEncoding subject.input).mapError
    fun _ => .promptMismatch
  ensure (policy.blindSubjectId = receipt.blindSubjectId ∧
    policy.visiblePayloadSha256 = receipt.visiblePayloadSha256 ∧
    policy.reviewPolicySha256 = receipt.reviewPolicySha256) .promptMismatch
  let invocation ← (repositoryReviewInvocation runtime.toReviewEncoding subject.input policy).mapError
    fun _ => .promptMismatch
  let rebuilt ← expect .promptMismatch (runtime.compileReview invocation)
  ensure (rebuilt = subject.compiled ∧
    runtime.manifestSha256 subject.compiled = receipt.promptManifestSha256 ∧
    runtime.prompt subject.compiled = repositoryReviewerKey) .promptMismatch
  return invocation

def resolveOutput (receipt : ReviewReceipt runtime.Value) (subject : PreparedSubject runtime)
    (invocation : PromptInvocation runtime.Value) (verdict : ReviewerArtifact) :
    Resolved RepositoryReviewOutput := do
  let output ← expect .verdictContractMismatch
    (decodeOutput runtime subject.compiled invocation verdict.bytes)
  ensure (runtime.outputJson output = verdict.bytes ∧
    output.bindings.blindSubjectId = receipt.blindSubjectId ∧
    output.bindings.visiblePayloadSha256 = receipt.visiblePayloadSha256 ∧
    output.bindings.reviewPolicySha256 = receipt.reviewPolicySha256) .verdictContractMismatch
  return output

end Subjects

section Chain

variable (policy : ReviewerWorkerPolicy) (entries : List ReviewEntry)
  (receipt : ReviewReceipt runtime.Value)

/-- A response within its ceiling whose text says what its value says. -/
def responseConsistent (ceiling : UInt32) (outputTokens : Option UInt64)
    (response : StructuredInferenceResponse runtime.Value) : Bool :=
  outputTokens = response.outputTokens &&
    !outputTokens.any (fun tokens => UInt64.ofNat ceiling.toNat < tokens) &&
    runtime.parseText response.rawText = some response.value

def verifyRequest (subject : PreparedSubject runtime) : Resolved Unit := do
  ensure (countFor entries ReviewRecord.modelPreparedFor receipt.subjectPreparedEventId = 1 ∧
    countFor entries ReviewRecord.inputRejectedFor receipt.subjectPreparedEventId = 0)
    .eventChainMismatch
  let prepared ← exactEntry entries receipt.modelPreparedEventId
  match prepared.record with
  | .modelPrepared subjectPreparedEventId requestArtifact => do
    ensure (subjectPreparedEventId = receipt.subjectPreparedEventId ∧
      requestArtifact = receipt.requestArtifact) .eventChainMismatch
    let request ← retained runtime runtime.requestDocument prepared requestArtifact
      reviewRequestMediaType
    let expected ← expect .promptMismatch (structuredRequest runtime subject.compiled
      receipt.reportedModelId "repository_semantic_reviewer_v1" policy.maxOutputTokens policy)
    ensure (request = expected ∧ requestArtifact.sizeBytes ≤ policy.maxRequestBytes) .promptMismatch
  | _ => .error .eventChainMismatch

/-- The response that was observed, with its artifact and its tokens. -/
structure ObservedResponse where
  artifact : ReviewerArtifact
  response : StructuredInferenceResponse runtime.Value
  outputTokens : Option UInt64

def verifyResponse : Resolved (ObservedResponse runtime) := do
  ensure (countFor entries ReviewRecord.modelObservedFor receipt.modelPreparedEventId = 1 ∧
    countFor entries ReviewRecord.modelFailedFor receipt.modelPreparedEventId = 0)
    .eventChainMismatch
  let observed ← exactEntry entries receipt.modelObservedEventId
  match observed.record with
  | .modelObserved modelPreparedEventId responseArtifact outputTokens => do
    ensure (modelPreparedEventId = receipt.modelPreparedEventId ∧
      responseArtifact = receipt.responseArtifact) .eventChainMismatch
    let artifact ← exactArtifact runtime observed responseArtifact reviewResponseMediaType
    let response ← decodeCanonical runtime runtime.responseDocument artifact
    ensure (response.modelId = receipt.reportedModelId ∧ response.evidence = receipt.responseEvidence ∧
      response.finishReason = receipt.finishReason ∧ response.usage = receipt.usage ∧
      responseConsistent runtime policy.maxOutputTokens outputTokens response) .eventChainMismatch
    return ⟨artifact, response, outputTokens⟩
  | _ => .error .eventChainMismatch

def verifyFirstPass (subject : PreparedSubject runtime) (invocation : PromptInvocation runtime.Value)
    (output : RepositoryReviewOutput) (observed : ObservedResponse runtime) : Resolved Unit := do
  ensure (countFor entries ReviewRecord.repairBranchOf receipt.modelObservedEventId = 0 ∧
    receipt.aggregateOutputTokens = observed.outputTokens) .eventChainMismatch
  let observedOutput ← expect .verdictContractMismatch (decodeOutput runtime subject.compiled
    invocation observed.response.rawText.toUTF8.data.toList)
  ensure (observedOutput = output) .eventChainMismatch

/-- What was retained when a repair was prepared. -/
structure RetainedRepair where
  parentRawTextSha256 : String
  input : MissingEvidenceRepairInput
  policy : MissingEvidenceRepairPolicy
  compiled : runtime.CompiledPrompt
  request : StructuredInferenceRequest runtime.Value

def retainedRepair (repair : RepairReceipt runtime.Value) : Resolved (RetainedRepair runtime) := do
  let prepared ← exactEntry entries repair.repairPreparedEventId
  match prepared.record with
  | .missingEvidenceRepairPrepared modelObservedEventId parentRawTextSha256 repairInputArtifact
      repairPolicyArtifact repairCompiledPromptArtifact repairRequestArtifact => do
    ensure (modelObservedEventId = receipt.modelObservedEventId ∧
      repairInputArtifact = repair.repairInputArtifact ∧
      repairPolicyArtifact = repair.repairPolicyArtifact ∧
      repairCompiledPromptArtifact = repair.repairCompiledPromptArtifact ∧
      repairRequestArtifact = repair.repairRequestArtifact) .eventChainMismatch
    let input ← retained runtime runtime.repairInputDocument prepared repairInputArtifact
      reviewRepairInputMediaType
    let repairPolicy ← retained runtime runtime.repairPolicyDocument prepared repairPolicyArtifact
      reviewRepairPolicyMediaType
    let compiled ← retained runtime runtime.compiledDocument prepared repairCompiledPromptArtifact
      reviewRepairCompiledPromptMediaType
    let request ← retained runtime runtime.requestDocument prepared repairRequestArtifact
      reviewRepairRequestMediaType
    ensure (repairRequestArtifact.sizeBytes ≤ policy.maxRequestBytes) .promptMismatch
    return ⟨parentRawTextSha256, input, repairPolicy, compiled, request⟩
  | _ => .error .eventChainMismatch

def repairResponse (repair : RepairReceipt runtime.Value) : Resolved (ObservedResponse runtime) := do
  ensure (countFor entries ReviewRecord.repairObservedFor repair.repairPreparedEventId = 1 ∧
    countFor entries ReviewRecord.repairFailedFor repair.repairPreparedEventId = 0)
    .eventChainMismatch
  let observed ← exactEntry entries repair.repairObservedEventId
  match observed.record with
  | .missingEvidenceRepairObserved repairPreparedEventId repairResponseArtifact outputTokens => do
    ensure (repairPreparedEventId = repair.repairPreparedEventId ∧
      repairResponseArtifact = repair.repairResponseArtifact) .eventChainMismatch
    let artifact ← exactArtifact runtime observed repairResponseArtifact
      reviewRepairResponseMediaType
    let response ← decodeCanonical runtime runtime.responseDocument artifact
    return ⟨artifact, response, outputTokens⟩
  | _ => .error .eventChainMismatch

/-- `None` unless both responses report their tokens and the sum fits. -/
def combinedOutputTokens (primary repair : Option UInt64) : Option UInt64 := do
  checkedAdd (← primary) (← repair)

/-- The repair as it is prepared again from the first response. -/
def repairReproduced (repair : RepairReceipt runtime.Value) (kept : RetainedRepair runtime)
    (prepared : PreparedMissingEvidenceRepair runtime.toRepairEncoding)
    (observed : ObservedResponse runtime) : Bool :=
  let response := observed.response
  kept.input = prepared.input &&
    kept.policy = prepared.policy &&
    kept.compiled = prepared.compiled &&
    repair.promptContract = repairKey.text &&
    repair.promptManifestSha256 = runtime.manifestSha256 prepared.compiled &&
    repair.repairPolicySha256 = prepared.policy.repairPolicySha256 &&
    repair.parentRawTextSha256 = prepared.policy.parentRawTextSha256 &&
    kept.parentRawTextSha256 = prepared.policy.parentRawTextSha256 &&
    response.modelId = receipt.reportedModelId &&
    response.evidence = repair.responseEvidence &&
    response.finishReason = repair.finishReason &&
    response.usage = repair.usage &&
    receipt.configuredBackendInstance.matchesResponseEvidence runtime response.evidence &&
    responseConsistent runtime policy.repairMaxOutputTokens observed.outputTokens response

def verifyRepair (accepted : AcceptedVerdict runtime) (subject : PreparedSubject runtime)
    (invocation : PromptInvocation runtime.Value) (output : RepositoryReviewOutput)
    (primary : ObservedResponse runtime) (repair : RepairReceipt runtime.Value)
    (repairPatchArtifact : ArtifactRef) : Resolved Unit := do
  ensure (countFor entries ReviewRecord.repairBranchOf receipt.modelObservedEventId = 1)
    .eventChainMismatch
  let kept ← retainedRepair runtime policy entries receipt repair
  let observed ← repairResponse runtime entries repair
  let retainedPatch ← retained runtime runtime.patchDocument accepted.entry repairPatchArtifact
    reviewRepairPatchMediaType
  let candidate ← expect .eventChainMismatch (runtime.output.read primary.response.value)
  let prepared ← (prepareRepositoryReviewMissingEvidenceRepair runtime.toRepairEncoding subject.input
    invocation subject.compiled candidate
    (runtime.sha256 primary.response.rawText.toUTF8.data.toList).value
    primary.artifact.artifact.sha256).mapError fun _ => .eventChainMismatch
  ensure (repairReproduced runtime policy receipt repair kept prepared observed) .eventChainMismatch
  let expected ← expect .promptMismatch (structuredRequest runtime prepared.compiled
    receipt.reportedModelId "repository_review_missing_evidence_repair_v1"
    policy.repairMaxOutputTokens policy)
  ensure (kept.request = expected ∧ receipt.aggregateOutputTokens =
    combinedOutputTokens primary.outputTokens observed.outputTokens) .promptMismatch
  let decodedPatch ← expect .verdictContractMismatch (decodePatch runtime prepared.compiled
    prepared.invocation observed.response.rawText.toUTF8.data.toList)
  ensure (decodedPatch = retainedPatch) .eventChainMismatch
  let reapplied ← (applyRepositoryReviewMissingEvidenceRepair runtime.toRepairEncoding candidate
    invocation subject.compiled prepared retainedPatch).mapError fun _ => .verdictContractMismatch
  ensure (reapplied = output) .eventChainMismatch

def verifyModelChain (accepted : AcceptedVerdict runtime) (subject : PreparedSubject runtime)
    (invocation : PromptInvocation runtime.Value) (output : RepositoryReviewOutput) :
    Resolved Unit := do
  let receipt := accepted.receipt
  verifyRequest runtime policy entries receipt subject
  let observed ← verifyResponse runtime policy entries receipt
  match accepted.source, receipt.repair with
  | .firstPass modelObservedEventId, none => do
    ensure (modelObservedEventId = receipt.modelObservedEventId) .eventChainMismatch
    verifyFirstPass runtime entries receipt subject invocation output observed
  | .afterMissingEvidenceRepair parentModelObservedEventId repairObservedEventId repairPatchArtifact,
      some repair => do
    ensure (parentModelObservedEventId = receipt.modelObservedEventId ∧
      repairObservedEventId = repair.repairObservedEventId ∧
      repairPatchArtifact = repair.repairPatchArtifact) .eventChainMismatch
    verifyRepair runtime policy entries receipt accepted subject invocation output observed repair
      repairPatchArtifact
  | _, _ => .error .eventChainMismatch

/-- An entry that ends the accepted attempt otherwise. -/
def conflictsWith (record : ReviewRecord) : Bool :=
  match record with
  | .modelFailed modelPreparedEventId _ => modelPreparedEventId = receipt.modelPreparedEventId
  | .modelContractRejected modelObservedEventId _ _ =>
    modelObservedEventId = receipt.modelObservedEventId
  | .missingEvidenceRepairFailed repairPreparedEventId _ =>
    receipt.repair.any fun repair => repairPreparedEventId = repair.repairPreparedEventId
  | .missingEvidenceRepairRejected repairObservedEventId _ _ =>
    receipt.repair.any fun repair => repairObservedEventId = repair.repairObservedEventId
  | _ => false

def hasConflictingTerminal : Bool := entries.any fun entry => conflictsWith runtime receipt entry.record

end Chain

section Handoffs

variable (digest : CanonicalDigest) (authority : ReviewResultAuthority) (query : ReviewResultQuery)
  (records : List SchedulerRecord)

def schedulerRecord (eventId : SchedulerEventId) : Resolved SchedulerRecord :=
  uniqueMatch .schedulerHandoffMismatch .duplicateEventIdentity (records.filter (·.id = eventId))

/-- The handoff that a record retains. -/
def retainedHandoff (eventId : SchedulerEventId) : Resolved (SchedulerRecord × Handoff) := do
  let record ← schedulerRecord records eventId
  let handoff ← expect .schedulerHandoffMismatch record.event.handoff?
  return (record, handoff)

def dispatchOf (data : Scheduler.AttemptDispatched)
    (dependencyHandoffs : BTreeMap WorkOrderId Handoff) : AgentDispatch where
  actorId := query.reviewerActorId
  executionId := query.reviewerExecutionId
  attemptId := query.reviewerAttemptId
  parentAttemptId := data.parentAttemptId
  graphAcceptedEventId := query.graphAcceptedEventId
  graphSha256 := authority.graphSha256
  attestation := authority.reviewerAttestation
  workOrder := authority.reviewerWorkOrder
  dependencyHandoffs
  dependencyHandoffEventIds := data.dependencyHandoffEventIds

/-- A record that ends the attempt of a query. -/
def endsAttempt (event : Scheduler.SchedulerEvent) : Bool :=
  match event with
  | .handoffRetained handoff =>
    handoff.workOrderId = query.reviewerWorkOrderId && handoff.actorId = query.reviewerActorId &&
      handoff.executionId = query.reviewerExecutionId && handoff.attemptId = query.reviewerAttemptId
  | .attemptFailed data =>
    data.workOrderId = query.reviewerWorkOrderId && data.executionId = query.reviewerExecutionId &&
      data.attemptId = query.reviewerAttemptId
  | _ => false

def expectedArtifacts (receiptArtifact : ArtifactRef) (receipt : ReviewReceipt runtime.Value) :
    List String :=
  [receipt.modelInputArtifact.sha256, receipt.disclosureArtifact.sha256,
    receipt.compiledPromptArtifact.sha256, receipt.requestArtifact.sha256,
    receipt.responseArtifact.sha256, receipt.verdictArtifact.sha256, receiptArtifact.sha256] ++
  receipt.repair.toList.flatMap fun repair =>
    [repair.repairInputArtifact.sha256, repair.repairPolicyArtifact.sha256,
      repair.repairCompiledPromptArtifact.sha256, repair.repairRequestArtifact.sha256,
      repair.repairResponseArtifact.sha256, repair.repairPatchArtifact.sha256]

def expectedEvidence (claimedEventId acceptedEventId : EventId)
    (receipt : ReviewReceipt runtime.Value) (disclosure : ReviewDisclosure) : List String :=
  ([disclosure.graphAcceptedEventId.uuid, disclosure.reviewerDispatchEventId.uuid,
      disclosure.dependencyHandoffEventId.uuid, disclosure.producerDispatchEventId.uuid,
      disclosure.publicationEventId.uuid, disclosure.cleanupObservedEventId.uuid,
      disclosure.readyEventId.uuid, claimedEventId.uuid, receipt.subjectPreparedEventId.uuid,
      receipt.modelPreparedEventId.uuid, receipt.modelObservedEventId.uuid, acceptedEventId.uuid] ++
    receipt.repair.toList.flatMap fun repair =>
      [repair.repairPreparedEventId.uuid, repair.repairObservedEventId.uuid]).map runtime.uuidText

/-- Distinct references that are those expected. -/
def exactReferences (actual expected : List String) : Bool :=
  decide actual.Nodup && actual.all (· ∈ expected) && expected.all (· ∈ actual)

/-- The dispatch of the reviewer, verified, with the position of its record. -/
def verifyReviewerDispatch (disclosure : ReviewDisclosure) :
    Resolved (Scheduler.VerifiedSchedulerDispatchV1 × ℕ) := do
  let record ← schedulerRecord records disclosure.reviewerDispatchEventId
  let data ← expect .schedulerHandoffMismatch record.event.dispatched?
  ensure (data.workOrderId = query.reviewerWorkOrderId ∧ data.actorId = query.reviewerActorId ∧
    data.executionId = query.reviewerExecutionId ∧ data.attemptId = query.reviewerAttemptId ∧
    data.graphAcceptedEventId = query.graphAcceptedEventId) .schedulerHandoffMismatch
  let dependencyHandoffs ← data.dependencyHandoffEventIds.toList.mapM fun (dependencyId, eventId) => do
    let (_, handoff) ← retainedHandoff records eventId
    return (dependencyId, handoff)
  let verified ← (Scheduler.verifyDispatch digest records
    (dispatchOf authority query data (toMap dependencyHandoffs))).mapError .schedulerDispatch
  let target ← expect .schedulerHandoffMismatch verified.dependencies[authority.targetWorkOrderId]?
  let attestation ← expect .authoritySubjectMismatch
    authority.producers[authority.targetWorkOrderId]?
  ensure (verified.dispatchEventId = disclosure.reviewerDispatchEventId ∧
    verified.graphAcceptedEventId = query.graphAcceptedEventId ∧ verified.dependencies.size = 1 ∧
    target.handoffEventId = disclosure.dependencyHandoffEventId ∧
    target.producerDispatchEventId = disclosure.producerDispatchEventId ∧
    target.actorId = disclosure.producerLocator.actorId ∧
    target.executionId = disclosure.producerLocator.executionId ∧
    target.attemptId = disclosure.producerLocator.attemptId ∧
    target.dispatchAttestation = attestation) .schedulerHandoffMismatch
  return (verified, records.findIdx (·.id = record.id))

def verifySchedulerHandoff (claimedEventId acceptedEventId : EventId) (receiptArtifact : ArtifactRef)
    (receipt : ReviewReceipt runtime.Value) (disclosure : ReviewDisclosure)
    (output : RepositoryReviewOutput) : Resolved Unit := do
  let (verified, dispatchPosition) ←
    verifyReviewerDispatch digest authority query records disclosure
  let (record, handoff) ← retainedHandoff records query.reviewerHandoffEventId
  let handoffPosition := records.findIdx (·.id = record.id)
  ensure (dispatchPosition < handoffPosition ∧
    records.countP (fun candidate => endsAttempt query candidate.event) = 1 ∧
    record.causalParent = some verified.dispatchEventId ∧
    handoff.retainedEventId = query.reviewerHandoffEventId ∧
    handoff.workOrderId = query.reviewerWorkOrderId ∧ handoff.actorId = query.reviewerActorId ∧
    handoff.executionId = query.reviewerExecutionId ∧ handoff.attemptId = query.reviewerAttemptId ∧
    handoff.outcome = .completed ∧ handoff.summary = output.summary ∧ handoff.usage.toolCalls = 0 ∧
    handoff.usage.outputTokens = receipt.aggregateOutputTokens) .schedulerHandoffMismatch
  ensure (exactReferences handoff.artifactSha256 (expectedArtifacts runtime receiptArtifact receipt))
    .schedulerHandoffMismatch
  ensure (exactReferences handoff.evidenceIds
    (expectedEvidence runtime claimedEventId acceptedEventId receipt disclosure))
    .schedulerHandoffMismatch

end Handoffs

def routeFor (output : RepositoryReviewOutput) : ReviewRoute :=
  match output.verdict with
  | .pass => .semanticGateSatisfied
  | .revise => .revisionRequired (output.findings.map (·.findingId))
  | .inconclusive => .evidenceRequired output.missingEvidenceIds

def resolveRepositoryReviewResult (digest : CanonicalDigest) (authority : ReviewResultAuthority)
    (query : ReviewResultQuery) (entries : List ReviewEntry) (records : List SchedulerRecord) :
    Resolved VerifiedReviewResult := do
  ensure (query.reviewerWorkOrderId = authority.reviewerWorkOrder.id) .queryAuthorityMismatch
  ensure ((entries.map (·.eventId)).Nodup) .duplicateEventIdentity
  ensure ((records.map (·.id)).Nodup) .duplicateEventIdentity
  let (claimEntry, claim) ← resolveClaim authority query entries
  let (accepted, verdict) ← resolveVerdict runtime authority entries claimEntry.eventId
  let receipt := accepted.receipt
  let subject ← resolveSubject runtime entries claim receipt
  let invocation ← resolveInvocation runtime receipt subject
  let output ← resolveOutput runtime receipt subject invocation verdict
  verifyModelChain runtime authority.workerPolicy entries accepted subject invocation output
  ensure (!hasConflictingTerminal runtime entries receipt) .conflictingTerminal
  verifySchedulerHandoff runtime digest authority query records claimEntry.eventId
    accepted.entry.eventId accepted.receiptArtifact receipt subject.disclosure output
  return {
    query, claim, output
    verdictAcceptedEventId := accepted.entry.eventId
    verdictArtifact := accepted.verdictArtifact
    receiptArtifact := accepted.receiptArtifact
    route := routeFor output }

end BirdCode.Review
