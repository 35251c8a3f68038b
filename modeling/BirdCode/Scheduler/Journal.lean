import BirdCode.Scheduler.Graph

/-! Worker results, handoffs, failures, and the records a scheduler journal retains. -/
namespace BirdCode.Scheduler

/-- Usage a worker reports. `none` means that the provider reported no tokens. -/
structure Usage where
  outputTokens : Option UInt64
  toolCalls : UInt64
  deriving DecidableEq

inductive HandoffOutcome
  | completed | partially | blocked
  deriving DecidableEq

structure AgentCompletion where
  outcome : HandoffOutcome
  summary : String
  executionReceiptId : String
  artifactSha256 : List String
  evidenceIds : List String
  usage : Usage
  deriving DecidableEq

inductive AgentFailureKind
  | retryableNoEffect | permanentBackend | permissionDenied | cancelled
  deriving DecidableEq

structure AgentFailure where
  kind : AgentFailureKind
  message : String
  usage : Usage
  executionReceiptId : String
  effectReceiptId : Option String
  deriving DecidableEq

/-- A receipt is usable when it has between 1 and 512 bytes. -/
def boundedReceipt (receipt : String) : Option String :=
  if !receipt.isEmpty && receipt.utf8ByteSize ≤ maxEvidenceIdBytes then some receipt else none

/-- The retry policy reads the kind and the no-effect receipt, never the message. -/
def AgentFailure.isRetryable (failure : AgentFailure) : Bool :=
  failure.kind = .retryableNoEffect &&
    failure.effectReceiptId.any fun receipt =>
      !receipt.isEmpty && receipt.utf8ByteSize ≤ maxEvidenceIdBytes

structure CleanupReceipt where
  cleanupReceiptId : String
  deriving DecidableEq

structure Handoff where
  id : HandoffId
  retainedEventId : SchedulerEventId
  workOrderId : WorkOrderId
  actorId : ActorId
  executionId : ExecutionId
  attemptId : AttemptId
  outcome : HandoffOutcome
  summary : String
  executionReceiptId : String
  artifactSha256 : List String
  evidenceIds : List String
  usage : Usage
  deriving DecidableEq

inductive HandoffViolation
  | emptySummary
  | invalidExecutionReceipt
  | summaryTooLarge (maximum actual : ℕ)
  | artifactReferenceLimitExceeded (maximum actual : ℕ)
  | invalidArtifactDigest (index : ℕ)
  | duplicateArtifactDigest
  | missingCompletionEvidence
  | evidenceReferenceLimitExceeded (maximum actual : ℕ)
  | invalidEvidenceId (index : ℕ)
  | duplicateEvidenceId
  deriving DecidableEq

inductive AgentFailureViolation
  | emptyMessage
  | messageTooLarge (maximum actual : ℕ)
  | invalidExecutionReceipt
  | invalidEffectReceipt
  | missingNoEffectReceipt
  deriving DecidableEq

/-- What is kept of a worker result that is itself invalid. -/
structure AttemptObservation where
  executionReceiptId : Option String
  effectReceiptId : Option String
  usage : Usage
  payloadSha256 : String
  deriving DecidableEq

inductive WorkOrderFailure
  | worker (failure : AgentFailure)
  | invalidWorkerFailure (violations : List AgentFailureViolation)
      (usageViolation : Option ActorGraphViolation) (observation : AttemptObservation)
  | deadlineExceeded (maximumMs : UInt64) (cleanupReceiptId : String)
  | cleanupUnproven (maximumMs cleanupMaximumMs : UInt64)
  | usageViolation (violation : ActorGraphViolation)
  | invalidHandoff (violations : List HandoffViolation)
      (usageViolation : Option ActorGraphViolation) (observation : AttemptObservation)
  | incompleteHandoff (outcome : HandoffOutcome)
  | dependencyFailed (dependencyIds : List WorkOrderId)
  deriving DecidableEq

def WorkOrderFailure.isCleanupUnproven : WorkOrderFailure → Bool
  | cleanupUnproven _ _ => true
  | _ => false

inductive ActorGraphOutcome
  | completed | failed
  deriving DecidableEq

/-- The bounded dispatch material that a journal can verify without parsing prose. -/
structure DispatchAttestation where
  graphSha256 : String
  workOrderSha256 : String
  permissionsSha256 : String
  assignment : AgentAssignment
  contextManifestSha256 : String
  workspace : WorkspaceGrant
  budget : AgentBudget
  deriving DecidableEq

structure AttemptDispatched where
  workOrderId : WorkOrderId
  actorId : ActorId
  executionId : ExecutionId
  attemptId : AttemptId
  parentAttemptId : Option AttemptId
  graphAcceptedEventId : SchedulerEventId
  attestation : DispatchAttestation
  dependencyHandoffEventIds : BTreeMap WorkOrderId SchedulerEventId
  deriving DecidableEq

structure AttemptFailed where
  workOrderId : WorkOrderId
  executionId : ExecutionId
  attemptId : AttemptId
  failure : WorkOrderFailure
  willRetry : Bool
  deriving DecidableEq

inductive SchedulerEvent
  | graphAccepted (graphSha256 policyVersion planInputSnapshotSha256 : String)
  | attemptDispatched (data : AttemptDispatched)
  | attemptFailed (data : AttemptFailed)
  | handoffRetained (handoff : Handoff)
  | workOrderBlocked (workOrderId : WorkOrderId) (dependencyIds : List WorkOrderId)
      (dependencyTerminalEventIds : BTreeMap WorkOrderId SchedulerEventId)
  | graphFinished (outcome : ActorGraphOutcome)
      (terminalEventIds : BTreeMap WorkOrderId SchedulerEventId)
  | graphSuspended (cleanupUnprovenWorkOrderIds pendingWorkOrderIds : List WorkOrderId)
      (terminalEventIds : BTreeMap WorkOrderId SchedulerEventId)
  deriving DecidableEq

section Events

/-- The digest of the graph that a record accepts. -/
def SchedulerEvent.acceptedGraph? : SchedulerEvent → Option String
  | .graphAccepted graphSha256 _ _ => some graphSha256
  | _ => none

def SchedulerEvent.dispatched? : SchedulerEvent → Option AttemptDispatched
  | .attemptDispatched data => some data
  | _ => none

def SchedulerEvent.failed? : SchedulerEvent → Option AttemptFailed
  | .attemptFailed data => some data
  | _ => none

def SchedulerEvent.handoff? : SchedulerEvent → Option Handoff
  | .handoffRetained handoff => some handoff
  | _ => none

variable {event : SchedulerEvent}

@[simp] theorem dispatched?_eq_some {data : AttemptDispatched} :
    event.dispatched? = some data ↔ event = .attemptDispatched data := by
  cases event <;> simp [SchedulerEvent.dispatched?]

@[simp] theorem failed?_eq_some {data : AttemptFailed} :
    event.failed? = some data ↔ event = .attemptFailed data := by
  cases event <;> simp [SchedulerEvent.failed?]

@[simp] theorem handoff?_eq_some {handoff : Handoff} :
    event.handoff? = some handoff ↔ event = .handoffRetained handoff := by
  cases event <;> simp [SchedulerEvent.handoff?]

end Events

structure SchedulerRecord where
  id : SchedulerEventId
  causalParent : Option SchedulerEventId
  event : SchedulerEvent
  deriving DecidableEq

structure SchedulerJournalError where
  message : String
  deriving DecidableEq

/-- What a worker is handed for one attempt. -/
structure AgentDispatch where
  actorId : ActorId
  executionId : ExecutionId
  attemptId : AttemptId
  parentAttemptId : Option AttemptId
  graphAcceptedEventId : SchedulerEventId
  graphSha256 : String
  attestation : DispatchAttestation
  workOrder : WorkOrder
  dependencyHandoffs : BTreeMap WorkOrderId Handoff
  dependencyHandoffEventIds : BTreeMap WorkOrderId SchedulerEventId
  deriving DecidableEq

/-- `canonical_json_digest` at the types it is applied to. Encoding these types cannot fail,
so each digest is a total function of the value. -/
structure CanonicalDigest where
  graph : ActorGraph → ActorGraphPolicy → String
  workOrder : WorkOrder → String
  permissions : PermissionGrant → String
  completion : AgentCompletion → String
  failure : AgentFailure → String

/-- One digest for all values of a type, for concrete runs. -/
def constantDigest : CanonicalDigest :=
  ⟨fun _ _ => "graph", fun _ => "order", fun _ => "permissions", fun _ => "completion",
    fun _ => "failure"⟩

section Worker

variable (digest : CanonicalDigest)

def dispatchAttestation (graphSha256 : String) (workOrder : WorkOrder) : DispatchAttestation where
  graphSha256 := graphSha256
  workOrderSha256 := digest.workOrder workOrder
  permissionsSha256 := digest.permissions workOrder.permissions
  assignment := workOrder.assignment
  contextManifestSha256 := workOrder.contextManifestSha256
  workspace := workOrder.workspace
  budget := workOrder.budget

def completionObservation (completion : AgentCompletion) : AttemptObservation where
  executionReceiptId := boundedReceipt completion.executionReceiptId
  effectReceiptId := none
  usage := completion.usage
  payloadSha256 := digest.completion completion

def failureObservation (failure : AgentFailure) : AttemptObservation where
  executionReceiptId := boundedReceipt failure.executionReceiptId
  effectReceiptId := failure.effectReceiptId.bind boundedReceipt
  usage := failure.usage
  payloadSha256 := digest.failure failure

end Worker

/-- The first ceiling of the attempt that the reported usage breaks. -/
def usageViolation (usage : Usage) (budget : AgentBudget) (requireReportedTokenUsage : Bool) :
    Option ActorGraphViolation :=
  if requireReportedTokenUsage && usage.outputTokens.isNone then
    some .missingOutputTokenUsage
  else if usage.outputTokens.any (· > budget.maxOutputTokens) then
    some (.outputTokenBudgetExceeded budget.maxOutputTokens (usage.outputTokens.getD 0))
  else if usage.toolCalls > budget.maxToolCalls then
    some (.toolCallBudgetExceeded budget.maxToolCalls usage.toolCalls)
  else none

/-- One pass over reference values: an invalid value is reported with its index, a value met
before as a duplicate. -/
def referenceViolations {V : Type} (invalid : String → Bool) (atIndex : ℕ → V) (duplicate : V) :
    ℕ → List String → List String → List V
  | _, _, [] => []
  | index, seen, value :: rest =>
    report (invalid value) (atIndex index) ++ report (value ∈ seen) duplicate ++
      referenceViolations invalid atIndex duplicate (index + 1) (value :: seen) rest

def handoffViolations (completion : AgentCompletion) : List HandoffViolation :=
  collect [
    report (isBlank completion.summary) .emptySummary,
    report (completion.executionReceiptId.isEmpty ∨
      completion.executionReceiptId.utf8ByteSize > maxEvidenceIdBytes) .invalidExecutionReceipt,
    report (completion.summary.utf8ByteSize > maxHandoffSummaryBytes)
      (.summaryTooLarge maxHandoffSummaryBytes completion.summary.utf8ByteSize),
    report (completion.artifactSha256.length > maxHandoffReferences)
      (.artifactReferenceLimitExceeded maxHandoffReferences completion.artifactSha256.length),
    referenceViolations (fun digest => !validSha256 digest) .invalidArtifactDigest
      .duplicateArtifactDigest 0 [] completion.artifactSha256,
    report (completion.outcome = .completed ∧ completion.evidenceIds.isEmpty)
      .missingCompletionEvidence,
    report (completion.evidenceIds.length > maxHandoffReferences)
      (.evidenceReferenceLimitExceeded maxHandoffReferences completion.evidenceIds.length),
    referenceViolations
      (fun evidenceId => evidenceId.isEmpty || evidenceId.utf8ByteSize > maxEvidenceIdBytes)
      .invalidEvidenceId .duplicateEvidenceId 0 [] completion.evidenceIds]

def workerFailureViolations (failure : AgentFailure) : List AgentFailureViolation :=
  collect [
    report (isBlank failure.message) .emptyMessage,
    report (failure.message.utf8ByteSize > maxFailureMessageBytes)
      (.messageTooLarge maxFailureMessageBytes failure.message.utf8ByteSize),
    report (failure.executionReceiptId.isEmpty ∨
      failure.executionReceiptId.utf8ByteSize > maxEvidenceIdBytes) .invalidExecutionReceipt,
    report (failure.effectReceiptId.any fun receipt =>
      receipt.isEmpty || receipt.utf8ByteSize > maxEvidenceIdBytes) .invalidEffectReceipt,
    report (failure.kind = .retryableNoEffect ∧ failure.isRetryable = false)
      .missingNoEffectReceipt]

/-- Usage without a violation is inside both ceilings of the attempt. -/
theorem usage_le_of_usageViolation_eq_none {usage : Usage} {budget : AgentBudget} {require : Bool}
    (h : usageViolation usage budget require = none) :
    (usage.outputTokens.getD 0).toNat ≤ budget.maxOutputTokens.toNat ∧
      usage.toolCalls.toNat ≤ budget.maxToolCalls.toNat := by
  unfold usageViolation at h
  split at h
  · cases h
  · split at h
    · cases h
    · next htokens =>
      split at h
      · cases h
      · next htools =>
        refine ⟨?_, UInt64.le_iff_toNat_le.mp (UInt64.not_lt.mp htools)⟩
        cases hu : usage.outputTokens with
        | none => simp
        | some tokens =>
          simp only [hu, Option.any_some, decide_eq_true_eq] at htokens
          simpa using UInt64.le_iff_toNat_le.mp (UInt64.not_lt.mp htokens)

end BirdCode.Scheduler
