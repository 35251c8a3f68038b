import BirdCode.Store.ChildReplayTools

/-! What a child's events say of each of its attempts, read from the events alone, and the laws of
an attempt's life. Nothing here looks at the replayed state. -/
namespace BirdCode.Store

section Reading

/-- An effect is a call of the model or of a tool. -/
inductive ChildCall
  | model (id : ChildModelCallId)
  | tool (id : ChildToolCallId)
  deriving DecidableEq

/-- What one event says of its attempt. A model call that closed with a success names its
evidence; an Observed failure and an Unknown close a call alike. -/
inductive AttemptStep
  | modelPrepared (call : ChildModelCallId) (ordinal : UInt32) (reservation : TokenReservationId)
  | modelClosed (call : ChildModelCallId) (evidence : Option ArtifactRef)
  | toolPrepared (call : ChildToolCallId) (ordinal : UInt32) (operation : ChildToolOperation)
  | toolStarted (call : ChildToolCallId)
  | toolClosed (call : ChildToolCallId)
  | handoff
  | finished (finished : ChildExecutionFinished)
  deriving DecidableEq

def ChildModelInferenceObserved.step (observed : ChildModelInferenceObserved) : AttemptStep :=
  .modelClosed observed.modelCallId <| match observed.outcome with
    | .succeeded .. => some observed.normalizedCompleteEvidenceArtifact
    | .failed _ => none

@[simp] def ChildModelInferencePrepared.step (prepared : ChildModelInferencePrepared) : AttemptStep :=
  .modelPrepared prepared.modelCallId prepared.modelCallOrdinal prepared.tokenReservation.id

@[simp] def ChildToolPrepared.step {Decision : Type} (prepared : ChildToolPrepared Decision) :
    AttemptStep :=
  .toolPrepared prepared.toolCallId prepared.toolOrdinal prepared.operation

/-- The attempt an event names and what it says of it. -/
def EventPayload.attemptStep : EventPayload → Option (ChildAttemptId × AttemptStep)
  | .childModelInferencePrepared prepared => some (prepared.binding.attemptId, prepared.step)
  | .childModelInferencePreparedV2 prepared =>
    some (prepared.prepared.binding.attemptId, prepared.prepared.step)
  | .childModelInferenceObserved observed => some (observed.binding.attemptId, observed.step)
  | .childModelInferenceOutcomeUnknown unknown =>
    some (unknown.binding.attemptId, .modelClosed unknown.modelCallId none)
  | .childToolPrepared prepared => some (prepared.binding.attemptId, prepared.step)
  | .childToolPreparedV2 prepared => some (prepared.binding.attemptId, prepared.step)
  | .childToolDispatchStartedV2 started =>
    some (started.binding.attemptId, .toolStarted started.toolCallId)
  | .childToolObserved observed =>
    some (observed.binding.attemptId, .toolClosed observed.toolCallId)
  | .childToolObservedV2 observed =>
    some (observed.binding.attemptId, .toolClosed observed.toolCallId)
  | .childToolOutcomeUnknown unknown =>
    some (unknown.binding.attemptId, .toolClosed unknown.toolCallId)
  | .childToolOutcomeUnknownV2 unknown =>
    some (unknown.binding.attemptId, .toolClosed unknown.toolCallId)
  | .childHandoffCommitted handoff => some (handoff.binding.attemptId, .handoff)
  | .childExecutionFinished finished => some (finished.binding.attemptId, .finished finished)
  | _ => none

/-- One attempt: its start, and the events after it, latest first. -/
structure AttemptTrace where
  started : ChildExecutionStarted
  events : List (ChildAttemptId × AttemptStep)

namespace AttemptTrace

def attemptId (trace : AttemptTrace) : ChildAttemptId := trace.started.binding.attemptId

def steps (trace : AttemptTrace) : List AttemptStep := trace.events.map Prod.snd

end AttemptTrace

/-- A start opens the next attempt, and every other event belongs to the attempt opened last. -/
def readChildEvent (traces : List AttemptTrace) (event : EventEnvelope) : List AttemptTrace :=
  match event.payload with
  | .childExecutionStarted started => ⟨started, []⟩ :: traces
  | payload =>
    match payload.attemptStep, traces with
    | some step, trace :: earlier => { trace with events := step :: trace.events } :: earlier
    | _, _ => traces

def readChildHistory (history : List EventEnvelope) : List AttemptTrace :=
  history.foldl readChildEvent []

end Reading

section Laws

namespace AttemptStep

/-- The effect that must be pending for a step to be taken. -/
@[simp] def pendingBefore : AttemptStep → Option ChildCall
  | .modelClosed call _ => some (.model call)
  | .toolStarted call => some (.tool call)
  | .toolClosed call => some (.tool call)
  | _ => none

/-- The effect a step leaves pending. -/
@[simp] def pendingAfter : AttemptStep → Option ChildCall
  | .modelPrepared call _ _ => some (.model call)
  | .toolPrepared call _ _ => some (.tool call)
  | .toolStarted call => some (.tool call)
  | _ => none

@[simp] def preparedModelCall : AttemptStep → Option (ChildModelCallId × TokenReservationId)
  | .modelPrepared call _ reservation => some (call, reservation)
  | _ => none

@[simp] def preparedToolCall : AttemptStep → Option ChildToolCallId
  | .toolPrepared call _ _ => some call
  | _ => none

@[simp] def closesModel : AttemptStep → Bool
  | .modelClosed .. => true
  | _ => false

@[simp] def closesTool : AttemptStep → Bool
  | .toolClosed _ => true
  | _ => false

/-- The evidence of a model call that succeeded. -/
@[simp] def successEvidence : AttemptStep → Option ArtifactRef
  | .modelClosed _ evidence => evidence
  | _ => none

end AttemptStep

def pendingCall (steps : List AttemptStep) : Option ChildCall :=
  steps.head?.bind AttemptStep.pendingAfter

@[simp] theorem pendingCall_cons (step : AttemptStep) (before : List AttemptStep) :
    pendingCall (step :: before) = step.pendingAfter := rfl

variable (env : Environment) (spec : ChildWorkOrderSpec)

/-- The plan and the action that the evidence of a successful call retains. -/
def retainedResponse (evidence : ArtifactRef) : Option ChildModelStructuredResponse :=
  match (readCanonicalJsonArtifact env.root env.wires.modelEvidence evidence
      childModelEvidenceMediaType).toOption.map ChildModelEvidenceRecord.outcome with
  | some (.succeeded _ _ _ _ response _) => some response
  | _ => none

def canonicalPlanDigest (plan : ChildLocalPlanSnapshot) : Option Sha256Digest :=
  (env.wires.localPlan.toVec plan).bind fun bytes => (digestOf env.root bytes).toOption

/-- The latest event is the success of a model call whose action is the one wanted. -/
def AuthorisedBy (wanted : ChildAction → Bool) (before : List AttemptStep) : Prop :=
  ∃ call evidence response, before.head? = some (.modelClosed call (some evidence)) ∧
    retainedResponse env evidence = some response ∧ wanted response.action = true

/-- The plan of a success is the next revision, and names the digest of the revision before. -/
def NextRevision (evidence : ArtifactRef) (before : List AttemptStep) : Prop :=
  ∃ response, retainedResponse env evidence = some response ∧
    response.plan.revision.toNat = (before.filterMap AttemptStep.successEvidence).length + 1 ∧
    match (before.filterMap AttemptStep.successEvidence).head? with
    | none => response.plan.previousPlanDigest = none
    | some previous => ∃ previousResponse digest,
        retainedResponse env previous = some previousResponse ∧
        canonicalPlanDigest env previousResponse.plan = some digest ∧
        response.plan.previousPlanDigest = some digest

/-- What each kind of step needs of the steps before it. -/
def StepJustified (step : AttemptStep) (before : List AttemptStep) : Prop :=
  match step with
  | .modelPrepared _ ordinal _ =>
    ordinal.toNat = (before.filterMap AttemptStep.preparedModelCall).length + 1 ∧
      ordinal ≤ spec.maxModelCallsPerAttempt
  | .modelClosed _ evidence => ∀ artifact, evidence = some artifact → NextRevision env artifact before
  | .toolPrepared _ ordinal operation =>
    ordinal.toNat = (before.filterMap AttemptStep.preparedToolCall).length + 1 ∧
      ordinal ≤ spec.maxToolCallsPerAttempt ∧
      AuthorisedBy env (fun action => action.toolOperation = some operation) before
  | .toolStarted _ | .toolClosed _ => True
  | .handoff => AuthorisedBy env ChildAction.isFinish before
  | .finished finished =>
    finished.completedModelCalls.toNat = before.countP AttemptStep.closesModel ∧
      finished.completedToolCalls.toNat = before.countP AttemptStep.closesTool ∧
      (finished.outcome.isSucceeded = true ↔ .handoff ∈ before)

/-- The laws of one step: the effect pending before it is the one it needs, the attempt has not
finished, and the step is justified. -/
structure StepLawful (step : AttemptStep) (before : List AttemptStep) : Prop where
  oneEffect : pendingCall before = step.pendingBefore
  unfinished : ∀ finished, .finished finished ∉ before
  justified : StepJustified env spec step before

/-- A law holds of every step and the steps before it. -/
def EachStep (law : AttemptStep → List AttemptStep → Prop) : List AttemptStep → Prop
  | [] => True
  | step :: before => law step before ∧ EachStep law before

structure AttemptLifecycle (trace : AttemptTrace) : Prop where
  bound : ∀ event ∈ trace.events, event.1 = trace.attemptId
  lawful : EachStep (StepLawful env spec) trace.steps

/-- The attempt ended Failed with leave to try again. -/
def AttemptTrace.RequiresNewAttempt (trace : AttemptTrace) : Prop :=
  ∃ finished, trace.steps.head? = some (.finished finished) ∧
    finished.outcome.requiresNewAttempt = true

/-- The attempts, latest first, are linked by the retries. -/
def RetryChain : List AttemptTrace → Prop
  | [] => True
  | [first] => first.started.parentAttemptId = none
  | retry :: previous :: earlier =>
    retry.started.parentAttemptId = some previous.attemptId ∧ previous.RequiresNewAttempt ∧
      RetryChain (previous :: earlier)

def modelCallsOf (traces : List AttemptTrace) : List (ChildModelCallId × TokenReservationId) :=
  traces.flatMap fun trace => trace.steps.filterMap AttemptStep.preparedModelCall

def toolCallsOf (traces : List AttemptTrace) : List ChildToolCallId :=
  traces.flatMap fun trace => trace.steps.filterMap AttemptStep.preparedToolCall

/-- The life of a child: one chain of retries, each attempt lawful, and no identity used twice. -/
structure ChildLifecycle (traces : List AttemptTrace) : Prop where
  chain : RetryChain traces
  bounded : traces.length ≤ spec.maxAttempts.toNat
  attemptIds : (traces.map AttemptTrace.attemptId).Nodup
  attempts : ∀ trace ∈ traces, AttemptLifecycle env spec trace
  modelCallIds : ((modelCallsOf traces).map Prod.fst).Nodup
  reservationIds : ((modelCallsOf traces).map Prod.snd).Nodup
  toolCallIds : (toolCallsOf traces).Nodup

end Laws

end BirdCode.Store
