import BirdCode.Store.LogExtension
import BirdCode.Store.ChildReplayTools

/-! Continuing a log does not change what an event of it was replayed to: every query of a child's
replay is by event identity or bounded by the sequence of the event being replayed. -/
namespace BirdCode.Store

open Lib (Persists)

variable {env : Environment} {log log' : EventLog} {event : EventEnvelope}

section Queries

variable {runId : RunId}

theorem latestClaimForRunBefore_continued {sessionId : SessionId} {bound : ℕ}
    (h : ContinuedFrom log log' sessionId bound) :
    latestClaimForRunBefore log' sessionId runId bound =
      latestClaimForRunBefore log sessionId runId bound := latestBefore_continued h _

theorem latestCancellationForRunBefore_continued {sessionId : SessionId} {bound : ℕ}
    (h : ContinuedFrom log log' sessionId bound) :
    latestCancellationForRunBefore log' sessionId runId bound =
      latestCancellationForRunBefore log sessionId runId bound := latestBefore_continued h _

theorem latestBrokerEpochBefore_continued {sessionId : SessionId} {bound : ℕ}
    (h : ContinuedFrom log log' sessionId bound) :
    latestBrokerEpochBefore log' sessionId runId bound =
      latestBrokerEpochBefore log sessionId runId bound := latestBefore_continued h _

end Queries

section TurnInput

variable {horizon : ChildModelTurnEventHorizon} {replay : ChildReplay}
  {attempt : ReplayedChildAttempt} {allowBrokerV2 : Bool} {ordinal : UInt32}

theorem resolveContextSource_persists (hkept : log.events <+: log'.events)
    (binding : ChildContextSource) :
    Persists (resolveContextSource env log horizon binding)
      (resolveContextSource env log' horizon binding) := by
  unfold resolveContextSource
  exact (storedEventForRun_persists hkept _).bind_left

theorem resolvePreparedReceiptV2_persists (hkept : log.events <+: log'.events)
    (preparedEventId : EventId) :
    Persists (resolvePreparedReceiptV2 env log horizon preparedEventId)
      (resolvePreparedReceiptV2 env log' horizon preparedEventId) := by
  unfold resolvePreparedReceiptV2
  exact (storedEventForRun_persists hkept _).bind_left

theorem resolveVerifiedResult_persists (hkept : log.events <+: log'.events)
    (terminalEventId : EventId) (observed : ChildToolObserved RepositoryToolObservedTerminalV2)
    (operation : ChildToolOperation) :
    Persists (resolveVerifiedResult env log horizon ordinal replay attempt terminalEventId
        observed operation)
      (resolveVerifiedResult env log' horizon ordinal replay attempt terminalEventId observed
        operation) := by
  unfold resolveVerifiedResult
  cases observed.outcome with
  | succeeded resultArtifact =>
    cases attempt.suppliedToolResults[observed.toolCallId]? with
    | none => exact .rfl
    | some supplied =>
      refine .bind_right fun _ _ => ?_
      exact (storedEventForRun_persists hkept _).bind_left
  | failed => exact .rfl
  | authorizationDenied => exact .rfl

theorem resolvePreviousTool_persists (hkept : log.events <+: log'.events)
    (binding : ChildPreviousToolContext) :
    Persists (resolvePreviousTool env log horizon ordinal replay attempt allowBrokerV2 binding)
      (resolvePreviousTool env log' horizon ordinal replay attempt allowBrokerV2 binding) := by
  unfold resolvePreviousTool
  cases binding with
  | observed toolCallId terminalEventId receipt outcome =>
    refine (storedEventForRun_persists hkept _).bind fun terminalEvent _ => ?_
    cases terminalEvent.payload with
    | childToolObservedV2 observed =>
      refine .bind_right fun _ _ => ?_
      refine (resolvePreparedReceiptV2_persists hkept _).bind fun prepared _ => ?_
      refine .bind_right fun receipt _ => ?_
      exact (resolveVerifiedResult_persists hkept _ observed prepared.1.operation).bind_left
    | _ => exact .rfl
  | unknown toolCallId terminalEventId receipt reason =>
    refine (storedEventForRun_persists hkept _).bind fun terminalEvent _ => ?_
    cases terminalEvent.payload with
    | childToolOutcomeUnknownV2 unknown =>
      refine .bind_right fun _ _ => ?_
      exact (resolvePreparedReceiptV2_persists hkept _).bind_left
    | _ => exact .rfl

theorem resolveTurnInput_persists (hkept : log.events <+: log'.events)
    (prepared : ChildModelInferencePrepared) :
    Persists (resolveTurnInput env log horizon prepared replay attempt allowBrokerV2)
      (resolveTurnInput env log' horizon prepared replay attempt allowBrokerV2) := by
  unfold resolveTurnInput
  refine .bind_right fun workOrder _ => .bind_right fun manifest _ => ?_
  refine .bind (.list_mapM fun source _ => resolveContextSource_persists hkept source) ?_
  intro contextSources _
  refine .bind_right fun priorPlan _ => ?_
  exact .bind_left (.list_mapM fun binding _ => resolvePreviousTool_persists hkept binding)

end TurnInput

section WorkOrder

/-- What a query bounded by the event's own sequence needs of the continuation. -/
theorem validateChildCancellationCause_persists
    (h : ContinuedFrom log log' event.sessionId event.sequence) (cause : ChildCancellationCause) :
    Persists (validateChildCancellationCause log event cause)
      (validateChildCancellationCause log' event cause) := by
  unfold validateChildCancellationCause
  simp only [latestCancellationForRunBefore_continued h]
  refine .bind_right fun runId _ => ?_
  exact (storedEventForRun_persists h.kept _).bind_left

theorem validateOptionalCancellation_persists
    (h : ContinuedFrom log log' event.sessionId event.sequence)
    (cancellation : Option ChildCancellationCause) :
    Persists (validateOptionalCancellation log event cancellation)
      (validateOptionalCancellation log' event cancellation) := by
  cases cancellation with
  | none => exact .rfl
  | some cause => exact validateChildCancellationCause_persists h cause

theorem validateContextSource_persists (hkept : log.events <+: log'.events) (runId : RunId)
    (state : ArtifactValidationCost × ℕ) (source : ChildContextSource) :
    Persists (validateContextSource env log event runId state source)
      (validateContextSource env log' event runId state source) := by
  unfold validateContextSource
  exact (storedEventForRun_persists hkept _).bind_left

theorem validateChildContextManifest_persists (hkept : log.events <+: log'.events)
    (spec : ChildWorkOrderSpec) (contextArtifact : ArtifactRef) (required : Option EventId) :
    Persists (validateChildContextManifest env log event spec contextArtifact required)
      (validateChildContextManifest env log' event spec contextArtifact required) := by
  unfold validateChildContextManifest
  refine .bind_right fun runId _ => .bind_right fun context _ => .bind_right fun _ _ => ?_
  refine .bind_right fun specBytes _ => .bind_right fun transcriptBytes _ => ?_
  refine .bind_right fun _ _ => .bind_right fun _ _ => ?_
  exact .bind_left (.foldlM fun source _ state =>
    validateContextSource_persists hkept runId state source)

theorem validateChildWorkOrderDocuments_persists (hkept : log.events <+: log'.events)
    (issued : ChildWorkOrderIssued) :
    Persists (validateChildWorkOrderDocuments env log event issued)
      (validateChildWorkOrderDocuments env log' event issued) := by
  unfold validateChildWorkOrderDocuments
  refine .bind_right fun runId _ => .bind_right fun _ _ => .bind_right fun _ _ => ?_
  refine (storedEventForRun_persists hkept _).bind fun authorization _ => ?_
  refine .bind_right fun authorized _ => .bind_right fun _ _ => .bind_right fun _ _ => ?_
  refine (storedEventForRun_persists hkept _).bind fun claimEvent _ => ?_
  cases claimEvent.payload with
  | runClaimed claim =>
    refine .bind_right fun _ _ => .bind_right fun persisted _ => .bind_right fun _ _ => ?_
    exact (validateChildContextManifest_persists hkept _ _ _).bind_left
  | _ => exact .rfl

theorem replayWorkOrderIssued_persists (hkept : log.events <+: log'.events)
    (issued : ChildWorkOrderIssued) :
    Persists (replayWorkOrderIssued env log event issued)
      (replayWorkOrderIssued env log' event issued) := by
  unfold replayWorkOrderIssued
  refine (validateChildWorkOrderDocuments_persists hkept issued).bind fun _ _ => ?_
  refine .bind_right fun runId _ => ?_
  exact (storedEventForRun_persists hkept _).bind_left

end WorkOrder

section Transitions

variable {replay : ChildReplay}

theorem replayClaimAdopted_persists (h : ContinuedFrom log log' event.sessionId event.sequence)
    (adopted : ChildExecutionClaimAdopted) :
    Persists (replayClaimAdopted log replay event adopted)
      (replayClaimAdopted log' replay event adopted) := by
  have hadopt : Persists (adoptClaim log replay event adopted)
      (adoptClaim log' replay event adopted) := by
    unfold adoptClaim
    simp only [latestClaimForRunBefore_continued h,
      latestCancellationGenerationBefore_continued h]
    refine .bind_right fun runId _ => .bind_right fun _ _ => ?_
    refine (storedEventForRun_persists h.kept _).bind fun prior _ => ?_
    exact (storedEventForRun_persists h.kept _).bind_left
  unfold replayClaimAdopted
  exact hadopt.bind_left

theorem validateModelPrepared_persists (hkept : log.events <+: log'.events)
    {attempt : ReplayedChildAttempt} {allowBrokerV2 : Bool}
    (prepared : ChildModelInferencePrepared) :
    Persists (validateModelPrepared env log replay attempt event prepared allowBrokerV2)
      (validateModelPrepared env log' replay attempt event prepared allowBrokerV2) := by
  unfold validateModelPrepared
  refine .bind_right fun _ _ => .bind_right fun runId _ => ?_
  exact (resolveTurnInput_persists hkept prepared).bind_left

theorem replayModelPrepared_persists (hkept : log.events <+: log'.events)
    (prepared : ChildModelInferencePrepared) :
    Persists (replayModelPrepared env log replay event prepared)
      (replayModelPrepared env log' replay event prepared) := by
  unfold replayModelPrepared
  refine .bind_right fun attempt _ => ?_
  exact (validateModelPrepared_persists hkept prepared).bind_left

theorem replayModelPreparedV2_persists (hkept : log.events <+: log'.events)
    (prepared : ChildModelInferencePreparedV2) :
    Persists (replayModelPreparedV2 env log replay event prepared)
      (replayModelPreparedV2 env log' replay event prepared) := by
  unfold replayModelPreparedV2
  refine .bind_right fun _ _ => .bind_right fun attempt _ => ?_
  exact (validateModelPrepared_persists hkept prepared.prepared).bind_left

theorem replayModelObserved_persists (h : ContinuedFrom log log' event.sessionId event.sequence)
    (observed : ChildModelInferenceObserved) :
    Persists (replayModelObserved env log replay event observed)
      (replayModelObserved env log' replay event observed) := by
  unfold replayModelObserved
  refine .bind_right fun _ _ => ?_
  exact (validateOptionalCancellation_persists h _).bind_left

theorem replayModelUnknown_persists (h : ContinuedFrom log log' event.sessionId event.sequence)
    (unknown : ChildModelInferenceOutcomeUnknown) :
    Persists (replayModelUnknown env log replay event unknown)
      (replayModelUnknown env log' replay event unknown) := by
  unfold replayModelUnknown
  refine .bind_right fun _ _ => ?_
  exact (validateOptionalCancellation_persists h _).bind_left

theorem replayToolPreparedV2_continued
    (h : ContinuedFrom log log' event.sessionId event.sequence)
    (prepared : ChildToolPrepared RepositoryToolAuthorizationDecisionV2) :
    replayToolPreparedV2 env log replay event prepared =
      replayToolPreparedV2 env log' replay event prepared := by
  simp only [replayToolPreparedV2, validateChildToolPreparedDocumentV2,
    latestBrokerEpochBefore_continued h]

theorem replayToolDispatchStartedV2_continued
    (h : ContinuedFrom log log' event.sessionId event.sequence)
    (started : ChildToolDispatchStartedV2) :
    replayToolDispatchStartedV2 log replay event started =
      replayToolDispatchStartedV2 log' replay event started := by
  simp only [replayToolDispatchStartedV2, latestClaimForRunBefore_continued h,
    latestBrokerEpochBefore_continued h, latestCancellationGenerationBefore_continued h]

theorem pendingUnknownTool_persists (h : ContinuedFrom log log' event.sessionId event.sequence)
    (unknown : ChildToolOutcomeUnknown) :
    Persists (pendingUnknownTool log replay event unknown)
      (pendingUnknownTool log' replay event unknown) := by
  unfold pendingUnknownTool
  refine .bind_right fun _ _ => ?_
  exact (validateOptionalCancellation_persists h _).bind_left

theorem replayToolUnknown_persists (h : ContinuedFrom log log' event.sessionId event.sequence)
    (unknown : ChildToolOutcomeUnknown) :
    Persists (replayToolUnknown env log replay event unknown)
      (replayToolUnknown env log' replay event unknown) := by
  unfold replayToolUnknown
  exact (pendingUnknownTool_persists h unknown).bind_left

theorem validateChildToolUnknownDocumentV2_continued
    (h : ContinuedFrom log log' event.sessionId event.sequence)
    (unknown : ChildToolOutcomeUnknownV2) (pending : PendingChildTool) :
    validateChildToolUnknownDocumentV2 env log event unknown pending =
      validateChildToolUnknownDocumentV2 env log' event unknown pending := by
  unfold validateChildToolUnknownDocumentV2
  have htiming : validateUnknownTimingV2 log event unknown pending =
      validateUnknownTimingV2 log' event unknown pending := by
    funext timing
    cases timing with
    | brokerRecorded => rfl
    | runtimeReconciled =>
      simp only [validateUnknownTimingV2, latestBrokerEpochBefore_continued h]
  rw [htiming]

theorem replayToolUnknownV2_persists (h : ContinuedFrom log log' event.sessionId event.sequence)
    (unknown : ChildToolOutcomeUnknownV2) :
    Persists (replayToolUnknownV2 env log replay event unknown)
      (replayToolUnknownV2 env log' replay event unknown) := by
  unfold replayToolUnknownV2
  refine (pendingUnknownTool_persists h _).bind fun pair _ => ?_
  obtain ⟨attempt, pending⟩ := pair
  exact (Persists.of_eq (validateChildToolUnknownDocumentV2_continued h unknown pending)).bind_left

theorem replayExecutionFinished_persists
    (h : ContinuedFrom log log' event.sessionId event.sequence)
    (finished : ChildExecutionFinished) :
    Persists (replayExecutionFinished env log replay event finished)
      (replayExecutionFinished env log' replay event finished) := by
  have houtcome (attempt : ReplayedChildAttempt) :
      Persists (validateChildExecutionTerminalOutcome env log event replay.issued attempt finished)
        (validateChildExecutionTerminalOutcome env log' event replay.issued attempt finished) := by
    unfold validateChildExecutionTerminalOutcome
    cases finished.outcome with
    | succeeded handoffStatus => exact .rfl
    | failed kind retry cause => exact .rfl
    | cancelled cause =>
      refine .bind_right fun _ _ => ?_
      exact (validateChildCancellationCause_persists h cause).bind_left
  unfold replayExecutionFinished
  refine .bind_right fun _ _ => .bind_right fun attempt _ => .bind_right fun _ _ => ?_
  exact (houtcome attempt).bind_left

end Transitions

section Replay

theorem replayIssuedChildEvent_persists
    (h : ContinuedFrom log log' event.sessionId event.sequence) (replay : ChildReplay) :
    Persists (replayIssuedChildEvent env log replay event)
      (replayIssuedChildEvent env log' replay event) := by
  unfold replayIssuedChildEvent
  cases event.payload with
  | childExecutionClaimAdopted adopted => exact replayClaimAdopted_persists h adopted
  | childModelInferencePrepared prepared => exact replayModelPrepared_persists h.kept prepared
  | childModelInferencePreparedV2 prepared =>
    exact replayModelPreparedV2_persists h.kept prepared
  | childModelInferenceObserved observed => exact replayModelObserved_persists h observed
  | childModelInferenceOutcomeUnknown unknown => exact replayModelUnknown_persists h unknown
  | childToolPreparedV2 prepared => exact .of_eq (replayToolPreparedV2_continued h prepared)
  | childToolDispatchStartedV2 started =>
    exact .of_eq (replayToolDispatchStartedV2_continued h started)
  | childToolOutcomeUnknown unknown => exact replayToolUnknown_persists h unknown
  | childToolOutcomeUnknownV2 unknown => exact replayToolUnknownV2_persists h unknown
  | childExecutionFinished finished => exact replayExecutionFinished_persists h finished
  | _ => exact .rfl

theorem replayChildEvent_persists (h : ContinuedFrom log log' event.sessionId event.sequence)
    (replay : Option ChildReplay) :
    Persists (replayChildEvent env log replay event) (replayChildEvent env log' replay event) := by
  have hissued (replay : ChildReplay) : Persists (replayIssuedChildEvent env log replay event)
      (replayIssuedChildEvent env log' replay event) :=
    replayIssuedChildEvent_persists h replay
  unfold replayChildEvent
  cases event.payload with
  | childWorkOrderIssued issued =>
    refine .bind_right fun _ _ => ?_
    exact (replayWorkOrderIssued_persists h.kept issued).bind_left
  | _ =>
    refine .bind_right fun replay _ => ?_
    exact (hissued replay).bind_left

/-- A history of events of the log replays to the same state over the longer log. -/
theorem replayChildHistory_persists (hkept : log.events <+: log'.events)
    {history : List EventEnvelope} (hmem : ∀ event ∈ history, event ∈ log.events) :
    Persists (replayChildHistory env log history) (replayChildHistory env log' history) := by
  unfold replayChildHistory
  exact .foldlM fun event hevent replay =>
    replayChildEvent_persists (.of_mem hkept (hmem event hevent)) replay

end Replay

end BirdCode.Store
