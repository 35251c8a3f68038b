import BirdCode.Scheduler.Graph

/-! The registry of candidate heads. Its mutex makes each call atomic, and what a call computes before
it takes the lock depends on the arguments alone, so a call is a function of the registry's state.
A call after a panic under the lock is left out, as nothing under it panics. -/
namespace BirdCode.CandidateHead

open Scheduler

abbrev RepositoryCandidateTrackId := UuidId .candidateTrack
abbrev RepositoryCandidateSelectionId := UuidId .candidateSelection
abbrev EventId := UuidId .event

/-- A digest exists only in canonical form. -/
structure Sha256Digest where
  value : String
  canonical : validSha256 value

instance : DecidableEq Sha256Digest := fun first second =>
  decidable_of_iff (first.value = second.value) ⟨fun h => by
    cases first
    cases second
    subst h
    rfl, congrArg Sha256Digest.value⟩

structure ArtifactRef where
  sha256 : String
  sizeBytes : UInt64
  mediaType : String
  deriving DecidableEq

structure RepositoryCandidateProducerLocator where
  graphSha256 : Sha256Digest
  workOrderId : WorkOrderId
  actorId : ActorId
  executionId : ExecutionId
  attemptId : AttemptId
  deriving DecidableEq

/-- A candidate's lifecycle: what a selection reads of it, and the evidence behind it. -/
structure RetainedRepositoryCandidate (Evidence : Type) where
  producerWorkOrderId : WorkOrderId
  candidateSha256 : Sha256Digest
  manifestArtifact : ArtifactRef
  publishedEventId : EventId
  publicationReceiptArtifact : ArtifactRef
  cleanupPreparedEventId : EventId
  cleanupObservedEventId : EventId
  cleanupReceiptArtifact : ArtifactRef
  readyEventId : EventId
  readyReceiptArtifact : ArtifactRef
  evidence : Evidence

structure VerifiedRepositoryReviewSubject (Evidence : Type) where
  graphAcceptedEventId : SchedulerEventId
  reviewerDispatchEventId : SchedulerEventId
  targetWorkOrderId : WorkOrderId
  producerDispatchEventId : SchedulerEventId
  dependencyHandoffEventId : SchedulerEventId
  targetWorkOrder : WorkOrder
  producerLocator : RepositoryCandidateProducerLocator
  candidate : RetainedRepositoryCandidate Evidence

inductive RepositoryCandidateError
  | artifactEncoding | manifestMismatch | artifactMismatch | provenanceMismatch
  deriving DecidableEq

/-- `RetainedRepositoryCandidateV1::validate_for`. -/
abbrev ValidateFor (Evidence : Type) : Type :=
  RetainedRepositoryCandidate Evidence → RepositoryCandidateProducerLocator →
    Except RepositoryCandidateError Unit

structure RepositoryCandidateSelectionSubject where
  graphAcceptedEventId : SchedulerEventId
  reviewerDispatchEventId : SchedulerEventId
  producerDispatchEventId : SchedulerEventId
  dependencyHandoffEventId : SchedulerEventId
  targetWorkOrderId : WorkOrderId
  producer : RepositoryCandidateProducerLocator
  candidateSha256 : Sha256Digest
  candidateManifestArtifact : ArtifactRef
  publicationEventId : EventId
  publicationReceiptArtifact : ArtifactRef
  cleanupPreparedEventId : EventId
  cleanupObservedEventId : EventId
  cleanupReceiptArtifact : ArtifactRef
  readyEventId : EventId
  readyReceiptArtifact : ArtifactRef
  deriving DecidableEq

/-- A generation is a `NonZeroU64`. -/
structure RepositoryCandidateGeneration where
  value : UInt64
  nonzero : value ≠ 0
  deriving DecidableEq

def RepositoryCandidateGeneration.get (generation : RepositoryCandidateGeneration) : ℕ :=
  generation.value.toNat

structure RepositoryCandidateHeadBinding extends RepositoryCandidateSelectionSubject where
  trackId : RepositoryCandidateTrackId
  generation : RepositoryCandidateGeneration
  selectionId : RepositoryCandidateSelectionId
  previousSelectionId : Option RepositoryCandidateSelectionId
  deriving DecidableEq

structure RepositoryCandidateTrackAuthority where
  trackId : RepositoryCandidateTrackId
  targetWorkOrderId : WorkOrderId
  secret : Uuid

inductive RepositoryCandidateHeadError
  | unknownOrForeignTrack
  | subjectMismatch
  | trackScopeMismatch
  | invalidCandidate (error : RepositoryCandidateError)
  | invalidSelectionIdentity
  | identifiedSelectionConflict
  | staleCandidateHead (expectedGeneration currentGeneration : Option ℕ)
  | generationExhausted
  | invalidRetainedState

inductive RepositoryCandidateHeadSelectionOutcome
  | selected (current : RepositoryCandidateHeadBinding)
  | exactReplay (recorded current : RepositoryCandidateHeadBinding)

def RepositoryCandidateHeadSelectionOutcome.recorded :
    RepositoryCandidateHeadSelectionOutcome → RepositoryCandidateHeadBinding
  | .selected current => current
  | .exactReplay recorded _ => recorded

structure RepositoryCandidateSelectionRequest where
  trackId : RepositoryCandidateTrackId
  expected : Option RepositoryCandidateHeadBinding
  subject : RepositoryCandidateSelectionSubject
  selectionId : RepositoryCandidateSelectionId
  deriving DecidableEq

structure RepositoryCandidateSelectionRecord where
  request : RepositoryCandidateSelectionRequest
  selected : RepositoryCandidateHeadBinding

structure RepositoryCandidateTrackState where
  secret : Uuid
  targetWorkOrderId : WorkOrderId
  current : Option RepositoryCandidateHeadBinding

structure RegistryState where
  tracks : BTreeMap RepositoryCandidateTrackId RepositoryCandidateTrackState
  selections : BTreeMap RepositoryCandidateSelectionId RepositoryCandidateSelectionRecord

def RegistryState.empty : RegistryState := ⟨∅, ∅⟩

section Calls

variable {Evidence : Type} (validateFor : ValidateFor Evidence)

def derive (subject : VerifiedRepositoryReviewSubject Evidence) :
    Except RepositoryCandidateHeadError RepositoryCandidateSelectionSubject :=
  match validateFor subject.candidate subject.producerLocator with
  | .error error => .error (.invalidCandidate error)
  | .ok () =>
    if subject.targetWorkOrderId ≠ subject.producerLocator.workOrderId ∨
        subject.targetWorkOrder.id ≠ subject.producerLocator.workOrderId ∨
        subject.candidate.producerWorkOrderId ≠ subject.producerLocator.workOrderId then
      .error .subjectMismatch
    else
      .ok {
        graphAcceptedEventId := subject.graphAcceptedEventId
        reviewerDispatchEventId := subject.reviewerDispatchEventId
        producerDispatchEventId := subject.producerDispatchEventId
        dependencyHandoffEventId := subject.dependencyHandoffEventId
        targetWorkOrderId := subject.targetWorkOrderId
        producer := subject.producerLocator
        candidateSha256 := subject.candidate.candidateSha256
        candidateManifestArtifact := subject.candidate.manifestArtifact
        publicationEventId := subject.candidate.publishedEventId
        publicationReceiptArtifact := subject.candidate.publicationReceiptArtifact
        cleanupPreparedEventId := subject.candidate.cleanupPreparedEventId
        cleanupObservedEventId := subject.candidate.cleanupObservedEventId
        cleanupReceiptArtifact := subject.candidate.cleanupReceiptArtifact
        readyEventId := subject.candidate.readyEventId
        readyReceiptArtifact := subject.candidate.readyReceiptArtifact }

def bindHead (subject : RepositoryCandidateSelectionSubject) (trackId : RepositoryCandidateTrackId)
    (generation : RepositoryCandidateGeneration) (selectionId : RepositoryCandidateSelectionId)
    (previousSelectionId : Option RepositoryCandidateSelectionId) :
    RepositoryCandidateHeadBinding :=
  { subject with trackId, generation, selectionId, previousSelectionId }

def authorizedTrack (state : RegistryState) (authority : RepositoryCandidateTrackAuthority) :
    Except RepositoryCandidateHeadError RepositoryCandidateTrackState :=
  match state.tracks[authority.trackId]? with
  | none => .error .unknownOrForeignTrack
  | some track =>
    if track.secret ≠ authority.secret then .error .unknownOrForeignTrack
    else if track.targetWorkOrderId ≠ authority.targetWorkOrderId then
      .error .unknownOrForeignTrack
    else .ok track

theorem firstGeneration_ne_zero : (1 : UInt64) ≠ 0 := by decide

def nextGeneration : Option RepositoryCandidateHeadBinding →
    Except RepositoryCandidateHeadError RepositoryCandidateGeneration
  | none => .ok ⟨1, firstGeneration_ne_zero⟩
  | some current =>
    match h : checkedAdd current.generation.value 1 with
    | none => .error .generationExhausted
    | some value => .ok ⟨value, fun hzero => by
        have hvalue := checkedAdd_eq_some h
        simp [hzero] at hvalue⟩

/-- The track ids and secrets drawn in turn, up to the first fresh track id. -/
def openTrack (state : RegistryState) (draws : List (RepositoryCandidateTrackId × Uuid))
    (targetWorkOrderId : WorkOrderId) :
    Option (RepositoryCandidateTrackAuthority × RegistryState) :=
  (draws.find? fun draw => !state.tracks.contains draw.1).map fun draw =>
    (⟨draw.1, targetWorkOrderId, draw.2⟩,
      { state with tracks := state.tracks.insert draw.1 ⟨draw.2, targetWorkOrderId, none⟩ })

def current (state : RegistryState) (authority : RepositoryCandidateTrackAuthority) :
    Except RepositoryCandidateHeadError (Option RepositoryCandidateHeadBinding) :=
  (authorizedTrack state authority).map (·.current)

/-- A selection id that is recorded already. -/
def replaySelection (state : RegistryState) (request : RepositoryCandidateSelectionRequest)
    (recorded : RepositoryCandidateSelectionRecord) :
    Except RepositoryCandidateHeadError RepositoryCandidateHeadSelectionOutcome :=
  if recorded.request ≠ request then .error .identifiedSelectionConflict
  else
    match state.tracks[request.trackId]?.bind (·.current) with
    | none => .error .invalidRetainedState
    | some current => .ok (.exactReplay recorded.selected current)

/-- A new selection id. The record is inserted before the track is written. -/
def commitSelection (state : RegistryState) (request : RepositoryCandidateSelectionRequest) :
    Except RepositoryCandidateHeadError RepositoryCandidateHeadSelectionOutcome × RegistryState :=
  match state.tracks[request.trackId]? with
  | none => (.error .unknownOrForeignTrack, state)
  | some track =>
    if request.expected ≠ track.current then
      (.error (.staleCandidateHead (request.expected.map (·.generation.get))
        (track.current.map (·.generation.get))), state)
    else
      match nextGeneration track.current with
      | .error error => (.error error, state)
      | .ok generation =>
        let selected := bindHead request.subject request.trackId generation request.selectionId
          (track.current.map (·.selectionId))
        let state := { state with
          selections := state.selections.insert request.selectionId ⟨request, selected⟩ }
        match state.tracks[request.trackId]? with
        | none => (.error .invalidRetainedState, state)
        | some track =>
          (.ok (.selected selected), { state with
            tracks := state.tracks.insert request.trackId { track with current := some selected } })

def selectSuccessor (state : RegistryState) (authority : RepositoryCandidateTrackAuthority)
    (expected : Option RepositoryCandidateHeadBinding)
    (subject : VerifiedRepositoryReviewSubject Evidence)
    (selectionId : RepositoryCandidateSelectionId) :
    Except RepositoryCandidateHeadError RepositoryCandidateHeadSelectionOutcome × RegistryState :=
  if selectionId.uuid = 0 then (.error .invalidSelectionIdentity, state)
  else
    match derive validateFor subject with
    | .error error => (.error error, state)
    | .ok subject =>
      match authorizedTrack state authority with
      | .error error => (.error error, state)
      | .ok _ =>
        if subject.targetWorkOrderId ≠ authority.targetWorkOrderId then
          (.error .trackScopeMismatch, state)
        else
          let request := ⟨authority.trackId, expected, subject, selectionId⟩
          match state.selections[selectionId]? with
          | some recorded => (replaySelection state request recorded, state)
          | none => commitSelection state request

/-- A call by any client. -/
inductive Call (Evidence : Type)
  | openTrack (draws : List (RepositoryCandidateTrackId × Uuid)) (targetWorkOrderId : WorkOrderId)
  | current (authority : RepositoryCandidateTrackAuthority)
  | selectSuccessor (authority : RepositoryCandidateTrackAuthority)
      (expected : Option RepositoryCandidateHeadBinding)
      (subject : VerifiedRepositoryReviewSubject Evidence)
      (selectionId : RepositoryCandidateSelectionId)

/-- What a call returns. -/
inductive Reply
  | opened (authority : RepositoryCandidateTrackAuthority)
  | head (result : Except RepositoryCandidateHeadError (Option RepositoryCandidateHeadBinding))
  | selection
      (result : Except RepositoryCandidateHeadError RepositoryCandidateHeadSelectionOutcome)

/-- One call; it does not return while no drawn track id is fresh. -/
def respond (state : RegistryState) : Call Evidence → Option (Reply × RegistryState)
  | .openTrack draws targetWorkOrderId =>
    (openTrack state draws targetWorkOrderId).map fun opened => (.opened opened.1, opened.2)
  | .current authority => some (.head (current state authority), state)
  | .selectSuccessor authority expected subject selectionId =>
    let result := selectSuccessor validateFor state authority expected subject selectionId
    some (.selection result.1, result.2)

def step (state : RegistryState) (call : Call Evidence) : Option RegistryState :=
  (respond validateFor state call).map (·.2)

end Calls

end BirdCode.CandidateHead
