import BirdCode.Store.Admission

/-! A store of few documents, which concrete logs are admitted over: one document to a byte, whose
file is named by a hash ending in that byte. -/
namespace BirdCode.Store

section Documents

instance byte_nonempty : NeZero 32 := ⟨by decide⟩

def sampleHex (k : Fin 32) : String :=
  String.ofList (List.replicate 62 '0' ++ [Nat.digitChar (k / 16), Nat.digitChar (k % 16)])

theorem sampleHex_valid (k : Fin 32) : validSha256 (sampleHex k) = true := by
  have hdigits : ∀ k : Fin 32,
      ((List.replicate 62 '0' ++ [Nat.digitChar (k / 16), Nat.digitChar (k % 16)]).map
        Char.utf8Size).sum = 64 ∧
      (List.replicate 62 '0' ++ [Nat.digitChar (k / 16), Nat.digitChar (k % 16)]).all
        fun c => ('0' ≤ c && c ≤ '9') || ('a' ≤ c && c ≤ 'f') := by
    decide
  exact validSha256_ofList (hdigits k).1 (hdigits k).2

theorem sampleHex_inj {j k : Fin 32} : sampleHex j = sampleHex k ↔ j = k := by
  have hdigits : ∀ j k : Fin 32, [Nat.digitChar (j / 16), Nat.digitChar (j % 16)] =
      [Nat.digitChar (k / 16), Nat.digitChar (k % 16)] → j = k := by
    decide
  constructor
  · intro h
    rw [sampleHex, sampleHex, String.ofList_inj] at h
    exact hdigits j k (List.append_cancel_left h)
  · rintro rfl
    rfl

def sampleDigest (k : Fin 32) : Sha256Digest := ⟨sampleHex k, sampleHex_valid k⟩

def sampleArtifact (k : Fin 32) (mediaType : String) : ArtifactRef := ⟨sampleHex k, 1, mediaType⟩

def sampleRoot : ArtifactRoot where
  file sha256 := ((List.finRange 32).find? fun k => sampleHex k = sha256).map fun k =>
    [UInt8.ofNat k]
  sha256Hex
    | [byte] => sampleHex (Fin.ofNat 32 byte.toNat)
    | _ => ""

/-- The wire of a type with these documents. -/
def sampleCodec {T : Type} [DecidableEq T] (documents : List (Fin 32 × T)) : Codec T where
  fromSlice bytes := (documents.find? fun entry => [UInt8.ofNat entry.1] = bytes).map Prod.snd
  toVec value := (documents.find? fun entry => entry.2 = value).map fun entry =>
    [UInt8.ofNat entry.1]

def sampleId {kind : IdKind} (n : Fin (2 ^ 128)) : UuidId kind := ⟨n⟩

def sampleClock (nanos : UInt64) : RuntimeClockReading := ⟨sampleId 1, nanos, nanos.toNat⟩

def sampleBackend : BackendSelection := ⟨"b", .model, some "m", none⟩

def sampleModel : BackendModelIdentity := ⟨"b", .model, "m"⟩

def sampleLineage : ModelLineage := ⟨"b", "m", "d", "i"⟩

/-- Every byte is retained under its own hash. -/
theorem sampleRoot_holds : ∀ k : Fin 32, sampleRoot.file (sampleHex k) = some [UInt8.ofNat k] ∧
    sampleRoot.sha256Hex [UInt8.ofNat k] = sampleHex k := by
  intro k
  refine ⟨?_, ?_⟩
  · have hfind : (List.finRange 32).find? (fun j => j = k) = some k := by
      revert k
      decide
    simp only [sampleRoot, sampleHex_inj, hfind]
    rfl
  · have hbyte : Fin.ofNat 32 (UInt8.ofNat k).toNat = k := by
      revert k
      decide
    simp only [sampleRoot, hbyte]

theorem sampleByte_inj : ∀ j k : Fin 32, [UInt8.ofNat j] = [UInt8.ofNat k] ↔ j = k := by
  decide

theorem readVerifiedArtifact_sample (k : Fin 32) (mediaType : String) :
    readVerifiedArtifact sampleRoot (sampleArtifact k mediaType) = .ok [UInt8.ofNat k] := by
  obtain ⟨hfile, hhash⟩ := sampleRoot_holds k
  rw [readVerifiedArtifact_eq_ok]
  exact ⟨sampleHex_valid k, by simp [maxArtifactBytes], hfile, rfl, hhash⟩

/-- What the store holds at a byte is read back. -/
theorem readCanonicalJsonArtifact_sample {T : Type} [DecidableEq T] {documents : List (Fin 32 × T)}
    {k : Fin 32} {value : T} (mediaType : String)
    (hfind : documents.find? (fun entry => entry.1 = k) = some (k, value))
    (hback : documents.find? (fun entry => entry.2 = value) = some (k, value)) :
    readCanonicalJsonArtifact sampleRoot (sampleCodec documents) (sampleArtifact k mediaType)
      mediaType = .ok value := by
  rw [readCanonicalJsonArtifact_eq_ok]
  refine ⟨[UInt8.ofNat k], readCanonicalJsonArtifactWithBytes_eq_ok.mpr
    ⟨rfl, readVerifiedArtifact_sample k mediaType, ?_, ?_⟩⟩
  · simp only [sampleCodec, sampleByte_inj, hfind, Option.map_some]
  · simp only [sampleCodec, hback, Option.map_some]

end Documents

section Environment

/-- The wires of a store that holds no document and writes every event. -/
def sampleWires : Wires where
  workOrder := sampleCodec []
  contextManifest := sampleCodec []
  modelPrompt := sampleCodec []
  modelRequest := sampleCodec []
  modelPromptManifest := sampleCodec []
  modelEvidence := sampleCodec []
  modelUnknown := sampleCodec []
  validatedAction := sampleCodec []
  toolParameters := sampleCodec []
  toolPrepared := sampleCodec []
  toolPreparedV2 := sampleCodec []
  toolObserved := sampleCodec []
  toolUnknown := sampleCodec []
  toolObservedV2 := sampleCodec []
  toolUnknownV2 := sampleCodec []
  failureEvidence := sampleCodec []
  denialEvidence := sampleCodec []
  unknownEvidence := sampleCodec []
  handoff := sampleCodec []
  executionFailure := sampleCodec []
  writerLease := sampleCodec []
  snapshotLease := sampleCodec []
  snapshotRelease := sampleCodec []
  event := ⟨fun _ => none, fun _ => some [123, 125]⟩
  localPlan := sampleCodec []
  value := sampleCodec []
  structuredResponse := sampleCodec []

/-- A store over such wires whose documents pass the rules that concern them alone. -/
def plainEnvironment (wires : Wires) : Environment where
  root := sampleRoot
  wires := wires
  identityIntegrity _ := true
  repositoryAuthorityValid _ := true
  referencesArtifact _ _ := false
  typedArtifactRefs _ _ := .ok ()
  compile _ _ _ := none
  backendRequestLength _ := none
  authorize _ _ _ _ _ := .authorized
  projectSuccess _ _ _ _ := none
  encodeResult _ := none
  resultV2 _ _ _ _ := none
  snapshotLeaseDocumentValid _ := true

/-- Planning documents of which none is there. -/
def noPlanningDocuments : PlanningDocuments where
  boundaryEvidence := sampleCodec []
  finalizationEvidence := sampleCodec []
  rootPlanningFailure := sampleCodec []
  rootPlanningStageFailure := sampleCodec []
  durablePacket := sampleCodec []
  durableDelta := sampleCodec []
  criticPolicy _ _ _ _ _ _ := .error .io
  stageExecutionPolicy _ _ _ := .error .io
  inferenceObservation _ _ := .error .io
  planProposal _ _ := .error .io
  planRejection _ _ := .error .io
  semanticReview _ _ _ _ _ _ _ _ := .error .io
  baseSnapshot _ := .error .io
  retainedPrompt _ _ := .error .io
  promptPacket _ := .error .io
  promptDelta _ := .error .io
  promptDeltaValid _ _ := false
  evidenceIdText _ := ""
  turnObservation _ _ := .error .io
  turnAcceptance _ _ _ _ := .error .io
  turnRejection _ _ _ := .error .io
  finishOutput _ _ _ := .error .io
  finishClaims := sampleCodec []
  gateReceipt := sampleCodec []
  rootPlan _ := .error .io
  plannedWorkOrder _ := .error .io

end Environment

section Rows

/-- The n-th event of one session with one run, at instant n. -/
def sampleRow (n : Fin (2 ^ 128)) (actor : Fin (2 ^ 128)) (parent : Option (Fin (2 ^ 128)))
    (rawArtifact : Option ArtifactRef) (payload : EventPayload) : EventEnvelope where
  id := sampleId n
  sequence := n
  sessionId := sampleId 1
  runId := if payload.createdSession.isSome then none else some (sampleId 1)
  actorId := sampleId actor
  causalParent := parent.map sampleId
  occurredAt := n
  provenance := ⟨"sample", none, rawArtifact⟩
  payload := payload

def sampleRun (purpose : RunPurpose) (planAcceptance : PlanAcceptanceContract)
    (maxOutputTokens : Option UInt64) : Run where
  id := sampleId 1
  spec := ⟨sampleId 1, purpose, planAcceptance, sampleBackend, ⟨maxOutputTokens, none, 2⟩⟩
  state := .queued
  createdAt := 0

def sampleClaim (n : Fin (2 ^ 128)) (generation cancellationGeneration : UInt64) :
    RunClaimed := ⟨sampleId n, sampleId 1, generation, cancellationGeneration, 1000⟩

/-- A run is created, claimed by the actor 1 and started. -/
def sampleStart (run : Run) : List EventEnvelope := [
  sampleRow 1 1 none none (.sessionCreated ⟨sampleId 1, .unixBytes [47]⟩),
  sampleRow 2 1 (some 1) none (.runCreated run),
  sampleRow 3 1 (some 2) none (.runClaimed (sampleClaim 1 1 0)),
  sampleRow 4 1 (some 3) none (.runStateChanged .queued .running)]

def emptyLog : EventLog := ⟨[], [], List.nodup_nil, List.Pairwise.nil⟩

/-- The log that public appends of these events lead to. -/
def sampleLogOf (documents : PlanningDocuments) (env : Environment) (rows : List EventEnvelope) :
    EventLog := emptyLog.attempts documents env (rows.map fun row => ⟨row, .publicAppend⟩)

end Rows

section Snapshot

/-! A snapshot whose writers event n revokes and whose lease event n + 1 issues. -/

def sampleFile : RepositoryFileIdentity := ⟨1, 1, 1, 1, 1, 1, 1⟩

def sampleWriterEvidence : RepositoryWriterLeaseEvidenceDocument where
  schemaVersion := 1
  writerLeaseId := "w"
  writerLeaseGeneration := 1
  sourcePath := .unixBytes [47]
  sourceRootIdentity := sampleFile
  exclusive := true
  activeWriterCount := 0
  revokedAt := sampleClock 6

def sampleWriterArtifact : ArtifactRef := sampleArtifact 0 repositoryWriterLeaseEvidenceMediaType

def sampleLeaseDocument (n : Fin (2 ^ 128)) : RepositorySnapshotLeaseDocument where
  schemaVersion := 1
  leaseId := sampleId 20
  snapshotId := "s"
  declaredSnapshotDigest := sampleDigest 1
  root := ⟨"r", sampleFile⟩
  readOnlyMount := {
    sourceQuiescence := ⟨"w", 1, sampleId n, sampleWriterArtifact, sampleDigest 0, sampleClock 6,
      sampleFile, sampleFile⟩
    sourcePath := .unixBytes [47]
    mountPath := .unixBytes [47, 109]
    lifecycleOwnerActorId := sampleId 1
    lifecycleOwnerRuntimeInstanceId := sampleId 1
    cleanupState := .mountedDetachRequired
    rest := ⟨"{}"⟩ }

def sampleLeaseArtifact : ArtifactRef := sampleArtifact 1 repositorySnapshotLeaseMediaType

def sampleSnapshot : RepositorySnapshotBinding :=
  ⟨"s", sampleDigest 1, ⟨sampleId 20, sampleLeaseArtifact, sampleDigest 1⟩⟩

/-- Both events, under a claim that an earlier event made. -/
def sampleSnapshotRows (n claimEvent : Fin (2 ^ 128)) (claim : RunClaimed) :
    List EventEnvelope := [
  sampleRow n 1 (some claimEvent) (some sampleWriterArtifact)
    (.repositoryWriterLeaseRevoked ⟨sampleId 1, sampleId claimEvent, claim.claimId,
      claim.claimGeneration, claim.runtimeInstanceId, claim.cancellationGeneration,
      ⟨"s", sampleId 20, sampleId (n + 1)⟩, sampleWriterArtifact, sampleDigest 0⟩),
  sampleRow (n + 1) 1 (some claimEvent) (some sampleLeaseArtifact)
    (.repositorySnapshotLeaseIssued ⟨sampleId 1, sampleId claimEvent, claim.claimId,
      claim.claimGeneration, claim.runtimeInstanceId, claim.cancellationGeneration,
      sampleSnapshot, ⟨"r", sampleFile⟩⟩)]

def sampleSnapshotWires (n : Fin (2 ^ 128)) : Wires := {
  sampleWires with
  writerLease := sampleCodec [(0, sampleWriterEvidence)]
  snapshotLease := sampleCodec [(1, sampleLeaseDocument n)] }

end Snapshot

section Planning

/-! The planning of a run by two models: the plan of the producer is reviewed, repaired and
reviewed again. Event n + 1 follows event n. -/

def sampleIdentity (deployment : String) : BackendInstanceIdentity where
  schemaVersion := 1
  backendId := "b"
  transport := .httpOrigin "http://localhost"
  configuredDeploymentId := deployment
  identitySha256 := sampleDigest 0

def sampleCritic : ModelLineage := ⟨"b", "c", "e", "j"⟩

def sampleCandidate (revision : UInt64) (k : Fin 32) (event : Fin (2 ^ 128)) : PlanCandidateBinding :=
  ⟨sampleId event, revision, sampleDigest k, sampleArtifact k "plan"⟩

/-- A Prepared of the model of a lineage over the base at a byte. -/
def sampleInference (attempt : Fin (2 ^ 128)) (parent : Option (Fin (2 ^ 128)))
    (lineage : ModelLineage) (tokens : UInt64) (revision : UInt64) (base : Fin 32)
    (stage : PlannerStageContext) : PlannerInferencePrepared where
  attemptId := sampleId attempt
  parentAttemptId := parent.map sampleId
  backendModel := ⟨lineage.backendId, .model, lineage.modelId⟩
  backendInstance := some (sampleIdentity lineage.deploymentId)
  promptArtifact := sampleArtifact 4 "prompt"
  promptManifestDigest := sampleDigest 4
  requestArtifact := sampleArtifact 5 "request"
  tokenReservation := ⟨sampleId attempt, tokens, tokens⟩
  planRevision := revision
  planDigest := sampleDigest base
  obligationSnapshotDigest := sampleDigest 6
  acceptancePolicyDigest := sampleDigest 7
  contextManifestDigest := sampleDigest 8
  plannerPolicyDigest := sampleDigest 9
  cancellationGeneration := 0
  stageContext := some stage

def samplePolicy : ArtifactRef := sampleArtifact 10 "policy"

def sampleBackendOf (lineage : ModelLineage) : BackendSelection :=
  ⟨lineage.backendId, .model, some lineage.modelId, none⟩

/-- An event under the backend of a lineage. -/
def sampleModelRow (n : Fin (2 ^ 128)) (lineage : ModelLineage) (rawArtifact : Option ArtifactRef)
    (payload : EventPayload) : EventEnvelope :=
  let row := sampleRow n 1 (some (n - 1)) rawArtifact payload
  { row with provenance := ⟨"sample", some (sampleBackendOf lineage), rawArtifact⟩ }

def sampleUsage : TokenUsage := ⟨1, 1, 2, none⟩

/-- The Prepared n and its Observed. -/
def sampleStage (n : Fin (2 ^ 128)) (lineage : ModelLineage) (prepared : PlannerInferencePrepared) :
    List EventEnvelope := [
  sampleModelRow n lineage none (.plannerInferencePrepared prepared),
  sampleModelRow (n + 1) lineage (some (sampleArtifact 11 "evidence"))
    (.plannerInferenceObserved ⟨prepared.attemptId, prepared.tokenReservation.id, sampleId n,
      sampleArtifact 11 "evidence", .succeeded prepared.backendModel sampleUsage⟩)]

/-- The acceptance n of the plan of an attempt. -/
def sampleAcceptance (n attempt : Fin (2 ^ 128)) (revision : UInt64) (base k : Fin 32) :
    EventEnvelope :=
  sampleModelRow n sampleLineage none (.planProposalAccepted ⟨sampleId n, sampleId attempt,
    sampleId (n - 1), sampleArtifact 12 "proposal", revision, sampleDigest base, revision + 1,
    sampleDigest k, sampleArtifact k "plan", sampleArtifact 13 "validation"⟩)

/-- The acceptance n of the review of a plan that another event observed. -/
def sampleReview (n attempt observed : Fin (2 ^ 128)) (candidate : PlanCandidateBinding) :
    EventEnvelope :=
  let row := sampleModelRow n sampleCritic none (.planSemanticReviewAccepted ⟨sampleId n,
    sampleId attempt, sampleId observed, candidate, sampleArtifact 14 "critique",
    sampleArtifact 13 "validation"⟩)
  { row with causalParent := some (sampleId observed) }

/-- The plan of the producer is accepted at event 7 and its review is observed at event 9. -/
def samplePlanned (run : Run) : List EventEnvelope :=
  sampleStart run ++
  sampleStage 5 sampleLineage (sampleInference 1 none sampleLineage 10 0 20
    (.initialPlan (sampleId 11) sampleLineage sampleCritic samplePolicy)) ++
  [sampleAcceptance 7 1 0 20 21] ++
  sampleStage 8 sampleCritic (sampleInference 2 (some 1) sampleCritic 10 1 21
    (.initialReview (sampleId 12) sampleCritic samplePolicy (sampleArtifact 15 "critic") 1
      (sampleCandidate 1 21 7)))

/-- The review asks for a repair, and the repaired plan is accepted. -/
def sampleRepaired (run : Run) : List EventEnvelope :=
  samplePlanned run ++ [
    sampleModelRow 10 sampleCritic none (.planSemanticReviewRejected ⟨sampleId 10, sampleId 2,
      sampleId 9, sampleCandidate 1 21 7, sampleArtifact 14 "critique", sampleArtifact 13 "validation",
      .repairOnceAuthorized, ["f"]⟩)] ++
  sampleStage 11 sampleLineage (sampleInference 3 (some 2) sampleLineage 10 1 21
    (.repair (sampleId 13) sampleLineage samplePolicy 1 (sampleCandidate 1 21 7) (sampleId 10) ["f"])) ++
  [sampleAcceptance 13 3 1 21 22] ++
  sampleStage 14 sampleCritic (sampleInference 4 (some 3) sampleCritic 10 2 22
    (.finalReview (sampleId 14) sampleCritic samplePolicy (sampleArtifact 15 "critic") 2 1
      (sampleCandidate 2 22 13))) ++
  [sampleReview 16 4 15 (sampleCandidate 2 22 13)]

/-- The planning documents of such a run. -/
def samplePlanningDocuments : PlanningDocuments := {
  noPlanningDocuments with
  criticPolicy := fun _ _ _ _ _ _ => .ok ()
  stageExecutionPolicy := fun _ _ _ => .ok ()
  inferenceObservation := fun prepared _ => .ok (.succeeded prepared.backendModel sampleUsage)
  planProposal := fun _ _ => .ok ()
  semanticReview := fun _ observedEvent _ _ _ _ _ _ =>
    .ok (if observedEvent.sequence = 9 then ⟨.revise, ["f"]⟩ else ⟨.accept, []⟩) }

/-- A run that may reserve 40 output tokens, and reserves them all. -/
def plannedRun : Run := sampleRun .planOnly .independentSemanticReviewV1 (some 40)

def plannedRows : List EventEnvelope :=
  sampleRepaired plannedRun ++ [sampleRow 17 1 (some 16) none (.runStateChanged .running .completed)]

def plannedLog : EventLog :=
  sampleLogOf samplePlanningDocuments (plainEnvironment sampleWires) plannedRows

/-- All of its events are admitted. -/
theorem plannedLog_events : plannedLog.events = plannedRows := by decide +kernel

theorem plannedLog_stored : storedRun plannedLog plannedRun.id = some plannedRun := by
  unfold storedRun
  rw [plannedLog_events]
  rfl

end Planning

section Child

def sampleBounds : RepositoryToolBounds :=
  ⟨8, 64, 4, 64, 16, 1, 1, 1, 1, 1, 1, 1, 1, 1, 1, 1, 64⟩

def sampleGrant : RepositoryToolGrant := .repositoryFileRead (sampleId 1) 4 64 16 0 1

def sampleAuthority : ChildRepositoryAuthority where
  policyId := "p"
  policyArtifact := sampleArtifact 12 "policy"
  policyDigest := sampleDigest 12
  snapshot := ⟨"s", sampleDigest 13, ⟨sampleId 1, sampleArtifact 13 "lease", sampleDigest 13⟩⟩
  root := ⟨"r", ⟨1, 1, 1, 1, 1, 1, 1⟩⟩
  brokerBounds := sampleBounds
  toolGrants := [sampleGrant]

def sampleSpec : ChildWorkOrderSpec where
  contractVersion := 1
  workOrderId := sampleId 1
  executionId := sampleId 1
  childActorId := sampleId 1
  childEventActorId := sampleId 2
  contextId := sampleId 1
  backend := sampleBackend
  resolvedModel := sampleModel
  backendInstance := none
  modelLineage := sampleLineage
  plannerWorkOrderLocalId := "w"
  objective := "o"
  completionContract := "c"
  runDeadline := none
  repositoryAuthority := sampleAuthority
  maxAttempts := 2
  minPlanRevisions := 2
  maxModelCallsPerAttempt := 2
  maxToolCallsPerAttempt := 1
  maxModelEvidenceBytes := 1
  maxModelVisibleInputBytes := 65536

def sampleBinding : ChildExecutionBinding where
  workOrderId := sampleId 1
  executionId := sampleId 1
  attemptId := sampleId 1
  childActorId := sampleId 1
  contextId := sampleId 1
  workOrderDigest := sampleDigest 0
  contextManifestDigest := sampleDigest 1

def delegatedSpec : ChildWorkOrderSpec := { sampleSpec with
  repositoryAuthority := { sampleAuthority with snapshot := sampleSnapshot } }

def delegatedManifest : ChildContextManifest :=
  ⟨1, sampleId 1, sampleId 1, [⟨sampleId 3, none⟩, ⟨sampleId 11, none⟩, ⟨sampleId 12, none⟩]⟩

def delegatedAuthorization : ChildDelegation where
  authorizationId := sampleId 1
  issuerActorId := sampleId 1
  claimEventId := sampleId 3
  claimId := sampleId 1
  claimGeneration := 1
  claimRuntimeInstanceId := sampleId 1
  cancellationGeneration := 0
  acceptedEventId := sampleId 12
  acceptedArtifact := sampleArtifact 21 "plan"
  acceptedDigest := sampleDigest 21
  snapshotLeaseEventId := sampleId 11
  spec := delegatedSpec
  workOrderArtifact := sampleArtifact 16 childWorkOrderMediaType
  workOrderDigest := sampleDigest 16
  contextManifestArtifact := sampleArtifact 17 childContextManifestMediaType
  contextManifestDigest := sampleDigest 17

def delegatedIssued : ChildWorkOrderIssued where
  issuerActorId := sampleId 1
  authorizationEventId := sampleId 13
  authorizationClaimEventId := sampleId 3
  authorizationClaimId := sampleId 1
  authorizationClaimGeneration := 1
  authorizationRuntimeInstanceId := sampleId 1
  spec := delegatedSpec
  workOrderArtifact := sampleArtifact 16 childWorkOrderMediaType
  workOrderDigest := sampleDigest 16
  contextManifestArtifact := sampleArtifact 17 childContextManifestMediaType
  contextManifestDigest := sampleDigest 17
  cancellationGeneration := 0

def delegatedStart : ChildExecutionStarted where
  binding := { sampleBinding with
    workOrderDigest := sampleDigest 16
    contextManifestDigest := sampleDigest 17 }
  parentAttemptId := none
  localPlanId := sampleId 1
  backendModel := sampleModel
  modelLineage := sampleLineage
  startedAt := sampleClock 15

/-- A work order of the accepted plan is delegated to the actor 2, who starts it. -/
def delegatedRows : List EventEnvelope :=
  samplePlanned plannedRun ++ sampleSnapshotRows 10 3 (sampleClaim 1 1 0) ++ [
    sampleReview 12 2 9 (sampleCandidate 1 21 7),
    sampleRow 13 1 (some 12) (some (sampleArtifact 16 childWorkOrderMediaType))
      (.childDelegationAuthorized ⟨delegatedAuthorization, "w"⟩),
    sampleRow 14 1 (some 13) (some (sampleArtifact 16 childWorkOrderMediaType))
      (.childWorkOrderIssued delegatedIssued),
    let row := sampleRow 15 2 (some 14) none (.childExecutionStarted delegatedStart)
    { row with provenance := ⟨"sample", some sampleBackend, none⟩ }]

def delegatedEnv : Environment := plainEnvironment {
  sampleSnapshotWires 10 with
  workOrder := sampleCodec [(16, delegatedSpec)]
  contextManifest := sampleCodec [(17, delegatedManifest)] }

def delegatedDocuments : PlanningDocuments := {
  samplePlanningDocuments with
  semanticReview := fun _ _ _ _ _ _ _ _ => .ok ⟨.accept, []⟩
  rootPlan := fun _ => .ok [⟨"w", "o"⟩] }

def delegatedLog : EventLog := sampleLogOf delegatedDocuments delegatedEnv delegatedRows

end Child

end BirdCode.Store
