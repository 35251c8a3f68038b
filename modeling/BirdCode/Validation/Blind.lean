import BirdCode.Validation.Logs

/-! The projection of a sealed run that an evaluator sees: every identity is replaced by a random one,
and who did what with which command, when and for how long is left out. The disclosure that leads back
stays local. -/
namespace BirdCode.Validation

open Std

section Values

abbrev BlindRunId := ProvenanceId .blindRun
abbrev BlindCandidateId := ProvenanceId .blindCandidate
abbrev BlindAttemptId := ProvenanceId .blindAttempt
abbrev BlindArtifactHandle := ProvenanceId .blindArtifact
abbrev BlindCheckId := ProvenanceId .blindCheck

inductive BlindProcessExit
  | exited (code : Int32)
  | signaled (signal : Int32)
  | timedOut
  | cancelled
  | launchFailed
  deriving DecidableEq

/-- `From<&ProcessExit>`: the code of a failed launch stays behind. -/
def ProcessExit.blind : ProcessExit → BlindProcessExit
  | .exited code => .exited code
  | .signaled signal => .signaled signal
  | .timedOut => .timedOut
  | .cancelled => .cancelled
  | .launchFailed _ => .launchFailed

structure BlindAttemptOutcome where
  attemptId : BlindAttemptId
  parentAttemptId : Option BlindAttemptId
  phase : ExecutionPhase
  outcome : PhaseOutcome
  processExit : Option BlindProcessExit
  deriving DecidableEq

structure BlindArtifact where
  handle : BlindArtifactHandle
  attemptId : BlindAttemptId
  kind : ArtifactKind
  truncated : Bool
  deriving DecidableEq

inductive BlindCheckEvidence
  | artifact (handle : BlindArtifactHandle)
  | attemptExit (attemptId : BlindAttemptId)
  deriving DecidableEq

structure BlindCheck where
  checkId : BlindCheckId
  attemptId : BlindAttemptId
  kind : CheckKind
  outcome : CheckOutcome
  evidence : List BlindCheckEvidence
  deriving DecidableEq

structure BlindCheckRequirement where
  checkId : BlindCheckId
  expectedKind : CheckKind
  allowedArtifactKinds : BTreeSet ArtifactKind
  allowTruncatedArtifacts : Bool
  attemptExit : ExitRequirement
  minimumEvidenceItems : UInt32

structure BlindValidationPolicy where
  validationPlanSha256 : Sha256Digest
  validationPolicySha256 : Sha256Digest
  phaseRequirements : BTreeMap ExecutionPhase PhaseRequirement
  checkRequirements : List BlindCheckRequirement
  minimumPrimaryPasses : UInt32

/-- All that crosses the boundary to the evaluator. -/
structure BlindEvaluationInput where
  schemaVersion : UInt32
  runId : BlindRunId
  candidateId : BlindCandidateId
  evaluationCaseId : EvaluationCaseId
  targetKind : TargetKind
  platformKind : ExecutionPlatformKind
  policy : BlindValidationPolicy
  attempts : List BlindAttemptOutcome
  artifacts : List BlindArtifact
  checks : List BlindCheck

structure BlindIdMapping where
  sourceAttemptId : AttemptId
  blindAttemptId : BlindAttemptId
  sourceElapsedMs : UInt64

structure BlindCandidateMapping where
  sourceCandidateId : CandidateId
  blindCandidateId : BlindCandidateId

structure BlindRunMapping where
  sourceSealedRunSha256 : Sha256Digest
  blindRunId : BlindRunId

structure BlindArtifactMapping where
  sourceArtifactId : ArtifactId
  blindHandle : BlindArtifactHandle
  sourceSha256 : Sha256Digest
  sourceRetainedBytes : UInt64
  sourceObservedBytes : Option UInt64
  sourceTruncated : Bool
  sourceMediaType : String
  sourceStorageRef : TargetId

structure BlindCheckMapping where
  sourceCheckId : CheckId
  blindCheckId : BlindCheckId

structure BlindDisclosure where
  run : BlindRunMapping
  candidate : BlindCandidateMapping
  attempts : List BlindIdMapping
  artifacts : List BlindArtifactMapping
  checks : List BlindCheckMapping

structure BlindEvaluationPackage where
  input : BlindEvaluationInput
  inputSha256 : Sha256Digest
  disclosure : BlindDisclosure

/-- The input always serializes, so the other error has no counterpart. -/
inductive BlindBuildError
  | projectionInvariant (report : ValidationReport)
  deriving DecidableEq

end Values

section Identities

/-- What `Uuid::new_v4` returns, call after call. -/
structure UuidSource where
  next : ℕ → Uuid
  versioned : ∀ call, next call ≠ 0 ∧ uuidVersion (next call) = 4

/-- The identity a call of `new` returns. -/
def UuidSource.draw (source : UuidSource) (kind : ProvenanceIdKind) (random : kind.version = 4)
    (call : ℕ) : ProvenanceId kind :=
  ⟨source.next call, (source.versioned call).1, (source.versioned call).2.trans random.symm⟩

/-- The blind identities given so far. -/
structure BlindMaps where
  drawn : ℕ
  attempts : BTreeMap AttemptId BlindAttemptId
  artifacts : BTreeMap ArtifactId BlindArtifactHandle
  checks : BTreeMap CheckId BlindCheckId

/-- The run and the candidate have drawn theirs. -/
def initialMaps : BlindMaps := ⟨2, ∅, ∅, ∅⟩

variable (source : UuidSource)

/-- `map.entry(key).or_insert_with(new)`, with the number of calls made after it. -/
def UuidSource.entryOrNew {K : Type} [Ord K] [TransOrd K] (kind : ProvenanceIdKind)
    (random : kind.version = 4) (drawn : ℕ) (map : BTreeMap K (ProvenanceId kind)) (key : K) :
    ℕ × BTreeMap K (ProvenanceId kind) :=
  if map.contains key then (drawn, map)
  else (drawn + 1, map.insert key (source.draw kind random drawn))

def BlindMaps.addAttempt (maps : BlindMaps) (id : AttemptId) : BlindMaps :=
  let (drawn, attempts) := source.entryOrNew .blindAttempt rfl maps.drawn maps.attempts id
  { maps with drawn, attempts }

def BlindMaps.addArtifact (maps : BlindMaps) (id : ArtifactId) : BlindMaps :=
  let (drawn, artifacts) := source.entryOrNew .blindArtifact rfl maps.drawn maps.artifacts id
  { maps with drawn, artifacts }

def BlindMaps.addCheck (maps : BlindMaps) (id : CheckId) : BlindMaps :=
  let (drawn, checks) := source.entryOrNew .blindCheck rfl maps.drawn maps.checks id
  { maps with drawn, checks }

def BlindMaps.identify (maps : BlindMaps) (record : ProvenanceRecord) : BlindMaps :=
  match record.event with
  | .attemptStarted start => maps.addAttempt source start.attemptId
  | .artifactRecorded artifact => maps.addArtifact source artifact.artifactId
  | .checkRecorded check => maps.addCheck source check.checkId
  | .attemptFinished _ => maps

/-- The blind identities of a log and of the checks its policy asks for. -/
def blindMaps (records : List ProvenanceRecord) (policy : ValidationPolicy) : BlindMaps :=
  policy.checkRequirements.keys.foldl (BlindMaps.addCheck source)
    (records.foldl (BlindMaps.identify source) initialMaps)

end Identities

section Projection

/-- What the projection has made of the records it has passed. -/
structure Projection where
  starts : BTreeMap AttemptId (Option AttemptId × ExecutionPhase)
  elapsedByAttempt : BTreeMap AttemptId UInt64
  attempts : List BlindAttemptOutcome
  artifacts : List BlindArtifact
  checks : List BlindCheck

def initialProjection : Projection := ⟨∅, ∅, [], [], []⟩

variable (maps : BlindMaps) (error : BlindBuildError)

def blindParent : Option AttemptId → Except BlindBuildError (Option BlindAttemptId)
  | none => .ok none
  | some parent => some <$> expect error maps.attempts[parent]?

def blindEvidence : CheckEvidence → Except BlindBuildError BlindCheckEvidence
  | .artifact artifactId => .artifact <$> expect error maps.artifacts[artifactId]?
  | .attemptExit attemptId => .attemptExit <$> expect error maps.attempts[attemptId]?

def blindArtifact (artifact : ArtifactRecord) : Except BlindBuildError BlindArtifact := do
  let handle ← expect error maps.artifacts[artifact.artifactId]?
  let attemptId ← expect error maps.attempts[artifact.attemptId]?
  return { handle, attemptId, kind := artifact.kind, truncated := artifact.truncated }

def blindCheck (check : ValidationCheck) : Except BlindBuildError BlindCheck := do
  let evidence ← check.evidence.mapM (blindEvidence maps error)
  let checkId ← expect error maps.checks[check.checkId]?
  let attemptId ← expect error maps.attempts[check.attemptId]?
  return { checkId, attemptId, kind := check.kind, outcome := check.outcome, evidence }

def blindAttempt (starts : BTreeMap AttemptId (Option AttemptId × ExecutionPhase))
    (finish : AttemptFinished) : Except BlindBuildError BlindAttemptOutcome := do
  let (parent, phase) ← expect error starts[finish.attemptId]?
  let attemptId ← expect error maps.attempts[finish.attemptId]?
  let parentAttemptId ← blindParent maps error parent
  return {
    attemptId
    parentAttemptId
    phase
    outcome := finish.outcome
    processExit := finish.processExit.map ProcessExit.blind }

/-- One record of the second pass. -/
def Projection.project (projection : Projection) (record : ProvenanceRecord) :
    Except BlindBuildError Projection :=
  match record.event with
  | .attemptStarted start =>
    .ok { projection with
      starts := projection.starts.insert start.attemptId (start.parentAttemptId, start.phase) }
  | .attemptFinished finish => do
    let attempt ← blindAttempt maps error projection.starts finish
    return { projection with
      attempts := projection.attempts ++ [attempt]
      elapsedByAttempt := projection.elapsedByAttempt.insert finish.attemptId finish.elapsedMs }
  | .artifactRecorded artifact => do
    let artifact ← blindArtifact maps error artifact
    return { projection with artifacts := projection.artifacts ++ [artifact] }
  | .checkRecorded check => do
    let check ← blindCheck maps error check
    return { projection with checks := projection.checks ++ [check] }

def blindRequirement (entry : CheckId × CheckRequirement) :
    Except BlindBuildError BlindCheckRequirement := do
  let checkId ← expect error maps.checks[entry.1]?
  return {
    checkId
    expectedKind := entry.2.expectedKind
    allowedArtifactKinds := entry.2.allowedArtifactKinds
    allowTruncatedArtifacts := entry.2.allowTruncatedArtifacts
    attemptExit := entry.2.attemptExit
    minimumEvidenceItems := entry.2.minimumEvidenceItems }

def discloseArtifact (artifact : ArtifactRecord) : Except BlindBuildError BlindArtifactMapping := do
  let blindHandle ← expect error maps.artifacts[artifact.artifactId]?
  return {
    sourceArtifactId := artifact.artifactId
    blindHandle
    sourceSha256 := artifact.sha256
    sourceRetainedBytes := artifact.retainedBytes
    sourceObservedBytes := artifact.observedBytes
    sourceTruncated := artifact.truncated
    sourceMediaType := artifact.mediaType
    sourceStorageRef := artifact.storageRef }

def discloseAttempt (elapsedByAttempt : BTreeMap AttemptId UInt64)
    (entry : AttemptId × BlindAttemptId) : Except BlindBuildError BlindIdMapping := do
  let sourceElapsedMs ← expect error elapsedByAttempt[entry.1]?
  return { sourceAttemptId := entry.1, blindAttemptId := entry.2, sourceElapsedMs }

/-- `target.kind().map_err(|_| projection_error())`. -/
def projectedKind (target : ExecutionTarget) : Except BlindBuildError TargetKind :=
  match target.kind with
  | .ok kind => .ok kind
  | .error _ => .error error

end Projection

/-- `SealedRunProvenance::build_blind_evaluation_package`; the digest of the serialized input is a
parameter. -/
def buildBlindEvaluationPackage (hashing : Hashing)
    (inputSha256 : BlindEvaluationInput → Sha256Digest) (source : UuidSource)
    (sealed : SealedRunProvenance) : Except BlindBuildError BlindEvaluationPackage := do
  let provenance := sealed.provenance
  let policy := sealed.policy
  let error := .projectionInvariant sealed.report
  let candidateId := source.draw .blindCandidate rfl 0
  let runId := source.draw .blindRun rfl 1
  let maps := blindMaps source provenance.records policy
  let projection ← provenance.records.foldlM (Projection.project maps error) initialProjection
  let disclosedArtifacts ← (artifacts provenance.records).mapM (discloseArtifact maps error)
  let attempts ← maps.attempts.toList.mapM (discloseAttempt error projection.elapsedByAttempt)
  let checkRequirements ← policy.checkRequirements.toList.mapM (blindRequirement maps error)
  let targetKind ← projectedKind error provenance.target
  let input : BlindEvaluationInput := {
    schemaVersion := 1
    runId
    candidateId
    evaluationCaseId := provenance.evaluationCaseId
    targetKind
    platformKind := provenance.target.platform.kind
    policy := {
      validationPlanSha256 := policy.validationPlanSha256
      validationPolicySha256 := hashing.policySha256 policy
      phaseRequirements := policy.phaseRequirements
      checkRequirements
      minimumPrimaryPasses := policy.minimumPrimaryPasses }
    attempts := projection.attempts
    artifacts := projection.artifacts
    checks := projection.checks }
  return {
    input
    inputSha256 := inputSha256 input
    disclosure := {
      run := ⟨sealed.sealedRunSha256, runId⟩
      candidate := ⟨provenance.candidateId, candidateId⟩
      attempts
      artifacts := disclosedArtifacts
      checks := maps.checks.toList.map fun entry => ⟨entry.1, entry.2⟩ } }

end BirdCode.Validation
