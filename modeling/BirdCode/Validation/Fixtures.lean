import BirdCode.Validation.Validator

/-! A run of one attempt for each phase, with a report and a check that rests on it. -/
namespace BirdCode.Validation

open Std Lib

section Values

instance lowByte_nonempty : NeZero 256 := ⟨by decide⟩

/-- The identity of a kind with a given low byte. -/
def sampleId (kind : ProvenanceIdKind) (number : Fin 256) : ProvenanceId kind where
  uuid := ⟨kind.version * 2 ^ 76 + number, by
    cases kind <;> simp [ProvenanceIdKind.version] <;> omega⟩
  versioned := by
    constructor
    · intro hzero
      have hval := congrArg Fin.val hzero
      cases kind <;> simp [ProvenanceIdKind.version] at hval
    · cases kind <;> simp [uuidVersion, ProvenanceIdKind.version] <;> omega

def sampleTargetId : TargetId := ⟨"sample", by decide⟩

/-- The digest whose bytes are all the same. -/
def sampleDigest (byte : UInt8) : Sha256Digest := ⟨List.replicate 32 byte, List.length_replicate⟩

/-- The first 32 bytes stand in for the digest; a digest is told apart by the tag its JSON starts with
and by the number of the record. -/
def sampleHashing : Hashing where
  sha256 := fun bytes => ⟨(bytes ++ List.replicate 32 0).take 32, by simp⟩
  contextJson := fun header => [1, UInt8.ofNat header.candidateId.uuid.val]
  recordJson := fun material => 2 :: beBytes 8 material.sequence.toNat
  sealJson := fun _ => [3]
  reportJson := fun _ => [4]

def sampleTarget : ExecutionTarget where
  targetId := sampleTargetId
  platform := .linux sampleTargetId
  surface := .cli
  uncredentialed := rfl
  supported := rfl

def sampleEnvironment : EnvironmentSnapshot where
  operatingSystem := .linux
  architecture := "x86_64"
  osVersion := "6"
  locale := none
  selectedVariables := []
  toolchain := []

def sampleActor : AgentIdentity where
  agentId := ⟨"agent", by decide⟩
  actor := .deterministic (sampleDigest 1) (sampleDigest 2)

end Values

section Policies

/-- A test that a report or any process exit can carry. -/
def sampleRequirement : CheckRequirement where
  expectedKind := .test
  allowedArtifactKinds := toSet [.testReport]
  allowTruncatedArtifacts := false
  attemptExit := .anyCompleted
  minimumEvidenceItems := 1

def samplePolicy : ValidationPolicy where
  validationPlanSha256 := sampleDigest 3
  phaseRequirements := toMap (executionPhases.map fun phase => (phase, .requiredSuccess))
  checkRequirements := toMap [(sampleId .check 1, sampleRequirement)]
  minimumPrimaryPasses := 1

def sampleManifest : RunContextManifest where
  sourceWorkspaceSnapshotSha256 := sampleDigest 4
  taskFixtureSha256 := sampleDigest 5
  validationPlanSha256 := samplePolicy.validationPlanSha256
  validationPolicySha256 := sampleHashing.policySha256 samplePolicy
  harnessConfigurationSha256 := sampleDigest 6
  adapter := ⟨⟨.cli, .linux⟩, sampleTargetId, sampleTargetId, sampleDigest 7⟩
  permissionPolicySha256 := sampleDigest 8
  networkPolicySha256 := sampleDigest 9

end Policies

section Events

def sampleAttempt (phase : ExecutionPhase) : AttemptId :=
  sampleId .attempt (Fin.ofNat 256 phase.ordinal)

def sampleStart (timeoutMs : UInt64) (phase : ExecutionPhase) : ProvenanceEvent :=
  .attemptStarted {
    attemptId := sampleAttempt phase
    parentAttemptId := none
    phase
    actor := sampleActor
    timeoutMs
    command := none }

def sampleFinish (elapsedMs : UInt64) (phase : ExecutionPhase) : ProvenanceEvent :=
  .attemptFinished {
    attemptId := sampleAttempt phase
    outcome := .succeeded
    processExit := none
    elapsedMs
    stdoutArtifactId := none
    stderrArtifactId := none }

def sampleReport : ProvenanceEvent :=
  .artifactRecorded {
    artifactId := sampleId .artifact 1
    attemptId := sampleAttempt .exercise
    kind := .testReport
    sha256 := sampleDigest 10
    retainedBytes := 20
    observedBytes := none
    truncated := false
    mediaType := "text/plain"
    storageRef := sampleTargetId }

def sampleCheck (evidence : CheckEvidence) : ProvenanceEvent :=
  .checkRecorded {
    checkId := sampleId .check 1
    attemptId := sampleAttempt .exercise
    kind := .test
    outcome := .passed
    evidence := [evidence] }

/-- Every phase is attempted and succeeds, and then the check is recorded. -/
def sampleEvents (timeoutMs elapsedMs : UInt64) (evidence : CheckEvidence) : List ProvenanceEvent :=
  (executionPhases.flatMap fun phase => [sampleStart timeoutMs phase, sampleFinish elapsedMs phase]) ++
    [sampleReport, sampleCheck evidence]

end Events

section Runs

/-- The log after some events, none of which may be refused. -/
def appendAll (hashing : Hashing) (run : RunProvenance) (events : List ProvenanceEvent) :
    Option RunProvenance :=
  events.foldlM (fun run event =>
    match append hashing run 0 event with
    | (.ok _, after) => some after
    | (.error _, _) => none) run

def emptyRun (candidate : Fin 256) (bounds : ExecutionBounds) : RunProvenance :=
  withRunId sampleHashing (sampleId .run 1) (sampleId .candidate candidate)
    (sampleId .evaluationCase 1) sampleTarget bounds sampleEnvironment sampleManifest

/-- The log of the sample events, which is empty if one of them is refused. -/
def sampleRun (bounds : ExecutionBounds) (timeoutMs elapsedMs : UInt64) (evidence : CheckEvidence) :
    RunProvenance :=
  (appendAll sampleHashing (emptyRun 1 bounds) (sampleEvents timeoutMs elapsedMs evidence)).getD
    (emptyRun 1 bounds)

/-- The check rests on the report. -/
def acceptedRun : RunProvenance :=
  sampleRun defaultBounds 1000 10 (.artifact (sampleId .artifact 1))

end Runs

end BirdCode.Validation
