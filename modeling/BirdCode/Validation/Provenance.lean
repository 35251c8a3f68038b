import BirdCode.Validation.Violations
import BirdCode.Lib.SelfDelimiting

/-! The hash-chained log of a run, the acceptance policy it is judged by, and the digests that bind
them. JSON and SHA-256 are parameters; `serde_json::to_vec` of the derived types cannot fail, so the
serialization errors have no counterpart. -/
namespace BirdCode.Validation

open Std Lib

section Records

/-- `RunContextManifest`. -/
structure RunContextManifest where
  sourceWorkspaceSnapshotSha256 : Sha256Digest
  taskFixtureSha256 : Sha256Digest
  validationPlanSha256 : Sha256Digest
  validationPolicySha256 : Sha256Digest
  harnessConfigurationSha256 : Sha256Digest
  adapter : AdapterDeclaration
  permissionPolicySha256 : Sha256Digest
  networkPolicySha256 : Sha256Digest
  deriving DecidableEq

structure AttemptStarted where
  attemptId : AttemptId
  parentAttemptId : Option AttemptId
  phase : ExecutionPhase
  actor : AgentIdentity
  timeoutMs : UInt64
  command : Option CommandSpec
  deriving DecidableEq

structure AttemptFinished where
  attemptId : AttemptId
  outcome : PhaseOutcome
  processExit : Option ProcessExit
  elapsedMs : UInt64
  stdoutArtifactId : Option ArtifactId
  stderrArtifactId : Option ArtifactId
  deriving DecidableEq

inductive ProvenanceEvent
  | attemptStarted (start : AttemptStarted)
  | attemptFinished (finish : AttemptFinished)
  | artifactRecorded (artifact : ArtifactRecord)
  | checkRecorded (check : ValidationCheck)
  deriving DecidableEq

structure ProvenanceRecord where
  sequence : UInt64
  observedAtUnixMs : UInt64
  previousRecordSha256 : Option Sha256Digest
  recordSha256 : Sha256Digest
  event : ProvenanceEvent
  deriving DecidableEq

/-- What is immutable about a run from its first moment. -/
structure RunHeader where
  schemaVersion : UInt32
  runId : RunId
  candidateId : CandidateId
  evaluationCaseId : EvaluationCaseId
  target : ExecutionTarget
  bounds : ExecutionBounds
  environment : EnvironmentSnapshot
  manifest : RunContextManifest
  deriving DecidableEq

structure RunProvenance extends RunHeader where
  runContextSha256 : Sha256Digest
  records : List ProvenanceRecord
  deriving DecidableEq

end Records

section Policies

/-- `*requirement as u8`. -/
def PhaseRequirement.ordinal : PhaseRequirement → ℕ
  | .requiredSuccess => 0
  | .declaredNotApplicable => 1

inductive ExitRequirement
  | disallowed
  | anyCompleted
  | allowedCodes (codes : BTreeSet Int32)

def ExitRequirement.accepts : ExitRequirement → ProcessExit → Bool
  | .disallowed, _ => false
  | .anyCompleted, _ => true
  | .allowedCodes codes, .exited code => codes.contains code
  | .allowedCodes _, _ => false

def ExitRequirement.tag : ExitRequirement → ℕ
  | .disallowed => 0
  | .anyCompleted => 1
  | .allowedCodes _ => 2

structure CheckRequirement where
  expectedKind : CheckKind
  allowedArtifactKinds : BTreeSet ArtifactKind
  allowTruncatedArtifacts : Bool
  attemptExit : ExitRequirement
  minimumEvidenceItems : UInt32

structure ValidationPolicy where
  validationPlanSha256 : Sha256Digest
  phaseRequirements : BTreeMap ExecutionPhase PhaseRequirement
  checkRequirements : BTreeMap CheckId CheckRequirement
  minimumPrimaryPasses : UInt32

/-- `u32::try_from(count).unwrap_or(u32::MAX).to_be_bytes()`. -/
def countBytes (count : ℕ) : List UInt8 := beBytes 4 (asU32 count)

def phaseRequirementBytes (entry : ExecutionPhase × PhaseRequirement) : List UInt8 :=
  [UInt8.ofNat entry.1.ordinal, UInt8.ofNat entry.2.ordinal]

/-- The codes an exit requirement lists, none unless it is `AllowedCodes`. -/
def ExitRequirement.codeBytes : ExitRequirement → List UInt8
  | .allowedCodes codes =>
    countBytes codes.toList.length ++ codes.toList.flatMap fun code => beBytes 4 code.toUInt32.toNat
  | .disallowed | .anyCompleted => beBytes 4 0

def checkRequirementBytes (entry : CheckId × CheckRequirement) : List UInt8 :=
  beBytes 16 entry.1.uuid.val ++
  [UInt8.ofNat entry.2.expectedKind.ordinal] ++
  [if entry.2.allowTruncatedArtifacts then 1 else 0] ++
  beBytes 4 entry.2.minimumEvidenceItems.toNat ++
  [UInt8.ofNat entry.2.attemptExit.tag] ++
  entry.2.attemptExit.codeBytes ++
  countBytes entry.2.allowedArtifactKinds.toList.length ++
  entry.2.allowedArtifactKinds.toList.map fun kind => UInt8.ofNat kind.ordinal

/-- `b"birdcode.validation-policy.v1\0"`. -/
def policyDomain : List UInt8 :=
  [98, 105, 114, 100, 99, 111, 100, 101, 46, 118, 97, 108, 105, 100, 97, 116, 105, 111, 110, 45,
    112, 111, 108, 105, 99, 121, 46, 118, 49, 0]

/-- The bytes `policy_sha256` feeds to the hasher. -/
def ValidationPolicy.bytes (policy : ValidationPolicy) : List UInt8 :=
  policyDomain ++
  policy.validationPlanSha256.bytes ++
  beBytes 4 policy.minimumPrimaryPasses.toNat ++
  countBytes policy.phaseRequirements.toList.length ++
  policy.phaseRequirements.toList.flatMap phaseRequirementBytes ++
  countBytes policy.checkRequirements.toList.length ++
  policy.checkRequirements.toList.flatMap checkRequirementBytes

end Policies

section Digests

structure RecordHashMaterial where
  schemaVersion : UInt32
  runId : RunId
  runContextSha256 : Sha256Digest
  sequence : UInt64
  observedAtUnixMs : UInt64
  previousRecordSha256 : Option Sha256Digest
  event : ProvenanceEvent
  deriving DecidableEq

structure SealHashMaterial where
  schemaVersion : UInt32
  runId : RunId
  runContextSha256 : Sha256Digest
  terminalSequence : UInt64
  terminalRecordSha256 : Sha256Digest
  validationPlanSha256 : Sha256Digest
  validationPolicySha256 : Sha256Digest
  reportSha256 : Sha256Digest
  deriving DecidableEq

/-- SHA-256, and the JSON of what is hashed. -/
structure Hashing where
  sha256 : List UInt8 → Sha256Digest
  contextJson : RunHeader → List UInt8
  recordJson : RecordHashMaterial → List UInt8
  sealJson : SealHashMaterial → List UInt8
  reportJson : ValidationReport → List UInt8

variable (hashing : Hashing)

def Hashing.policySha256 (policy : ValidationPolicy) : Sha256Digest := hashing.sha256 policy.bytes

/-- The material is the header itself, field by field. -/
def computeRunContextHash (header : RunHeader) : Sha256Digest :=
  hashing.sha256 (hashing.contextJson header)

def computeRecordHash (material : RecordHashMaterial) : Sha256Digest :=
  hashing.sha256 (hashing.recordJson material)

def computeSealHash (material : SealHashMaterial) : Sha256Digest :=
  hashing.sha256 (hashing.sealJson material)

/-- What the digest of a record of this run is computed from. -/
def RunProvenance.recordMaterial (run : RunProvenance) (record : ProvenanceRecord) :
    RecordHashMaterial where
  schemaVersion := run.schemaVersion
  runId := run.runId
  runContextSha256 := run.runContextSha256
  sequence := record.sequence
  observedAtUnixMs := record.observedAtUnixMs
  previousRecordSha256 := record.previousRecordSha256
  event := record.event

/-- `PROVENANCE_SCHEMA_VERSION`. -/
def provenanceSchemaVersion : UInt32 := 1

def withRunId (runId : RunId) (candidateId : CandidateId) (evaluationCaseId : EvaluationCaseId)
    (target : ExecutionTarget) (bounds : ExecutionBounds) (environment : EnvironmentSnapshot)
    (manifest : RunContextManifest) : RunProvenance :=
  let header : RunHeader :=
    ⟨provenanceSchemaVersion, runId, candidateId, evaluationCaseId, target, bounds, environment,
      manifest⟩
  { header with
    runContextSha256 := computeRunContextHash hashing header
    records := [] }

end Digests

end BirdCode.Validation
