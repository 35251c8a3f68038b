import BirdCode.Basic

/-! The values a validation run is made of: identities, digests, targets, commands, environments,
the bounds of a run and the evidence recorded in it. -/
namespace BirdCode.Validation

open Std

section Identities

/-- `Uuid::get_version_num`: the high half of the seventh byte. -/
def uuidVersion (uuid : Uuid) : ℕ := uuid.val / 2 ^ 76 % 16

/-- The newtypes the identity macros of the crate declare. -/
inductive ProvenanceIdKind
  | run | attempt | candidate | evaluationCase | artifact | check
  | blindRun | blindCandidate | blindAttempt | blindArtifact | blindCheck
  deriving DecidableEq

/-- Runs and attempts are ordered by time; every other identity is random. -/
def ProvenanceIdKind.version : ProvenanceIdKind → ℕ
  | .run | .attempt => 7
  | _ => 4

/-- An identity exists only with the UUID version of its kind. -/
structure ProvenanceId (kind : ProvenanceIdKind) where
  uuid : Uuid
  versioned : uuid ≠ 0 ∧ uuidVersion uuid = kind.version
  deriving DecidableEq

abbrev RunId := ProvenanceId .run
abbrev AttemptId := ProvenanceId .attempt
abbrev CandidateId := ProvenanceId .candidate
abbrev EvaluationCaseId := ProvenanceId .evaluationCase
abbrev ArtifactId := ProvenanceId .artifact
abbrev CheckId := ProvenanceId .check

variable {kind : ProvenanceIdKind}

theorem ProvenanceId.eq_of_uuid {a b : ProvenanceId kind} (h : a.uuid = b.uuid) : a = b := by
  cases a
  cases b
  simpa using h

instance (kind : ProvenanceIdKind) : Ord (ProvenanceId kind) := ⟨fun a b => compare a.uuid b.uuid⟩

instance (kind : ProvenanceIdKind) : TransOrd (ProvenanceId kind) where
  eq_swap := (inferInstance : OrientedOrd Uuid).eq_swap
  isLE_trans := (inferInstance : TransOrd Uuid).isLE_trans

instance (kind : ProvenanceIdKind) : LawfulEqOrd (ProvenanceId kind) where
  eq_of_compare h := ProvenanceId.eq_of_uuid ((inferInstance : LawfulEqOrd Uuid).eq_of_compare h)

/-- The identities that `text_id!` declares. -/
inductive TextIdKind
  | agent | provider | model
  deriving DecidableEq

structure TextId (kind : TextIdKind) where
  value : String
  bounded : value.isEmpty = false ∧ value.utf8ByteSize ≤ 256
  deriving DecidableEq

abbrev AgentId := TextId .agent
abbrev ProviderId := TextId .provider
abbrev ModelId := TextId .model

/-- The 32 bytes of a SHA-256 digest. -/
structure Sha256Digest where
  bytes : List UInt8
  sized : bytes.length = 32
  deriving DecidableEq

structure ModelIdentity where
  providerId : ProviderId
  modelId : ModelId
  configurationSha256 : Option Sha256Digest
  deriving DecidableEq

inductive ActorIdentity
  | deterministic (implementationSha256 configurationSha256 : Sha256Digest)
  | model (model : ModelIdentity)
  deriving DecidableEq

structure AgentIdentity where
  agentId : AgentId
  actor : ActorIdentity
  deriving DecidableEq

end Identities

section Targets

/-- A target id exists only with between 1 and 512 bytes. -/
structure TargetId where
  value : String
  bounded : value.isEmpty = false ∧ value.utf8ByteSize ≤ 512

instance : DecidableEq TargetId := fun first second =>
  decidable_of_iff (first.value = second.value) ⟨fun h => by
    cases first
    cases second
    subst h
    rfl, congrArg TargetId.value⟩

/-- A parsed URL: its text, and the two parts of it that may carry credentials. -/
structure Url where
  text : String
  username : String
  password : Option String
  deriving DecidableEq

inductive TargetKind
  | webPlaywright | apiServer | cli | tui | macOsDesktop | appleSimulator | android | windows | linux
  deriving DecidableEq

inductive AdapterKind
  | playwrightWeb | apiServer | cli | tui | macOsDesktop | appleSimulator | android | windows | linux
  deriving DecidableEq

inductive AppleSimulatorPlatform
  | ios | ipadOs | tvOs | watchOs | visionOs
  deriving DecidableEq

inductive ExecutionPlatform
  | macOs (hostId : TargetId)
  | windows (hostId : TargetId)
  | linux (hostId : TargetId)
  | appleSimulator (platform : AppleSimulatorPlatform) (deviceId : TargetId)
  | android (deviceId : TargetId)
  | other (platformId hostId : TargetId)
  deriving DecidableEq

inductive ExecutionPlatformKind
  | macOs | windows | linux | appleSimulator | android | other
  deriving DecidableEq

structure AdapterRequirement where
  kind : AdapterKind
  platform : ExecutionPlatformKind
  deriving DecidableEq

def ExecutionPlatform.kind : ExecutionPlatform → ExecutionPlatformKind
  | .macOs _ => .macOs
  | .windows _ => .windows
  | .linux _ => .linux
  | .appleSimulator _ _ => .appleSimulator
  | .android _ => .android
  | .other _ _ => .other

inductive TargetSurface
  | webPlaywright (url : Url)
  | apiServer (endpoint : Url)
  | cli
  | tui
  | desktopApplication (applicationId : TargetId) (bundleId : Option TargetId)
  | mobileApplication (applicationId : TargetId)
  deriving DecidableEq

inductive TargetSurfaceKind
  | webPlaywright | apiServer | cli | tui | desktopApplication | mobileApplication
  deriving DecidableEq

def TargetSurface.kind : TargetSurface → TargetSurfaceKind
  | .webPlaywright _ => .webPlaywright
  | .apiServer _ => .apiServer
  | .cli => .cli
  | .tui => .tui
  | .desktopApplication _ _ => .desktopApplication
  | .mobileApplication _ => .mobileApplication

/-- The target errors a run can meet; the catalogue's own are left out. -/
inductive TargetError
  | unsupportedTargetCombination (surface : TargetSurfaceKind) (platform : ExecutionPlatformKind)
  | credentialedUrl (field : String)
  deriving DecidableEq

def targetErrorCode : TargetError → String
  | .unsupportedTargetCombination _ _ => "unsupported_target_combination"
  | .credentialedUrl _ => "credentialed_url"

/-- `ExecutionTarget::kind`: every surface but the two application surfaces runs anywhere. -/
def targetKind : TargetSurface → ExecutionPlatform → Except TargetError TargetKind
  | .webPlaywright _, _ => .ok .webPlaywright
  | .apiServer _, _ => .ok .apiServer
  | .cli, _ => .ok .cli
  | .tui, _ => .ok .tui
  | .desktopApplication _ _, .macOs _ => .ok .macOsDesktop
  | .desktopApplication _ _, .windows _ => .ok .windows
  | .desktopApplication _ _, .linux _ => .ok .linux
  | .mobileApplication _, .appleSimulator _ _ => .ok .appleSimulator
  | .mobileApplication _, .android _ => .ok .android
  | surface, platform => .error (.unsupportedTargetCombination surface.kind platform.kind)

def rejectCredentialedUrl (surface : TargetSurface) : Except TargetError Unit :=
  match surface with
  | .webPlaywright url =>
    ensure (url.username.isEmpty = true ∧ url.password = none) (.credentialedUrl "url")
  | .apiServer endpoint =>
    ensure (endpoint.username.isEmpty = true ∧ endpoint.password = none) (.credentialedUrl "endpoint")
  | .cli | .tui | .desktopApplication _ _ | .mobileApplication _ => .ok ()

/-- A target exists only after `ExecutionTarget::new` has accepted it. -/
structure ExecutionTarget where
  targetId : TargetId
  platform : ExecutionPlatform
  surface : TargetSurface
  uncredentialed : rejectCredentialedUrl surface = .ok ()
  supported : (targetKind surface platform).isOk = true
  deriving DecidableEq

def ExecutionTarget.kind (target : ExecutionTarget) : Except TargetError TargetKind :=
  targetKind target.surface target.platform

def TargetKind.adapter : TargetKind → AdapterKind
  | .webPlaywright => .playwrightWeb
  | .apiServer => .apiServer
  | .cli => .cli
  | .tui => .tui
  | .macOsDesktop => .macOsDesktop
  | .appleSimulator => .appleSimulator
  | .android => .android
  | .windows => .windows
  | .linux => .linux

def ExecutionTarget.requiredAdapter (target : ExecutionTarget) :
    Except TargetError AdapterRequirement := do
  let kind ← target.kind
  return ⟨kind.adapter, target.platform.kind⟩

structure AdapterDeclaration where
  requirement : AdapterRequirement
  implementationId : TargetId
  version : TargetId
  implementationSha256 : Sha256Digest
  deriving DecidableEq

end Targets

section Commands

structure ExecutionBounds where
  maxRecords : UInt32
  maxAttempts : UInt32
  maxChecks : UInt32
  maxCheckEvidenceItems : UInt32
  maxTotalEvidenceItems : UInt32
  maxTotalElapsedMs : UInt64
  maxTimeoutMs : UInt64
  maxArgvItems : UInt32
  maxArgumentBytes : UInt64
  maxPathBytes : UInt64
  maxEnvironmentEntries : UInt32
  maxEnvironmentBytes : UInt64
  maxToolchainEntries : UInt32
  maxMetadataBytes : UInt64
  maxUrlBytes : UInt64
  maxStorageRefBytes : UInt64
  maxStdinBytes : UInt64
  maxStdoutBytes : UInt64
  maxStderrBytes : UInt64
  maxArtifacts : UInt32
  maxArtifactBytes : UInt64
  maxTotalArtifactBytes : UInt64
  maxRuntimeLogBytes : UInt64
  maxTraceBytes : UInt64
  maxScreenshots : UInt32
  maxVideos : UInt32
  deriving DecidableEq

/-- `ExecutionBounds::default`. -/
def defaultBounds : ExecutionBounds where
  maxRecords := 4096
  maxAttempts := 512
  maxChecks := 512
  maxCheckEvidenceItems := 128
  maxTotalEvidenceItems := 4096
  maxTotalElapsedMs := 7200000
  maxTimeoutMs := 900000
  maxArgvItems := 512
  maxArgumentBytes := 1048576
  maxPathBytes := 1048576
  maxEnvironmentEntries := 256
  maxEnvironmentBytes := 1048576
  maxToolchainEntries := 128
  maxMetadataBytes := 1048576
  maxUrlBytes := 16384
  maxStorageRefBytes := 4096
  maxStdinBytes := 1048576
  maxStdoutBytes := 16777216
  maxStderrBytes := 16777216
  maxArtifacts := 512
  maxArtifactBytes := 268435456
  maxTotalArtifactBytes := 1073741824
  maxRuntimeLogBytes := 67108864
  maxTraceBytes := 268435456
  maxScreenshots := 128
  maxVideos := 16

structure CaptureLimits where
  stdoutBytes : UInt64
  stderrBytes : UInt64
  deriving DecidableEq

/-- `u64::try_from(value).unwrap_or(u64::MAX)`. -/
def asU64 (value : ℕ) : ℕ := min value (2 ^ 64 - 1)

/-- `u32::try_from(value).unwrap_or(u32::MAX)`. -/
def asU32 (value : ℕ) : ℕ := min value (2 ^ 32 - 1)

inductive NativeEncoding
  | unixBytes | windowsUtf16
  deriving DecidableEq

/-- A path or an argument in the encoding of its platform. -/
inductive NativeArgument
  | unixBytes (bytes : List UInt8)
  | windowsUtf16 (codeUnits : List UInt16)
  deriving DecidableEq

def NativeArgument.encodedBytes : NativeArgument → ℕ
  | .unixBytes bytes => bytes.length
  | .windowsUtf16 codeUnits => asU64 (codeUnits.length * 2)

def NativeArgument.encoding : NativeArgument → NativeEncoding
  | .unixBytes _ => .unixBytes
  | .windowsUtf16 _ => .windowsUtf16

def NativeArgument.containsNul : NativeArgument → Bool
  | .unixBytes bytes => bytes.contains 0
  | .windowsUtf16 codeUnits => codeUnits.contains 0

def NativeArgument.isEmpty : NativeArgument → Bool
  | .unixBytes bytes => bytes.isEmpty
  | .windowsUtf16 codeUnits => codeUnits.isEmpty

/-- `EnvironmentValue` and `RetainedArgument` have the same variants. -/
inductive RetainedValue
  | plainText (value : NativeArgument)
  | secretReference (reference : TargetId) (encoding : NativeEncoding) (resolvedBytes : UInt64)
  | sha256Only (sha256 : Sha256Digest) (encoding : NativeEncoding) (resolvedBytes : UInt64)
  | redacted (encoding : NativeEncoding) (resolvedBytes : UInt64)
  deriving DecidableEq

abbrev EnvironmentValue := RetainedValue
abbrev RetainedArgument := RetainedValue

def RetainedValue.resolvedBytes : RetainedValue → ℕ
  | .plainText value => asU64 value.encodedBytes
  | .secretReference _ _ resolvedBytes => resolvedBytes.toNat
  | .sha256Only _ _ resolvedBytes => resolvedBytes.toNat
  | .redacted _ resolvedBytes => resolvedBytes.toNat

def RetainedValue.encoding : RetainedValue → NativeEncoding
  | .plainText value => value.encoding
  | .secretReference _ encoding _ => encoding
  | .sha256Only _ encoding _ => encoding
  | .redacted encoding _ => encoding

/-- `EnvironmentValue::retained_metadata_bytes`. -/
def RetainedValue.retainedMetadataBytes : RetainedValue → ℕ
  | .plainText value => value.encodedBytes
  | .secretReference reference _ _ => reference.value.utf8ByteSize
  | .sha256Only _ _ _ => 32
  | .redacted _ _ => 0

/-- `if let PlainText { value } = retained && value.contains_nul()`. -/
def RetainedValue.containsNul : RetainedValue → Bool
  | .plainText value => value.containsNul
  | _ => false

inductive RetainedStdin
  | plainText (bytes : List UInt8)
  | secretReference (reference : TargetId) (resolvedBytes : UInt64)
  | sha256Only (sha256 : Sha256Digest) (resolvedBytes : UInt64)
  | redacted (resolvedBytes : UInt64)
  deriving DecidableEq

def RetainedStdin.resolvedBytes : RetainedStdin → ℕ
  | .plainText bytes => asU64 bytes.length
  | .secretReference _ resolvedBytes => resolvedBytes.toNat
  | .sha256Only _ resolvedBytes => resolvedBytes.toNat
  | .redacted resolvedBytes => resolvedBytes.toNat

structure EnvironmentEntry where
  name : NativeArgument
  value : EnvironmentValue
  deriving DecidableEq

/-- The two paths are workspace paths, which hold what a native argument holds. -/
structure CommandSpec where
  executable : NativeArgument
  arguments : List RetainedArgument
  workingDirectory : NativeArgument
  environment : List EnvironmentEntry
  stdin : Option RetainedStdin
  capture : CaptureLimits
  deriving DecidableEq

inductive OperatingSystem
  | macOs | windows | linux | android
  | iosSimulator | ipadOsSimulator | tvOsSimulator | watchOsSimulator | visionOsSimulator
  | other (platformId : TargetId)
  deriving DecidableEq

structure ToolchainEntry where
  toolId : TargetId
  version : String
  executableSha256 : Option Sha256Digest
  deriving DecidableEq

structure EnvironmentSnapshot where
  operatingSystem : OperatingSystem
  architecture : String
  osVersion : String
  locale : Option String
  selectedVariables : List EnvironmentEntry
  toolchain : List ToolchainEntry
  deriving DecidableEq

inductive ProcessExit
  | exited (code : Int32)
  | signaled (signal : Int32)
  | timedOut
  | cancelled
  | launchFailed (failureCode : TargetId)
  deriving DecidableEq

end Commands

section Evidence

inductive EvidenceClass
  | primaryMechanical | vision
  deriving DecidableEq

inductive ArtifactKind
  | stdoutLog | stderrLog | runtimeLog | compilerOutput | testReport | accessibilitySnapshot
  | domSnapshot | apiTranscript | processState | trace | screenshot | video | buildProduct | auxiliary
  deriving DecidableEq

def ArtifactKind.evidenceClass : ArtifactKind → Option EvidenceClass
  | .screenshot | .video => some .vision
  | .auxiliary => none
  | .stdoutLog | .stderrLog | .runtimeLog | .compilerOutput | .testReport | .accessibilitySnapshot
  | .domSnapshot | .apiTranscript | .processState | .trace | .buildProduct => some .primaryMechanical

structure ArtifactRecord where
  artifactId : ArtifactId
  attemptId : AttemptId
  kind : ArtifactKind
  sha256 : Sha256Digest
  retainedBytes : UInt64
  observedBytes : Option UInt64
  truncated : Bool
  mediaType : String
  storageRef : TargetId
  deriving DecidableEq

inductive CheckKind
  | compiler | test | accessibility | domState | processState | apiState | cliState | tuiState
  | desktopState | deviceState | logAssertion | traceAssertion | artifactIntegrity | visual
  deriving DecidableEq

def CheckKind.evidenceClass : CheckKind → EvidenceClass
  | .visual => .vision
  | .compiler | .test | .accessibility | .domState | .processState | .apiState | .cliState | .tuiState
  | .desktopState | .deviceState | .logAssertion | .traceAssertion | .artifactIntegrity =>
    .primaryMechanical

def CheckKind.isArtifactCompatible (check : CheckKind) (artifact : ArtifactKind) : Bool :=
  match check with
  | .compiler => artifact ∈ [.compilerOutput, .buildProduct]
  | .test => artifact = .testReport
  | .accessibility => artifact = .accessibilitySnapshot
  | .domState => artifact = .domSnapshot
  | .processState => artifact = .processState
  | .apiState => artifact = .apiTranscript
  | .cliState | .tuiState => artifact ∈ [.stdoutLog, .stderrLog, .runtimeLog, .processState]
  | .desktopState | .deviceState => artifact ∈ [.runtimeLog, .accessibilitySnapshot, .processState]
  | .logAssertion => artifact ∈ [.stdoutLog, .stderrLog, .runtimeLog]
  | .traceAssertion => artifact = .trace
  | .artifactIntegrity => artifact.evidenceClass = some .primaryMechanical
  | .visual => artifact ∈ [.screenshot, .video]

def CheckKind.isExitCompatible : CheckKind → Bool
  | .compiler | .test | .processState | .cliState | .tuiState => true
  | _ => false

inductive CheckOutcome
  | passed | failed | inconclusive
  deriving DecidableEq

inductive CheckEvidence
  | artifact (artifactId : ArtifactId)
  | attemptExit (attemptId : AttemptId)
  deriving DecidableEq

structure ValidationCheck where
  checkId : CheckId
  attemptId : AttemptId
  kind : CheckKind
  outcome : CheckOutcome
  evidence : List CheckEvidence
  deriving DecidableEq

end Evidence

section Phases

inductive ExecutionPhase
  | prepare | build | install | launch | readiness | exercise
  | inspectState | collect | validate | terminate | cleanup | package
  deriving DecidableEq

/-- `EXECUTION_PHASES`. -/
def executionPhases : List ExecutionPhase :=
  [.prepare, .build, .install, .launch, .readiness, .exercise,
    .inspectState, .collect, .validate, .terminate, .cleanup, .package]

def ExecutionPhase.ordinal : ExecutionPhase → ℕ
  | .prepare => 0
  | .build => 1
  | .install => 2
  | .launch => 3
  | .readiness => 4
  | .exercise => 5
  | .inspectState => 6
  | .collect => 7
  | .validate => 8
  | .terminate => 9
  | .cleanup => 10
  | .package => 11

theorem ExecutionPhase.eq_of_ordinal {a b : ExecutionPhase} (h : a.ordinal = b.ordinal) : a = b := by
  cases a <;> cases b <;> first | rfl | cases h

theorem mem_executionPhases (phase : ExecutionPhase) : phase ∈ executionPhases := by
  cases phase <;> decide

/-- The derived order: the order of the variants. -/
instance : Ord ExecutionPhase := ⟨fun a b => compare a.ordinal b.ordinal⟩

instance : TransOrd ExecutionPhase where
  eq_swap := (inferInstance : OrientedOrd ℕ).eq_swap
  isLE_trans := (inferInstance : TransOrd ℕ).isLE_trans

instance : LawfulEqOrd ExecutionPhase where
  eq_of_compare h := ExecutionPhase.eq_of_ordinal ((inferInstance : LawfulEqOrd ℕ).eq_of_compare h)

/-- `*artifact_kind as u8`. -/
def ArtifactKind.ordinal : ArtifactKind → ℕ
  | .stdoutLog => 0
  | .stderrLog => 1
  | .runtimeLog => 2
  | .compilerOutput => 3
  | .testReport => 4
  | .accessibilitySnapshot => 5
  | .domSnapshot => 6
  | .apiTranscript => 7
  | .processState => 8
  | .trace => 9
  | .screenshot => 10
  | .video => 11
  | .buildProduct => 12
  | .auxiliary => 13

theorem ArtifactKind.eq_of_ordinal {a b : ArtifactKind} (h : a.ordinal = b.ordinal) : a = b := by
  cases a <;> cases b <;> first | rfl | cases h

instance : Ord ArtifactKind := ⟨fun a b => compare a.ordinal b.ordinal⟩

instance : TransOrd ArtifactKind where
  eq_swap := (inferInstance : OrientedOrd ℕ).eq_swap
  isLE_trans := (inferInstance : TransOrd ℕ).isLE_trans

instance : LawfulEqOrd ArtifactKind where
  eq_of_compare h := ArtifactKind.eq_of_ordinal ((inferInstance : LawfulEqOrd ℕ).eq_of_compare h)

/-- `expected_kind as u8`. -/
def CheckKind.ordinal : CheckKind → ℕ
  | .compiler => 0
  | .test => 1
  | .accessibility => 2
  | .domState => 3
  | .processState => 4
  | .apiState => 5
  | .cliState => 6
  | .tuiState => 7
  | .desktopState => 8
  | .deviceState => 9
  | .logAssertion => 10
  | .traceAssertion => 11
  | .artifactIntegrity => 12
  | .visual => 13

theorem CheckKind.eq_of_ordinal {a b : CheckKind} (h : a.ordinal = b.ordinal) : a = b := by
  cases a <;> cases b <;> first | rfl | cases h

inductive PhaseOutcome
  | succeeded | candidateFailure | infrastructureError | timedOut | cancelled | policyDenied
  | notApplicable
  deriving DecidableEq

end Phases

end BirdCode.Validation
