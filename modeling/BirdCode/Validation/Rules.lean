import BirdCode.Validation.Provenance

/-! The rules on a single environment, command, exit and artifact, which the appender and the
validator share. -/
namespace BirdCode.Validation

section Environment

def operatingSystemEncoding : OperatingSystem → Option NativeEncoding
  | .windows => some .windowsUtf16
  | .macOs | .linux | .android | .iosSimulator | .ipadOsSimulator | .tvOsSimulator
  | .watchOsSimulator | .visionOsSimulator => some .unixBytes
  | .other _ => none

def targetEnvironmentMatches (target : ExecutionTarget) (environment : EnvironmentSnapshot) :
    Bool :=
  match target.platform, environment.operatingSystem with
  | .macOs _, .macOs => true
  | .windows _, .windows => true
  | .linux _, .linux => true
  | .android _, .android => true
  | .appleSimulator platform _, .iosSimulator => platform = .ios
  | .appleSimulator platform _, .ipadOsSimulator => platform = .ipadOs
  | .appleSimulator platform _, .tvOsSimulator => platform = .tvOs
  | .appleSimulator platform _, .watchOsSimulator => platform = .watchOs
  | .appleSimulator platform _, .visionOsSimulator => platform = .visionOs
  | .other platformId _, .other environmentPlatformId => platformId = environmentPlatformId
  | _, _ => false

def nativeNameContainsEquals : NativeArgument → Bool
  | .unixBytes bytes => bytes.contains 61
  | .windowsUtf16 codeUnits => codeUnits.contains 61

def asciiLowercaseU16 (value : UInt16) : UInt16 :=
  if 0x41 ≤ value ∧ value ≤ 0x5a then value + 0x20 else value

def nativeEnvironmentNamesEqual : NativeArgument → NativeArgument → Bool
  | .unixBytes left, .unixBytes right => left = right
  | .windowsUtf16 left, .windowsUtf16 right =>
    left.length = right.length &&
      (left.zip right).all fun units => asciiLowercaseU16 units.1 = asciiLowercaseU16 units.2
  | _, _ => false

/-- The name of an entry repeats one of the entries before it. -/
def repeatsName (entries : List EnvironmentEntry) (index : ℕ) (entry : EnvironmentEntry) : Bool :=
  (entries.take index).any fun prior => nativeEnvironmentNamesEqual prior.name entry.name

/-- The metadata bytes of a snapshot, added in the order the source adds them. -/
def metadataBytes (snapshot : EnvironmentSnapshot) : ℕ :=
  let text := saturatingAdd
    (saturatingAdd (asU64 snapshot.architecture.utf8ByteSize)
      (asU64 snapshot.osVersion.utf8ByteSize))
    (snapshot.locale.elim 0 fun locale => asU64 locale.utf8ByteSize)
  let tools := snapshot.toolchain.foldl (fun total tool =>
    saturatingAdd (saturatingAdd total (asU64 tool.toolId.value.utf8ByteSize))
      (asU64 tool.version.utf8ByteSize)) text
  snapshot.selectedVariables.foldl (fun total entry =>
    saturatingAdd
      (saturatingAdd (saturatingAdd total (asU64 entry.name.encodedBytes))
        entry.value.resolvedBytes)
      (asU64 entry.value.retainedMetadataBytes)) tools

/-- The encoding a snapshot's entries have: the system's, or that of the first name. -/
def snapshotEncoding (snapshot : EnvironmentSnapshot) (entry : EnvironmentEntry) : NativeEncoding :=
  (operatingSystemEncoding snapshot.operatingSystem).getD
    ((snapshot.selectedVariables.head?.getD entry).name.encoding)

def snapshotEntryViolations (snapshot : EnvironmentSnapshot) (position : ℕ)
    (entry : EnvironmentEntry) : List ValidationViolation :=
  let index := asU32 position
  let expected := snapshotEncoding snapshot entry
  collect [
    report (entry.name.encodedBytes = 0) (.emptySnapshotEnvironmentName index),
    report (entry.name.containsNul = true) (.environmentValueContainsNul index),
    report (nativeNameContainsEquals entry.name = true)
      (.snapshotEnvironmentNameContainsEquals index),
    report (repeatsName snapshot.selectedVariables index entry = true)
      (.duplicateSnapshotEnvironmentName index),
    report (entry.name.encoding ≠ expected)
      (.environmentValueEncodingMismatch index expected entry.name.encoding),
    report (entry.value.encoding ≠ expected)
      (.environmentValueEncodingMismatch index expected entry.value.encoding),
    report (entry.value.containsNul = true) (.environmentValueContainsNul index)]

def validateEnvironmentSnapshot (snapshot : EnvironmentSnapshot) (bounds : ExecutionBounds) :
    List ValidationViolation :=
  collect [
    report (snapshot.architecture.isEmpty = true) (.environmentMetadataEmpty .architecture),
    report (snapshot.osVersion.isEmpty = true) (.environmentMetadataEmpty .osVersion),
    report (snapshot.locale.any (·.isEmpty) = true) (.environmentMetadataEmpty .locale),
    report (bounds.maxToolchainEntries.toNat < asU64 snapshot.toolchain.length)
      (.toolchainEntriesOutOfBounds (asU64 snapshot.toolchain.length)
        bounds.maxToolchainEntries.toNat),
    report (bounds.maxEnvironmentEntries.toNat < asU64 snapshot.selectedVariables.length)
      (.snapshotEnvironmentEntriesOutOfBounds (asU64 snapshot.selectedVariables.length)
        bounds.maxEnvironmentEntries.toNat),
    (snapshot.toolchain.mapIdx fun position tool =>
      report (tool.version.isEmpty = true) (.toolchainVersionEmpty (asU32 position))).flatten,
    (snapshot.selectedVariables.mapIdx (snapshotEntryViolations snapshot)).flatten,
    report (bounds.maxMetadataBytes.toNat < metadataBytes snapshot)
      (.environmentMetadataOutOfBounds (metadataBytes snapshot) bounds.maxMetadataBytes.toNat)]

end Environment

section Commands

/-- `MAX_ENVIRONMENT_NAME_BYTES`. -/
def maxEnvironmentNameBytes : ℕ := 32768

def validatePath (attemptId : AttemptId) (path : NativeArgument) (component : CommandComponent) :
    List ValidationViolation :=
  collect [
    report (path.isEmpty = true) (.emptyCommandPath attemptId component),
    report (path.containsNul = true) (.commandValueContainsNul attemptId component)]

def pathBoundViolations (attemptId : AttemptId) (path : NativeArgument)
    (component : CommandComponent) (bounds : ExecutionBounds) : List ValidationViolation :=
  report (bounds.maxPathBytes.toNat < asU64 path.encodedBytes)
    (.pathOutOfBounds attemptId component (asU64 path.encodedBytes) bounds.maxPathBytes.toNat)

def encodingViolations (attemptId : AttemptId) (component : CommandComponent)
    (expected actual : NativeEncoding) : List ValidationViolation :=
  report (actual ≠ expected) (.commandEncodingMismatch attemptId component expected actual)

def argumentBytes (arguments : List RetainedArgument) : ℕ :=
  arguments.foldl (fun total argument => saturatingAdd total argument.resolvedBytes) 0

def argumentViolations (attemptId : AttemptId) (expected : NativeEncoding) (position : ℕ)
    (argument : RetainedArgument) : List ValidationViolation :=
  let component := .argument (asU32 position)
  collect [
    encodingViolations attemptId component expected argument.encoding,
    report (argument.containsNul = true) (.commandValueContainsNul attemptId component)]

def environmentBytes (entries : List EnvironmentEntry) : ℕ :=
  entries.foldl (fun total entry =>
    saturatingAdd (saturatingAdd total (asU64 entry.name.encodedBytes)) entry.value.resolvedBytes) 0

def validateNativeValue (attemptId : AttemptId) (value : NativeArgument) (expected : NativeEncoding)
    (component : CommandComponent) : List ValidationViolation :=
  collect [
    encodingViolations attemptId component expected value.encoding,
    report (value.containsNul = true) (.commandValueContainsNul attemptId component)]

def environmentEntryViolations (attemptId : AttemptId) (expected : NativeEncoding)
    (entries : List EnvironmentEntry) (position : ℕ) (entry : EnvironmentEntry) :
    List ValidationViolation :=
  let index := asU32 position
  let nameBytes := asU64 entry.name.encodedBytes
  collect [
    report (entry.name.encodedBytes = 0) (.emptyEnvironmentName attemptId index),
    report (nativeNameContainsEquals entry.name = true)
      (.environmentNameContainsEquals attemptId index),
    report (maxEnvironmentNameBytes < nameBytes)
      (.environmentBytesOutOfBounds attemptId nameBytes maxEnvironmentNameBytes),
    validateNativeValue attemptId entry.name expected (.environmentName index),
    report (repeatsName entries index entry = true) (.duplicateEnvironmentName attemptId index),
    encodingViolations attemptId (.environmentValue index) expected entry.value.encoding,
    report (entry.value.containsNul = true)
      (.commandValueContainsNul attemptId (.environmentValue index))]

def stdinBytes (command : CommandSpec) : ℕ := command.stdin.elim 0 RetainedStdin.resolvedBytes

def validateCommand (attemptId : AttemptId) (command : CommandSpec) (bounds : ExecutionBounds)
    (requiredEncoding : Option NativeEncoding) : List ValidationViolation :=
  let expected := requiredEncoding.getD command.executable.encoding
  collect [
    validatePath attemptId command.executable .executable,
    pathBoundViolations attemptId command.executable .executable bounds,
    pathBoundViolations attemptId command.workingDirectory .workingDirectory bounds,
    validatePath attemptId command.workingDirectory .workingDirectory,
    encodingViolations attemptId .executable expected command.executable.encoding,
    encodingViolations attemptId .workingDirectory expected command.workingDirectory.encoding,
    report (bounds.maxArgvItems.toNat < asU64 command.arguments.length)
      (.argvItemsOutOfBounds attemptId (asU64 command.arguments.length) bounds.maxArgvItems.toNat),
    (command.arguments.mapIdx (argumentViolations attemptId expected)).flatten,
    report (bounds.maxArgumentBytes.toNat < argumentBytes command.arguments)
      (.argumentBytesOutOfBounds attemptId (argumentBytes command.arguments)
        bounds.maxArgumentBytes.toNat),
    report (bounds.maxEnvironmentEntries.toNat < asU64 command.environment.length)
      (.environmentEntriesOutOfBounds attemptId (asU64 command.environment.length)
        bounds.maxEnvironmentEntries.toNat),
    (command.environment.mapIdx
      (environmentEntryViolations attemptId expected command.environment)).flatten,
    report (bounds.maxEnvironmentBytes.toNat < environmentBytes command.environment)
      (.environmentBytesOutOfBounds attemptId (environmentBytes command.environment)
        bounds.maxEnvironmentBytes.toNat),
    report (bounds.maxStdinBytes.toNat < stdinBytes command)
      (.stdinOutOfBounds attemptId (stdinBytes command) bounds.maxStdinBytes.toNat),
    report (bounds.maxStdoutBytes.toNat < command.capture.stdoutBytes.toNat)
      (.captureOutOfBounds attemptId .stdoutLog command.capture.stdoutBytes.toNat
        bounds.maxStdoutBytes.toNat),
    report (bounds.maxStderrBytes.toNat < command.capture.stderrBytes.toNat)
      (.captureOutOfBounds attemptId .stderrLog command.capture.stderrBytes.toNat
        bounds.maxStderrBytes.toNat)]

end Commands

section Attempts

def phaseOutcomeContradictsExit (outcome : PhaseOutcome) : ProcessExit → Bool
  | .timedOut => outcome ≠ .timedOut
  | .cancelled => outcome ≠ .cancelled
  | .launchFailed _ => outcome ∈ [.succeeded, .notApplicable]
  | .exited _ | .signaled _ => outcome ∈ [.timedOut, .cancelled, .notApplicable]

/-- `MAX_MEDIA_TYPE_BYTES`. -/
def maxMediaTypeBytes : ℕ := 256

/-- The bytes retained of an artifact agree with the bytes observed. -/
def truncationIsValid (artifact : ArtifactRecord) : Bool :=
  match artifact.truncated, artifact.observedBytes with
  | true, some observed => artifact.retainedBytes < observed
  | false, some observed => observed = artifact.retainedBytes
  | false, none => true
  | true, none => false

def kindMaximum (bounds : ExecutionBounds) : ArtifactKind → Option UInt64
  | .stdoutLog => some bounds.maxStdoutBytes
  | .stderrLog => some bounds.maxStderrBytes
  | .runtimeLog => some bounds.maxRuntimeLogBytes
  | .trace => some bounds.maxTraceBytes
  | .compilerOutput | .testReport | .accessibilitySnapshot | .domSnapshot | .apiTranscript
  | .processState | .screenshot | .video | .buildProduct | .auxiliary => none

def validateArtifact (artifact : ArtifactRecord) (bounds : ExecutionBounds) :
    List ValidationViolation :=
  collect [
    report (artifact.mediaType.isEmpty = true) (.emptyMediaType artifact.artifactId),
    report (maxMediaTypeBytes < artifact.mediaType.utf8ByteSize)
      (.mediaTypeTooLong artifact.artifactId (asU64 artifact.mediaType.utf8ByteSize)),
    report (bounds.maxStorageRefBytes.toNat < asU64 artifact.storageRef.value.utf8ByteSize)
      (.storageRefOutOfBounds artifact.artifactId (asU64 artifact.storageRef.value.utf8ByteSize)
        bounds.maxStorageRefBytes.toNat),
    report (truncationIsValid artifact = false) (.invalidArtifactTruncation artifact.artifactId),
    report (bounds.maxArtifactBytes.toNat < artifact.retainedBytes.toNat)
      (.artifactOutOfBounds artifact.artifactId artifact.retainedBytes.toNat
        bounds.maxArtifactBytes.toNat),
    match kindMaximum bounds artifact.kind with
    | none => []
    | some maximum =>
      report (maximum.toNat < artifact.retainedBytes.toNat)
        (.artifactKindOutOfBounds artifact.artifactId artifact.kind artifact.retainedBytes.toNat
          maximum.toNat)]

/-- The bytes of the URL a target is reached at. -/
def targetUrlBytes (target : ExecutionTarget) : Option ℕ :=
  match target.surface with
  | .webPlaywright url => some (asU64 url.text.utf8ByteSize)
  | .apiServer endpoint => some (asU64 endpoint.text.utf8ByteSize)
  | .cli | .tui | .desktopApplication _ _ | .mobileApplication _ => none

end Attempts

end BirdCode.Validation
