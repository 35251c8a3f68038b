import BirdCode.Store.Records

/-! Content-addressed artifacts, the canonical documents they hold and the bounds the store
puts on text. -/
namespace BirdCode.Store

inductive StoreError
  | database | io | json | invalidArtifactHash | artifactTooLarge | artifactReferenceBudget
  | artifactIntegrity | sequenceOverflow | eventTooLarge | invalidStateEvent
  | identifiedEventConflict
  deriving DecidableEq

/-- `serde_json::Value`, by its canonical text. -/
structure Value where
  text : String
  deriving DecidableEq

def Value.isNull (value : Value) : Bool := value.text = "null"

def maxArtifactBytes : ℕ := 64 * 1024 * 1024
def maxEventArtifactRefs : ℕ := 32
def maxEventReferencedArtifactBytes : ℕ := 128 * 1024 * 1024

def childReconnaissanceContractVersion : UInt32 := 1
def repositoryBrokerContractVersion : UInt32 := 2
def childReconnaissanceMaxAttempts : UInt32 := 3
def childReconnaissanceMaxModelCallsPerAttempt : UInt32 := 64
def childReconnaissanceMaxToolCallsPerAttempt : UInt32 := 64
def childReconnaissanceMaxOutputTokensPerModelCall : UInt64 := 16384
def childReconnaissanceMaxContextEvents : ℕ := 64
def childReconnaissanceMaxContextArtifacts : ℕ := 16
def childReconnaissanceMaxPlanSteps : ℕ := 64
def childReconnaissanceMaxPlanAssumptions : ℕ := 32
def childReconnaissanceMaxPlanUnknowns : ℕ := 32
def childReconnaissanceMaxFindings : ℕ := 64
def childReconnaissanceMaxEvidenceBindings : ℕ := 32
def childReconnaissanceMaxUnresolvedQuestions : ℕ := 32
def childReconnaissanceMaxRecommendedFollowups : ℕ := 32
def childReconnaissanceMaxIdentifierUnicodeScalars : ℕ := 128
def childReconnaissanceMaxTextUnicodeScalars : ℕ := 32 * 1024
def childReconnaissanceMaxTextBytes : ℕ := 32 * 1024
def childReconnaissanceMaxLiteralBytes : ℕ := 64 * 1024
def childReconnaissanceMaxModelArtifactBytes : UInt64 := 4 * 1024 * 1024
def childRepositoryExplorerV1MaxRawInputBytes : UInt64 := 2 * 1024 * 1024
def repositoryToolHardMaxRequestBytes : UInt64 := 16 * 1024 * 1024
def repositoryToolHardMaxTerminalReceiptBytes : UInt64 := 256 * 1024

def childWorkOrderMediaType := "application/vnd.birdcode.child-work-order+json"
def childContextManifestMediaType := "application/vnd.birdcode.child-context-manifest+json"
def childModelPromptManifestMediaType :=
  "application/vnd.birdcode.child-model-prompt-manifest+json"
def childModelPromptMediaType := "application/vnd.birdcode.child-model-prompt+json"
def childModelRequestMediaType := "application/vnd.birdcode.child-model-request+json"
def childModelEvidenceMediaType := "application/vnd.birdcode.child-model-evidence+json"
def childModelUnknownMediaType := "application/vnd.birdcode.child-model-unknown+json"
def childValidatedActionMediaType := "application/vnd.birdcode.child-validated-action.v1+json"
def repositoryToolCanonicalParametersMediaType :=
  "application/vnd.birdcode.repository-tool-call.v1+json"
def repositoryToolPreparedReceiptMediaType :=
  "application/vnd.birdcode.repository-tool-prepared-receipt.v1+json"
def childToolEvidenceMediaType :=
  "application/vnd.birdcode.repository-tool-observed-receipt.v1+json"
def childToolUnknownMediaType :=
  "application/vnd.birdcode.repository-tool-unknown-receipt.v1+json"
def repositoryToolPreparedReceiptV2MediaType :=
  "application/vnd.birdcode.repository-tool-prepared-receipt.v2+json"
def repositoryToolCanonicalParametersV2MediaType :=
  "application/vnd.birdcode.repository-tool-call.v2+json"
def repositoryToolObservedReceiptV2MediaType :=
  "application/vnd.birdcode.repository-tool-observed-receipt.v2+json"
def repositoryToolUnknownReceiptV2MediaType :=
  "application/vnd.birdcode.repository-tool-unknown-receipt.v2+json"
def repositoryToolResultV2MediaType := "application/vnd.birdcode.repository-tool-result.v2+json"
def repositoryToolFailureEvidenceV2MediaType :=
  "application/vnd.birdcode.repository-tool-failure-evidence.v2+json"
def repositoryToolDenialEvidenceV2MediaType :=
  "application/vnd.birdcode.repository-tool-denial-evidence.v2+json"
def repositoryToolUnknownEvidenceV2MediaType :=
  "application/vnd.birdcode.repository-tool-unknown-evidence.v2+json"
def repositoryToolFailureMediaType := "application/vnd.birdcode.repository-tool-failure.v1+json"
def repositoryToolUnknownMediaType := "application/vnd.birdcode.repository-tool-unknown.v1+json"
def childHandoffMediaType := "application/vnd.birdcode.child-handoff+json"
def childExecutionFailureMediaType := "application/vnd.birdcode.child-execution-failure.v1+json"

def childRepositoryToolPreparationProducer :=
  "birdcode-store-child-repository-tool-preparation-v1"
def childToolDispatchStartProducer :=
  "birdcode-store-child-repository-tool-dispatch-start-v1"
def childToolObservedProducer := "birdcode-store-child-repository-tool-observed-v1"

/-- The `serde_json` wire of one document type. -/
structure Codec (T : Type) where
  fromSlice : Bytes → Option T
  toVec : T → Option Bytes

/-- The directory of content-addressed files, by the hash that names each file, and the hash
itself. -/
structure ArtifactRoot where
  file : String → Option Bytes
  sha256Hex : Bytes → String

def digestMatchesArtifact (digest : Sha256Digest) (artifact : ArtifactRef) : Bool :=
  digest.value = artifact.sha256

def boundedNonemptyText (value : String) (maximum : ℕ) : Bool :=
  !value.isEmpty && value.utf8ByteSize ≤ maximum

def boundedNonemptyUnicodeScalars (value : String) (maximum : ℕ) : Bool :=
  !value.isEmpty && value.length ≤ maximum

def boundedIdentifier (value : String) : Bool :=
  boundedNonemptyUnicodeScalars value childReconnaissanceMaxIdentifierUnicodeScalars

def boundedText (value : String) : Bool :=
  boundedNonemptyUnicodeScalars value childReconnaissanceMaxTextUnicodeScalars

section Reading

variable {T : Type} (root : ArtifactRoot)

/-- The size is read from the file before its bytes, which are then checked against the size
and the hash of the reference. -/
def readVerifiedArtifact (artifact : ArtifactRef) : Except StoreError Bytes := do
  ensure (validSha256 artifact.sha256) .invalidArtifactHash
  ensure (artifact.sizeBytes.toNat ≤ maxArtifactBytes) .artifactTooLarge
  let bytes ← expect .io (root.file artifact.sha256)
  ensure (bytes.length ≤ maxArtifactBytes) .artifactTooLarge
  ensure (bytes.length = artifact.sizeBytes.toNat) .artifactIntegrity
  ensure (root.sha256Hex bytes = artifact.sha256) .artifactIntegrity
  return bytes

def verifyArtifactAtRoot (artifact : ArtifactRef) : Except StoreError Unit := do
  let _ ← readVerifiedArtifact root artifact

def requireArtifactMediaType (artifact : ArtifactRef) (expected : String) :
    Except StoreError Unit :=
  ensure (artifact.mediaType = expected) .invalidStateEvent

def readCanonicalJsonArtifactWithBytes (codec : Codec T) (artifact : ArtifactRef)
    (expectedMediaType : String) : Except StoreError (T × Bytes) := do
  requireArtifactMediaType artifact expectedMediaType
  let bytes ← readVerifiedArtifact root artifact
  let value ← expect .invalidStateEvent (codec.fromSlice bytes)
  let canonical ← expect .invalidStateEvent (codec.toVec value)
  ensure (canonical = bytes) .invalidStateEvent
  return (value, bytes)

def readCanonicalJsonArtifact (codec : Codec T) (artifact : ArtifactRef)
    (expectedMediaType : String) : Except StoreError T := do
  let read ← readCanonicalJsonArtifactWithBytes root codec artifact expectedMediaType
  return read.1

/-- `Sha256Digest::parse(sha256_hex(bytes))`. -/
def digestOf (bytes : Bytes) : Except StoreError Sha256Digest :=
  if h : validSha256 (root.sha256Hex bytes) = true then .ok ⟨root.sha256Hex bytes, h⟩
  else .error .invalidStateEvent

/-- `decode_repository_tool_evidence_v2`: a small canonical document. -/
def decodeRepositoryToolEvidenceV2 (codec : Codec T) (bytes : Bytes) : Except StoreError T := do
  ensure (bytes.length ≤ repositoryToolHardMaxTerminalReceiptBytes.toNat) .invalidStateEvent
  let evidence ← expect .invalidStateEvent (codec.fromSlice bytes)
  let canonical ← expect .invalidStateEvent (codec.toVec evidence)
  ensure (canonical = bytes) .invalidStateEvent
  return evidence

def readRepositoryToolEvidenceV2 (codec : Codec T) (artifact : ArtifactRef)
    (expectedMediaType : String) : Except StoreError T := do
  requireArtifactMediaType artifact expectedMediaType
  let bytes ← readVerifiedArtifact root artifact
  decodeRepositoryToolEvidenceV2 codec bytes

end Reading

/-- `ArtifactValidationCost`: each distinct reference is charged once. -/
structure ArtifactValidationCost where
  references : ℕ := 0
  bytes : ℕ := 0
  identities : List ArtifactRef := []

/-- Both counters are checked: `u32` references and `u64` bytes. -/
def ArtifactValidationCost.add (cost : ArtifactValidationCost) (artifact : ArtifactRef) :
    Except StoreError ArtifactValidationCost :=
  if artifact ∈ cost.identities then .ok cost
  else do
    ensure (cost.references + 1 < 2 ^ 32) .artifactReferenceBudget
    ensure (cost.bytes + artifact.sizeBytes.toNat < 2 ^ 64) .artifactReferenceBudget
    return ⟨cost.references + 1, cost.bytes + artifact.sizeBytes.toNat,
      artifact :: cost.identities⟩

def ArtifactValidationCost.enforceEventLimit (cost : ArtifactValidationCost) :
    Except StoreError Unit :=
  ensure (cost.references ≤ maxEventArtifactRefs ∧
    cost.bytes ≤ maxEventReferencedArtifactBytes) .artifactReferenceBudget

section Facts

variable {T : Type} {root : ArtifactRoot} {codec : Codec T} {artifact : ArtifactRef}
  {mediaType : String} {value : T} {bytes : Bytes}

@[simp] theorem verifyArtifactAtRoot_eq_ok :
    verifyArtifactAtRoot root artifact = .ok () ↔
      ∃ bytes, readVerifiedArtifact root artifact = .ok bytes := by
  unfold verifyArtifactAtRoot
  rw [bind_eq_ok]
  constructor
  · rintro ⟨bytes, h, -⟩
    exact ⟨bytes, h⟩
  · rintro ⟨bytes, h⟩
    exact ⟨bytes, h, rfl⟩

theorem readVerifiedArtifact_eq_ok :
    readVerifiedArtifact root artifact = .ok bytes ↔
      validSha256 artifact.sha256 = true ∧ bytes.length ≤ maxArtifactBytes ∧
      root.file artifact.sha256 = some bytes ∧ bytes.length = artifact.sizeBytes.toNat ∧
      root.sha256Hex bytes = artifact.sha256 := by
  simp only [readVerifiedArtifact, bind_eq_ok, ensure_eq_ok, expect_eq_ok]
  constructor
  · rintro ⟨-, hvalid, -, -, read, hfile, -, hmax, -, hsize, -, hhash, hread⟩
    cases hread
    exact ⟨hvalid, hmax, hfile, hsize, hhash⟩
  · rintro ⟨hvalid, hmax, hfile, hsize, hhash⟩
    exact ⟨(), hvalid, (), hsize ▸ hmax, bytes, hfile, (), hmax, (), hsize, (), hhash, rfl⟩

theorem readCanonicalJsonArtifactWithBytes_eq_ok :
    readCanonicalJsonArtifactWithBytes root codec artifact mediaType = .ok (value, bytes) ↔
      artifact.mediaType = mediaType ∧ readVerifiedArtifact root artifact = .ok bytes ∧
        codec.fromSlice bytes = some value ∧ codec.toVec value = some bytes := by
  simp only [readCanonicalJsonArtifactWithBytes, requireArtifactMediaType, bind_eq_ok,
    ensure_eq_ok, expect_eq_ok]
  constructor
  · rintro ⟨-, hmedia, read, hread, decoded, hdecode, canonical, hencode, -, heq, hpair⟩
    cases hpair
    exact ⟨hmedia, hread, hdecode, heq ▸ hencode⟩
  · rintro ⟨hmedia, hread, hdecode, hencode⟩
    exact ⟨(), hmedia, bytes, hread, value, hdecode, bytes, hencode, (), rfl, rfl⟩

theorem readCanonicalJsonArtifact_eq_ok :
    readCanonicalJsonArtifact root codec artifact mediaType = .ok value ↔
      ∃ bytes, readCanonicalJsonArtifactWithBytes root codec artifact mediaType =
        .ok (value, bytes) := by
  unfold readCanonicalJsonArtifact
  rw [bind_eq_ok]
  constructor
  · rintro ⟨⟨read, bytes⟩, hread, hvalue⟩
    cases hvalue
    exact ⟨bytes, hread⟩
  · rintro ⟨bytes, hread⟩
    exact ⟨(value, bytes), hread, rfl⟩

end Facts

end BirdCode.Store
