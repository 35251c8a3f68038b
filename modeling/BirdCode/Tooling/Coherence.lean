import BirdCode.Tooling.Authorization

/-! Whether a result answers its operation, and the canonical bytes of results and evidence. -/
namespace BirdCode.Tooling

open Store

section Coherence

/-- `slice.windows(2).all(..)`. -/
def adjacentAll {T : Type} (rule : T → T → Bool) (items : List T) : Bool :=
  (items.zip items.tail).all fun (first, second) => rule first second

def pathBefore (first second : RepositoryRelativePath) : Bool :=
  first.unixComponents < second.unixComponents

def pathHasPrefixWithDepth (path base : RepositoryRelativePath) (maxDepth : UInt32) : Bool :=
  base.unixComponents.isPrefixOf path.unixComponents &&
    path.unixComponents.length > base.unixComponents.length &&
    path.unixComponents.length - base.unixComponents.length ≤ maxDepth.toNat

def RepositoryToolResultV2.mechanicallyMatchesOperation :
    RepositoryToolResultV2 Bytes → ChildToolOperation → Bool
  | .repositoryTree _, .repositoryTree .. => true
  | .literalSearch _, .literalSearch .. => true
  | .repositoryFileRead result, .repositoryFileRead path offsetBytes maxBytes =>
    result.path = path && result.offsetBytes = offsetBytes &&
      saturate64 result.bytes.length ≤ maxBytes
  | _, _ => false

def treeIsCoherent (bounds : RepositoryToolBounds) (path : RepositoryRelativePath)
    (maxDepth maxEntries : UInt32) (result : RepositoryTreeResult) : Bool :=
  result.entries.length ≤ maxEntries.toNat &&
    result.directoryEntriesScanned ≤ bounds.maxDirectoryEntriesScanned.toUInt64 &&
    result.directoryNameBytesScanned ≤ bounds.maxDirectoryNameBytesScanned &&
    adjacentAll (fun first second => pathBefore first.path second.path)
      result.entries &&
    result.entries.all fun entry =>
      pathHasPrefixWithDepth entry.path path maxDepth &&
        match entry.kind with
        | .regularFile => entry.byteLen.isSome
        | _ => entry.byteLen.isNone

def readIsCoherent (offsetBytes maxBytes : UInt64) (result : RepositoryReadFileResultV2 Bytes) :
    Bool :=
  let bytes := saturate64 result.bytes.length
  result.offsetBytes = offsetBytes && result.offsetBytes ≤ result.fileByteLen &&
    bytes ≤ maxBytes && saturatingAdd64 result.offsetBytes bytes ≤ result.fileByteLen &&
    result.truncated = decide (saturatingAdd64 result.offsetBytes bytes < result.fileByteLen)

/-- `try_fold(0, checked_add)`. -/
def scanBytes (scans : List RepositoryLiteralFileScan) : Option UInt64 :=
  scans.foldlM (fun total scan => checkedAdd total scan.bytesScanned) 0

def searchIsCoherent (bounds : RepositoryToolBounds) (path : RepositoryRelativePath)
    (literal : String) (maxDepth maxFiles maxMatches : UInt32)
    (maxBytesPerFile maxTotalBytes : UInt64) (result : RepositoryLiteralSearchResult) : Bool :=
  result.fileScans.length ≤ maxFiles.toNat && result.foundMatches.length ≤ maxMatches.toNat &&
    result.filesScanned = saturate64 result.fileScans.length &&
    scanBytes result.fileScans = some result.bytesScanned &&
    result.bytesScanned ≤ maxTotalBytes &&
    result.directoryEntriesScanned ≤ bounds.maxDirectoryEntriesScanned.toUInt64 &&
    result.directoryNameBytesScanned ≤ bounds.maxDirectoryNameBytesScanned &&
    adjacentAll (fun first second => pathBefore first.path second.path)
      result.fileScans &&
    (result.fileScans.all fun scan =>
      pathHasPrefixWithDepth scan.path path maxDepth && scan.bytesScanned ≤ maxBytesPerFile &&
        scan.bytesScanned ≤ scan.fileByteLen &&
        scan.truncated = decide (scan.bytesScanned < scan.fileByteLen)) &&
    adjacentAll (fun first second => pathBefore first.path second.path ||
      (first.path = second.path && first.byteOffset < second.byteOffset)) result.foundMatches &&
    result.foundMatches.all fun found =>
      (result.fileScans.find? (·.path = found.path)).any fun scan =>
        (checkedAdd found.byteOffset (saturate64 literal.utf8ByteSize)).any
          (· ≤ scan.bytesScanned)

def resultIsCoherent (operation : ChildToolOperation) (result : RepositoryToolResultV2 Bytes)
    (bounds : RepositoryToolBounds) : Bool :=
  result.mechanicallyMatchesOperation operation &&
    match operation, result with
    | .repositoryTree path maxDepth maxEntries, .repositoryTree result =>
      treeIsCoherent bounds path maxDepth maxEntries result
    | .repositoryFileRead _ offsetBytes maxBytes, .repositoryFileRead result =>
      readIsCoherent offsetBytes maxBytes result
    | .literalSearch path literal maxDepth maxFiles maxMatches maxBytesPerFile maxTotalBytes,
      .literalSearch result =>
      searchIsCoherent bounds path literal maxDepth maxFiles maxMatches maxBytesPerFile
        maxTotalBytes result
    | _, _ => false

end Coherence

section Codecs

/-- What the broker takes from other packages: the hash, the text of a time, base64, and the
reading of JSON text into a document of one type. -/
structure Platform where
  sha256 : Bytes → Sha256Digest
  rfc3339 : DateTime → String
  base64 : Bytes → String
  fromBase64 : String → Option Bytes
  readParameters : Bytes → Option RepositoryToolCanonicalParameters
  readResult : Bytes → Option (RepositoryToolResultV2 String)
  readFailureEvidence : Bytes → Option RepositoryToolFailureEvidence
  readDenialEvidence : Bytes → Option RepositoryToolDenialEvidence
  readUnknownEvidence : Bytes → Option RepositoryToolUnknownEvidence

inductive ArtifactCodecError
  | canonicalEncoding
  | nonCanonicalEncoding
  | artifactTooLarge (actual maximum : UInt64)
  deriving DecidableEq

/-- Canonical bytes within a ceiling. -/
def encodeWithin (maximum : UInt64) (bytes : Bytes) : Except ArtifactCodecError Bytes := do
  let actual := saturate64 bytes.length
  ensure (actual ≤ maximum) (.artifactTooLarge actual maximum)
  return bytes

/-- Bytes within a ceiling that are the canonical bytes of what is read from them. -/
def decodeWithin {T : Type} (maximum : UInt64) (read : Bytes → Option T) (write : T → Bytes)
    (bytes : Bytes) : Except ArtifactCodecError T := do
  let actual := saturate64 bytes.length
  ensure (actual ≤ maximum) (.artifactTooLarge actual maximum)
  let value ← expect .canonicalEncoding (read bytes)
  ensure (write value = bytes) .nonCanonicalEncoding
  return value

variable (platform : Platform)

/-- `canonical_repository_result_base64::MAX_ENCODED_BYTES`. -/
def maxEncodedBytes : ℕ := (repositoryToolHardMaxArtifactBytes.toNat + 2) / 3 * 4

/-- `canonical_repository_result_base64::deserialize`. -/
def deserializeBase64 (encoded : String) : Option Bytes :=
  if encoded.utf8ByteSize > maxEncodedBytes then none
  else (platform.fromBase64 encoded).filter fun bytes => platform.base64 bytes = encoded

def deserializeResult : RepositoryToolResultV2 String → Option (RepositoryToolResultV2 Bytes)
  | .repositoryTree result => some (.repositoryTree result)
  | .repositoryFileRead result => (deserializeBase64 platform result.bytes).map fun bytes =>
      .repositoryFileRead { result with bytes }
  | .literalSearch result => some (.literalSearch result)

def resultBytes (result : RepositoryToolResultV2 Bytes) : Bytes :=
  (result.map platform.base64).json

def encodeRepositoryToolResultV2 (result : RepositoryToolResultV2 Bytes) :
    Except ArtifactCodecError Bytes :=
  encodeWithin repositoryToolHardMaxArtifactBytes (resultBytes platform result)

def decodeRepositoryToolResultV2 (bytes : Bytes) :
    Except ArtifactCodecError (RepositoryToolResultV2 Bytes) :=
  decodeWithin repositoryToolHardMaxArtifactBytes
    (fun bytes => (platform.readResult bytes).bind (deserializeResult platform))
    (resultBytes platform) bytes

def encodeRepositoryToolEvidenceV2 (bytes : Bytes) : Except ArtifactCodecError Bytes :=
  encodeWithin repositoryToolHardMaxTerminalReceiptBytes bytes

def decodeRepositoryToolFailureEvidenceV2 (bytes : Bytes) :
    Except ArtifactCodecError RepositoryToolFailureEvidence :=
  decodeWithin repositoryToolHardMaxTerminalReceiptBytes platform.readFailureEvidence
    RepositoryToolFailureEvidence.json bytes

def decodeRepositoryToolDenialEvidenceV2 (bytes : Bytes) :
    Except ArtifactCodecError RepositoryToolDenialEvidence :=
  decodeWithin repositoryToolHardMaxTerminalReceiptBytes platform.readDenialEvidence
    RepositoryToolDenialEvidence.json bytes

def decodeRepositoryToolUnknownEvidenceV2 (bytes : Bytes) :
    Except ArtifactCodecError RepositoryToolUnknownEvidence :=
  decodeWithin repositoryToolHardMaxTerminalReceiptBytes platform.readUnknownEvidence
    RepositoryToolUnknownEvidence.json bytes

end Codecs

end BirdCode.Tooling
