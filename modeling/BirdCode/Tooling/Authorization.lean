import BirdCode.Tooling.Results

/-! The decision whether one exact repository call may touch the filesystem. -/
namespace BirdCode.Store

def RepositoryRelativePath.unixComponents : RepositoryRelativePath → List Bytes
  | .unix components => components

def ChildToolOperation.kind : ChildToolOperation → ChildToolKind
  | .repositoryTree .. => .repositoryTree
  | .repositoryFileRead .. => .repositoryFileRead
  | .literalSearch .. => .literalSearch

def RepositoryToolGrant.kind : RepositoryToolGrant → ChildToolKind
  | .repositoryTree .. => .repositoryTree
  | .repositoryFileRead .. => .repositoryFileRead
  | .literalSearch .. => .literalSearch

end BirdCode.Store

namespace BirdCode.Tooling

open Store

section Ceilings

def repositoryToolHardMaxCallsPerBroker : UInt64 := 1000000
def repositoryToolHardMaxPathComponents : UInt32 := 4096
def repositoryToolHardMaxPathBytes : UInt64 := 4 * 1024 * 1024
def repositoryToolHardMaxComponentBytes : UInt64 := 1024 * 1024
def repositoryToolHardMaxReadBytes : UInt64 := 256 * 1024 * 1024
def repositoryToolHardMaxTreeDepth : UInt32 := 256
def repositoryToolHardMaxTreeEntries : UInt32 := 1000000
def repositoryToolHardMaxDirectoryEntriesScanned : UInt32 := 2000000
def repositoryToolHardMaxDirectoryNameBytesScanned : UInt64 := 512 * 1024 * 1024
def repositoryToolHardMaxSearchPatternBytes : UInt64 := 4 * 1024 * 1024
def repositoryToolHardMaxSearchDepth : UInt32 := 256
def repositoryToolHardMaxSearchFiles : UInt32 := 1000000
def repositoryToolHardMaxSearchMatches : UInt32 := 2000000
def repositoryToolHardMaxSearchBytesPerFile : UInt64 := 256 * 1024 * 1024
def repositoryToolHardMaxSearchTotalBytes : UInt64 := 4 * 1024 * 1024 * 1024
def repositoryToolHardMaxArtifactBytes : UInt64 := 64 * 1024 * 1024

end Ceilings

def repositoryToolLimitV2 (limit : RepositoryLimitKindV2) (requested maximum : UInt64)
    (positive : Bool) : Option RepositoryToolAuthorizationDecisionV2 :=
  if positive && requested = 0 then some (.denied (.limitMustBePositive limit))
  else if requested > maximum then some (.denied (.limitExceeded limit requested maximum))
  else none

section Paths

/-- The first of the five rules a component breaks. -/
def componentViolation (component : Bytes) : Option RepositoryPathViolation :=
  if component.isEmpty then some .emptyComponent
  else if component = [0x2e] then some .currentDirectoryComponent
  else if component = [0x2e, 0x2e] then some .parentTraversal
  else if component.contains 0x2f then some .embeddedSeparator
  else if component.contains 0 then some .embeddedNul
  else none

/-- Each component counts its bytes and one separator. -/
def addComponentBytes (total : UInt64) (component : Bytes) : UInt64 :=
  ((checkedAdd total (saturate64 component.length)).bind fun sum => checkedAdd sum 1).getD
    (.ofNat (2 ^ 64 - 1))

/-- The components in wire order, and the whole path last. -/
def pathBytesDecision (maxPathBytes maxComponentBytes : UInt64) :
    List Bytes → ℕ → UInt64 → Option RepositoryToolAuthorizationDecisionV2
  | [], _, total => repositoryToolLimitV2 .pathBytes total maxPathBytes false
  | component :: rest, index, total =>
    match componentViolation component with
    | some violation =>
      some (.denied (.invalidPath violation (some (.ofNat (min index (2 ^ 32 - 1))))))
    | none =>
      repositoryToolLimitV2 .componentBytes (saturate64 component.length) maxComponentBytes false
        <|> pathBytesDecision maxPathBytes maxComponentBytes rest (index + 1)
          (addComponentBytes total component)

def repositoryToolPathDecisionV2 (path : RepositoryRelativePath) (requireFile : Bool)
    (maxComponents : UInt32) (maxPathBytes maxComponentBytes : UInt64) :
    Option RepositoryToolAuthorizationDecisionV2 :=
  if requireFile && path.unixComponents.isEmpty then
    some (.denied (.invalidPath .emptyFilePath none))
  else
    repositoryToolLimitV2 .pathComponents (saturate64 path.unixComponents.length)
      maxComponents.toUInt64 false <|>
    pathBytesDecision maxPathBytes maxComponentBytes path.unixComponents 0 0

end Paths

section Operations

variable (bounds : RepositoryToolBounds)

/-- The path rules, under the narrowest of the hard, broker and grant ceilings. -/
def grantedPathDecision (path : RepositoryRelativePath) (requireFile : Bool)
    (maxPathComponents : UInt32) (maxPathBytes maxComponentBytes : UInt64) :
    Option RepositoryToolAuthorizationDecisionV2 :=
  repositoryToolPathDecisionV2 path requireFile
    (min (min bounds.maxPathComponents maxPathComponents) repositoryToolHardMaxPathComponents)
    (min (min bounds.maxPathBytes maxPathBytes) repositoryToolHardMaxPathBytes)
    (min (min bounds.maxComponentBytes maxComponentBytes) repositoryToolHardMaxComponentBytes)

/-- The rules of one operation under the grant of its kind, in the order of its fields. -/
def operationDecision : ChildToolOperation → RepositoryToolGrant →
    Option RepositoryToolAuthorizationDecisionV2
  | .repositoryTree path maxDepth maxEntries,
    .repositoryTree _ maxPathComponents maxPathBytes maxComponentBytes grantDepth grantEntries =>
    grantedPathDecision bounds path false maxPathComponents maxPathBytes maxComponentBytes <|>
    repositoryToolLimitV2 .treeDepth maxDepth.toUInt64
      (min (min bounds.maxTreeDepth grantDepth) repositoryToolHardMaxTreeDepth).toUInt64 false <|>
    repositoryToolLimitV2 .treeEntries maxEntries.toUInt64
      (min (min bounds.maxTreeEntries grantEntries) repositoryToolHardMaxTreeEntries).toUInt64 true
  | .repositoryFileRead path offsetBytes maxBytes,
    .repositoryFileRead _ maxPathComponents maxPathBytes maxComponentBytes maxOffsetBytes
      grantBytes =>
    grantedPathDecision bounds path true maxPathComponents maxPathBytes maxComponentBytes <|>
    repositoryToolLimitV2 .readOffsetBytes offsetBytes maxOffsetBytes false <|>
    repositoryToolLimitV2 .readBytes maxBytes
      (min (min bounds.maxReadBytes grantBytes) repositoryToolHardMaxReadBytes) true
  | .literalSearch path literal maxDepth maxFiles maxMatches maxBytesPerFile maxTotalBytes,
    .literalSearch _ maxPathComponents maxPathBytes maxComponentBytes maxLiteralBytes grantDepth
      grantFiles grantMatches grantBytesPerFile grantTotalBytes =>
    grantedPathDecision bounds path false maxPathComponents maxPathBytes maxComponentBytes <|>
    (if literal.isEmpty then some (.denied .emptyLiteralPattern) else none) <|>
    repositoryToolLimitV2 .searchPatternBytes (saturate64 literal.utf8ByteSize)
      (min (min bounds.maxSearchPatternBytes maxLiteralBytes)
        repositoryToolHardMaxSearchPatternBytes) false <|>
    repositoryToolLimitV2 .searchDepth maxDepth.toUInt64
      (min (min bounds.maxSearchDepth grantDepth) repositoryToolHardMaxSearchDepth).toUInt64
      false <|>
    repositoryToolLimitV2 .searchFiles maxFiles.toUInt64
      (min (min bounds.maxSearchFiles grantFiles) repositoryToolHardMaxSearchFiles).toUInt64
      true <|>
    repositoryToolLimitV2 .searchMatches maxMatches.toUInt64
      (min (min bounds.maxSearchMatches grantMatches) repositoryToolHardMaxSearchMatches).toUInt64
      true <|>
    repositoryToolLimitV2 .searchBytesPerFile maxBytesPerFile
      (min (min bounds.maxSearchBytesPerFile grantBytesPerFile)
        repositoryToolHardMaxSearchBytesPerFile) true <|>
    repositoryToolLimitV2 .searchTotalBytes maxTotalBytes
      (min (min bounds.maxSearchTotalBytes grantTotalBytes)
        repositoryToolHardMaxSearchTotalBytes) true
  | _, _ => some (.denied .grantIdentityMismatch)

/-- A grant id that an earlier grant of the list has. -/
def duplicateGrantId (grants : List RepositoryToolGrant) : Bool :=
  grants.zipIdx.any fun (grant, index) =>
    (grants.take index).any (·.toolGrantId = grant.toolGrantId)

/-- The one grant of the requested id, of the kind of the operation, in a list without duplicate
ids that has a grant of that kind. -/
def selectGrant (grants : List RepositoryToolGrant)
    (parameters : RepositoryToolCanonicalParameters) :
    Except RepositoryToolAuthorizationDecisionV2 RepositoryToolGrant := do
  let tool := parameters.operation.kind
  ensure (grants.any (·.kind = tool)) (.denied (.toolNotGranted tool))
  ensure (duplicateGrantId grants = false) (.denied .grantIdentityMismatch)
  let grant ← expect (.denied .grantIdentityMismatch)
    (grants.find? (·.toolGrantId = parameters.toolGrantId))
  ensure (grant.kind = tool) (.denied .grantIdentityMismatch)
  return grant

/-- What denies the call, in the order of the contract; the space for an empty result is checked
last. -/
def denyRepositoryTool (base64 : Bytes → String) (grants : List RepositoryToolGrant)
    (parameters : RepositoryToolCanonicalParameters)
    (canonicalParametersSizeBytes brokerCallSequence : UInt64) :
    Option RepositoryToolAuthorizationDecisionV2 :=
  repositoryToolLimitV2 .brokerCalls brokerCallSequence
    (min bounds.maxCallsPerBroker repositoryToolHardMaxCallsPerBroker) true <|>
  repositoryToolLimitV2 .requestBytes canonicalParametersSizeBytes
    (min bounds.maxRequestBytes repositoryToolHardMaxRequestBytes) true <|>
  match selectGrant grants parameters with
  | .error decision => some decision
  | .ok grant =>
    operationDecision bounds parameters.operation grant <|>
    repositoryToolLimitV2 .artifactBytes
      (repositoryToolResultV2PreflightSize base64 parameters.operation)
      (min bounds.maxArtifactBytes repositoryToolHardMaxArtifactBytes) false

def evaluateRepositoryToolAuthorizationV1 (base64 : Bytes → String)
    (grants : List RepositoryToolGrant) (parameters : RepositoryToolCanonicalParameters)
    (canonicalParametersSizeBytes brokerCallSequence : UInt64) :
    RepositoryToolAuthorizationDecisionV2 :=
  (denyRepositoryTool bounds base64 grants parameters canonicalParametersSizeBytes
    brokerCallSequence).getD .authorized

end Operations

end BirdCode.Tooling
