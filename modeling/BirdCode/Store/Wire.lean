import BirdCode.Lib.Json
import BirdCode.Store.ChildDocuments

/-! The compact JSON of the records the repository broker retains, as `serde` derives it. -/
namespace BirdCode.Store

open Lib

section Identities

def hexDigits (count value : ℕ) : Bytes :=
  (List.range count).reverse.map fun place => Json.hexDigit (value / 16 ^ place % 16)

/-- The hyphenated form of a UUID. -/
def uuidText {kind : IdKind} (id : UuidId kind) : Bytes :=
  let value := id.uuid.val
  0x22 :: hexDigits 8 (value / 16 ^ 24) ++ 0x2d :: hexDigits 4 (value / 16 ^ 20) ++
    0x2d :: hexDigits 4 (value / 16 ^ 16) ++ 0x2d :: hexDigits 4 (value / 16 ^ 12) ++
    0x2d :: hexDigits 12 value ++ [0x22]

def u64 (value : UInt64) : Bytes := Json.natural value.toNat

def u32 (value : UInt32) : Bytes := Json.natural value.toNat

def i64 (value : Int64) : Bytes := Json.integer value.toInt

def i32 (value : Int32) : Bytes := Json.integer value.toInt

def digestText (digest : Sha256Digest) : Bytes := Json.string digest.value

def byteArray (bytes : Bytes) : Bytes := Json.array (bytes.map fun byte => Json.natural byte.toNat)

end Identities

section Records

def ArtifactRef.json (artifact : ArtifactRef) : Bytes :=
  Json.object [("sha256", Json.string artifact.sha256), ("size_bytes", u64 artifact.sizeBytes),
    ("media_type", Json.string artifact.mediaType)]

def RepositoryBrokerClock.json (clock : RepositoryBrokerClock) : Bytes :=
  Json.object [("broker_instance_id", uuidText clock.brokerInstanceId),
    ("monotonic_nanos", u64 clock.monotonicNanos)]

def RuntimeClockReading.json (rfc3339 : DateTime → String) (clock : RuntimeClockReading) :
    Bytes :=
  Json.object [("runtime_instance_id", uuidText clock.runtimeInstanceId),
    ("monotonic_nanos", u64 clock.monotonicNanos),
    ("observed_at", Json.string (rfc3339 clock.observedAt))]

def ChildCancellationCause.json (cause : ChildCancellationCause) : Bytes :=
  Json.object [("request_event_id", uuidText cause.requestEventId),
    ("request_id", uuidText cause.requestId),
    ("cancellation_generation", u64 cause.cancellationGeneration)]

def ChildExecutionBinding.json (binding : ChildExecutionBinding) : Bytes :=
  Json.object [("work_order_id", uuidText binding.workOrderId),
    ("execution_id", uuidText binding.executionId), ("attempt_id", uuidText binding.attemptId),
    ("child_actor_id", uuidText binding.childActorId), ("context_id", uuidText binding.contextId),
    ("work_order_digest", digestText binding.workOrderDigest),
    ("context_manifest_digest", digestText binding.contextManifestDigest)]

def ChildLocalPlanBinding.json (plan : ChildLocalPlanBinding) : Bytes :=
  Json.object [("plan_id", uuidText plan.planId), ("revision", u64 plan.revision),
    ("plan_digest", digestText plan.planDigest)]

def ChildValidatedActionBinding.json (action : ChildValidatedActionBinding) : Bytes :=
  Json.object [("action_id", uuidText action.actionId),
    ("source_model_call_id", uuidText action.sourceModelCallId),
    ("source_model_call_ordinal", u32 action.sourceModelCallOrdinal),
    ("source_model_observed_event_id", uuidText action.sourceModelObservedEventId),
    ("source_model_evidence_digest", digestText action.sourceModelEvidenceDigest),
    ("source_plan", ChildLocalPlanBinding.json action.sourcePlan),
    ("active_plan_step_id", Json.option Json.string action.activePlanStepId),
    ("completion_handoff_id", Json.option uuidText action.completionHandoffId),
    ("validated_action_artifact", ArtifactRef.json action.validatedActionArtifact),
    ("validated_action_digest", digestText action.validatedActionDigest)]

def RepositoryRelativePath.json : RepositoryRelativePath → Bytes
  | .unix components => Json.object [("platform", Json.string "unix"),
      ("components", Json.array (components.map byteArray))]

def ChildToolOperation.json : ChildToolOperation → Bytes
  | .repositoryTree path maxDepth maxEntries =>
    Json.object [("tool", Json.string "repository_tree"),
      ("path", RepositoryRelativePath.json path), ("max_depth", u32 maxDepth),
      ("max_entries", u32 maxEntries)]
  | .repositoryFileRead path offsetBytes maxBytes =>
    Json.object [("tool", Json.string "repository_file_read"),
      ("path", RepositoryRelativePath.json path), ("offset_bytes", u64 offsetBytes),
      ("max_bytes", u64 maxBytes)]
  | .literalSearch path literal maxDepth maxFiles maxMatches maxBytesPerFile maxTotalBytes =>
    Json.object [("tool", Json.string "literal_search"),
      ("path", RepositoryRelativePath.json path), ("literal_utf8", Json.string literal),
      ("max_depth", u32 maxDepth), ("max_files", u32 maxFiles), ("max_matches", u32 maxMatches),
      ("max_bytes_per_file", u64 maxBytesPerFile), ("max_total_bytes", u64 maxTotalBytes)]

def RepositoryFileIdentity.json (identity : RepositoryFileIdentity) : Bytes :=
  Json.object [("platform", Json.string "unix"),
    ("identity", Json.object [("device", u64 identity.device), ("inode", u64 identity.inode),
      ("byte_len", i64 identity.byteLen), ("modified_seconds", i64 identity.modifiedSeconds),
      ("modified_nanoseconds", i64 identity.modifiedNanoseconds),
      ("changed_seconds", i64 identity.changedSeconds),
      ("changed_nanoseconds", i64 identity.changedNanoseconds)])]

/-- A lease has one mode. -/
def RepositorySnapshotLeaseBinding.json (lease : RepositorySnapshotLeaseBinding) : Bytes :=
  Json.object [("lease_id", uuidText lease.leaseId),
    ("mode", Json.string "mac_os_cooperative_quiesced_read_only_disk_image"),
    ("lease_artifact", ArtifactRef.json lease.leaseArtifact),
    ("lease_digest", digestText lease.leaseDigest)]

def RepositorySnapshotBinding.json (snapshot : RepositorySnapshotBinding) : Bytes :=
  Json.object [("snapshot_id", Json.string snapshot.snapshotId),
    ("declared_snapshot_digest", digestText snapshot.declaredSnapshotDigest),
    ("immutability_lease", RepositorySnapshotLeaseBinding.json snapshot.immutabilityLease)]

def RepositoryRootBinding.json (root : RepositoryRootBinding) : Bytes :=
  Json.object [("repository_root_id", Json.string root.repositoryRootId),
    ("descriptor_identity", RepositoryFileIdentity.json root.descriptorIdentity)]

def RepositoryToolBounds.json (bounds : RepositoryToolBounds) : Bytes :=
  Json.object [("max_calls_per_broker", u64 bounds.maxCallsPerBroker),
    ("max_request_bytes", u64 bounds.maxRequestBytes),
    ("max_path_components", u32 bounds.maxPathComponents),
    ("max_path_bytes", u64 bounds.maxPathBytes),
    ("max_component_bytes", u64 bounds.maxComponentBytes),
    ("max_read_bytes", u64 bounds.maxReadBytes), ("max_tree_depth", u32 bounds.maxTreeDepth),
    ("max_tree_entries", u32 bounds.maxTreeEntries),
    ("max_directory_entries_scanned", u32 bounds.maxDirectoryEntriesScanned),
    ("max_directory_name_bytes_scanned", u64 bounds.maxDirectoryNameBytesScanned),
    ("max_search_pattern_bytes", u64 bounds.maxSearchPatternBytes),
    ("max_search_depth", u32 bounds.maxSearchDepth),
    ("max_search_files", u32 bounds.maxSearchFiles),
    ("max_search_matches", u32 bounds.maxSearchMatches),
    ("max_search_bytes_per_file", u64 bounds.maxSearchBytesPerFile),
    ("max_search_total_bytes", u64 bounds.maxSearchTotalBytes),
    ("max_artifact_bytes", u64 bounds.maxArtifactBytes)]

def RepositoryToolGrant.json : RepositoryToolGrant → Bytes
  | .repositoryTree id maxPathComponents maxPathBytes maxComponentBytes maxDepth maxEntries =>
    Json.object [("tool", Json.string "repository_tree"), ("tool_grant_id", uuidText id),
      ("max_path_components", u32 maxPathComponents), ("max_path_bytes", u64 maxPathBytes),
      ("max_component_bytes", u64 maxComponentBytes), ("max_depth", u32 maxDepth),
      ("max_entries", u32 maxEntries)]
  | .repositoryFileRead id maxPathComponents maxPathBytes maxComponentBytes maxOffsetBytes
      maxBytes =>
    Json.object [("tool", Json.string "repository_file_read"), ("tool_grant_id", uuidText id),
      ("max_path_components", u32 maxPathComponents), ("max_path_bytes", u64 maxPathBytes),
      ("max_component_bytes", u64 maxComponentBytes), ("max_offset_bytes", u64 maxOffsetBytes),
      ("max_bytes", u64 maxBytes)]
  | .literalSearch id maxPathComponents maxPathBytes maxComponentBytes maxLiteralBytes maxDepth
      maxFiles maxMatches maxBytesPerFile maxTotalBytes =>
    Json.object [("tool", Json.string "literal_search"), ("tool_grant_id", uuidText id),
      ("max_path_components", u32 maxPathComponents), ("max_path_bytes", u64 maxPathBytes),
      ("max_component_bytes", u64 maxComponentBytes), ("max_literal_bytes", u64 maxLiteralBytes),
      ("max_depth", u32 maxDepth), ("max_files", u32 maxFiles), ("max_matches", u32 maxMatches),
      ("max_bytes_per_file", u64 maxBytesPerFile), ("max_total_bytes", u64 maxTotalBytes)]

abbrev RepositoryToolReceiptAuthorityV2 :=
  RepositoryToolReceiptAuthority (List RepositoryToolGrant)

def RepositoryToolReceiptAuthorityV2.json (authority : RepositoryToolReceiptAuthorityV2) : Bytes :=
  Json.object [("policy_id", Json.string authority.policyId),
    ("policy_artifact", ArtifactRef.json authority.policyArtifact),
    ("policy_digest", digestText authority.policyDigest),
    ("snapshot", RepositorySnapshotBinding.json authority.snapshot),
    ("root", RepositoryRootBinding.json authority.root),
    ("broker_bounds", RepositoryToolBounds.json authority.brokerBounds),
    ("tool_grants", Json.array (authority.toolGrants.map RepositoryToolGrant.json))]

end Records

section Decisions

def ChildToolKind.name : ChildToolKind → String
  | .repositoryTree => "repository_tree"
  | .repositoryFileRead => "repository_file_read"
  | .literalSearch => "literal_search"

def RepositoryPathViolation.name : RepositoryPathViolation → String
  | .emptyComponent => "empty_component"
  | .currentDirectoryComponent => "current_directory_component"
  | .parentTraversal => "parent_traversal"
  | .embeddedSeparator => "embedded_separator"
  | .embeddedNul => "embedded_nul"
  | .emptyFilePath => "empty_file_path"

def RepositoryLimitKind.name : RepositoryLimitKind → String
  | .brokerCalls => "broker_calls"
  | .requestBytes => "request_bytes"
  | .pathComponents => "path_components"
  | .pathBytes => "path_bytes"
  | .componentBytes => "component_bytes"
  | .readBytes => "read_bytes"
  | .treeDepth => "tree_depth"
  | .treeEntries => "tree_entries"
  | .directoryEntriesScanned => "directory_entries_scanned"
  | .directoryNameBytesScanned => "directory_name_bytes_scanned"
  | .searchPatternBytes => "search_pattern_bytes"
  | .searchDepth => "search_depth"
  | .searchFiles => "search_files"
  | .searchMatches => "search_matches"
  | .searchBytesPerFile => "search_bytes_per_file"
  | .searchTotalBytes => "search_total_bytes"
  | .artifactBytes => "artifact_bytes"

def RepositoryLimitKindV2.name : RepositoryLimitKindV2 → String
  | .brokerCalls => "broker_calls"
  | .requestBytes => "request_bytes"
  | .pathComponents => "path_components"
  | .pathBytes => "path_bytes"
  | .componentBytes => "component_bytes"
  | .readOffsetBytes => "read_offset_bytes"
  | .readBytes => "read_bytes"
  | .treeDepth => "tree_depth"
  | .treeEntries => "tree_entries"
  | .directoryEntriesScanned => "directory_entries_scanned"
  | .directoryNameBytesScanned => "directory_name_bytes_scanned"
  | .searchPatternBytes => "search_pattern_bytes"
  | .searchDepth => "search_depth"
  | .searchFiles => "search_files"
  | .searchMatches => "search_matches"
  | .searchBytesPerFile => "search_bytes_per_file"
  | .searchTotalBytes => "search_total_bytes"
  | .artifactBytes => "artifact_bytes"

def RepositoryToolPreparationDenialV2.json : RepositoryToolPreparationDenialV2 → Bytes
  | .toolNotGranted tool =>
    Json.object [("reason", Json.string "tool_not_granted"),
      ("tool", Json.string (ChildToolKind.name tool))]
  | .grantIdentityMismatch => Json.object [("reason", Json.string "grant_identity_mismatch")]
  | .invalidPath violation componentIndex =>
    Json.object [("reason", Json.string "invalid_path"),
      ("violation", Json.string (RepositoryPathViolation.name violation)),
      ("component_index", Json.option u32 componentIndex)]
  | .limitExceeded limit requested maximum =>
    Json.object [("reason", Json.string "limit_exceeded"),
      ("limit", Json.string (RepositoryLimitKindV2.name limit)), ("requested", u64 requested),
      ("maximum", u64 maximum)]
  | .limitMustBePositive limit =>
    Json.object [("reason", Json.string "limit_must_be_positive"),
      ("limit", Json.string (RepositoryLimitKindV2.name limit))]
  | .emptyLiteralPattern => Json.object [("reason", Json.string "empty_literal_pattern")]

def RepositoryToolAuthorizationDecisionV2.json : RepositoryToolAuthorizationDecisionV2 → Bytes
  | .authorized => Json.object [("decision", Json.string "authorized")]
  | .denied denial => Json.object [("decision", Json.string "denied"),
      ("denial", RepositoryToolPreparationDenialV2.json denial)]

end Decisions

end BirdCode.Store
