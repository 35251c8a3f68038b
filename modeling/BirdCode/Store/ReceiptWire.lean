import BirdCode.Store.Wire

/-! The canonical parameters, receipts and evidence of a repository call, and how long the record
of an interruption can get. -/
namespace BirdCode.Store

open Lib

section Failures

def RepositoryPreparedRecordViolation.name : RepositoryPreparedRecordViolation → String
  | .wrongBroker => "wrong_broker"
  | .unissuedCall => "unissued_call"
  | .issuedRecordMismatch => "issued_record_mismatch"
  | .policyDigestMismatch => "policy_digest_mismatch"
  | .parametersArtifactMismatch => "parameters_artifact_mismatch"
  | .snapshotMismatch => "snapshot_mismatch"
  | .authorizationMismatch => "authorization_mismatch"

def RepositoryIoOperation.name : RepositoryIoOperation → String
  | .duplicateRootDescriptor => "duplicate_root_descriptor"
  | .openRoot => "open_root"
  | .openDirectory => "open_directory"
  | .openFile => "open_file"
  | .readDirectory => "read_directory"
  | .statDirectoryEntry => "stat_directory_entry"
  | .statDescriptor => "stat_descriptor"
  | .seekFile => "seek_file"
  | .readFile => "read_file"

def RepositoryIoFailureKind.name : RepositoryIoFailureKind → String
  | .notFound => "not_found"
  | .permissionDenied => "permission_denied"
  | .symlinkRejected => "symlink_rejected"
  | .wrongFileType => "wrong_file_type"
  | .interrupted => "interrupted"
  | .invalidInput => "invalid_input"
  | .resourceExhausted => "resource_exhausted"
  | .other => "other"

def RepositoryExpectedNodeKind.name : RepositoryExpectedNodeKind → String
  | .directory => "directory"
  | .regularFile => "regular_file"

def RepositoryNodeKind.name : RepositoryNodeKind → String
  | .regularFile => "regular_file"
  | .directory => "directory"
  | .symlink => "symlink"
  | .other => "other"

def RepositoryToolFailure.json : RepositoryToolFailure → Bytes
  | .toolNotGranted tool => Json.object [("reason", Json.string "tool_not_granted"),
      ("tool", Json.string (ChildToolKind.name tool))]
  | .invalidPath violation componentIndex =>
    Json.object [("reason", Json.string "invalid_path"),
      ("violation", Json.string (RepositoryPathViolation.name violation)),
      ("component_index", Json.option u32 componentIndex)]
  | .limitExceeded limit requested maximum =>
    Json.object [("reason", Json.string "limit_exceeded"),
      ("limit", Json.string (RepositoryLimitKind.name limit)), ("requested", u64 requested),
      ("maximum", u64 maximum)]
  | .limitMustBePositive limit => Json.object [("reason", Json.string "limit_must_be_positive"),
      ("limit", Json.string (RepositoryLimitKind.name limit))]
  | .emptyLiteralPattern => Json.object [("reason", Json.string "empty_literal_pattern")]
  | .preparedRecordInvalid violation =>
    Json.object [("reason", Json.string "prepared_record_invalid"),
      ("violation", Json.string (RepositoryPreparedRecordViolation.name violation))]
  | .preparedCallAlreadyConsumed =>
    Json.object [("reason", Json.string "prepared_call_already_consumed")]
  | .snapshotIdentityChanged expected observed =>
    Json.object [("reason", Json.string "snapshot_identity_changed"),
      ("expected", RepositoryFileIdentity.json expected),
      ("observed", RepositoryFileIdentity.json observed)]
  | .crossDeviceBoundary rootDevice observedDevice =>
    Json.object [("reason", Json.string "cross_device_boundary"),
      ("root_device", u64 rootDevice), ("observed_device", u64 observedDevice)]
  | .nodeChangedDuringObservation before after =>
    Json.object [("reason", Json.string "node_changed_during_observation"),
      ("before", RepositoryFileIdentity.json before), ("after", RepositoryFileIdentity.json after)]
  | .symlinkRejected => Json.object [("reason", Json.string "symlink_rejected")]
  | .wrongFileType expected observed =>
    Json.object [("reason", Json.string "wrong_file_type"),
      ("expected", Json.string (RepositoryExpectedNodeKind.name expected)),
      ("observed", Json.string (RepositoryNodeKind.name observed))]
  | .invalidReadRange offsetBytes fileByteLen =>
    Json.object [("reason", Json.string "invalid_read_range"), ("offset_bytes", u64 offsetBytes),
      ("file_byte_len", u64 fileByteLen)]
  | .io operation kind rawOsError =>
    Json.object [("reason", Json.string "io"),
      ("operation", Json.string (RepositoryIoOperation.name operation)),
      ("kind", Json.string (RepositoryIoFailureKind.name kind)),
      ("raw_os_error", Json.option i32 rawOsError)]
  | .evidenceEncodingFailed => Json.object [("reason", Json.string "evidence_encoding_failed")]
  | .brokerStateUnavailable => Json.object [("reason", Json.string "broker_state_unavailable")]
  | .unsupportedPlatform => Json.object [("reason", Json.string "unsupported_platform")]

end Failures

section Terminals

def RepositoryFilesystemEffect.name : RepositoryFilesystemEffect → String
  | .noFilesystemAccessAttempted => "no_filesystem_access_attempted"
  | .readOnlyFilesystemAccessAttempted => "read_only_filesystem_access_attempted"
  | .indeterminate => "indeterminate"

def RepositoryCleanupDisposition.name : RepositoryCleanupDisposition → String
  | .noPersistentResourcesCreated => "no_persistent_resources_created"
  | .transientDescriptorsClosedByOwnershipScope =>
    "transient_descriptors_closed_by_ownership_scope"

def RepositoryCleanupRecovery.name : RepositoryCleanupRecovery → String
  | .brokerInstanceRestartRequired => "broker_instance_restart_required"
  | .runtimeReconciliationRequired => "runtime_reconciliation_required"
  | .manualReconciliationRequired => "manual_reconciliation_required"

def RepositoryCleanupReport.json : RepositoryCleanupReport ArtifactRef → Bytes
  | .completed disposition persistentResourcesCreated temporaryResourcesCreated =>
    Json.object [("status", Json.string "completed"),
      ("disposition", Json.string (RepositoryCleanupDisposition.name disposition)),
      ("persistent_resources_created", u32 persistentResourcesCreated),
      ("temporary_resources_created", u32 temporaryResourcesCreated)]
  | .indeterminate recovery recoveryEvidence =>
    Json.object [("status", Json.string "indeterminate"),
      ("recovery", Json.string (RepositoryCleanupRecovery.name recovery)),
      ("recovery_evidence", Json.option ArtifactRef.json recoveryEvidence)]

def RepositoryInterruptionBoundary.name : RepositoryInterruptionBoundary → String
  | .runtimeRestart => "runtime_restart"
  | .runtimeShutdown => "runtime_shutdown"
  | .deadline => "deadline"
  | .cancellation => "cancellation"
  | .evidenceCommitIndeterminate => "evidence_commit_indeterminate"

def RepositoryUnretainedEvidenceDigest.json (evidence : RepositoryUnretainedEvidenceDigest) :
    Bytes :=
  Json.object [("media_type", Json.string evidence.mediaType), ("byte_len", u64 evidence.byteLen),
    ("sha256", digestText evidence.sha256)]

def RepositoryToolObservedTerminalV2.json : RepositoryToolObservedTerminalV2 → Bytes
  | .succeeded resultArtifact => Json.object [("status", Json.string "succeeded"),
      ("result_artifact", ArtifactRef.json resultArtifact)]
  | .failed failure evidenceArtifact unretainedPartial =>
    Json.object [("status", Json.string "failed"), ("failure", RepositoryToolFailure.json failure),
      ("evidence_artifact", ArtifactRef.json evidenceArtifact),
      ("unretained_partial",
        Json.option RepositoryUnretainedEvidenceDigest.json unretainedPartial)]
  | .authorizationDenied denial evidenceArtifact =>
    Json.object [("status", Json.string "authorization_denied"),
      ("denial", RepositoryToolPreparationDenialV2.json denial),
      ("evidence_artifact", ArtifactRef.json evidenceArtifact)]

def RepositoryToolUnknownTimingV2.json : RepositoryToolUnknownTimingV2 → Bytes
  | .brokerRecorded recordedAt elapsedNanoseconds =>
    Json.object [("source", Json.string "broker_recorded"),
      ("recorded_at", RepositoryBrokerClock.json recordedAt),
      ("elapsed_nanoseconds", u64 elapsedNanoseconds)]
  | .runtimeReconciled abandoned =>
    Json.object [("source", Json.string "runtime_reconciled"),
      ("abandoned_broker_instance_id", uuidText abandoned)]

end Terminals

section Documents

def RepositoryToolCanonicalParameters.json (parameters : RepositoryToolCanonicalParameters) :
    Bytes :=
  Json.object [("schema_version", u32 parameters.schemaVersion),
    ("binding", ChildExecutionBinding.json parameters.binding),
    ("tool_call_id", uuidText parameters.toolCallId), ("tool_ordinal", u32 parameters.toolOrdinal),
    ("action_binding", ChildValidatedActionBinding.json parameters.actionBinding),
    ("tool_grant_id", uuidText parameters.toolGrantId),
    ("operation", ChildToolOperation.json parameters.operation)]

def RepositoryToolFailureEvidence.json (evidence : RepositoryToolFailureEvidence) : Bytes :=
  Json.object [("call_id", uuidText evidence.callId),
    ("failure", RepositoryToolFailure.json evidence.failure),
    ("effect", Json.string (RepositoryFilesystemEffect.name evidence.effect))]

def RepositoryToolDenialEvidence.json (evidence : RepositoryToolDenialEvidence) : Bytes :=
  Json.object [("call_id", uuidText evidence.callId),
    ("denial", RepositoryToolPreparationDenialV2.json evidence.denial),
    ("effect", Json.string (RepositoryFilesystemEffect.name evidence.effect))]

def RepositoryToolUnknownEvidence.json (evidence : RepositoryToolUnknownEvidence) : Bytes :=
  Json.object [("call_id", uuidText evidence.callId),
    ("boundary", Json.string (RepositoryInterruptionBoundary.name evidence.boundary)),
    ("effect", Json.string (RepositoryFilesystemEffect.name evidence.effect))]

variable (rfc3339 : DateTime → String)

def RepositoryToolPreparedReceiptV2.json (receipt : RepositoryToolPreparedReceiptV2) : Bytes :=
  Json.object [("schema_version", u32 receipt.schemaVersion),
    ("binding", ChildExecutionBinding.json receipt.binding),
    ("tool_call_id", uuidText receipt.toolCallId), ("tool_ordinal", u32 receipt.toolOrdinal),
    ("action_binding", ChildValidatedActionBinding.json receipt.actionBinding),
    ("operation", ChildToolOperation.json receipt.operation),
    ("authority", RepositoryToolReceiptAuthorityV2.json receipt.authority),
    ("canonical_parameters_artifact", ArtifactRef.json receipt.canonicalParametersArtifact),
    ("canonical_parameters_digest", digestText receipt.canonicalParametersDigest),
    ("authorization", RepositoryToolAuthorizationDecisionV2.json receipt.authorization),
    ("broker_call_sequence", u64 receipt.brokerCallSequence),
    ("broker_prepared_at", RepositoryBrokerClock.json receipt.brokerPreparedAt),
    ("runtime_prepared_at", RuntimeClockReading.json rfc3339 receipt.runtimePreparedAt)]

def RepositoryToolObservedReceiptV2.json (receipt : RepositoryToolObservedReceiptV2) : Bytes :=
  Json.object [("schema_version", u32 receipt.schemaVersion),
    ("binding", ChildExecutionBinding.json receipt.binding),
    ("tool_call_id", uuidText receipt.toolCallId),
    ("prepared_event_id", uuidText receipt.preparedEventId),
    ("action_binding", ChildValidatedActionBinding.json receipt.actionBinding),
    ("prepared_receipt_artifact", ArtifactRef.json receipt.preparedReceiptArtifact),
    ("prepared_receipt_digest", digestText receipt.preparedReceiptDigest),
    ("terminal", RepositoryToolObservedTerminalV2.json receipt.terminal),
    ("broker_completed_at", RepositoryBrokerClock.json receipt.brokerCompletedAt),
    ("elapsed_nanoseconds", u64 receipt.elapsedNanoseconds),
    ("effect", Json.string (RepositoryFilesystemEffect.name receipt.effect)),
    ("cleanup", RepositoryCleanupReport.json receipt.cleanup),
    ("runtime_finished_at", RuntimeClockReading.json rfc3339 receipt.runtimeFinishedAt)]

def RepositoryToolUnknownReceiptV2.json (receipt : RepositoryToolUnknownReceiptV2) : Bytes :=
  Json.object [("schema_version", u32 receipt.schemaVersion),
    ("binding", ChildExecutionBinding.json receipt.binding),
    ("tool_call_id", uuidText receipt.toolCallId),
    ("prepared_event_id", uuidText receipt.preparedEventId),
    ("action_binding", ChildValidatedActionBinding.json receipt.actionBinding),
    ("prepared_receipt_artifact", ArtifactRef.json receipt.preparedReceiptArtifact),
    ("prepared_receipt_digest", digestText receipt.preparedReceiptDigest),
    ("boundary", Json.string (RepositoryInterruptionBoundary.name receipt.boundary)),
    ("cancellation", Json.option ChildCancellationCause.json receipt.cancellation),
    ("unknown_evidence_artifact", ArtifactRef.json receipt.unknownEvidenceArtifact),
    ("timing", RepositoryToolUnknownTimingV2.json receipt.timing),
    ("effect", Json.string (RepositoryFilesystemEffect.name receipt.effect)),
    ("cleanup", RepositoryCleanupReport.json receipt.cleanup),
    ("runtime_boundary_at", RuntimeClockReading.json rfc3339 receipt.runtimeBoundaryAt)]

end Documents

section Lengths

@[simp] theorem length_uuidText {kind : IdKind} (id : UuidId kind) : (uuidText id).length = 38 := by
  simp [uuidText, hexDigits]

theorem escaped_hexadecimal {c : Char} (h : ('0' ≤ c ∧ c ≤ '9') ∨ ('a' ≤ c ∧ c ≤ 'f')) :
    Json.escaped c = String.utf8EncodeChar c := by
  have hbounds : (48 ≤ c.toNat ∧ c.toNat ≤ 57) ∨ (97 ≤ c.toNat ∧ c.toNat ≤ 102) := by
    exact h
  have hquote : c ≠ '"' := by
    rintro rfl
    simp at hbounds
  have hbackslash : c ≠ '\\' := by
    rintro rfl
    simp at hbounds
  unfold Json.escaped
  rw [if_neg hquote, if_neg hbackslash, if_neg (by omega), if_neg (by omega), if_neg (by omega),
    if_neg (by omega), if_neg (by omega), if_neg (by omega)]

@[simp] theorem length_digestText (digest : Sha256Digest) : (digestText digest).length = 66 := by
  have hvalid := digest.valid
  simp only [validSha256, Bool.and_eq_true, decide_eq_true_eq, List.all_eq_true, Bool.or_eq_true]
    at hvalid
  rw [digestText, Json.length_string_of_plain fun c hc => escaped_hexadecimal (hvalid.2 c hc),
    hvalid.1]

theorem length_u64_le (value : UInt64) : (u64 value).length ≤ 20 :=
  Json.length_natural_uint64 value

theorem length_u32_le (value : UInt32) : (u32 value).length ≤ 10 :=
  Json.length_natural_uint32 value

/-- A reference to bytes by their digest. -/
theorem ArtifactRef.length_json_le {artifact : ArtifactRef} {digest : Sha256Digest}
    (h : artifact.sha256 = digest.value) :
    artifact.json.length ≤ 125 + (Json.string artifact.mediaType).length := by
  have hframing : Json.framing ["sha256", "size_bytes", "media_type"] = 39 := by decide
  have hsize := length_u64_le artifact.sizeBytes
  have hdigest := length_digestText digest
  simp only [ArtifactRef.json, Json.length_object, List.map_cons, List.map_nil, List.sum_cons,
    List.sum_nil, hframing, h]
  unfold digestText at hdigest
  omega

theorem ArtifactRef.le_length_json (artifact : ArtifactRef) : 39 ≤ artifact.json.length := by
  have hframing : Json.framing ["sha256", "size_bytes", "media_type"] = 39 := by decide
  simp only [ArtifactRef.json, Json.length_object, List.map_cons, List.map_nil, hframing]
  omega

theorem RepositoryBrokerClock.length_json (clock : RepositoryBrokerClock) :
    clock.json.length = 80 + (u64 clock.monotonicNanos).length := by
  have hframing : Json.framing ["broker_instance_id", "monotonic_nanos"] = 42 := by decide
  simp only [RepositoryBrokerClock.json, Json.length_object, List.map_cons, List.map_nil,
    List.sum_cons, List.sum_nil, hframing, length_uuidText]
  omega

theorem RuntimeClockReading.length_json (rfc3339 : DateTime → String)
    (clock : RuntimeClockReading) :
    (clock.json rfc3339).length = 96 + (u64 clock.monotonicNanos).length +
      (Json.string (rfc3339 clock.observedAt)).length := by
  have hframing :
      Json.framing ["runtime_instance_id", "monotonic_nanos", "observed_at"] = 58 := by decide
  simp only [RuntimeClockReading.json, Json.length_object, List.map_cons, List.map_nil,
    List.sum_cons, List.sum_nil, hframing, length_uuidText]
  omega

theorem ChildCancellationCause.length_json_le (cause : ChildCancellationCause) :
    cause.json.length ≤ 158 := by
  have hframing :
      Json.framing ["request_event_id", "request_id", "cancellation_generation"] = 62 := by decide
  have hgeneration := length_u64_le cause.cancellationGeneration
  simp only [ChildCancellationCause.json, Json.length_object, List.map_cons, List.map_nil,
    List.sum_cons, List.sum_nil, hframing, length_uuidText]
  omega

theorem RepositoryToolUnknownTimingV2.length_json_le (timing : RepositoryToolUnknownTimingV2) :
    timing.json.length ≤ 186 := by
  cases timing with
  | brokerRecorded recordedAt elapsed =>
    have hframing :
        Json.framing ["source", "recorded_at", "elapsed_nanoseconds"] = 49 := by decide
    have hsource : (Json.string "broker_recorded").length = 17 := by decide
    have hclock := recordedAt.length_json
    have hnanos := length_u64_le recordedAt.monotonicNanos
    have helapsed := length_u64_le elapsed
    simp only [RepositoryToolUnknownTimingV2.json, Json.length_object, List.map_cons,
      List.map_nil, List.sum_cons, List.sum_nil, hframing, hsource]
    omega
  | runtimeReconciled abandoned =>
    have hframing : Json.framing ["source", "abandoned_broker_instance_id"] = 43 := by decide
    have hsource : (Json.string "runtime_reconciled").length = 20 := by decide
    simp only [RepositoryToolUnknownTimingV2.json, Json.length_object, List.map_cons,
      List.map_nil, List.sum_cons, List.sum_nil, hframing, hsource, length_uuidText]
    omega

theorem RepositoryCleanupReport.length_completed_le (disposition : RepositoryCleanupDisposition)
    (persistent temporary : UInt32) :
    (RepositoryCleanupReport.json (.completed disposition persistent temporary)).length ≤ 169 := by
  have hframing : Json.framing ["status", "disposition", "persistent_resources_created",
      "temporary_resources_created"] = 89 := by decide
  have hstatus : (Json.string "completed").length = 11 := by decide
  have hdisposition : (Json.string disposition.name).length ≤ 49 := by
    cases disposition <;> decide
  have hpersistent := length_u32_le persistent
  have htemporary := length_u32_le temporary
  simp only [RepositoryCleanupReport.json, Json.length_object, List.map_cons, List.map_nil,
    List.sum_cons, List.sum_nil, hframing, hstatus]
  omega

theorem RepositoryCleanupReport.length_indeterminate_le (recovery : RepositoryCleanupRecovery) :
    (RepositoryCleanupReport.json (.indeterminate recovery none)).length ≤ 169 := by
  cases recovery <;> decide

theorem RepositorySnapshotBinding.le_length_json (snapshot : RepositorySnapshotBinding) :
    380 ≤ snapshot.json.length := by
  have hframing : Json.framing
      ["snapshot_id", "declared_snapshot_digest", "immutability_lease"] = 66 := by decide
  have hlease : Json.framing ["lease_id", "mode", "lease_artifact", "lease_digest"] = 55 := by
    decide
  have hmode :
      (Json.string "mac_os_cooperative_quiesced_read_only_disk_image").length = 50 := by decide
  have hartifact := snapshot.immutabilityLease.leaseArtifact.le_length_json
  simp only [RepositorySnapshotBinding.json, RepositorySnapshotLeaseBinding.json,
    Json.length_object, List.map_cons, List.map_nil, List.sum_cons, List.sum_nil, hframing, hlease,
    hmode, length_uuidText, length_digestText]
  omega

theorem RepositoryRootBinding.le_length_json (root : RepositoryRootBinding) :
    195 ≤ root.json.length := by
  have hframing : Json.framing ["repository_root_id", "descriptor_identity"] = 46 := by decide
  have hplatform : Json.framing ["platform", "identity"] = 25 := by decide
  have hunix : (Json.string "unix").length = 6 := by decide
  have hidentity : Json.framing ["device", "inode", "byte_len", "modified_seconds",
      "modified_nanoseconds", "changed_seconds", "changed_nanoseconds"] = 118 := by decide
  simp only [RepositoryRootBinding.json, RepositoryFileIdentity.json, Json.length_object,
    List.map_cons, List.map_nil, List.sum_cons, List.sum_nil, hframing, hplatform, hunix,
    hidentity]
  omega

theorem RepositoryToolBounds.le_length_json (bounds : RepositoryToolBounds) :
    402 ≤ bounds.json.length := by
  have hframing : Json.framing ["max_calls_per_broker", "max_request_bytes",
      "max_path_components", "max_path_bytes", "max_component_bytes", "max_read_bytes",
      "max_tree_depth", "max_tree_entries", "max_directory_entries_scanned",
      "max_directory_name_bytes_scanned", "max_search_pattern_bytes", "max_search_depth",
      "max_search_files", "max_search_matches", "max_search_bytes_per_file",
      "max_search_total_bytes", "max_artifact_bytes"] = 402 := by decide
  simp only [RepositoryToolBounds.json, Json.length_object, List.map_cons, List.map_nil, hframing]
  omega

/-- The names and the digests of the authority alone take this much. -/
theorem RepositoryToolReceiptAuthorityV2.le_length_json
    (authority : RepositoryToolReceiptAuthorityV2) : 1184 ≤ authority.json.length := by
  have hframing : Json.framing ["policy_id", "policy_artifact", "policy_digest", "snapshot",
      "root", "broker_bounds", "tool_grants"] = 102 := by decide
  have hartifact := authority.policyArtifact.le_length_json
  have hsnapshot := authority.snapshot.le_length_json
  have hroot := authority.root.le_length_json
  have hbounds := authority.brokerBounds.le_length_json
  simp only [RepositoryToolReceiptAuthorityV2.json, Json.length_object, List.map_cons,
    List.map_nil, List.sum_cons, List.sum_nil, hframing, length_digestText]
  omega

theorem RepositoryToolPreparedReceiptV2.le_length_json (rfc3339 : DateTime → String)
    (receipt : RepositoryToolPreparedReceiptV2) :
    1759 + receipt.binding.json.length + receipt.actionBinding.json.length ≤
      (receipt.json rfc3339).length := by
  have hframing : Json.framing ["schema_version", "binding", "tool_call_id", "tool_ordinal",
      "action_binding", "operation", "authority", "canonical_parameters_artifact",
      "canonical_parameters_digest", "authorization", "broker_call_sequence",
      "broker_prepared_at", "runtime_prepared_at"] = 256 := by decide
  have hauthority :=
    RepositoryToolReceiptAuthorityV2.le_length_json receipt.authority
  have hparameters := receipt.canonicalParametersArtifact.le_length_json
  have hbroker := receipt.brokerPreparedAt.length_json
  have hruntime := receipt.runtimePreparedAt.length_json rfc3339
  simp only [RepositoryToolPreparedReceiptV2.json, Json.length_object, List.map_cons,
    List.map_nil, List.sum_cons, List.sum_nil, hframing, length_uuidText, length_digestText]
  omega

theorem RepositoryToolUnknownEvidence.length_json_le (evidence : RepositoryToolUnknownEvidence) :
    evidence.json.length ≤ 150 := by
  have hframing : Json.framing ["call_id", "boundary", "effect"] = 34 := by decide
  have hboundary : (Json.string evidence.boundary.name).length ≤ 31 := by
    cases evidence.boundary <;> decide
  have heffect : (Json.string evidence.effect.name).length ≤ 39 := by
    cases evidence.effect <;> decide
  simp only [RepositoryToolUnknownEvidence.json, Json.length_object, List.map_cons,
    List.map_nil, List.sum_cons, List.sum_nil, hframing, length_uuidText]
  omega

/-- What an Unknown receipt adds to the two bindings of its call. -/
theorem RepositoryToolUnknownReceiptV2.length_json_le {rfc3339 : DateTime → String}
    (hclock : ∀ time, (Json.string (rfc3339 time)).length ≤ 40)
    (receipt : RepositoryToolUnknownReceiptV2) {prepared evidence : Sha256Digest}
    (hprepared : receipt.preparedReceiptArtifact.sha256 = prepared.value)
    (hpreparedType :
      receipt.preparedReceiptArtifact.mediaType = repositoryToolPreparedReceiptV2MediaType)
    (hevidence : receipt.unknownEvidenceArtifact.sha256 = evidence.value)
    (hevidenceType :
      receipt.unknownEvidenceArtifact.mediaType = repositoryToolUnknownEvidenceV2MediaType)
    (hcleanup : receipt.cleanup.json.length ≤ 169) :
    (receipt.json rfc3339).length ≤
      1527 + receipt.binding.json.length + receipt.actionBinding.json.length := by
  have hframing : Json.framing ["schema_version", "binding", "tool_call_id", "prepared_event_id",
      "action_binding", "prepared_receipt_artifact", "prepared_receipt_digest", "boundary",
      "cancellation", "unknown_evidence_artifact", "timing", "effect", "cleanup",
      "runtime_boundary_at"] = 252 := by decide
  have hschema := length_u32_le receipt.schemaVersion
  have hpreparedLength := ArtifactRef.length_json_le hprepared
  have hevidenceLength := ArtifactRef.length_json_le hevidence
  have hpreparedMedia :
      (Json.string repositoryToolPreparedReceiptV2MediaType).length = 67 := by decide
  have hevidenceMedia :
      (Json.string repositoryToolUnknownEvidenceV2MediaType).length = 67 := by decide
  rw [hpreparedType, hpreparedMedia] at hpreparedLength
  rw [hevidenceType, hevidenceMedia] at hevidenceLength
  have hboundary : (Json.string receipt.boundary.name).length ≤ 31 := by
    cases receipt.boundary <;> decide
  have hcancellation :
      (Json.option ChildCancellationCause.json receipt.cancellation).length ≤ 158 := by
    cases receipt.cancellation with
    | none => decide
    | some cause => exact cause.length_json_le
  have htiming := receipt.timing.length_json_le
  have heffect : (Json.string receipt.effect.name).length ≤ 39 := by
    cases receipt.effect <;> decide
  have hruntime := receipt.runtimeBoundaryAt.length_json rfc3339
  have hnanos := length_u64_le receipt.runtimeBoundaryAt.monotonicNanos
  have htime := hclock receipt.runtimeBoundaryAt.observedAt
  simp only [RepositoryToolUnknownReceiptV2.json, Json.length_object, List.map_cons,
    List.map_nil, List.sum_cons, List.sum_nil, hframing, length_uuidText, length_digestText]
  linarith

end Lengths

end BirdCode.Store
