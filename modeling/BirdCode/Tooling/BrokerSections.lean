import BirdCode.Tooling.BrokerRuns

/-! What each section of a broker call reads and changes. -/
namespace BirdCode.Tooling

open Store Lib

variable {platform : Platform} {broker : BrokerSetup}

section Prepare

variable {state next : BrokerPrepareState} {input : RepositoryToolPrepareInputV2}
  {call : PreparedRepositoryToolCallV2} {nanos : UInt64}

/-- A published call: the receipt of the next sequence, retained with the bytes of both. -/
structure Publishes (platform : Platform) (broker : BrokerSetup) (state : BrokerPrepareState)
    (input : RepositoryToolPrepareInputV2) (nanos : UInt64) (call : PreparedRepositoryToolCallV2)
    (next : BrokerPrepareState) : Prop where
  parameterSize : saturate64 input.parameters.json.length ≤ repositoryToolHardMaxRequestBytes
  fresh : input.parameters.toolCallId ∉ state.issuedCalls
  sequence : next.lastPublishedSequence.toNat = state.lastPublishedSequence.toNat + 1
  receipt : call.receipt =
    issuedReceipt platform broker input next.lastPublishedSequence nanos
  receiptSize : saturate64 (call.receipt.json platform.rfc3339).length ≤
    repositoryToolHardMaxTerminalReceiptBytes
  parameters : call.canonicalParameters = .fromBytes platform
    repositoryToolCanonicalParametersV2MediaType input.parameters.json
  bytes : call.preparedReceipt = .fromBytes platform repositoryToolPreparedReceiptV2MediaType
    (call.receipt.json platform.rfc3339)
  issued : next.issuedCalls = state.issuedCalls.insert input.parameters.toolCallId
    ⟨platform.sha256 (call.receipt.json platform.rfc3339), false⟩

theorem prepare_eq_ok (h : prepare platform broker state input nanos = .ok (call, next)) :
    Publishes platform broker state input nanos call next := by
  simp only [prepare, checkPreparedReceiptSize, bind_eq_ok, ensure_eq_ok, expect_eq_ok, pure,
    Except.pure, Except.ok.injEq, Prod.mk.injEq, nextBrokerCallSequence] at h
  obtain ⟨_, hparameters, _, hfresh, sequence, hsequence, _, hreceipt, rfl, rfl⟩ := h
  refine ⟨hparameters, hfresh, ?_, rfl, hreceipt, rfl, rfl, rfl⟩
  exact checkedAdd_eq_some hsequence

theorem Publishes.toolCallId (h : Publishes platform broker state input nanos call next) :
    call.receipt.toolCallId = input.parameters.toolCallId := by
  rw [h.receipt]
  rfl

theorem Publishes.authority (h : Publishes platform broker state input nanos call next) :
    call.receipt.authority = broker.authority := by
  rw [h.receipt]
  rfl

theorem Publishes.brokerInstanceId (h : Publishes platform broker state input nanos call next) :
    call.receipt.brokerPreparedAt.brokerInstanceId = broker.brokerInstanceId := by
  rw [h.receipt]
  rfl

end Prepare

section Bundles

variable {prepared : PreparedRepositoryToolCallV2}
  {parameters : RepositoryToolCanonicalParameters}

theorem fromBytes_isExact (mediaType : String) (bytes : Bytes) :
    (RetainedArtifactV2.fromBytes platform mediaType bytes).isExact platform := by
  simp [RetainedArtifactV2.isExact, RetainedArtifactV2.fromBytes]

/-- What an accepted bundle of a Prepared call is. -/
structure ExactBundle (platform : Platform) (prepared : PreparedRepositoryToolCallV2)
    (parameters : RepositoryToolCanonicalParameters) : Prop where
  parametersExact : prepared.canonicalParameters.isExact platform
  receiptExact : prepared.preparedReceipt.isExact platform
  receiptType :
    prepared.preparedReceipt.artifact.mediaType = repositoryToolPreparedReceiptV2MediaType
  receiptSize : saturate64 prepared.preparedReceipt.bytes.length ≤
    repositoryToolHardMaxTerminalReceiptBytes
  reads : platform.readParameters prepared.canonicalParameters.bytes = some parameters
  repeated : receiptRepeats platform prepared parameters

theorem decodeExact_eq_ok
    (h : decodeExactPreparedParameters platform prepared = .ok parameters) :
    ExactBundle platform prepared parameters := by
  simp only [decodeExactPreparedParameters, checkPreparedReceiptSize, bind_eq_ok, ensure_eq_ok,
    expect_eq_ok, pure, Except.pure, Except.ok.injEq] at h
  obtain ⟨_, ⟨hparameters, _⟩, _, _, _, ⟨hreceipt, htype⟩, _, hsize, _, hread, _, hrepeats, rfl⟩
    := h
  exact ⟨hparameters, hreceipt, htype, hsize, hread, hrepeats⟩

theorem ExactBundle.receipt_json (h : ExactBundle platform prepared parameters) :
    prepared.receipt.json platform.rfc3339 = prepared.preparedReceipt.bytes := by
  have hrepeats := h.repeated
  simp only [receiptRepeats, Bool.and_eq_true, decide_eq_true_eq] at hrepeats
  exact hrepeats.2

theorem ExactBundle.schemaVersion (h : ExactBundle platform prepared parameters) :
    parameters.schemaVersion = repositoryBrokerContractVersion := by
  have hrepeats := h.repeated
  simp only [receiptRepeats, Bool.and_eq_true, decide_eq_true_eq] at hrepeats
  exact hrepeats.1.1.1.1.1.1.1.1.1.1.2

theorem ExactBundle.receipt_sha256 (h : ExactBundle platform prepared parameters) :
    prepared.preparedReceipt.artifact.sha256 =
      (platform.sha256 prepared.preparedReceipt.bytes).value := by
  have hexact := h.receiptExact
  simp only [RetainedArtifactV2.isExact, Bool.and_eq_true, decide_eq_true_eq] at hexact
  exact hexact.2

/-- A published call of the current schema version is exact whenever its parameters are read
back. -/
theorem Publishes.decodeExact {state next : BrokerPrepareState}
    {input : RepositoryToolPrepareInputV2} {nanos : UInt64}
    (h : Publishes platform broker state input nanos prepared next)
    (hreads : platform.readParameters input.parameters.json = some input.parameters)
    (hversion : input.parameters.schemaVersion = repositoryBrokerContractVersion) :
    decodeExactPreparedParameters platform prepared = .ok input.parameters := by
  have hsize := h.receiptSize
  have hbytes : prepared.preparedReceipt.bytes = prepared.receipt.json platform.rfc3339 := by
    rw [h.bytes]
    rfl
  have hjson : prepared.canonicalParameters.bytes = input.parameters.json := by
    rw [h.parameters]
    rfl
  have hrepeats : receiptRepeats platform prepared input.parameters := by
    simp only [receiptRepeats, hbytes, h.parameters, Bool.and_eq_true, decide_eq_true_eq,
      hversion, h.receipt]
    simp [issuedReceipt, RetainedArtifactV2.fromBytes]
  simp only [decodeExactPreparedParameters, checkPreparedReceiptSize, bind_eq_ok, ensure_eq_ok,
    expect_eq_ok, pure, Except.pure, Except.ok.injEq]
  refine ⟨(), ⟨?_, ?_⟩, (), ?_, (), ⟨?_, ?_⟩, (), ?_, input.parameters, ?_, (), hrepeats, rfl⟩
  · rw [h.parameters]
    exact fromBytes_isExact _ _
  · rw [h.parameters]
    rfl
  · rw [h.parameters]
    exact h.parameterSize
  · rw [h.bytes]
    exact fromBytes_isExact _ _
  · rw [h.bytes]
    rfl
  · rw [hbytes]
    exact hsize
  · rw [hjson]
    exact hreads

theorem Publishes.bundle {state next : BrokerPrepareState}
    {input : RepositoryToolPrepareInputV2} {nanos : UInt64}
    (h : Publishes platform broker state input nanos prepared next)
    (hreads : platform.readParameters input.parameters.json = some input.parameters)
    (hversion : input.parameters.schemaVersion = repositoryBrokerContractVersion)
    {later : BrokerSetup} (hauthority : later.authority = broker.authority) :
    validatePreparedBundle platform later prepared = .ok () := by
  simp only [validatePreparedBundle, bind_eq_ok, ensure_eq_ok]
  exact ⟨input.parameters, h.decodeExact hreads hversion, h.authority.trans hauthority.symm⟩

/-- A bundle whose parameters carry another schema version is refused by every operation. -/
theorem validatePreparedBundle_of_version {nanos : UInt64} {state next : BrokerPrepareState}
    {input : RepositoryToolPrepareInputV2}
    (h : Publishes platform broker state input nanos prepared next)
    (hreads : platform.readParameters input.parameters.json = some input.parameters)
    (hversion : input.parameters.schemaVersion ≠ repositoryBrokerContractVersion)
    (later : BrokerSetup) :
    ∃ error, validatePreparedBundle platform later prepared = .error error := by
  cases hbundle : validatePreparedBundle platform later prepared with
  | error error => exact ⟨error, rfl⟩
  | ok _ =>
    simp only [validatePreparedBundle, bind_eq_ok, ensure_eq_ok] at hbundle
    obtain ⟨parameters, hdecode, _⟩ := hbundle
    have hexact := decodeExact_eq_ok hdecode
    have hjson : prepared.canonicalParameters.bytes = input.parameters.json := by
      rw [h.parameters]
      rfl
    have hread := hexact.reads
    rw [hjson, hreads] at hread
    cases hread
    exact absurd hexact.schemaVersion hversion

end Bundles

section Unknown

variable {prepared : PreparedRepositoryToolCallV2}
  {parameters : RepositoryToolCanonicalParameters} {input : RepositoryToolInterruptionInputV2}
  {timing : RepositoryToolUnknownTimingV2} {effect : RepositoryFilesystemEffect}

theorem cleanupForEffect_length_le (effect : RepositoryFilesystemEffect) :
    (cleanupForEffect effect).json.length ≤ 169 := by
  cases effect with
  | noFilesystemAccessAttempted => exact RepositoryCleanupReport.length_completed_le _ _ _
  | readOnlyFilesystemAccessAttempted => exact RepositoryCleanupReport.length_completed_le _ _ _
  | indeterminate => exact RepositoryCleanupReport.length_indeterminate_le _

/-- The evidence of an interruption, retained. -/
def unknownEvidence (platform : Platform) (input : RepositoryToolInterruptionInputV2)
    (effect : RepositoryFilesystemEffect) : RetainedArtifactV2 :=
  .fromBytes platform repositoryToolUnknownEvidenceV2MediaType (RepositoryToolUnknownEvidence.json
    { callId := input.prepared.receipt.toolCallId, boundary := input.boundary, effect })

theorem saturate64_le {length : ℕ} {maximum : UInt64} (h : length ≤ maximum.toNat) :
    saturate64 length ≤ maximum := by
  rw [UInt64.le_iff_toNat_le, toNat_saturate64]
  omega

theorem le_of_saturate64_le {length : ℕ} {maximum : UInt64} (h : saturate64 length ≤ maximum)
    (hmaximum : maximum.toNat < 2 ^ 64 - 1) : length ≤ maximum.toNat := by
  rw [UInt64.le_iff_toNat_le, toNat_saturate64] at h
  omega

theorem hardMaxTerminalReceiptBytes_toNat :
    repositoryToolHardMaxTerminalReceiptBytes.toNat = 262144 := by decide

theorem retainedEvidence_unknown :
    retainedProtocolEvidence platform repositoryToolUnknownEvidenceV2MediaType
      (encodeRepositoryToolEvidenceV2 (RepositoryToolUnknownEvidence.json
        { callId := input.prepared.receipt.toolCallId, boundary := input.boundary, effect }))
      "unknown evidence" = .ok (unknownEvidence platform input effect) := by
  have hlength := RepositoryToolUnknownEvidence.length_json_le
    { callId := input.prepared.receipt.toolCallId, boundary := input.boundary, effect }
  have hmaximum : 150 ≤ repositoryToolHardMaxTerminalReceiptBytes.toNat := by decide
  have hsize := saturate64_le (hlength.trans hmaximum)
  simp only [encodeRepositoryToolEvidenceV2, encodeWithin, ensure, if_pos hsize, bind,
    Except.bind, pure, Except.pure, retainedProtocolEvidence]
  rfl

/-- The receipt of an interruption is no longer than the Prepared receipt it answers. -/
theorem length_unknownReceipt_le (timing : RepositoryToolUnknownTimingV2)
    (effect : RepositoryFilesystemEffect)
    (hclock : ∀ time, (Json.string (platform.rfc3339 time)).length ≤ 40)
    (h : ExactBundle platform input.prepared parameters) :
    ((unknownReceipt platform input (unknownEvidence platform input effect).artifact timing
      effect).json platform.rfc3339).length ≤ input.prepared.preparedReceipt.bytes.length := by
  have hunknown := RepositoryToolUnknownReceiptV2.length_json_le hclock
    (unknownReceipt platform input (unknownEvidence platform input effect).artifact timing effect)
    h.receipt_sha256 h.receiptType rfl rfl (cleanupForEffect_length_le effect)
  have hprepared := RepositoryToolPreparedReceiptV2.le_length_json platform.rfc3339
    input.prepared.receipt
  rw [h.receipt_json] at hprepared
  refine hunknown.trans (Nat.le_trans ?_ hprepared)
  have hbinding : (unknownReceipt platform input (unknownEvidence platform input effect).artifact
    timing effect).binding = input.prepared.receipt.binding := rfl
  have haction : (unknownReceipt platform input (unknownEvidence platform input effect).artifact
    timing effect).actionBinding = input.prepared.receipt.actionBinding := rfl
  rw [hbinding, haction]
  omega

/-- No interruption of an exact Prepared call fails for want of space. -/
theorem unknown_eq_ok (input : RepositoryToolInterruptionInputV2)
    (timing : RepositoryToolUnknownTimingV2) (effect : RepositoryFilesystemEffect)
    (hclock : ∀ time, (Json.string (platform.rfc3339 time)).length ≤ 40)
    (h : ExactBundle platform input.prepared parameters) :
    ∃ terminal, unknown platform input timing effect = .ok terminal := by
  have hlength := length_unknownReceipt_le timing effect hclock h
  have hprepared := le_of_saturate64_le h.receiptSize (by decide)
  have hsize := saturate64_le (hlength.trans hprepared)
  simp only [unknown, retainedEvidence_unknown, retainedTerminal, ensure, if_pos hsize, bind,
    Except.bind, pure, Except.pure]
  exact ⟨_, rfl⟩

end Unknown

section Consume

variable {state next : BrokerPrepareState} {prepared : PreparedRepositoryToolCallV2}

/-- The call ids a terminal boundary was reached for. -/
def BrokerPrepareState.spent (state : BrokerPrepareState) (id : ChildToolCallId) : Prop :=
  ∃ record, state.issuedCalls[id]? = some record ∧ record.consumed = true

theorem consume_eq_ok (h : consume state prepared = .ok next) :
    ∃ record, state.issuedCalls[prepared.receipt.toolCallId]? = some record ∧
      record.consumed = false ∧
      next = { state with
        issuedCalls := state.issuedCalls.insert prepared.receipt.toolCallId
          { record with consumed := true } } := by
  simp only [consume, bind_eq_ok, ensure_eq_ok, expect_eq_ok, pure, Except.pure,
    Except.ok.injEq] at h
  obtain ⟨record, hrecord, _, hopen, rfl⟩ := h
  exact ⟨record, hrecord, hopen, rfl⟩

theorem consume_spent (h : consume state prepared = .ok next) :
    ¬state.spent prepared.receipt.toolCallId ∧
      ∀ id, next.spent id ↔ id = prepared.receipt.toolCallId ∨ state.spent id := by
  obtain ⟨record, hrecord, hopen, rfl⟩ := consume_eq_ok h
  constructor
  · rintro ⟨found, hfound, hconsumed⟩
    rw [hrecord] at hfound
    cases hfound
    rw [hopen] at hconsumed
    cases hconsumed
  · intro id
    by_cases hid : id = prepared.receipt.toolCallId
    · subst hid
      simp [BrokerPrepareState.spent]
    · simp [BrokerPrepareState.spent, getElem?_insert_of_ne (Ne.symm hid), hid]

theorem consume_error_of_spent (h : state.spent prepared.receipt.toolCallId) :
    ∃ error, consume state prepared = .error error := by
  cases hconsume : consume state prepared with
  | error error => exact ⟨error, rfl⟩
  | ok next => exact absurd h (consume_spent hconsume).1

theorem Publishes.spent {input : RepositoryToolPrepareInputV2} {nanos : UInt64}
    (h : Publishes platform broker state input nanos prepared next) (id : ChildToolCallId) :
    state.spent id ↔ next.spent id := by
  unfold BrokerPrepareState.spent
  rw [h.issued]
  by_cases hid : input.parameters.toolCallId = id
  · subst hid
    constructor
    · rintro ⟨record, hrecord, _⟩
      exact absurd (Std.ExtTreeMap.mem_iff_isSome_getElem?.mpr (by simp [hrecord])) h.fresh
    · rintro ⟨record, hrecord, hconsumed⟩
      simp only [Std.ExtTreeMap.getElem?_insert_self, Option.some.injEq] at hrecord
      subst hrecord
      cases hconsumed
  · rw [getElem?_insert_of_ne hid]

end Consume

end BirdCode.Tooling
