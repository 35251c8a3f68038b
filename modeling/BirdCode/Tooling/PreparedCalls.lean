import BirdCode.Store.ChildRuns
import BirdCode.Tooling.BrokerInvariant

/-! The calls a broker has published, and what can still be done with each. -/
namespace BirdCode.Tooling

open Store Lib

variable {Client : Type} {platform : Platform} {broker : BrokerSetup}
  {system next : System Client} {action : Action Client}

theorem exists_error {E A : Type} {value : Except E A} (h : ∀ result, value ≠ .ok result) :
    ∃ error, value = .error error := by
  cases hvalue : value with
  | error error => exact ⟨error, rfl⟩
  | ok result => exact absurd hvalue (h result)

section Publication

/-- The digest a call was issued with. -/
def BrokerPrepareState.digest (state : BrokerPrepareState) (id : ChildToolCallId) :
    Option Sha256Digest :=
  (state.issuedCalls[id]?).map (·.preparedReceiptSha256)

structure Publication (platform : Platform) (broker : BrokerSetup) (system : System Client) :
    Prop where
  count : system.state.lastPublishedSequence.toNat = system.published.length
  sequences : system.published.map (·.receipt.brokerCallSequence.toNat) =
    List.range' 1 system.published.length
  distinct : (system.published.map (·.receipt.toolCallId)).Nodup
  records : ∀ call ∈ system.published, system.state.digest call.receipt.toolCallId =
    some (platform.sha256 call.preparedReceipt.bytes)
  calls : ∀ input call, .prepared input call ∈ system.history →
    ∃ nanos state next, Publishes platform broker state input nanos call next

theorem mem_published {call : PreparedRepositoryToolCallV2} :
    call ∈ system.published ↔ ∃ input, .prepared input call ∈ system.history := by
  unfold System.published
  rw [List.mem_filterMap]
  constructor
  · rintro ⟨outcome, hmem, hcall⟩
    cases outcome with
    | prepared input found =>
      cases hcall
      exact ⟨input, hmem⟩
    | prepareFailed | notStarted | accessed | executed | indeterminate | interrupted
    | interruptionFailed | reconciled | reconciliationFailed => cases hcall
  · rintro ⟨input, hmem⟩
    exact ⟨_, hmem, rfl⟩

theorem publication_start :
    Publication platform broker (System.start : System Client) := by
  refine ⟨rfl, rfl, List.nodup_nil, ?_, ?_⟩
  · intro call hcall
    cases hcall
  · intro input call hcall
    cases hcall

theorem Publication.quiet (h : Publication platform broker system)
    (hcount : next.state.lastPublishedSequence = system.state.lastPublishedSequence)
    (hdigest : ∀ id, next.state.digest id = system.state.digest id)
    {outcomes : List Outcome} (hhistory : next.history = system.history ++ outcomes)
    (hsilent : ∀ outcome ∈ outcomes, outcome.published = none) :
    Publication platform broker next := by
  have hpublished : next.published = system.published := by
    unfold System.published
    rw [hhistory, List.filterMap_append, List.filterMap_eq_nil_iff.mpr hsilent, List.append_nil]
  refine ⟨?_, ?_, ?_, ?_, ?_⟩
  · rw [hcount, hpublished]
    exact h.count
  · rw [hpublished]
    exact h.sequences
  · rw [hpublished]
    exact h.distinct
  · intro call hcall
    rw [hpublished] at hcall
    rw [hdigest]
    exact h.records call hcall
  · intro input call hcall
    rw [hhistory] at hcall
    rcases List.mem_append.mp hcall with hmem | hmem
    · exact h.calls input call hmem
    · have hnone := hsilent _ hmem
      cases hnone

theorem Publishes.digest {state after : BrokerPrepareState}
    {input : RepositoryToolPrepareInputV2} {nanos : UInt64} {call : PreparedRepositoryToolCallV2}
    (h : Publishes platform broker state input nanos call after) (id : ChildToolCallId) :
    after.digest id = if id = call.receipt.toolCallId then
      some (platform.sha256 call.preparedReceipt.bytes) else state.digest id := by
  unfold BrokerPrepareState.digest
  have hbytes : call.preparedReceipt.bytes = call.receipt.json platform.rfc3339 := by
    rw [h.bytes]
    rfl
  rw [h.issued, h.toolCallId, hbytes]
  by_cases hid : id = input.parameters.toolCallId
  · subst hid
    simp
  · rw [if_neg hid, getElem?_insert_of_ne (Ne.symm hid)]

theorem Publication.publish (h : Publication platform broker system) {state : BrokerPrepareState}
    {input : RepositoryToolPrepareInputV2} {nanos : UInt64} {call : PreparedRepositoryToolCallV2}
    (hprepare : prepare platform broker system.state input nanos = .ok (call, state)) :
    Publication platform broker ({ system with state }.record [.prepared input call]) := by
  have hpublishes := prepare_eq_ok hprepare
  have hnew : ∀ found ∈ system.published, found.receipt.toolCallId ≠ call.receipt.toolCallId := by
    intro found hfound heq
    have hrecord := h.records found hfound
    rw [heq, hpublishes.toolCallId, BrokerPrepareState.digest] at hrecord
    obtain ⟨record, hrecord, _⟩ := Option.map_eq_some_iff.mp hrecord
    apply hpublishes.fresh
    exact Std.ExtTreeMap.mem_iff_isSome_getElem?.mpr (by simp [hrecord])
  have hpublished : ({ system with state }.record [.prepared input call]).published =
      system.published ++ [call] := record_published
  have hsequence : call.receipt.brokerCallSequence = state.lastPublishedSequence := by
    rw [hpublishes.receipt]
    rfl
  refine ⟨?_, ?_, ?_, ?_, ?_⟩
  · rw [hpublished, List.length_append, List.length_singleton, ← h.count]
    exact hpublishes.sequence
  · rw [hpublished, List.map_append, h.sequences, List.length_append, List.length_singleton,
      List.range'_concat]
    simp [hsequence, hpublishes.sequence, h.count, Nat.add_comm]
  · rw [hpublished, List.map_append, List.nodup_append]
    refine ⟨h.distinct, List.nodup_singleton _, ?_⟩
    intro id hid other hother
    obtain ⟨found, hfound, rfl⟩ := List.mem_map.mp hid
    rw [List.map_singleton, List.mem_singleton] at hother
    rw [hother]
    exact hnew found hfound
  · intro found hfound
    rw [hpublished] at hfound
    rw [record_state, hpublishes.digest]
    rcases List.mem_append.mp hfound with hmem | hmem
    · rw [if_neg (hnew found hmem)]
      exact h.records found hmem
    · obtain rfl := List.mem_singleton.mp hmem
      rw [if_pos rfl]
  · intro found published hfound
    rcases List.mem_append.mp hfound with hmem | hmem
    · exact h.calls found published hmem
    · cases List.mem_singleton.mp hmem
      exact ⟨nanos, system.state, state, hpublishes⟩

theorem consume_keeps {state after : BrokerPrepareState} {prepared : PreparedRepositoryToolCallV2}
    (h : consume state prepared = .ok after) :
    after.lastPublishedSequence = state.lastPublishedSequence ∧
      ∀ id, after.digest id = state.digest id := by
  obtain ⟨record, hrecord, _, rfl⟩ := consume_eq_ok h
  refine ⟨rfl, ?_⟩
  intro id
  unfold BrokerPrepareState.digest
  by_cases hid : id = prepared.receipt.toolCallId
  · subst hid
    simp [hrecord]
  · rw [getElem?_insert_of_ne (Ne.symm hid)]

theorem Publication.step [DecidableEq Client] (h : Publication platform broker system)
    (hstep : step platform broker system action = some next) :
    Publication platform broker next := by
  cases step_moves hstep with
  | publish hprepare => exact h.publish hprepare
  | refuse hfailure =>
    refine h.quiet rfl (fun _ => rfl) rfl ?_
    intro outcome hmem
    rw [List.mem_singleton.mp hmem]
    exact (failure_filterMap platform hfailure).1
  | start _ _ => exact h.quiet rfl (fun _ => rfl) (List.append_nil _).symm (by simp)
  | @consume client input state _ hconsume =>
    obtain ⟨hcount, hdigest⟩ := consume_keeps hconsume
    refine h.quiet hcount hdigest rfl ?_
    exact List.filterMap_eq_nil_iff.mp (accesses_filterMap platform _).1
  | lose _ _ hfailure _ =>
    refine h.quiet rfl (fun _ => rfl) rfl ?_
    intro outcome hmem
    rw [List.mem_singleton.mp hmem]
    exact (failure_filterMap platform hfailure).1
  | finish _ houtcome =>
    refine h.quiet rfl (fun _ => rfl) rfl ?_
    intro outcome hmem
    rw [List.mem_singleton.mp hmem]
    rcases houtcome with ⟨terminal, rfl⟩ | ⟨error, rfl⟩
    · rfl
    · rfl
  | close _ hconsume =>
    obtain ⟨hcount, hdigest⟩ := consume_keeps hconsume
    exact h.quiet hcount hdigest rfl (by simp [Outcome.published])
  | mark _ _ => exact h.quiet rfl (fun _ => rfl) (List.append_nil _).symm (by simp)
  | settle _ _ => exact h.quiet rfl (fun _ => rfl) rfl (by simp [Outcome.published])
  | strand _ _ => exact h.quiet rfl (fun _ => rfl) rfl (by simp [Outcome.published])

end Publication

section Closing

variable {call : PreparedRepositoryToolCallV2}

/-- What was recorded when the call was published, with the assumption that its parameters are read
back as they were written. -/
theorem Publication.publishes (h : Publication platform broker system)
    (hcall : call ∈ system.published) :
    ∃ input nanos state after, .prepared input call ∈ system.history ∧
      Publishes platform broker state input nanos call after := by
  obtain ⟨input, hmem⟩ := mem_published.mp hcall
  obtain ⟨nanos, state, after, hpublishes⟩ := h.calls input call hmem
  exact ⟨input, nanos, state, after, hmem, hpublishes⟩

theorem Publication.activePrepared (h : Publication platform broker system)
    (hcall : call ∈ system.published)
    (hbundle : validatePreparedBundle platform broker call = .ok ()) :
    validateActivePrepared platform broker system.state call = .ok () := by
  obtain ⟨input, nanos, state, after, _, hpublishes⟩ := h.publishes hcall
  obtain ⟨record, hrecord, hdigest⟩ := Option.map_eq_some_iff.mp (h.records call hcall)
  simp only [validateActivePrepared, validateActiveBundle, validateIssued, bind_eq_ok,
    ensure_eq_ok, expect_eq_ok]
  exact ⟨(), ⟨(), hbundle, hpublishes.brokerInstanceId⟩, record, hrecord, hdigest⟩

theorem consume_of_unspent {state : BrokerPrepareState} {record : IssuedCall}
    (hrecord : state.issuedCalls[call.receipt.toolCallId]? = some record)
    (hunspent : record.consumed = false) : ∃ after, consume state call = .ok after := by
  cases hconsume : consume state call with
  | ok after => exact ⟨after, rfl⟩
  | error error =>
    simp only [consume, hrecord, expect, hunspent, ensure, if_true, bind, Except.bind, pure,
      Except.pure, reduceCtorEq] at hconsume

/-- An open call is closed by an interruption. -/
theorem closable_of_open (hclock : ∀ time, (Json.string (platform.rfc3339 time)).length ≤ 40)
    (hpublication : Publication platform broker system)
    (haccounting : Accounting platform system) (hcall : call ∈ system.published)
    {parameters : RepositoryToolCanonicalParameters}
    (hdecode : decodeExactPreparedParameters platform call = .ok parameters)
    (hauthority : call.receipt.authority = broker.authority)
    (hopen : system.isOpen call.receipt.toolCallId) :
    Closable platform broker system.state call := by
  rintro input rfl hmatched nanos
  have hbundle : validatePreparedBundle platform broker input.prepared = .ok () := by
    simp only [validatePreparedBundle, bind_eq_ok, ensure_eq_ok]
    exact ⟨parameters, hdecode, hauthority⟩
  obtain ⟨terminal, hterminal⟩ := unknown_eq_ok input
    (.brokerRecorded (broker.moment nanos)
      (saturatingSub64 nanos input.prepared.receipt.brokerPreparedAt.monotonicNanos))
    .noFilesystemAccessAttempted hclock (decodeExact_eq_ok hdecode)
  obtain ⟨record, hrecord, _⟩ := Option.map_eq_some_iff.mp (hpublication.records _ hcall)
  have hunspent : record.consumed = false := by
    by_contra hconsumed
    have hspent : system.state.spent input.prepared.receipt.toolCallId :=
      ⟨record, hrecord, by simpa using hconsumed⟩
    rcases haccounting.accounted _ hspent with hclosed | ⟨client, hheld⟩
    · exact hopen.1 hclosed
    · exact hopen.2 client hheld
  obtain ⟨after, hconsume⟩ := consume_of_unspent hrecord hunspent
  refine ⟨(terminal, after), ?_⟩
  simp only [recordInterruption, prepareInterruption, validateInterruptionMetadata, bind_eq_ok,
    ensure_eq_ok, pure, Except.pure, Except.ok.injEq]
  exact ⟨terminal, ⟨(), hmatched, (), hpublication.activePrepared hcall hbundle, hterminal⟩,
    after, hconsume, rfl⟩

theorem spent_of_not_open (haccounting : Accounting platform system) {id : ChildToolCallId}
    (hopen : ¬system.isOpen id) : system.state.spent id := by
  by_cases hclosed : id ∈ system.closed
  · exact haccounting.spending.settled_spent id hclosed
  · have hheld : ∃ client, system.holder Task.spending client = some id := by
      by_contra hnone
      exact hopen ⟨hclosed, fun client hclient => hnone ⟨client, hclient⟩⟩
    obtain ⟨client, hclient⟩ := hheld
    exact (haccounting.spending.held client id hclient).1

/-- A call of this broker is not reconciled by it. -/
theorem beginReconciliation_of_own {reconciled : List ReconciliationKey}
    {input : RepositoryToolInterruptionInputV2}
    (hown : input.prepared.receipt.brokerPreparedAt.brokerInstanceId = broker.brokerInstanceId)
    (result : List ReconciliationKey) :
    beginReconciliation platform broker reconciled input ≠ .ok result := by
  intro h
  simp only [beginReconciliation, validateAbandoned, bind_eq_ok, ensure_eq_ok] at h
  obtain ⟨_, ⟨_, _, _, _, hother, _⟩, _⟩ := h
  exact hother hown

theorem unclosable_of_not_open (hpublication : Publication platform broker system)
    (haccounting : Accounting platform system) (hcall : call ∈ system.published)
    (hopen : ¬system.isOpen call.receipt.toolCallId) :
    Unclosable platform broker system call := by
  have hspent := spent_of_not_open haccounting hopen
  obtain ⟨_, _, _, _, _, hpublishes⟩ := hpublication.publishes hcall
  refine ⟨consume_error_of_spent hspent, ?_, ?_⟩
  · rintro input rfl nanos
    apply exists_error
    intro result h
    simp only [recordInterruption, bind_eq_ok] at h
    obtain ⟨_, _, after, hconsume, _⟩ := h
    exact (consume_spent hconsume).1 hspent
  · rintro input rfl
    apply exists_error
    intro result h
    simp only [reconcileAbandonedPrepared, bind_eq_ok] at h
    obtain ⟨after, hbegin, _⟩ := h
    exact beginReconciliation_of_own hpublishes.brokerInstanceId after hbegin

/-- A broker of a later epoch closes an abandoned call it has not closed before. -/
theorem reconcilable_of_abandoned
    (hclock : ∀ time, (Json.string (platform.rfc3339 time)).length ≤ 40) {later : BrokerSetup}
    {parameters : RepositoryToolCanonicalParameters}
    (hdecode : decodeExactPreparedParameters platform call = .ok parameters)
    (hauthority : call.receipt.authority = later.authority)
    (hother : call.receipt.brokerPreparedAt.brokerInstanceId ≠ later.brokerInstanceId)
    (hclosed : call.receipt.brokerPreparedAt.brokerInstanceId ∈
      later.epoch.closedBrokerInstanceIds) {reconciled : List ReconciliationKey}
    (hfresh : reconciliationKey platform call ∉ reconciled) :
    Reconcilable platform later reconciled call := by
  rintro input rfl hmatched
  obtain ⟨terminal, hterminal⟩ := unknown_eq_ok input
    (.runtimeReconciled input.prepared.receipt.brokerPreparedAt.brokerInstanceId)
    .indeterminate hclock (decodeExact_eq_ok hdecode)
  refine ⟨(terminal, reconciliationKey platform input.prepared :: reconciled), ?_⟩
  simp only [reconcileAbandonedPrepared, beginReconciliation, validateAbandoned,
    validateInterruptionMetadata, validatePreparedBundle, markReconciled, bind_eq_ok,
    ensure_eq_ok, pure, Except.pure, Except.ok.injEq]
  exact ⟨_, ⟨(), ⟨(), hmatched, (), ⟨parameters, hdecode, hauthority⟩, hother, hclosed⟩, (),
    hfresh, rfl⟩, terminal, hterminal, rfl⟩

end Closing

section Runs

variable {trace : List (System Client × Action Client)}

theorem accounting_run [DecidableEq Client]
    (hclock : ∀ time, (Json.string (platform.rfc3339 time)).length ≤ 40)
    (hrun : Run (step platform broker) (System.start : System Client) trace system) :
    Accounting platform system :=
  hrun.invariant (fun _ _ _ h hstep => h.step hclock hstep) accounting_start

theorem publication_run [DecidableEq Client]
    (hrun : Run (step platform broker) (System.start : System Client) trace system) :
    Publication platform broker system :=
  hrun.invariant (fun _ _ _ h hstep => h.step hstep) publication_start

theorem closedOnce_of_versions
    (hclock : ∀ time, (Json.string (platform.rfc3339 time)).length ≤ 40)
    (hpublication : Publication platform broker system)
    (haccounting : Accounting platform system)
    (hreads : ∀ input call, .prepared input call ∈ system.history →
      platform.readParameters input.parameters.json = some input.parameters)
    (hversions : ∀ input call, .prepared input call ∈ system.history →
      input.parameters.schemaVersion = repositoryBrokerContractVersion) :
    ClosedOnce platform broker system := by
  refine ⟨hpublication.sequences, hpublication.distinct, haccounting.spending.once,
    haccounting.access.once, haccounting.marking.once, ?_, ?_, ?_⟩
  · intro call hcall hopen
    obtain ⟨input, _, _, _, hmem, hpublishes⟩ := hpublication.publishes hcall
    have hdecode := hpublishes.decodeExact (hreads input call hmem) (hversions input call hmem)
    exact closable_of_open hclock hpublication haccounting hcall hdecode hpublishes.authority hopen
  · intro call hcall hopen
    exact unclosable_of_not_open hpublication haccounting hcall hopen
  · intro call hcall later hauthority hother hclosed reconciled hfresh
    obtain ⟨input, _, _, _, hmem, hpublishes⟩ := hpublication.publishes hcall
    have hdecode := hpublishes.decodeExact (hreads input call hmem) (hversions input call hmem)
    apply reconcilable_of_abandoned hclock hdecode (hpublishes.authority.trans hauthority.symm)
    · rw [hpublishes.brokerInstanceId]
      exact hother
    · rw [hpublishes.brokerInstanceId]
      exact hclosed
    · exact hfresh

/-- A broker of the same authority that closed the epoch of another. -/
def BrokerSetup.successor (broker : BrokerSetup) : BrokerSetup :=
  { broker with
    epoch := {
      activeBrokerInstanceId := ⟨broker.brokerInstanceId.uuid + 1⟩
      closedBrokerInstanceIds := [broker.brokerInstanceId] } }

theorem successor_ne (broker : BrokerSetup) :
    broker.brokerInstanceId ≠ broker.successor.brokerInstanceId := by
  intro h
  have huuid : broker.brokerInstanceId.uuid = broker.brokerInstanceId.uuid + 1 :=
    congrArg UuidId.uuid h
  simp at huuid

/-- A call of another schema version is never closed: not in its own epoch and not in a later. -/
theorem versions_of_closedOnce (hpublication : Publication platform broker system)
    (hreads : ∀ input call, .prepared input call ∈ system.history →
      platform.readParameters input.parameters.json = some input.parameters)
    (hclosed : ClosedOnce platform broker system) (input : RepositoryToolPrepareInputV2)
    (call : PreparedRepositoryToolCallV2) (hmem : .prepared input call ∈ system.history) :
    input.parameters.schemaVersion = repositoryBrokerContractVersion := by
  by_contra hversion
  obtain ⟨nanos, state, after, hpublishes⟩ := hpublication.calls input call hmem
  have hreconcilable := hclosed.abandoned call (mem_published.mpr ⟨input, hmem⟩)
    broker.successor rfl (successor_ne broker) (List.mem_singleton_self _) [] List.not_mem_nil
  obtain ⟨error, herror⟩ := validatePreparedBundle_of_version hpublishes
    (hreads input call hmem) hversion broker.successor
  obtain ⟨closing, hclosing⟩ := hreconcilable
    { prepared := call, preparedEventId := default, boundary := .deadline,
      cancellation := none, runtimeBoundaryAt := input.runtimePreparedAt } rfl rfl
  simp only [reconcileAbandonedPrepared, beginReconciliation, validateAbandoned,
    bind_eq_ok] at hclosing
  obtain ⟨_, ⟨_, ⟨_, _, _, hbundle, _⟩, _⟩, _⟩ := hclosing
  rw [herror] at hbundle
  cases hbundle

end Runs

section Steps

variable [DecidableEq Client]

theorem accesses_ne_failure {call : PreparedRepositoryToolCallV2} {outcome : Outcome}
    (hfailure : outcome.failure = true) : accesses call ≠ [outcome] := by
  intro h
  unfold accesses at h
  split at h
  · cases h
    cases hfailure
  · cases h

/-- A failure is recorded only by steps that leave the broker as it was. -/
theorem failure_keeps {outcome : Outcome} (hfailure : outcome.failure = true)
    (hmoves : Moves platform broker system action next)
    (hhistory : next.history = system.history ++ [outcome]) :
    next.state = system.state ∧ next.reconciled = system.reconciled := by
  cases hmoves with
  | publish _ =>
    cases List.append_cancel_left hhistory
    cases hfailure
  | consume _ _ => exact absurd (List.append_cancel_left hhistory) (accesses_ne_failure hfailure)
  | close _ _ =>
    cases List.append_cancel_left hhistory
    cases hfailure
  | mark _ _ =>
    have hlength := congrArg List.length hhistory
    simp [System.setTask] at hlength
  | refuse _ | start _ _ | lose _ _ _ _ | finish _ _ | settle _ _ | strand _ _ => exact ⟨rfl, rfl⟩

theorem failedPrepare_keeps {error : RepositoryBrokerErrorV2}
    (hmoves : Moves platform broker system action next)
    (hhistory : next.history = system.history ++ [.prepareFailed error]) :
    next = system.record [.prepareFailed error] := by
  cases hmoves with
  | refuse _ =>
    cases List.append_cancel_left hhistory
    rfl
  | start _ _ =>
    have hlength := congrArg List.length hhistory
    simp [System.setTask] at hlength
  | mark _ _ =>
    have hlength := congrArg List.length hhistory
    simp [System.setTask] at hlength
  | consume _ _ => exact absurd (List.append_cancel_left hhistory) (accesses_ne_failure rfl)
  | lose _ _ _ hprepare =>
    cases List.append_cancel_left hhistory
    exact absurd rfl (hprepare error)
  | finish _ houtcome =>
    cases List.append_cancel_left hhistory
    simp at houtcome
  | publish _ | close _ _ | settle _ _ | strand _ _ => cases List.append_cancel_left hhistory

theorem losesNothing_step (hclock : ∀ time, (Json.string (platform.rfc3339 time)).length ≤ 40)
    (haccounting : Accounting platform system)
    (hstep : step platform broker system action = some next) :
    LosesNothing platform system action next := by
  have hmoves := step_moves hstep
  refine ⟨fun error => failedPrepare_keeps hmoves,
    fun outcome hfailure => failure_keeps hfailure hmoves, ?_, ?_⟩
  · intro client input interruption nanos haction
    cases hmoves with
    | refuse _ | start _ _ | lose _ _ _ _ => exact ⟨rfl, rfl⟩
    | publish _ | consume _ _ | finish _ _ | close _ _ | mark _ _ | settle _ _ | strand _ _ =>
      simp at haction
  · rintro client input htask rfl
    obtain ⟨parameters, hbundle⟩ := haccounting.bundles client input htask
    obtain ⟨terminal, hterminal⟩ := unknown_eq_ok input
      (.runtimeReconciled input.prepared.receipt.brokerPreparedAt.brokerInstanceId)
      .indeterminate hclock hbundle
    simp only [step, htask, reconciliationTerminal, hterminal, Option.some.injEq] at hstep
    subst hstep
    exact ⟨terminal, rfl⟩

/-- A call is closed at most once and stays closable until then, in every run whose published
calls carry the schema version of the broker, and in no other. -/
theorem preparedCalls_closedOnce_iff
    (hclock : ∀ time, (Json.string (platform.rfc3339 time)).length ≤ 40)
    {trace : List (System Client × Action Client)}
    (hrun : Run (step platform broker) System.start trace system)
    (hreads : ∀ input call, .prepared input call ∈ system.history →
      platform.readParameters input.parameters.json = some input.parameters) :
    (ClosedOnce platform broker system ↔ ∀ input call, .prepared input call ∈ system.history →
      input.parameters.schemaVersion = repositoryBrokerContractVersion) ∧
    ∀ action next, step platform broker system action = some next →
      LosesNothing platform system action next := by
  have hpublication := publication_run hrun
  have haccounting := accounting_run hclock hrun
  refine ⟨⟨?_, ?_⟩, ?_⟩
  · intro hclosed input call hmem
    exact versions_of_closedOnce hpublication hreads hclosed input call hmem
  · intro hversions
    exact closedOnce_of_versions hclock hpublication haccounting hreads hversions
  · intro action next hstep
    exact losesNothing_step hclock haccounting hstep

end Steps

section Preparing

theorem preparedReceipt_length_le {rfc3339 : DateTime → String}
    (hclock : ∀ time, (Json.string (rfc3339 time)).length ≤ 40)
    {receipt : RepositoryToolPreparedReceiptV2}
    (hbinding : (ChildExecutionBinding.json receipt.binding).length ≤ 500)
    (haction : (ChildValidatedActionBinding.json receipt.actionBinding).length ≤ 1000)
    (hoperation : (ChildToolOperation.json receipt.operation).length ≤ 200)
    (hauthority : (RepositoryToolReceiptAuthorityV2.json receipt.authority).length ≤ 2000)
    (hartifact : (ArtifactRef.json receipt.canonicalParametersArtifact).length ≤ 200)
    (hauthorization : receipt.authorization.json.length ≤ 200) :
    (receipt.json rfc3339).length ≤ 5000 := by
  have hframing : Json.framing ["schema_version", "binding", "tool_call_id", "tool_ordinal",
      "action_binding", "operation", "authority", "canonical_parameters_artifact",
      "canonical_parameters_digest", "authorization", "broker_call_sequence", "broker_prepared_at",
      "runtime_prepared_at"] = 256 := by
    decide
  have hbroker : (RepositoryBrokerClock.json receipt.brokerPreparedAt).length ≤ 100 := by
    have hnanos := length_u64_le receipt.brokerPreparedAt.monotonicNanos
    rw [RepositoryBrokerClock.length_json]
    omega
  have hruntime : (RuntimeClockReading.json rfc3339 receipt.runtimePreparedAt).length ≤ 156 := by
    have hnanos := length_u64_le receipt.runtimePreparedAt.monotonicNanos
    have hobserved := hclock receipt.runtimePreparedAt.observedAt
    rw [RuntimeClockReading.length_json]
    omega
  have hsum : ∀ version binding ordinal action operation authority artifact authorization sequence
      broker runtime : ℕ, version ≤ 10 → binding ≤ 500 → ordinal ≤ 10 → action ≤ 1000 →
      operation ≤ 200 → authority ≤ 2000 → artifact ≤ 200 → authorization ≤ 200 → sequence ≤ 20 →
      broker ≤ 100 → runtime ≤ 156 →
      256 + (version + (binding + (38 + (ordinal + (action + (operation + (authority + (artifact +
        (66 + (authorization + (sequence + (broker + (runtime + 0))))))))))))) ≤ 5000 := by
    omega
  simp only [RepositoryToolPreparedReceiptV2.json, Json.length_object, List.map_cons, List.map_nil,
    List.sum_cons, List.sum_nil, length_digestText, length_uuidText, hframing]
  exact hsum _ _ _ _ _ _ _ _ _ _ _ (length_u32_le _) hbinding (length_u32_le _) haction hoperation
    hauthority hartifact hauthorization (length_u64_le _) hbroker hruntime

theorem exists_ok_bind {E A B : Type} {x : Except E A} {f : A → Except E B} {a : A}
    (hx : x = .ok a) (hf : ∃ b, f a = .ok b) : ∃ b, (x >>= f) = .ok b := by
  obtain ⟨b, hb⟩ := hf
  exact ⟨b, bind_eq_ok.mpr ⟨a, hx, hb⟩⟩

theorem exists_prepared {platform : Platform} {broker : BrokerSetup} {state : BrokerPrepareState}
    {input : RepositoryToolPrepareInputV2} {nanos sequence : UInt64}
    (hparameters : saturate64 input.parameters.json.length ≤ repositoryToolHardMaxRequestBytes)
    (hfresh : input.parameters.toolCallId ∉ state.issuedCalls)
    (hsequence : nextBrokerCallSequence state.lastPublishedSequence = some sequence)
    (hreceipt : saturate64 ((issuedReceipt platform broker input sequence nanos).json
      platform.rfc3339).length ≤ repositoryToolHardMaxTerminalReceiptBytes) :
    ∃ result, prepare platform broker state input nanos = .ok result := by
  unfold prepare
  refine exists_ok_bind (a := ()) (ensure_eq_ok.mpr hparameters) ?_
  refine exists_ok_bind (a := ()) (ensure_eq_ok.mpr hfresh) ?_
  refine exists_ok_bind (expect_eq_ok.mpr hsequence) ?_
  refine exists_ok_bind (a := ()) (ensure_eq_ok.mpr hreceipt) ?_
  exact ⟨_, rfl⟩

end Preparing

section Sample

/-- The parameters of an older schema version, which `prepare` takes as well. -/
def staleParameters : RepositoryToolCanonicalParameters := { sampleParameters with schemaVersion := 1 }

def samplePlatform : Platform where
  sha256 _ := sampleDigest 7
  rfc3339 _ := "1970-01-01T00:00:00.000000009Z"
  base64 _ := ""
  fromBase64 _ := none
  readParameters bytes := [sampleParameters, staleParameters].find? (·.json = bytes)
  readResult _ := none
  readFailureEvidence _ := none
  readDenialEvidence _ := none
  readUnknownEvidence _ := none

def sampleBroker : BrokerSetup where
  authority := receiptAuthority sampleAuthority [sampleGrant]
  epoch := ⟨sampleId 1, []⟩
  rootIdentity := sampleFile

def sampleInput (parameters : RepositoryToolCanonicalParameters) : RepositoryToolPrepareInputV2 :=
  ⟨parameters, sampleClock 9⟩

theorem find?_pair {A B : Type} [DecidableEq B] (write : A → B) {first second : A}
    (h : write first ≠ write second) :
    [first, second].find? (fun value => write value = write first) = some first ∧
      [first, second].find? (fun value => write value = write second) = some second := by
  simp [h]

/-- The platform reads back what it wrote, and its clock texts are short. -/
theorem samplePlatform_answers :
    (∀ parameters ∈ [sampleParameters, staleParameters],
      samplePlatform.readParameters parameters.json = some parameters) ∧
    ∀ time, (Json.string (samplePlatform.rfc3339 time)).length ≤ 40 := by
  have hclock : (Json.string "1970-01-01T00:00:00.000000009Z").length ≤ 40 := by
    decide
  -- Where the two texts differ is at their start.
  have hstart : (sampleParameters.json.take 24) ≠ staleParameters.json.take 24 := by
    decide
  have hne : sampleParameters.json ≠ staleParameters.json := fun h => hstart (congrArg _ h)
  have hread (bytes : Bytes) : samplePlatform.readParameters bytes =
      [sampleParameters, staleParameters].find? fun value => value.json = bytes := rfl
  have hpair := find?_pair RepositoryToolCanonicalParameters.json hne
  refine ⟨?_, fun time => hclock⟩
  intro parameters h
  rw [hread]
  rcases List.mem_pair.mp h with rfl | rfl
  · exact hpair.1
  · exact hpair.2

theorem length_sampleHex (k : Fin 32) : (Json.string (sampleHex k)).length = 66 :=
  length_digestText (sampleDigest k)

theorem sampleParameters_length :
    (ChildExecutionBinding.json sampleBinding).length = 450 ∧
    (ChildValidatedActionBinding.json sampleActionBinding).length = 813 ∧
    ∀ parameters ∈ [sampleParameters, staleParameters], parameters.json.length = 1561 := by
  have hbinding : (ChildExecutionBinding.json sampleBinding).length = 450 := by
    simp only [ChildExecutionBinding.json, Json.length_object, List.map_cons, List.map_nil,
      List.sum_cons, List.sum_nil, length_digestText, length_uuidText]
    decide
  have haction : (ChildValidatedActionBinding.json sampleActionBinding).length = 813 := by
    simp only [sampleActionBinding, samplePlanBinding, sampleArtifact,
      ChildValidatedActionBinding.json, ChildLocalPlanBinding.json, ArtifactRef.json,
      Json.length_object, List.map_cons, List.map_nil, List.sum_cons, List.sum_nil,
      length_digestText, length_uuidText, length_sampleHex]
    decide
  refine ⟨hbinding, haction, ?_⟩
  intro parameters h
  have hversion : (u32 parameters.schemaVersion).length = 1 := by
    rcases List.mem_pair.mp h with rfl | rfl <;> rfl
  have hsame : parameters =
      { sampleParameters with schemaVersion := parameters.schemaVersion } := by
    rcases List.mem_pair.mp h with rfl | rfl <;> rfl
  rw [hsame]
  simp only [sampleParameters, RepositoryToolCanonicalParameters.json, Json.length_object,
    List.map_cons, List.map_nil, List.sum_cons, List.sum_nil, length_uuidText, hbinding, haction,
    hversion]
  decide +kernel

theorem sampleReceipt_length :
    (ChildToolOperation.json sampleOperation).length ≤ 200 ∧
    (RepositoryToolReceiptAuthorityV2.json
      (receiptAuthority sampleAuthority [sampleGrant])).length ≤ 2000 ∧
    (Json.string repositoryToolCanonicalParametersV2MediaType).length ≤ 75 ∧
    ∀ parameters ∈ [sampleParameters, staleParameters],
      (issuedReceipt samplePlatform sampleBroker (sampleInput parameters) 1
        9).authorization.json.length ≤ 200 := by
  refine ⟨by decide, ?_, by decide, ?_⟩
  · simp only [receiptAuthority, sampleAuthority, sampleArtifact,
      RepositoryToolReceiptAuthorityV2.json, RepositorySnapshotBinding.json,
      RepositorySnapshotLeaseBinding.json, ArtifactRef.json, Json.length_object, List.map_cons,
      List.map_nil, List.sum_cons, List.sum_nil, length_digestText, length_uuidText,
      length_sampleHex]
    decide +kernel
  · intro parameters h
    have hlength : (sampleInput parameters).parameters.json.length = 1561 :=
      sampleParameters_length.2.2 parameters h
    simp only [issuedReceipt, hlength]
    rcases List.mem_pair.mp h with rfl | rfl
    · decide
    · decide

theorem samplePlatform_prepares : ∀ parameters ∈ [sampleParameters, staleParameters],
    ∃ result, prepare samplePlatform sampleBroker .start (sampleInput parameters) 9 = .ok result := by
  intro parameters h
  obtain ⟨hbinding', haction', hlengths⟩ := sampleParameters_length
  obtain ⟨hoperation', hauthority, hmedia, hauthorizations⟩ := sampleReceipt_length
  have hlength := hlengths parameters h
  have hbinding : (ChildExecutionBinding.json parameters.binding).length = 450 := by
    rcases List.mem_pair.mp h with rfl | rfl <;> exact hbinding'
  have haction : (ChildValidatedActionBinding.json parameters.actionBinding).length = 813 := by
    rcases List.mem_pair.mp h with rfl | rfl <;> exact haction'
  have hoperation : (ChildToolOperation.json parameters.operation).length ≤ 200 := by
    rcases List.mem_pair.mp h with rfl | rfl <;> exact hoperation'
  have hsha256 : (issuedReceipt samplePlatform sampleBroker (sampleInput parameters) 1
      9).canonicalParametersArtifact.sha256 = (sampleDigest 7).value := rfl
  have hartifact : (ArtifactRef.json (issuedReceipt samplePlatform sampleBroker
      (sampleInput parameters) 1 9).canonicalParametersArtifact).length ≤ 200 :=
    (ArtifactRef.length_json_le hsha256).trans (Nat.add_le_add_left hmedia 125)
  have hreceipt : ((issuedReceipt samplePlatform sampleBroker (sampleInput parameters) 1 9).json
      samplePlatform.rfc3339).length ≤ 5000 :=
    preparedReceipt_length_le samplePlatform_answers.2 (hbinding.trans_le (by decide))
      (haction.trans_le (by decide)) hoperation hauthority hartifact
      (hauthorizations parameters h)
  refine exists_prepared (saturate64_le ?_) Std.ExtTreeMap.not_mem_empty rfl (saturate64_le ?_)
  · exact hlength.trans_le (by decide)
  · exact hreceipt.trans (by decide)

/-- A run of one call. -/
theorem run_of_prepare {parameters : RepositoryToolCanonicalParameters}
    (h : parameters ∈ [sampleParameters, staleParameters]) :
    ∃ (trace : List (System Unit × Action Unit)) (system : System Unit)
      (call : PreparedRepositoryToolCallV2),
      Run (step samplePlatform sampleBroker) System.start trace system ∧
        system.history = [.prepared (sampleInput parameters) call] := by
  obtain ⟨⟨call, state⟩, hprepare⟩ := samplePlatform_prepares _ h
  refine ⟨_, ({ (System.start : System Unit) with state }).record
    [.prepared (sampleInput parameters) call], call,
    Run.nil.snoc (i := .prepare () (sampleInput parameters) 9) ?_, rfl⟩
  simp [step, System.start, hprepare]

/-- A call is published whose execution does not start and that no interruption closes. -/
theorem stalePrepared_unclosable :
    ∃ (trace : List (System Unit × Action Unit)) (system : System Unit),
      Run (step samplePlatform sampleBroker) System.start trace system ∧
      ∃ call ∈ system.published,
        (∃ error, validateActivePrepared samplePlatform sampleBroker system.state call =
          .error error) ∧
        ∀ input : RepositoryToolInterruptionInputV2, input.prepared = call → ∀ nanos,
          ∃ error, recordInterruption samplePlatform sampleBroker system.state input nanos =
            .error error := by
  have hstale : staleParameters ∈ [sampleParameters, staleParameters] := by simp
  obtain ⟨trace, system, call, hrun, hhistory⟩ := run_of_prepare hstale
  have hmem : .prepared (sampleInput staleParameters) call ∈ system.history := by
    rw [hhistory]
    exact List.mem_singleton_self _
  obtain ⟨nanos, state, after, hpublishes⟩ := (publication_run hrun).calls _ _ hmem
  obtain ⟨error, herror⟩ := validatePreparedBundle_of_version hpublishes
    (samplePlatform_answers.1 _ hstale) (by decide) sampleBroker
  have hactive : ∀ result, validateActivePrepared samplePlatform sampleBroker system.state call ≠
      .ok result := by
    intro result h
    simp only [validateActivePrepared, validateActiveBundle, bind_eq_ok] at h
    obtain ⟨_, ⟨_, hbundle, _⟩, _⟩ := h
    rw [herror] at hbundle
    cases hbundle
  refine ⟨trace, system, hrun, call, mem_published.mpr ⟨_, hmem⟩, exists_error hactive, ?_⟩
  rintro input rfl nanos
  apply exists_error
  intro result h
  simp only [recordInterruption, prepareInterruption, bind_eq_ok] at h
  obtain ⟨_, ⟨_, _, _, hvalid, _⟩, _⟩ := h
  exact hactive _ hvalid

theorem preparedCalls_closedOnce_sample :
    ∃ (trace : List (System Unit × Action Unit)) (system : System Unit),
      Run (step samplePlatform sampleBroker) System.start trace system ∧
        system.history.length = 1 ∧ ClosedOnce samplePlatform sampleBroker system := by
  have hcurrent : sampleParameters ∈ [sampleParameters, staleParameters] := by simp
  obtain ⟨trace, system, call, hrun, hhistory⟩ := run_of_prepare hcurrent
  have hinput : ∀ input found, .prepared input found ∈ system.history →
      input = sampleInput sampleParameters := by
    intro input found hmem
    rw [hhistory] at hmem
    cases List.mem_singleton.mp hmem
    rfl
  have hclosed := preparedCalls_closedOnce_iff samplePlatform_answers.2 hrun (by
    intro input found hmem
    rw [hinput input found hmem]
    exact samplePlatform_answers.1 _ hcurrent)
  refine ⟨trace, system, hrun, by rw [hhistory]; rfl, hclosed.1.mpr ?_⟩
  intro input found hmem
  rw [hinput input found hmem]
  rfl

end Sample

end BirdCode.Tooling
