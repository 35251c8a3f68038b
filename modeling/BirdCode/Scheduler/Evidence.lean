import BirdCode.Scheduler.FailStop
import BirdCode.Scheduler.VerifierComplete

/-! The executor retains the evidence for every dispatch before it makes it, so that the verifier
accepts each dispatch that a worker is handed, then and later. -/
namespace BirdCode.Scheduler

open Lib

variable {digest : CanonicalDigest} {graph : ValidatedActorGraph digest} {draw : ℕ → Uuid}
  {s t : SchedulerState} {input : Input} {records : List SchedulerRecord}
  {root : SchedulerEventId} {sha : String} {future : WorkOrderFuture}
  {tr : List (SchedulerState × Input)}

section Handoffs

/-- A completed handoff that a later dispatch can be bound to. -/
def Produced (records : List SchedulerRecord) (root : SchedulerEventId) (sha : String)
    (id : WorkOrderId) (handoff : Handoff) : Prop :=
  ∃ handoffPosition retained producerPosition producer producerData,
    DependencyEdge records root sha records.length id handoff.retainedEventId handoffPosition
      retained handoff producerPosition producer producerData

theorem Produced.append (record : SchedulerRecord) {id : WorkOrderId} {handoff : Handoff}
    (h : Produced records root sha id handoff) :
    Produced (records ++ [record]) root sha id handoff := by
  obtain ⟨hp, retained, pp, producer, producerData, hedge⟩ := h
  have hedge' := hedge.map (embeds_append records [record])
  refine ⟨hp, retained, pp, producer, producerData, { hedge' with handoff_before := ?_ }⟩
  rw [List.length_append]
  exact Nat.lt_add_right _ hedge.handoff_before

/-- The event ids of a future are those of the handoffs it carries. -/
theorem dependencyHandoffEventIds_getElem? (future : WorkOrderFuture) (id : WorkOrderId) :
    future.dependencyHandoffEventIds[id]? =
      future.dependencyHandoffs[id]?.map (·.retainedEventId) := by
  have hkeys : ((future.dependencyHandoffs.toList.map fun entry =>
      (entry.1, entry.2.retainedEventId)).map Prod.fst).Nodup := by
    rw [List.map_map]
    have hkeys : future.dependencyHandoffs.toList.map Prod.fst = future.dependencyHandoffs.keys :=
      Std.ExtTreeMap.map_fst_toList_eq_keys
    exact hkeys ▸ Std.ExtTreeMap.nodup_keys
  ext eventId
  rw [WorkOrderFuture.dependencyHandoffEventIds, toMap_getElem?_eq_some hkeys, List.mem_map,
    Option.map_eq_some_iff]
  constructor
  · rintro ⟨⟨key, handoff⟩, hentry, heq⟩
    obtain ⟨rfl, rfl⟩ := Prod.mk.inj heq
    exact ⟨handoff, Std.ExtTreeMap.mem_toList_iff_getElem?_eq_some.mp hentry, rfl⟩
  · rintro ⟨handoff, hhandoff, rfl⟩
    exact ⟨(id, handoff), Std.ExtTreeMap.mem_toList_iff_getElem?_eq_some.mpr hhandoff, rfl⟩

/-- A launched future carries the handoffs of its dependencies as they are. -/
theorem createFuture_getElem? (handoffs : BTreeMap WorkOrderId Handoff) (order : WorkOrder)
    (id : WorkOrderId) (handoff : Handoff) :
    (createFuture handoffs order).dependencyHandoffs[id]? = some handoff ↔
      id ∈ order.dependencies ∧ handoffs[id]? = some handoff := by
  have hkeys := (map_filterMap_sublist (k := Prod.fst)
    (g := fun id => handoffs[id]?.map fun handoff => (id, handoff)) (fun id entry h => by
      obtain ⟨handoff, -, rfl⟩ := Option.map_eq_some_iff.mp h
      rfl) order.dependencies.toList).nodup (nodup_toList order.dependencies)
  rw [createFuture, toMap_getElem?_eq_some hkeys, List.mem_filterMap]
  simp only [Option.map_eq_some_iff, Prod.mk.injEq, Std.ExtTreeSet.mem_toList]
  constructor
  · rintro ⟨key, hkey, found, hfound, rfl, rfl⟩
    exact ⟨hkey, hfound⟩
  · rintro ⟨hid, hhandoff⟩
    exact ⟨id, hid, handoff, hhandoff, rfl, rfl⟩

end Handoffs

section Evidence

/-- A dispatch record of one attempt of a future. -/
structure OwnDispatch (graph : ValidatedActorGraph digest) (records : List SchedulerRecord)
    (root : SchedulerEventId) (future : WorkOrderFuture) (identity : WorkOrderIdentity)
    (attemptId : AttemptId) (position : ℕ) (record : SchedulerRecord) (data : AttemptDispatched) :
    Prop where
  at_position : records[position]? = some record
  event : record.event = .attemptDispatched data
  workOrder : data.workOrderId = future.order.id
  actor : data.actorId = identity.actorId
  execution : data.executionId = identity.executionId
  attempt : data.attemptId = attemptId
  run : data.graphAcceptedEventId = root
  attestation : data.attestation = dispatchAttestation digest graph.digestSha256 future.order
  events : data.dependencyHandoffEventIds = future.dependencyHandoffEventIds

/-- What is retained about a future, by its phase. -/
inductive PhaseEvidence (graph : ValidatedActorGraph digest) (records : List SchedulerRecord)
    (root : SchedulerEventId) (future : WorkOrderFuture) : Phase → Prop
  | created : PhaseEvidence graph records root future .created
  | executing {identity : WorkOrderIdentity} {attemptNumber : ℕ} {attemptId : AttemptId}
      {dispatched : SchedulerEventId} {position : ℕ} {record : SchedulerRecord}
      {data : AttemptDispatched}
      (h : OwnDispatch graph records root future identity attemptId position record data)
      (hid : record.id = dispatched) :
      PhaseEvidence graph records root future (.executing identity attemptNumber attemptId dispatched)
  | cleaning {identity : WorkOrderIdentity} {attemptNumber : ℕ} {attemptId : AttemptId}
      {dispatched : SchedulerEventId} {position : ℕ} {record : SchedulerRecord}
      {data : AttemptDispatched}
      (h : OwnDispatch graph records root future identity attemptId position record data)
      (hid : record.id = dispatched) :
      PhaseEvidence graph records root future (.cleaning identity attemptNumber attemptId dispatched)
  | retrying {identity : WorkOrderIdentity} {attemptNumber : ℕ} {attemptId : AttemptId}
      {causalParent : SchedulerEventId} {position failedPosition : ℕ}
      {record failed : SchedulerRecord} {data : AttemptDispatched} {failure : WorkOrderFailure}
      (h : OwnDispatch graph records root future identity attemptId position record data)
      (hat : records[failedPosition]? = some failed) (hbefore : position < failedPosition)
      (hevent : failed.event = .attemptFailed
        ⟨future.order.id, identity.executionId, attemptId, failure, true⟩)
      (hcausal : failed.causalParent = some record.id) (hid : failed.id = causalParent) :
      PhaseEvidence graph records root future
        (.retrying identity attemptNumber attemptId causalParent)

structure FutureEvidence (graph : ValidatedActorGraph digest) (records : List SchedulerRecord)
    (root : SchedulerEventId) (future : WorkOrderFuture) : Prop where
  keys : ∀ id, id ∈ future.dependencyHandoffs ↔ id ∈ future.order.dependencies
  produced : ∀ (id : WorkOrderId) (handoff : Handoff),
    future.dependencyHandoffs[id]? = some handoff →
      Produced records root graph.digestSha256 id handoff
  phase : PhaseEvidence graph records root future future.phase

/-- The evidence that the records hold for the rest of the executor's state. -/
structure Evidence (graph : ValidatedActorGraph digest) (records : List SchedulerRecord)
    (root : SchedulerEventId) (handoffs : BTreeMap WorkOrderId Handoff)
    (active : List WorkOrderFuture) (calls : List AgentDispatch) : Prop where
  dispatched : ∀ (i : ℕ) (record : SchedulerRecord) (data : AttemptDispatched),
    records[i]? = some record → record.event = .attemptDispatched data →
      Backed records root graph.digestSha256 i record data
  produced : ∀ (id : WorkOrderId) (handoff : Handoff), handoffs[id]? = some handoff →
    handoff.outcome = .completed → Produced records root graph.digestSha256 id handoff
  futures : ∀ future ∈ active, FutureEvidence graph records root future
  calls : ∀ dispatch ∈ calls, dispatch.graphAcceptedEventId = root ∧
    dispatch.graphSha256 = graph.digestSha256 ∧
      ∃ i record data, Supported digest records dispatch i record data

theorem OwnDispatch.append (added : SchedulerRecord) {identity : WorkOrderIdentity}
    {attemptId : AttemptId} {position : ℕ} {record : SchedulerRecord} {data : AttemptDispatched}
    (h : OwnDispatch graph records root future identity attemptId position record data) :
    OwnDispatch graph (records ++ [added]) root future identity attemptId position record data :=
  { h with at_position := (embeds_append records [added]).image _ _ h.at_position }

theorem PhaseEvidence.append (added : SchedulerRecord) {phase : Phase}
    (h : PhaseEvidence graph records root future phase) :
    PhaseEvidence graph (records ++ [added]) root future phase := by
  cases h with
  | created => exact .created
  | executing h hid => exact .executing (h.append added) hid
  | cleaning h hid => exact .cleaning (h.append added) hid
  | retrying h hat hbefore hevent hcausal hid =>
    exact .retrying (h.append added) ((embeds_append records [added]).image _ _ hat) hbefore hevent
      hcausal hid

theorem FutureEvidence.append (added : SchedulerRecord) (h : FutureEvidence graph records root future) :
    FutureEvidence graph (records ++ [added]) root future :=
  ⟨h.keys, fun id handoff hhandoff => (h.produced id handoff hhandoff).append added,
    h.phase.append added⟩

/-- Evidence is kept by every further record; a further dispatch needs its own. -/
theorem Evidence.append {handoffs : BTreeMap WorkOrderId Handoff} {active : List WorkOrderFuture}
    {calls : List AgentDispatch} (added : SchedulerRecord)
    (hadded : ∀ data, added.event = .attemptDispatched data →
      Backed (records ++ [added]) root graph.digestSha256 records.length added data)
    (h : Evidence graph records root handoffs active calls) :
    Evidence graph (records ++ [added]) root handoffs active calls where
  dispatched i record data hi hevent := by
    rcases Nat.lt_or_ge i records.length with hlt | hge
    · rw [List.getElem?_append_left hlt] at hi
      exact (h.dispatched i record data hi hevent).map (embeds_append records [added])
    · rw [List.getElem?_append_right hge, List.getElem?_singleton] at hi
      split at hi
      · next hzero =>
        obtain rfl := Option.some.inj hi
        obtain rfl : i = records.length := by omega
        exact hadded data hevent
      · cases hi
  produced id handoff hhandoff hcompleted :=
    (h.produced id handoff hhandoff hcompleted).append added
  futures future hfuture := (h.futures future hfuture).append added
  calls dispatch hdispatch := by
    obtain ⟨hroot, hsha, i, record, data, hsupported⟩ := h.calls dispatch hdispatch
    exact ⟨hroot, hsha, i, record, data, hsupported.map (embeds_append records [added])⟩

end Evidence

section Steps

/-- The executor's state and the records that stand behind it. -/
structure Evident (graph : ValidatedActorGraph digest) (s : SchedulerState) : Prop where
  begin : s.control = .begin → s = .start graph
  rooted : s.control ≠ .begin → (∀ result, s.control ≠ .returned result) →
    ∃ i record, RootAt s.records s.root graph.digestSha256 i record
  evidence : Evidence graph s.records s.root s.projection.handoffs s.active s.calls

theorem evident_start : Evident graph (.start graph) := by
  refine ⟨fun _ => rfl, fun h => absurd rfl h, ⟨?_, ?_, ?_, ?_⟩⟩ <;>
    simp [SchedulerState.start, Projection.empty]

theorem RootAt.append (added : SchedulerRecord) {i : ℕ} {record : SchedulerRecord}
    (h : RootAt records root sha i record) : RootAt (records ++ [added]) root sha i record :=
  { h with at_position := (embeds_append records [added]).image _ _ h.at_position }

/-- The record of a dispatch is backed by what is retained about its future. -/
theorem backed_dispatchRecord {start : AttemptStart} (hstart : attemptStart draw s future = some start)
    (hroot : ∃ i record, RootAt s.records s.root graph.digestSha256 i record)
    (h : FutureEvidence graph s.records s.root future) (data : AttemptDispatched)
    (hdata : (dispatchRecord graph draw s future start).event = .attemptDispatched data) :
    Backed (s.records ++ [dispatchRecord graph draw s future start]) s.root graph.digestSha256
      s.records.length (dispatchRecord graph draw s future start) data := by
  obtain rfl := SchedulerEvent.attemptDispatched.inj hdata
  refine ⟨⟨⟨by simp, rfl, rfl, rfl⟩, ?_, ?_⟩, ?_, ?_⟩
  · intro parentAttemptId hparent
    cases starts_of_attemptStart hstart with
    | first hphase => cases hparent
    | retry hphase =>
      obtain rfl := Option.some.inj hparent
      have hevidence := h.phase
      rw [hphase] at hevidence
      cases hevidence with
      | @retrying _ _ _ _ i fp record failed data failure hown hat hbefore hevent hcausal hid =>
        subst hid
        exact ⟨fp, failed, _, i, record, data,
          { causal := rfl
            failed_at := (embeds_append _ _).image _ _ hat
            failed_before := (List.getElem?_eq_some_iff.mp hat).1
            failed_event := hevent
            failure_identity := ⟨rfl, rfl, rfl⟩
            will_retry := rfl
            failed_causal := hcausal
            parent_at := (embeds_append _ _).image _ _ hown.at_position
            parent_before := hbefore
            parent_event := hown.event
            parent_identity := ⟨hown.workOrder, hown.actor, hown.execution, hown.attempt⟩
            parent_root := hown.run
            parent_attestation := hown.attestation
            parent_dependencies := hown.events }⟩
  · intro dependencyId handoffEventId hbound
    have hcarried : future.dependencyHandoffEventIds[dependencyId]? = some handoffEventId := hbound
    rw [dependencyHandoffEventIds_getElem?, Option.map_eq_some_iff] at hcarried
    obtain ⟨handoff, hhandoff, rfl⟩ := hcarried
    obtain ⟨hp, retained, pp, producer, producerData, hedge⟩ := h.produced _ _ hhandoff
    exact ⟨hp, retained, handoff, pp, producer, producerData, hedge.map (embeds_append _ _)⟩
  · intro hparent
    cases starts_of_attemptStart hstart with
    | first => rfl
    | retry => cases hparent
  · obtain ⟨i, record, hrecord⟩ := hroot
    exact ⟨i, record, hrecord.append _, (List.getElem?_eq_some_iff.mp hrecord.at_position).1⟩

/-- A future is launched over completed dependencies, and with all of them. -/
theorem FutureEvidence.launched (hs : Scheduled graph s) (he : Evident graph s) {madeProgress : Bool}
    (hc : s.control = .launching madeProgress) {order : WorkOrder} (h : order ∈ launched graph s) :
    FutureEvidence graph s.records s.root (createFuture s.projection.handoffs order) := by
  obtain ⟨hpending, horder, hsatisfied⟩ := mem_launched h
  have hunfailed := ((hs.schedule.launching _ hc).2 order horder hpending).1 hsatisfied
  refine ⟨fun id => ?_, fun id handoff hhandoff => ?_, .created⟩
  · rw [Std.ExtTreeMap.mem_iff_isSome_getElem?, Option.isSome_iff_exists]
    simp only [createFuture_getElem?]
    constructor
    · rintro ⟨handoff, hid, -⟩
      exact hid
    · intro hid
      obtain ⟨handoff, hhandoff⟩ := Option.isSome_iff_exists.mp
        (Std.ExtTreeMap.mem_iff_isSome_getElem?.mp (hsatisfied id hid))
      exact ⟨handoff, hid, hhandoff⟩
  · obtain ⟨hid, hfound⟩ := (createFuture_getElem? ..).mp hhandoff
    exact he.evidence.produced id handoff hfound
      ((hs.partition.completed id handoff hfound).mpr (hunfailed id hid))

/-- The dispatch that a worker is handed is the one whose record was retained. -/
theorem supported_agentDispatch {start : AttemptStart}
    (h : FutureEvidence graph s.records s.root future)
    (hbacked : ∀ data, (dispatchRecord graph draw s future start).event = .attemptDispatched data →
      Backed (s.records ++ [dispatchRecord graph draw s future start]) s.root graph.digestSha256
        s.records.length (dispatchRecord graph draw s future start) data) :
    ∃ i record data, Supported digest (s.records ++ [dispatchRecord graph draw s future start])
      (agentDispatch graph draw s future start) i record data :=
  ⟨s.records.length, _, _, {
    backed := hbacked _ rfl
    workOrder := rfl
    actor := rfl
    execution := rfl
    attempt := rfl
    parent := rfl
    attestation := rfl
    events := rfl
    attested := rfl
    keys := h.keys
    eventIds := dependencyHandoffEventIds_getElem? future
    produced := fun id handoff hhandoff => by
      obtain ⟨hp, retained, pp, producer, producerData, hedge⟩ := h.produced id handoff hhandoff
      exact ⟨hp, retained, pp, producer, producerData, hedge.map (embeds_append _ _)⟩ }⟩

/-- Evidence about a future does not read its phase, except for the phase itself. -/
theorem OwnDispatch.with_phase (phase : Phase) {identity : WorkOrderIdentity} {attemptId : AttemptId}
    {position : ℕ} {record : SchedulerRecord} {data : AttemptDispatched}
    (h : OwnDispatch graph records root future identity attemptId position record data) :
    OwnDispatch graph records root { future with phase := phase } identity attemptId position record
      data :=
  ⟨h.at_position, h.event, h.workOrder, h.actor, h.execution, h.attempt, h.run, h.attestation,
    h.events⟩

theorem FutureEvidence.with_phase {phase : Phase} (h : FutureEvidence graph records root future)
    (hphase : PhaseEvidence graph records root { future with phase := phase } phase) :
    FutureEvidence graph records root { future with phase := phase } :=
  ⟨h.keys, h.produced, hphase⟩

/-- The dispatch behind an attempt that has not ended. -/
theorem FutureEvidence.own_dispatch (h : FutureEvidence graph records root future)
    {identity : WorkOrderIdentity} {attemptNumber : ℕ} {attemptId : AttemptId}
    {dispatched : SchedulerEventId}
    (hphase : future.phase = .executing identity attemptNumber attemptId dispatched) :
    ∃ position record data, record.id = dispatched ∧
      OwnDispatch graph records root future identity attemptId position record data := by
  have hevidence := h.phase
  rw [hphase] at hevidence
  cases hevidence with
  | executing hown hid => exact ⟨_, _, _, hid, hown⟩

theorem evident_silent (hs : Scheduled graph s) (he : Evident graph s) {choice : Choice}
    (h : Silent graph s choice t) (hrunning : ∀ result, s.control ≠ .returned result) :
    Evident graph t := by
  obtain ⟨hprojection, hrecords, hroot, hcalls⟩ := silent_projection h
  have hbegin : s.control ≠ .begin := by
    cases h with
    | scan hc | drain hc | scanned hc | launch hc | stall hc | timeout hc => simp [hc]
  refine ⟨fun hc => absurd hc (silent_control hs h).1,
    fun _ _ => hroot ▸ hrecords ▸ he.rooted hbegin hrunning, ?_⟩
  have hfutures : ∀ future ∈ t.active, FutureEvidence graph s.records s.root future := by
    have hold := he.evidence.futures
    cases h with
    | launch hc =>
      intro future hfuture
      simp only [launch_active, List.mem_append, List.mem_map] at hfuture
      rcases hfuture with hfuture | ⟨order, horder, rfl⟩
      · exact hold future hfuture
      · exact .launched hs he hc horder
    | timeout hc hactive hphase =>
      rw [hactive] at hold
      simp only [List.forall_mem_append, List.forall_mem_cons] at hold ⊢
      obtain ⟨_, _, _, rfl, hown⟩ := hold.2.1.own_dispatch hphase
      exact ⟨hold.1, hold.2.1.with_phase (.cleaning (hown.with_phase _) rfl), hold.2.2⟩
    | _ => exact hold
  rw [hrecords, hroot, hprojection, hcalls]
  exact { he.evidence with futures := hfutures }

/-- After the root is retained, a step keeps it, and only the evidence is left to show. -/
theorem Evident.offer (he : Evident graph s) (record : SchedulerRecord) (hbegin : s.control ≠ .begin)
    (hrunning : ∀ result, s.control ≠ .returned result) (hcontrol : t.control ≠ .begin)
    (hroot : t.root = s.root) (hrecords : t.records = s.records ++ [record])
    (hevidence : Evidence graph (s.records ++ [record]) s.root t.projection.handoffs t.active
      t.calls) : Evident graph t := by
  obtain ⟨i, rootRecord, hrooted⟩ := he.rooted hbegin hrunning
  refine ⟨fun hc => absurd hc hcontrol, fun _ _ => ⟨i, rootRecord, ?_⟩, ?_⟩
  · rw [hroot, hrecords]
    exact hrooted.append record
  · rw [hroot, hrecords]
    exact hevidence

theorem evident_offer (he : Evident graph s) {choice : Choice}
    {record : SchedulerRecord} (h : Offer graph draw s choice record t)
    (hrunning : ∀ result, s.control ≠ .returned result) :
    Evident graph { t with records := s.records ++ [record] } := by
  have hkept (hevent : ∀ data, record.event ≠ .attemptDispatched data) :=
    he.evidence.append record fun data hdata => absurd hdata (hevent data)
  cases h with
  | accept hc =>
    rw [he.begin hc]
    refine ⟨by simp, fun _ _ => ⟨0, _, rfl, rfl, rfl, rfl⟩, ⟨?_, ?_, ?_, ?_⟩⟩
    · intro i record data hi hevent
      have hmem := List.mem_of_getElem? hi
      simp only [SchedulerState.start, List.nil_append, List.mem_singleton] at hmem
      subst hmem
      cases hevent
    all_goals simp [SchedulerState.start, Projection.empty]
  | block hc =>
    exact he.offer _ (by simp [hc]) hrunning (by simp [block]) rfl rfl
      (hkept (by simp [blockRecord]))
  | suspend hc =>
    exact he.offer _ (by simp [hc]) hrunning (by simp) rfl rfl (hkept (by simp [suspendRecord]))
  | finish hc =>
    exact he.offer _ (by simp [hc]) hrunning (by simp) rfl rfl (hkept (by simp [finishRecord]))
  | @dispatch pre post future start _ hactive hc hstart =>
    have hbegin : s.control ≠ .begin := by rcases hc with ⟨hc, -⟩ | ⟨hc, -⟩ <;> simp [hc]
    have hfuture := he.evidence.futures future (by simp [hactive])
    have hbacked := backed_dispatchRecord hstart (he.rooted hbegin hrunning) hfuture
    have hnext := he.evidence.append _ hbacked
    have hfutures := hnext.futures
    rw [hactive] at hfutures
    simp only [List.forall_mem_append, List.forall_mem_cons] at hfutures
    refine he.offer _ hbegin hrunning (by simp) rfl rfl { hnext with futures := ?_, calls := ?_ }
    · simp only [List.forall_mem_append, List.forall_mem_cons]
      have hown : OwnDispatch graph (s.records ++ [dispatchRecord graph draw s future start]) s.root
          future start.identity ⟨draw start.drawn⟩ s.records.length
          (dispatchRecord graph draw s future start) _ :=
        ⟨by simp, rfl, rfl, rfl, rfl, rfl, rfl, rfl, rfl⟩
      exact ⟨hfutures.1, hfutures.2.1.with_phase (.executing (hown.with_phase _) rfl), hfutures.2.2⟩
    · intro dispatch hdispatch
      rcases List.mem_append.mp hdispatch with hdispatch | hdispatch
      · exact hnext.calls dispatch hdispatch
      · obtain rfl := List.mem_singleton.mp hdispatch
        exact ⟨rfl, rfl, supported_agentDispatch hfuture hbacked⟩
  | @retry pre post future identity attemptNumber attemptId dispatched _ failure hc hactive hphase =>
    have hnext := hkept (by simp [failRecord])
    have hfutures := hnext.futures
    rw [hactive] at hfutures
    simp only [List.forall_mem_append, List.forall_mem_cons] at hfutures
    obtain ⟨i, dispatchedRecord, data, rfl, hown⟩ :=
      (he.evidence.futures future (by simp [hactive])).own_dispatch hphase
    refine he.offer _ (by simp [hc]) hrunning (by simp) rfl rfl { hnext with futures := ?_ }
    simp only [List.forall_mem_append, List.forall_mem_cons]
    refine ⟨hfutures.1, hfutures.2.1.with_phase ?_, hfutures.2.2⟩
    have hbefore := (List.getElem?_eq_some_iff.mp hown.at_position).1
    have hat : (s.records ++ [failRecord draw s future identity attemptId dispatchedRecord.id failure
        true])[s.records.length]? = some _ := List.getElem?_concat_length
    exact .retrying ((hown.append _).with_phase _) hat hbefore rfl rfl rfl
  | fail hc hactive hfails =>
    have hnext := hkept (by simp [failRecord])
    have hfutures := hnext.futures
    rw [hactive] at hfutures
    simp only [List.forall_mem_append, List.forall_mem_cons] at hfutures
    refine he.offer _ (by simp [hc]) hrunning (by simp) rfl rfl { hnext with futures := ?_ }
    exact List.forall_mem_append.mpr ⟨hfutures.1, hfutures.2.2⟩
  | @handoff pre post future identity attemptNumber attemptId dispatched completion hc hactive hphase =>
    have hnext := hkept (by simp)
    have hfutures := hnext.futures
    rw [hactive] at hfutures
    simp only [List.forall_mem_append, List.forall_mem_cons] at hfutures
    obtain ⟨i, dispatchedRecord, data, rfl, hown⟩ :=
      (he.evidence.futures future (by simp [hactive])).own_dispatch hphase
    refine he.offer _ (by simp [hc]) hrunning (by simp) rfl rfl
      { hnext with futures := List.forall_mem_append.mpr ⟨hfutures.1, hfutures.2.2⟩, produced := ?_ }
    intro id handoff hhandoff hcompleted
    by_cases hne : id = future.order.id
    · subst hne
      rw [applyTerminal_handoffs] at hhandoff
      obtain rfl := Option.some.inj ((Std.ExtTreeMap.getElem?_insert_self ..).symm.trans hhandoff)
      have hbefore := (List.getElem?_eq_some_iff.mp hown.at_position).1
      exact ⟨s.records.length, _, i, dispatchedRecord, data,
        { handoff_at := List.getElem?_concat_length
          handoff_id := rfl
          handoff_before := by simp
          handoff_event := rfl
          handoff_identity := ⟨rfl, rfl⟩
          handoff_completed := hcompleted
          handoff_causal := rfl
          producer_at := (hown.append _).at_position
          producer_before := hbefore
          producer_event := hown.event
          producer_identity := ⟨hown.workOrder, hown.actor, hown.execution, hown.attempt⟩
          producer_root := hown.run
          producer_graph := by rw [hown.attestation]; rfl }⟩
    · have hother : (applyTerminal s.projection (.handoff
          (retainedHandoff draw s future identity attemptId completion))).handoffs[id]? =
          s.projection.handoffs[id]? := (applyTerminal_of_ne hne).1
      exact hnext.produced id handoff (hother ▸ hhandoff) hcompleted

theorem evident_step (hs : Scheduled graph s) (he : Evident graph s)
    (h : step graph draw s input = some t) : Evident graph t := by
  have hrunning := not_returned_of_step h
  cases step_cases h with
  | silent hsilent => exact evident_silent hs he hsilent hrunning
  | accepted hoffer => exact evident_offer he hoffer hrunning
  | rejected => exact ⟨by simp, fun _ hc => absurd rfl (hc _), he.evidence⟩

end Steps

end BirdCode.Scheduler
