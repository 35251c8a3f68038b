import BirdCode.Scheduler.Verifier

/-! Soundness of the dispatch verifier on any record list: every edge behind an accepted
dispatch is backed by earlier records of the same run. -/
namespace BirdCode.Scheduler

open Lib

variable {records : List SchedulerRecord} {index : RecordIndex} {root : SchedulerEventId}
  {sha : String}

/-- The index knows exactly the records, each under its own id and with its position. -/
structure Indexed (records : List SchedulerRecord) (index : RecordIndex) : Prop where
  nodup : (records.map (·.id)).Nodup
  lookup : ∀ (id : SchedulerEventId) (position : ℕ) (record : SchedulerRecord),
    index[id]? = some (position, record) ↔ records[position]? = some record ∧ record.id = id

def indexEntries (records : List SchedulerRecord) : List (SchedulerEventId × ℕ × SchedulerRecord) :=
  records.zipIdx.map fun entry => (entry.1.id, entry.2, entry.1)

theorem indexEntries_keys (records : List SchedulerRecord) :
    (indexEntries records).map Prod.fst = records.map (·.id) := by
  calc (indexEntries records).map Prod.fst
      = (records.zipIdx.map Prod.fst).map (·.id) := by
        rw [indexEntries, List.map_map, List.map_map]
        rfl
    _ = records.map (·.id) := by rw [List.zipIdx_map_fst]

/-- Indexing succeeds exactly on journals without a repeated id. -/
theorem indexRecords_eq_ok :
    indexRecords records = .ok index ↔
      (records.map (·.id)).Nodup ∧ index = toMap (indexEntries records) := by
  induction records using List.reverseRecOn generalizing index with
  | nil => simp [indexRecords, indexEntries, pure, Except.pure, eq_comm]
  | append_singleton records record ih =>
    have hentries : indexEntries (records ++ [record]) =
        indexEntries records ++ [(record.id, records.length, record)] := by
      simp [indexEntries, List.zipIdx_append]
    have hcontains (id : SchedulerEventId) :
        (toMap (indexEntries records)).contains id = true ↔ id ∈ records.map (·.id) := by
      rw [← Std.ExtTreeMap.mem_iff_contains, mem_toMap, indexEntries_keys]
    have hstep : indexRecords (records ++ [record]) =
        (indexRecords records >>= fun index => indexRecord index (record, records.length)) := by
      simp [indexRecords, List.zipIdx_append, List.foldlM_append]
    rw [hstep, bind_eq_ok, hentries, toMap_append]
    simp only [ih, indexRecord, bind_eq_ok, ensure_eq_ok, List.map_append, List.map_singleton,
      List.nodup_append, pure, Except.pure, Except.ok.injEq]
    constructor
    · rintro ⟨_, ⟨hnd, rfl⟩, _, hfresh, rfl⟩
      refine ⟨⟨hnd, by simp, ?_⟩, rfl⟩
      intro id hid other hother heq
      rw [List.mem_singleton] at hother
      have := (hcontains record.id).mpr (hother ▸ heq ▸ hid)
      simp_all
    · rintro ⟨⟨hnd, -, hdisjoint⟩, rfl⟩
      refine ⟨_, ⟨hnd, rfl⟩, (), ?_, rfl⟩
      rw [← Bool.not_eq_true, hcontains]
      exact fun hid => hdisjoint _ hid _ (List.mem_singleton.mpr rfl) rfl

theorem indexed_of_ok (h : indexRecords records = .ok index) : Indexed records index := by
  obtain ⟨hnd, rfl⟩ := indexRecords_eq_ok.mp h
  refine ⟨hnd, fun id position record => ?_⟩
  rw [toMap_getElem?_eq_some (by rwa [indexEntries_keys])]
  simp only [indexEntries, List.mem_map, Prod.mk.injEq]
  constructor
  · rintro ⟨entry, hentry, rfl, rfl, rfl⟩
    exact ⟨List.mk_mem_zipIdx_iff_getElem?.mp hentry, rfl⟩
  · rintro ⟨hat, rfl⟩
    exact ⟨(record, position), List.mk_mem_zipIdx_iff_getElem?.mpr hat, rfl, rfl, rfl⟩

/-- Without a repeated id, an id names one position and one record. -/
theorem Indexed.eq_of_id_eq (hidx : Indexed records index) {i j : ℕ} {a b : SchedulerRecord}
    (hi : records[i]? = some a) (hj : records[j]? = some b) (hid : a.id = b.id) :
    i = j ∧ a = b := by
  have ha := (hidx.lookup a.id i a).mpr ⟨hi, rfl⟩
  have hb := (hidx.lookup a.id j b).mpr ⟨hj, hid.symm⟩
  rw [ha] at hb
  simpa using hb

theorem precedingRecord_eq_ok (hidx : Indexed records index) {id : SchedulerEventId} {child : ℕ}
    {entry : ℕ × SchedulerRecord} :
    precedingRecord index id child = .ok entry ↔
      records[entry.1]? = some entry.2 ∧ entry.2.id = id ∧ entry.1 < child := by
  obtain ⟨position, record⟩ := entry
  simp only [precedingRecord, bind_eq_ok, expect_eq_ok, ensure_eq_ok, pure, Except.pure,
    Except.ok.injEq]
  constructor
  · rintro ⟨_, hlookup, _, hlt, rfl⟩
    obtain ⟨hat, hid⟩ := (hidx.lookup _ _ _).mp hlookup
    exact ⟨hat, hid, hlt⟩
  · rintro ⟨hat, hid, hlt⟩
    exact ⟨_, (hidx.lookup _ _ _).mpr ⟨hat, hid⟩, (), hlt, rfl⟩

/-- A retried dispatch stands after a failed attempt of the same work order, actor and execution
that will be retried, and that attempt after its own dispatch. -/
structure RetryEdge (records : List SchedulerRecord) (position : ℕ) (current : SchedulerRecord)
    (data : AttemptDispatched) (parentAttemptId : AttemptId) (failedPosition : ℕ)
    (failed : SchedulerRecord) (failure : AttemptFailed) (parentPosition : ℕ)
    (parent : SchedulerRecord) (parentData : AttemptDispatched) : Prop where
  causal : current.causalParent = some failed.id
  failed_at : records[failedPosition]? = some failed
  failed_before : failedPosition < position
  failed_event : failed.event = .attemptFailed failure
  failure_identity : failure.workOrderId = data.workOrderId ∧
    failure.executionId = data.executionId ∧ failure.attemptId = parentAttemptId
  will_retry : failure.willRetry = true
  failed_causal : failed.causalParent = some parent.id
  parent_at : records[parentPosition]? = some parent
  parent_before : parentPosition < failedPosition
  parent_event : parent.event = .attemptDispatched parentData
  parent_identity : parentData.workOrderId = data.workOrderId ∧
    parentData.actorId = data.actorId ∧ parentData.executionId = data.executionId ∧
    parentData.attemptId = parentAttemptId
  parent_root : parentData.graphAcceptedEventId = data.graphAcceptedEventId
  parent_attestation : parentData.attestation = data.attestation
  parent_dependencies : parentData.dependencyHandoffEventIds = data.dependencyHandoffEventIds

/-- A dependency event is a completed handoff of that dependency, retained after the dispatch
of the attempt that produced it. -/
structure DependencyEdge (records : List SchedulerRecord) (root : SchedulerEventId) (sha : String)
    (position : ℕ) (dependencyId : WorkOrderId) (handoffEventId : SchedulerEventId)
    (handoffPosition : ℕ) (retained : SchedulerRecord) (handoff : Handoff)
    (producerPosition : ℕ) (producer : SchedulerRecord) (producerData : AttemptDispatched) :
    Prop where
  handoff_at : records[handoffPosition]? = some retained
  handoff_id : retained.id = handoffEventId
  handoff_before : handoffPosition < position
  handoff_event : retained.event = .handoffRetained handoff
  handoff_identity : handoff.retainedEventId = handoffEventId ∧ handoff.workOrderId = dependencyId
  handoff_completed : handoff.outcome = .completed
  handoff_causal : retained.causalParent = some producer.id
  producer_at : records[producerPosition]? = some producer
  producer_before : producerPosition < handoffPosition
  producer_event : producer.event = .attemptDispatched producerData
  producer_identity : producerData.workOrderId = handoff.workOrderId ∧
    producerData.actorId = handoff.actorId ∧ producerData.executionId = handoff.executionId ∧
    producerData.attemptId = handoff.attemptId
  producer_root : producerData.graphAcceptedEventId = root
  producer_graph : producerData.attestation.graphSha256 = sha

theorem visitRetry_eq_ok (hidx : Indexed records index) {position : ℕ}
    {current : SchedulerRecord} {data : AttemptDispatched} {parentAttemptId : AttemptId}
    {next : List SchedulerEventId} (hroot : data.graphAcceptedEventId = root) :
    visitRetry index root position current data parentAttemptId = .ok next ↔
      ∃ failedPosition failed failure parentPosition parent parentData,
        RetryEdge records position current data parentAttemptId failedPosition failed failure
          parentPosition parent parentData ∧ next = [parent.id] := by
  simp only [visitRetry, bind_eq_ok, expect_eq_ok, ensure_eq_ok, failed?_eq_some,
    dispatched?_eq_some, precedingRecord_eq_ok hidx, pure, Except.pure, Except.ok.injEq]
  constructor
  · rintro ⟨_, hcausal, ⟨fp, failed⟩, ⟨hfat, rfl, hflt⟩, failure, hfailure, _,
      ⟨hfw, hfe, hfa, hretry⟩, _, hfcausal, ⟨pp, parent⟩, ⟨hpat, rfl, hplt⟩, parentData, hparent, _,
      ⟨hpw, hpa, hpe, hpatt, hpr, hpattest, hpd⟩, rfl⟩
    exact ⟨fp, failed, failure, pp, parent, parentData,
      ⟨hcausal, hfat, hflt, hfailure, ⟨hfw, hfe, hfa⟩, hretry, hfcausal, hpat, hplt, hparent,
        ⟨hpw, hpa, hpe, hpatt⟩, hpr.trans hroot.symm, hpattest, hpd⟩, rfl⟩
  · rintro ⟨fp, failed, failure, pp, parent, parentData, hedge, rfl⟩
    obtain ⟨hfw, hfe, hfa⟩ := hedge.failure_identity
    obtain ⟨hpw, hpa, hpe, hpatt⟩ := hedge.parent_identity
    exact ⟨_, hedge.causal, (fp, failed), ⟨hedge.failed_at, rfl, hedge.failed_before⟩, failure,
      hedge.failed_event, (), ⟨hfw, hfe, hfa, hedge.will_retry⟩, _, hedge.failed_causal,
      (pp, parent), ⟨hedge.parent_at, rfl, hedge.parent_before⟩, parentData, hedge.parent_event,
      (), ⟨hpw, hpa, hpe, hpatt, hedge.parent_root.trans hroot, hedge.parent_attestation,
        hedge.parent_dependencies⟩, rfl⟩

theorem visitDependency_eq_ok (hidx : Indexed records index) {position : ℕ}
    {dependencyId : WorkOrderId} {handoffEventId producerId : SchedulerEventId} :
    visitDependency index root sha position dependencyId handoffEventId = .ok producerId ↔
      ∃ handoffPosition retained handoff producerPosition producer producerData,
        DependencyEdge records root sha position dependencyId handoffEventId handoffPosition
          retained handoff producerPosition producer producerData ∧ producerId = producer.id := by
  simp only [visitDependency, bind_eq_ok, expect_eq_ok, ensure_eq_ok, handoff?_eq_some,
    dispatched?_eq_some, precedingRecord_eq_ok hidx, pure, Except.pure, Except.ok.injEq]
  constructor
  · rintro ⟨⟨hp, retained⟩, ⟨hhat, hhid, hhlt⟩, handoff, hhandoff, _, hidentity, _, hcompleted, _,
      hcausal, ⟨pp, producer⟩, ⟨hpat, rfl, hplt⟩, producerData, hproducer, _,
      ⟨hw, ha, he, hatt, hr, hs⟩, rfl⟩
    exact ⟨hp, retained, handoff, pp, producer, producerData,
      ⟨hhat, hhid, hhlt, hhandoff, hidentity, hcompleted, hcausal, hpat, hplt, hproducer,
        ⟨hw, ha, he, hatt⟩, hr, hs⟩, rfl⟩
  · rintro ⟨hp, retained, handoff, pp, producer, producerData, hedge, rfl⟩
    obtain ⟨hw, ha, he, hatt⟩ := hedge.producer_identity
    exact ⟨(hp, retained), ⟨hedge.handoff_at, hedge.handoff_id, hedge.handoff_before⟩, handoff,
      hedge.handoff_event, (), hedge.handoff_identity, (), hedge.handoff_completed, _,
      hedge.handoff_causal, (pp, producer), ⟨hedge.producer_at, rfl, hedge.producer_before⟩,
      producerData, hedge.producer_event, (), ⟨hw, ha, he, hatt, hedge.producer_root,
        hedge.producer_graph⟩, rfl⟩

/-- The dependency loop visits every entry and rejects an event that two entries share. -/
theorem visitDependencies_eq_ok {position : ℕ} {seen : BTreeSet SchedulerEventId}
    {entries : List (WorkOrderId × SchedulerEventId)} {next : List SchedulerEventId} :
    visitDependencies index root sha position seen entries = .ok next ↔
      (entries.map Prod.snd).Nodup ∧ (∀ entry ∈ entries, entry.2 ∉ seen) ∧
        List.Forall₂ (fun entry producerId =>
          visitDependency index root sha position entry.1 entry.2 = .ok producerId)
          entries next := by
  induction entries generalizing seen next with
  | nil => simp [visitDependencies, eq_comm]
  | cons entry entries ih =>
    obtain ⟨dependencyId, eventId⟩ := entry
    have hfalse : seen.contains eventId = false ↔ eventId ∉ seen := by
      rw [← Bool.not_eq_true, Std.ExtTreeSet.mem_iff_contains]
    have hmem (id : SchedulerEventId) : id ∉ seen.insert eventId ↔ id ≠ eventId ∧ id ∉ seen := by
      rw [Std.ExtTreeSet.mem_insert, Std.compare_eq_iff_eq, not_or, ne_comm, Ne]
    simp only [visitDependencies, bind_eq_ok, ensure_eq_ok, ih, hfalse, hmem, pure, Except.pure,
      Except.ok.injEq, List.map_cons, List.nodup_cons, List.forall_mem_cons,
      List.forall₂_cons_left_iff]
    constructor
    · rintro ⟨_, hfresh, producer, hproducer, producers, ⟨hnd, hseen, hall⟩, rfl⟩
      refine ⟨⟨?_, hnd⟩, ⟨hfresh, fun e he => (hseen e he).2⟩, producer, producers, hproducer,
        hall, rfl⟩
      intro hin
      obtain ⟨e, he, heq⟩ := List.mem_map.mp hin
      exact (hseen e he).1 heq
    · rintro ⟨⟨hnotin, hnd⟩, ⟨hfresh, hseen⟩, producer, producers, hproducer, hall, rfl⟩
      refine ⟨(), hfresh, producer, hproducer, producers, ⟨hnd, fun e he => ⟨?_, hseen e he⟩,
        hall⟩, rfl⟩
      exact fun heq => hnotin (List.mem_map.mpr ⟨e, he, heq⟩)

/-- What an accepted turn of the walk says about the dispatch it visits. -/
inductive Visited (records : List SchedulerRecord) (root : SchedulerEventId) (sha : String)
    (position : ℕ) (current : SchedulerRecord) (data : AttemptDispatched) :
    List SchedulerEventId → Prop
  | retry {parentAttemptId : AttemptId} {failedPosition parentPosition : ℕ}
      {failed parent : SchedulerRecord} {failure : AttemptFailed} {parentData : AttemptDispatched}
      (hparent : data.parentAttemptId = some parentAttemptId)
      (hedge : RetryEdge records position current data parentAttemptId failedPosition failed
        failure parentPosition parent parentData) :
      Visited records root sha position current data [parent.id]
  | first {rootPosition : ℕ} {rootRecord : SchedulerRecord} (hparent : data.parentAttemptId = none)
      (hempty : data.dependencyHandoffEventIds = ∅) (hcausal : current.causalParent = some root)
      (hroot : records[rootPosition]? = some rootRecord) (hid : rootRecord.id = root)
      (hbefore : rootPosition < position) : Visited records root sha position current data []
  | dependent {next : List SchedulerEventId} (hparent : data.parentAttemptId = none)
      (hcausal : current.causalParent = firstValue data.dependencyHandoffEventIds)
      (hfirst : firstValue data.dependencyHandoffEventIds ≠ none)
      (hnd : (data.dependencyHandoffEventIds.toList.map Prod.snd).Nodup)
      (hedges : List.Forall₂ (fun entry producerId => ∃ handoffPosition retained handoff
          producerPosition producer producerData,
        DependencyEdge records root sha position entry.1 entry.2 handoffPosition retained handoff
          producerPosition producer producerData ∧ producerId = producer.id)
        data.dependencyHandoffEventIds.toList next) :
      Visited records root sha position current data next

theorem visitDispatch_eq_ok (hidx : Indexed records index) {id : SchedulerEventId}
    {next : List SchedulerEventId} :
    visitDispatch index root sha id = .ok next ↔
      ∃ position current data, records[position]? = some current ∧ current.id = id ∧
        current.event = .attemptDispatched data ∧ data.graphAcceptedEventId = root ∧
        data.attestation.graphSha256 = sha ∧ Visited records root sha position current data next := by
  simp only [visitDispatch, bind_eq_ok, expect_eq_ok, ensure_eq_ok, dispatched?_eq_some]
  constructor
  · rintro ⟨⟨position, current⟩, hlookup, data, hevent, _, ⟨hroot, hsha⟩, h⟩
    obtain ⟨hat, hid⟩ := (hidx.lookup _ _ _).mp hlookup
    refine ⟨position, current, data, hat, hid, hevent, hroot, hsha, ?_⟩
    split at h
    · next parentAttemptId hparent =>
      obtain ⟨fp, failed, failure, pp, parent, parentData, hedge, rfl⟩ :=
        (visitRetry_eq_ok hidx hroot).mp h
      exact .retry hparent hedge
    · next hparent =>
      split at h
      · next hfirst =>
        simp only [visitRoot, bind_eq_ok, expect_eq_ok, ensure_eq_ok, pure, Except.pure,
          Except.ok.injEq] at h
        obtain ⟨_, hcausal, ⟨rootPosition, rootRecord⟩, hrootLookup, _, hbefore, rfl⟩ := h
        obtain ⟨hrootAt, hrootId⟩ := (hidx.lookup _ _ _).mp hrootLookup
        exact .first hparent (firstValue_eq_none.mp hfirst) hcausal hrootAt hrootId hbefore
      · next first hfirst =>
        simp only [bind_eq_ok, ensure_eq_ok, visitDependencies_eq_ok,
          visitDependency_eq_ok hidx] at h
        obtain ⟨_, hcausal, hnd, -, hedges⟩ := h
        exact .dependent hparent (hcausal.trans hfirst.symm) (by simp [hfirst]) hnd hedges
  · rintro ⟨position, current, data, hat, hid, hevent, hroot, hsha, h⟩
    refine ⟨(position, current), (hidx.lookup _ _ _).mpr ⟨hat, hid⟩, data, hevent, (),
      ⟨hroot, hsha⟩, ?_⟩
    cases h with
    | retry hparent hedge =>
      rw [hparent]
      exact (visitRetry_eq_ok hidx hroot).mpr ⟨_, _, _, _, _, _, hedge, rfl⟩
    | first hparent hempty hcausal hrootAt hrootId hbefore =>
      have hnone := firstValue_eq_none.mpr hempty
      simp only [hparent, hnone, visitRoot, bind_eq_ok, expect_eq_ok, ensure_eq_ok, pure,
        Except.pure, and_true]
      exact ⟨(), hcausal, _, (hidx.lookup _ _ _).mpr ⟨hrootAt, hrootId⟩, (), hbefore⟩
    | dependent hparent hcausal hfirst hnd hedges =>
      obtain ⟨first, hsome⟩ := Option.ne_none_iff_exists'.mp hfirst
      simp only [hparent, hsome, bind_eq_ok, ensure_eq_ok, visitDependencies_eq_ok,
        visitDependency_eq_ok hidx]
      exact ⟨(), hcausal.trans hsome, hnd, by simp, hedges⟩

/-- A dispatch of the run `root`, under the graph `sha`. -/
structure DispatchAt (records : List SchedulerRecord) (root : SchedulerEventId) (sha : String)
    (position : ℕ) (record : SchedulerRecord) (data : AttemptDispatched) : Prop where
  at_position : records[position]? = some record
  event : record.event = .attemptDispatched data
  run : data.graphAcceptedEventId = root
  graph : data.attestation.graphSha256 = sha

/-- A dispatch all of whose own edges are backed by earlier records. -/
structure VerifiedAttempt (records : List SchedulerRecord) (root : SchedulerEventId)
    (sha : String) (position : ℕ) (record : SchedulerRecord) (data : AttemptDispatched) : Prop
    extends DispatchAt records root sha position record data where
  retry : ∀ parentAttemptId, data.parentAttemptId = some parentAttemptId →
    ∃ failedPosition failed failure parentPosition parent parentData,
      RetryEdge records position record data parentAttemptId failedPosition failed failure
        parentPosition parent parentData
  dependency : ∀ dependencyId handoffEventId,
    data.dependencyHandoffEventIds[dependencyId]? = some handoffEventId →
    ∃ handoffPosition retained handoff producerPosition producer producerData,
      DependencyEdge records root sha position dependencyId handoffEventId handoffPosition
        retained handoff producerPosition producer producerData

/-- The dispatches a dispatch names, as the records say it and with nothing checked: through the
failed attempt before a retry, and through the handoff event of a dependency. -/
inductive References (records : List SchedulerRecord) : ℕ → ℕ → Prop
  | retry {i j k : ℕ} {current failed parent : SchedulerRecord} {data : AttemptDispatched}
      {parentAttemptId : AttemptId} (hi : records[i]? = some current)
      (hevent : current.event = .attemptDispatched data)
      (hparent : data.parentAttemptId = some parentAttemptId)
      (hj : records[j]? = some failed) (hcausal : current.causalParent = some failed.id)
      (hk : records[k]? = some parent) (hdispatch : failed.causalParent = some parent.id) :
      References records i k
  | dependency {i j k : ℕ} {current retained producer : SchedulerRecord} {data : AttemptDispatched}
      {dependencyId : WorkOrderId} (hi : records[i]? = some current)
      (hevent : current.event = .attemptDispatched data) (hj : records[j]? = some retained)
      (hbound : data.dependencyHandoffEventIds[dependencyId]? = some retained.id)
      (hk : records[k]? = some producer) (hdispatch : retained.causalParent = some producer.id) :
      References records i k

section Closure

variable {visited : List SchedulerEventId} (hidx : Indexed records index)
  (hclosed : Closed (visitDispatch index root sha) visited)

include hidx hclosed

/-- A visited dispatch has its dependency edges, and visited producers behind them. A retry takes
them over from its parent attempt, so that the induction is on the position. -/
theorem dependencyEdge_of_closed (position : ℕ) {record : SchedulerRecord}
    {data : AttemptDispatched} (hat : records[position]? = some record)
    (hevent : record.event = .attemptDispatched data) (hvisited : record.id ∈ visited)
    {dependencyId : WorkOrderId} {handoffEventId : SchedulerEventId}
    (hbound : data.dependencyHandoffEventIds[dependencyId]? = some handoffEventId) :
    ∃ handoffPosition retained handoff producerPosition producer producerData,
      DependencyEdge records root sha position dependencyId handoffEventId handoffPosition
        retained handoff producerPosition producer producerData ∧ producer.id ∈ visited := by
  induction position using Nat.strong_induction_on generalizing record data with
  | _ position ih =>
    obtain ⟨next, hvisit, hnext⟩ := hclosed _ hvisited
    obtain ⟨position', current, data', hat', hid, hevent', -, -, hcase⟩ :=
      (visitDispatch_eq_ok hidx).mp hvisit
    obtain ⟨rfl, rfl⟩ := hidx.eq_of_id_eq hat' hat hid
    obtain rfl : data' = data := by simpa [hevent'] using hevent
    cases hcase with
    | retry hparent hedge =>
      have hbefore := hedge.parent_before.trans hedge.failed_before
      obtain ⟨hp, retained, handoff, pp, producer, producerData, hdep, hin⟩ :=
        ih _ hbefore hedge.parent_at hedge.parent_event (hnext _ (by simp))
          (hedge.parent_dependencies ▸ hbound)
      exact ⟨hp, retained, handoff, pp, producer, producerData,
        { hdep with handoff_before := hdep.handoff_before.trans hbefore }, hin⟩
    | first hparent hempty => simp [hempty] at hbound
    | dependent hparent hcausal hfirst hnd hedges =>
      have hmem := Std.ExtTreeMap.mem_toList_iff_getElem?_eq_some.mpr hbound
      obtain ⟨i, hi, hentry⟩ := List.mem_iff_getElem.mp hmem
      have hlen := hedges.length_eq
      have hget := hedges.get hi (hlen ▸ hi)
      simp only [List.get_eq_getElem, hentry] at hget
      obtain ⟨hp, retained, handoff, pp, producer, producerData, hedge, hproducer⟩ := hget
      exact ⟨hp, retained, handoff, pp, producer, producerData, hedge,
        hnext _ (hproducer ▸ List.getElem_mem _)⟩

theorem verifiedAttempt_of_closed {position : ℕ} {record : SchedulerRecord}
    (hat : records[position]? = some record) (hvisited : record.id ∈ visited) :
    ∃ data, VerifiedAttempt records root sha position record data := by
  obtain ⟨next, hvisit, -⟩ := hclosed _ hvisited
  obtain ⟨position', current, data, hat', hid, hevent, hroot, hsha, hcase⟩ :=
    (visitDispatch_eq_ok hidx).mp hvisit
  obtain ⟨rfl, rfl⟩ := hidx.eq_of_id_eq hat' hat hid
  refine ⟨data, ⟨hat, hevent, hroot, hsha⟩, ?_, ?_⟩
  · intro parentAttemptId hparent
    cases hcase with
    | retry hparent' hedge =>
      obtain rfl := Option.some.inj (hparent.symm.trans hparent')
      exact ⟨_, _, _, _, _, _, hedge⟩
    | first hnone => simp [hnone] at hparent
    | dependent hnone => simp [hnone] at hparent
  · intro dependencyId handoffEventId hbound
    obtain ⟨hp, retained, handoff, pp, producer, producerData, hedge, -⟩ :=
      dependencyEdge_of_closed hidx hclosed position' hat hevent hvisited hbound
    exact ⟨hp, retained, handoff, pp, producer, producerData, hedge⟩

/-- What a visited dispatch names was visited too, and stands strictly earlier. -/
theorem references_of_closed {i k : ℕ} {record : SchedulerRecord} (hat : records[i]? = some record)
    (hvisited : record.id ∈ visited) (h : References records i k) :
    k < i ∧ ∃ target, records[k]? = some target ∧ target.id ∈ visited := by
  cases h with
  | retry hi hevent hparent hj hcausal hk hdispatch =>
    obtain rfl := Option.some.inj (hi.symm.trans hat)
    obtain ⟨next, hvisit, hnext⟩ := hclosed _ hvisited
    obtain ⟨position, current, data, hat', hid, hevent', -, -, hcase⟩ :=
      (visitDispatch_eq_ok hidx).mp hvisit
    obtain ⟨rfl, rfl⟩ := hidx.eq_of_id_eq hat' hat hid
    obtain rfl : data = _ := by simpa [hevent'] using hevent
    cases hcase with
    | retry hparent' hedge =>
      have hfailed := Option.some.inj (hcausal.symm.trans hedge.causal)
      obtain ⟨rfl, rfl⟩ := hidx.eq_of_id_eq hj hedge.failed_at hfailed
      have hparentId := Option.some.inj (hdispatch.symm.trans hedge.failed_causal)
      obtain ⟨rfl, rfl⟩ := hidx.eq_of_id_eq hk hedge.parent_at hparentId
      exact ⟨hedge.parent_before.trans hedge.failed_before, _, hk, hnext _ (by simp)⟩
    | first hnone => simp [hnone] at hparent
    | dependent hnone => simp [hnone] at hparent
  | dependency hi hevent hj hbound hk hdispatch =>
    obtain rfl := Option.some.inj (hi.symm.trans hat)
    obtain ⟨hp, retained, handoff, pp, producer, producerData, hedge, hin⟩ :=
      dependencyEdge_of_closed hidx hclosed i hat hevent hvisited hbound
    obtain ⟨rfl, rfl⟩ := hidx.eq_of_id_eq hedge.handoff_at hj hedge.handoff_id
    have hproducer := Option.some.inj (hdispatch.symm.trans hedge.handoff_causal)
    obtain ⟨rfl, rfl⟩ := hidx.eq_of_id_eq hk hedge.producer_at hproducer
    exact ⟨hedge.producer_before.trans hedge.handoff_before, _, hk, hin⟩

theorem ancestor_of_closed {i k : ℕ} {record : SchedulerRecord} (hat : records[i]? = some record)
    (hvisited : record.id ∈ visited) (h : Relation.TransGen (References records) i k) :
    k < i ∧ ∃ target, records[k]? = some target ∧ target.id ∈ visited := by
  induction h with
  | single h => exact references_of_closed hidx hclosed hat hvisited h
  | tail _ h ih =>
    obtain ⟨hlt, target, htarget, hin⟩ := ih
    obtain ⟨hlt', hfound⟩ := references_of_closed hidx hclosed htarget hin h
    exact ⟨hlt'.trans hlt, hfound⟩

end Closure

theorem verifyGraphRootRecord_eq_ok {value : Unit} :
    verifyGraphRootRecord records root sha = .ok value ↔
      ∃ record, records.filter (·.id = root) = [record] ∧ record.causalParent = none ∧
        record.event.acceptedGraph? = some sha := by
  simp only [verifyGraphRootRecord, bind_eq_ok, unique_eq_ok, ensure_eq_ok]

theorem walkAncestry_ok {start : SchedulerEventId}
    {visited : List SchedulerEventId} (h : walkAncestry index root sha start = .ok visited) :
    Closed (visitDispatch index root sha) visited ∧ start ∈ visited :=
  exhaust_ok _ _ h

/-- The record of an attempt that occurs exactly once. -/
theorem mem_of_filterMap_dispatchOf {attemptId : AttemptId} {record : SchedulerRecord}
    {data : AttemptDispatched}
    (h : records.filterMap (dispatchOf attemptId) = [(record, data)]) :
    record ∈ records ∧ record.event = .attemptDispatched data ∧ data.attemptId = attemptId := by
  have hmem : (record, data) ∈ records.filterMap (dispatchOf attemptId) := by simp [h]
  obtain ⟨found, hfound, hof⟩ := List.mem_filterMap.mp hmem
  unfold dispatchOf at hof
  split at hof
  · next found' hdispatched =>
    split at hof
    · next hattempt =>
      obtain ⟨rfl, rfl⟩ := Prod.mk.inj (Option.some.inj hof)
      exact ⟨hfound, dispatched?_eq_some.mp hdispatched, hattempt⟩
    · cases hof
  · cases hof

/-- The dispatch verifier is total and sound on any record list. The walk ends after finitely
many turns. An accepted dispatch has one dispatch record; every dispatch reachable from it stands
strictly earlier in the same run under the same graph, with each retry and dependency edge backed
by the records between; the run's root is the only record of its id, has no parent and accepts
that graph. -/
theorem verifyDispatch_sound (digest : CanonicalDigest) (records : List SchedulerRecord)
    (dispatch : AgentDispatch) :
    (∀ index, indexRecords records = .ok index → ∀ start, ∃ fuel result, ∀ more ≥ fuel,
      drain (visitDispatch index dispatch.graphAcceptedEventId dispatch.graphSha256) more [start]
        [] = some result) ∧
    ∀ verified, verifyDispatch digest records dispatch = .ok verified →
      ∃ position record data,
        records.filterMap (dispatchOf dispatch.attemptId) = [(record, data)] ∧
        VerifiedAttempt records dispatch.graphAcceptedEventId dispatch.graphSha256 position record
          data ∧
        (∀ k, Relation.TransGen (References records) position k → k < position ∧
          ∃ ancestor ancestorData, VerifiedAttempt records dispatch.graphAcceptedEventId
            dispatch.graphSha256 k ancestor ancestorData) ∧
        ∃ rootRecord, records.filter (·.id = dispatch.graphAcceptedEventId) = [rootRecord] ∧
          rootRecord.causalParent = none ∧
          rootRecord.event.acceptedGraph? = some dispatch.graphSha256 := by
  constructor
  · intro index _ start
    refine ⟨_, _, fun more hmore => drain_eq_exhaust Std.ExtTreeMap.nodup_keys
      visitDispatch_mem_keys hmore⟩
  · intro verified h
    simp only [verifyDispatch, verifyDispatchCausalParent, verifyFullDispatchAncestry, bind_eq_ok,
      uniqueDispatchRecordForAttempt, unique_eq_ok, verifyGraphRootRecord_eq_ok] at h
    obtain ⟨_, -, ⟨record, data⟩, hunique, _, -, _, -, _, -, _, -, _, -, _, -, _, -, _, hroot, _,
      ⟨index, hindex, _, -, visited, hwalk, -⟩, -⟩ := h
    have hidx := indexed_of_ok hindex
    obtain ⟨hclosed, hstart⟩ := walkAncestry_ok hwalk
    obtain ⟨hmem, hevent, -⟩ := mem_of_filterMap_dispatchOf hunique
    obtain ⟨position, hat⟩ := List.getElem?_of_mem hmem
    obtain ⟨data', hverified⟩ := verifiedAttempt_of_closed hidx hclosed hat hstart
    obtain rfl : data' = data := by simpa [hevent] using hverified.event.symm
    refine ⟨position, record, data', hunique, hverified, fun k hk => ?_, hroot⟩
    obtain ⟨hlt, target, htarget, hin⟩ := ancestor_of_closed hidx hclosed hat hstart hk
    obtain ⟨ancestorData, hancestor⟩ := verifiedAttempt_of_closed hidx hclosed htarget hin
    exact ⟨hlt, target, ancestorData, hancestor⟩

section Repeated

def repeatedOrder : WorkOrder := sampleOrder ⟨1⟩ sampleLease 1 []

def repeatedDispatch : AgentDispatch where
  actorId := ⟨2⟩
  executionId := ⟨3⟩
  attemptId := ⟨4⟩
  parentAttemptId := none
  graphAcceptedEventId := ⟨6⟩
  graphSha256 := "graph"
  attestation := dispatchAttestation constantDigest "graph" repeatedOrder
  workOrder := repeatedOrder
  dependencyHandoffs := ∅
  dependencyHandoffEventIds := ∅

/-- One graph executed twice against the same journal: each run has a root of its own. -/
def repeatedRecords : List SchedulerRecord :=
  [⟨⟨5⟩, none, .graphAccepted "graph" "policy" sampleSha256⟩,
    ⟨⟨6⟩, none, .graphAccepted "graph" "policy" sampleSha256⟩,
    ⟨⟨7⟩, some ⟨6⟩, .attemptDispatched ⟨⟨1⟩, ⟨2⟩, ⟨3⟩, ⟨4⟩, none, ⟨6⟩,
      dispatchAttestation constantDigest "graph" repeatedOrder, ∅⟩⟩]

theorem repeatedDispatch_verified :
    verifyDispatch constantDigest repeatedRecords repeatedDispatch = .ok ⟨⟨7⟩, ⟨6⟩, ∅⟩ := by
  decide

theorem verifyDispatch_sound_repeated : ∃ record data,
    repeatedRecords.filterMap (dispatchOf ⟨4⟩) = [(record, data)] ∧ record.id = ⟨7⟩ := by
  obtain ⟨_, record, data, hunique, hverified, -⟩ :=
    (verifyDispatch_sound constantDigest repeatedRecords repeatedDispatch).2 _
      repeatedDispatch_verified
  refine ⟨record, data, hunique, ?_⟩
  have hmem := (mem_of_filterMap_dispatchOf hunique).1
  have hevent := hverified.event
  fin_cases hmem <;> first | rfl | cases hevent

/-- A verified dispatch does not make its root the only acceptance of that graph. -/
theorem acceptedGraph_not_unique :
    ¬∀ digest records dispatch verified, verifyDispatch digest records dispatch = .ok verified →
      ∀ record ∈ records, record.event.acceptedGraph? = some dispatch.graphSha256 →
        record.id = dispatch.graphAcceptedEventId := by
  intro h
  exact absurd (h _ _ _ _ repeatedDispatch_verified _ (List.mem_cons_self ..) rfl) (by decide)

end Repeated

end BirdCode.Scheduler
