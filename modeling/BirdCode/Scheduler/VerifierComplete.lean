import BirdCode.Scheduler.VerifierSound

/-! Completeness of the dispatch verifier: a dispatch whose own run retained the evidence for every
edge is accepted, however the records of other runs are interleaved with it. -/
namespace BirdCode.Scheduler

open Lib

variable {records journal : List SchedulerRecord} {index : RecordIndex} {root : SchedulerEventId}
  {sha : String} {f : ℕ → ℕ}

section Embedding

/-- The records stand in the journal in the same order. -/
structure Embeds (records journal : List SchedulerRecord) (f : ℕ → ℕ) : Prop where
  mono : StrictMono f
  image : ∀ i record, records[i]? = some record → journal[f i]? = some record

theorem exists_embeds (h : records.Sublist journal) : ∃ f, Embeds records journal f := by
  obtain ⟨f, hf⟩ := List.sublist_iff_exists_orderEmbedding_getElem?_eq.mp h
  exact ⟨f, f.strictMono, fun i record hi => hf i ▸ hi⟩

theorem embeds_append (records more : List SchedulerRecord) : Embeds records (records ++ more) id :=
  ⟨strictMono_id, fun _ _ hi => by
    rwa [id, List.getElem?_append_left (List.getElem?_eq_some_iff.mp hi).1]⟩

variable (hf : Embeds records journal f)

include hf

theorem RetryEdge.map {position : ℕ} {current : SchedulerRecord} {data : AttemptDispatched}
    {parentAttemptId : AttemptId} {failedPosition : ℕ} {failed : SchedulerRecord}
    {failure : AttemptFailed} {parentPosition : ℕ} {parent : SchedulerRecord}
    {parentData : AttemptDispatched}
    (h : RetryEdge records position current data parentAttemptId failedPosition failed failure
      parentPosition parent parentData) :
    RetryEdge journal (f position) current data parentAttemptId (f failedPosition) failed failure
      (f parentPosition) parent parentData :=
  { h with
    failed_at := hf.image _ _ h.failed_at
    failed_before := hf.mono h.failed_before
    parent_at := hf.image _ _ h.parent_at
    parent_before := hf.mono h.parent_before }

theorem DependencyEdge.map {position : ℕ} {dependencyId : WorkOrderId}
    {handoffEventId : SchedulerEventId} {handoffPosition : ℕ} {retained : SchedulerRecord}
    {handoff : Handoff} {producerPosition : ℕ} {producer : SchedulerRecord}
    {producerData : AttemptDispatched}
    (h : DependencyEdge records root sha position dependencyId handoffEventId handoffPosition
      retained handoff producerPosition producer producerData) :
    DependencyEdge journal root sha (f position) dependencyId handoffEventId (f handoffPosition)
      retained handoff (f producerPosition) producer producerData :=
  { h with
    handoff_at := hf.image _ _ h.handoff_at
    handoff_before := hf.mono h.handoff_before
    producer_at := hf.image _ _ h.producer_at
    producer_before := hf.mono h.producer_before }

theorem Visited.map {position : ℕ} {current : SchedulerRecord} {data : AttemptDispatched}
    {next : List SchedulerEventId} (h : Visited records root sha position current data next) :
    Visited journal root sha (f position) current data next := by
  cases h with
  | retry hparent hedge => exact .retry hparent (hedge.map hf)
  | first hparent hempty hcausal hroot hid hbefore =>
    exact .first hparent hempty hcausal (hf.image _ _ hroot) hid (hf.mono hbefore)
  | dependent hparent hcausal hfirst hnd hedges =>
    refine .dependent hparent hcausal hfirst hnd (hedges.imp ?_)
    rintro entry producerId ⟨hp, retained, handoff, pp, producer, producerData, hedge, hid⟩
    exact ⟨f hp, retained, handoff, f pp, producer, producerData, hedge.map hf, hid⟩

end Embedding

section Backed

/-- The record that a run hangs on: without a parent, accepting the graph. -/
structure RootAt (records : List SchedulerRecord) (root : SchedulerEventId) (sha : String)
    (position : ℕ) (record : SchedulerRecord) : Prop where
  at_position : records[position]? = some record
  id : record.id = root
  causal : record.causalParent = none
  event : record.event.acceptedGraph? = some sha

/-- A dispatch with everything that the verifier will ask for behind it. -/
structure Backed (records : List SchedulerRecord) (root : SchedulerEventId) (sha : String)
    (position : ℕ) (record : SchedulerRecord) (data : AttemptDispatched) : Prop
    extends VerifiedAttempt records root sha position record data where
  causal : data.parentAttemptId = none →
    record.causalParent = some ((firstValue data.dependencyHandoffEventIds).getD root)
  rooted : ∃ rootPosition rootRecord,
    RootAt records root sha rootPosition rootRecord ∧ rootPosition < position

theorem Backed.map {position : ℕ} {record : SchedulerRecord} {data : AttemptDispatched}
    (hf : Embeds records journal f) (h : Backed records root sha position record data) :
    Backed journal root sha (f position) record data where
  at_position := hf.image _ _ h.at_position
  event := h.event
  run := h.run
  graph := h.graph
  causal := h.causal
  retry parentAttemptId hparent := by
    obtain ⟨_, _, _, _, _, _, hedge⟩ := h.retry parentAttemptId hparent
    exact ⟨_, _, _, _, _, _, hedge.map hf⟩
  dependency dependencyId handoffEventId hbound := by
    obtain ⟨_, _, _, _, _, _, hedge⟩ := h.dependency dependencyId handoffEventId hbound
    exact ⟨_, _, _, _, _, _, hedge.map hf⟩
  rooted := by
    obtain ⟨rootPosition, rootRecord, hroot, hbefore⟩ := h.rooted
    exact ⟨f rootPosition, rootRecord, ⟨hf.image _ _ hroot.at_position, hroot.id, hroot.causal,
      hroot.event⟩, hf.mono hbefore⟩

/-- A dispatch record with this id. -/
def IsDispatch (records : List SchedulerRecord) (id : SchedulerEventId) : Prop :=
  ∃ (position : ℕ) (record : SchedulerRecord) (data : AttemptDispatched),
    records[position]? = some record ∧ record.id = id ∧ record.event = .attemptDispatched data

/-- A dispatch is bound to every handoff event once, as an event id names one handoff. -/
theorem Backed.events_nodup {position : ℕ} {record : SchedulerRecord} {data : AttemptDispatched}
    (hids : (records.map (·.id)).Nodup) (h : Backed records root sha position record data) :
    (data.dependencyHandoffEventIds.toList.map Prod.snd).Nodup := by
  have hidx := indexed_of_ok (indexRecords_eq_ok.mpr ⟨hids, rfl⟩)
  have hkeys : data.dependencyHandoffEventIds.toList.Nodup := by
    refine List.Nodup.of_map Prod.fst ?_
    rw [Std.ExtTreeMap.map_fst_toList_eq_keys]
    exact Std.ExtTreeMap.nodup_keys
  refine List.Nodup.map_on ?_ hkeys
  rintro ⟨dependencyId, eventId⟩ hentry ⟨other, eventId'⟩ hentry' (rfl : eventId = eventId')
  obtain ⟨_, _, _, _, _, _, hedge⟩ := h.dependency _ _
    (Std.ExtTreeMap.mem_toList_iff_getElem?_eq_some.mp hentry)
  obtain ⟨_, _, _, _, _, _, hedge'⟩ := h.dependency _ _
    (Std.ExtTreeMap.mem_toList_iff_getElem?_eq_some.mp hentry')
  obtain ⟨-, rfl⟩ := hidx.eq_of_id_eq hedge.handoff_at hedge'.handoff_at
    (hedge.handoff_id.trans hedge'.handoff_id.symm)
  have hsame := SchedulerEvent.handoffRetained.inj
    (hedge.handoff_event.symm.trans hedge'.handoff_event)
  rw [← hedge.handoff_identity.2, ← hedge'.handoff_identity.2, hsame]

/-- A backed dispatch passes its turn of the walk and leads on to dispatches only. -/
theorem Backed.visited {position : ℕ} {record : SchedulerRecord} {data : AttemptDispatched}
    (hids : (records.map (·.id)).Nodup) (h : Backed records root sha position record data) :
    ∃ next, Visited records root sha position record data next ∧
      ∀ id ∈ next, IsDispatch records id := by
  cases hparent : data.parentAttemptId with
  | some parentAttemptId =>
    obtain ⟨_, _, _, parentPosition, parent, parentData, hedge⟩ := h.retry parentAttemptId hparent
    refine ⟨[parent.id], .retry hparent hedge, fun id hid => ?_⟩
    rw [List.mem_singleton.mp hid]
    exact ⟨parentPosition, parent, parentData, hedge.parent_at, rfl, hedge.parent_event⟩
  | none =>
    have hcausal := h.causal hparent
    cases hfirst : firstValue data.dependencyHandoffEventIds with
    | none =>
      obtain ⟨rootPosition, rootRecord, hroot, hbefore⟩ := h.rooted
      rw [hfirst] at hcausal
      exact ⟨[], .first hparent (firstValue_eq_none.mp hfirst) hcausal hroot.at_position hroot.id
        hbefore, by simp⟩
    | some first =>
      have hentry : ∀ entry ∈ data.dependencyHandoffEventIds.toList, ∃ producerId,
          (∃ handoffPosition retained handoff producerPosition producer producerData,
            DependencyEdge records root sha position entry.1 entry.2 handoffPosition retained
              handoff producerPosition producer producerData ∧ producerId = producer.id) := by
        rintro ⟨dependencyId, eventId⟩ hentry
        obtain ⟨hp, retained, handoff, pp, producer, producerData, hedge⟩ := h.dependency _ _
          (Std.ExtTreeMap.mem_toList_iff_getElem?_eq_some.mp hentry)
        exact ⟨producer.id, hp, retained, handoff, pp, producer, producerData, hedge, rfl⟩
      choose! producerOf hproducer using hentry
      refine ⟨data.dependencyHandoffEventIds.toList.map producerOf,
        .dependent hparent (hcausal.trans (by simp [hfirst])) (by simp [hfirst])
          (h.events_nodup hids) ?_, ?_⟩
      · rw [List.forall₂_map_right_iff, List.forall₂_same]
        exact hproducer
      · intro id hid
        obtain ⟨entry, hentry, rfl⟩ := List.mem_map.mp hid
        obtain ⟨_, _, _, pp, producer, producerData, hedge, heq⟩ := hproducer entry hentry
        exact ⟨pp, producer, producerData, hedge.producer_at, heq.symm, hedge.producer_event⟩

/-- The walk accepts a dispatch whose whole run is backed. -/
theorem walkAncestry_eq_ok (hsub : records.Sublist journal) (hidx : Indexed journal index)
    (hbacked : ∀ (i : ℕ) (record : SchedulerRecord) (data : AttemptDispatched),
      records[i]? = some record → record.event = .attemptDispatched data →
        Backed records root sha i record data)
    {start : SchedulerEventId} (hstart : IsDispatch records start) :
    ∃ visited, walkAncestry index root sha start = .ok visited := by
  obtain ⟨f, hf⟩ := exists_embeds hsub
  have hids : (records.map (·.id)).Nodup := (hsub.map _).nodup hidx.nodup
  refine exhaust_eq_ok _ _ (P := IsDispatch records) ?_ hstart
  rintro id ⟨i, record, data, hi, rfl, hevent⟩
  have hback := hbacked i record data hi hevent
  obtain ⟨next, hvisited, hnext⟩ := hback.visited hids
  exact ⟨next, (visitDispatch_eq_ok hidx).mpr ⟨f i, record, data, hf.image _ _ hi, rfl, hevent,
    hback.run, hback.graph, hvisited.map hf⟩, hnext⟩

end Backed

section Lookup

theorem mapKeysEqualSet_of_mem_iff {V : Type} {map : BTreeMap WorkOrderId V}
    {set : BTreeSet WorkOrderId} (h : ∀ id, id ∈ map ↔ id ∈ set) :
    mapKeysEqualSet map set = true := by
  have hperm : map.keys.Perm set.toList := by
    refine (List.perm_ext_iff_of_nodup Std.ExtTreeMap.nodup_keys (nodup_toList set)).mpr ?_
    intro id
    rw [Std.ExtTreeMap.mem_keys, Std.ExtTreeSet.mem_toList, h]
  have hkeys : map.keys = set.toList := by
    refine hperm.eq_of_pairwise ?_ Std.ExtTreeMap.ordered_keys Std.ExtTreeSet.ordered_toList
    intro a b _ _ hlt hgt
    rw [Std.OrientedCmp.gt_of_lt hlt] at hgt
    cases hgt
  have hsize : map.size = set.size := by
    rw [← Std.ExtTreeMap.length_keys, ← Std.ExtTreeSet.length_toList, hkeys]
  simp [mapKeysEqualSet, hkeys, hsize]

/-- A record whose id no other record has is the one found by its id. -/
theorem filter_id_eq_singleton (hids : (journal.map (·.id)).Nodup) {record : SchedulerRecord}
    (hmem : record ∈ journal) : journal.filter (·.id = record.id) = [record] := by
  obtain ⟨pre, post, rfl⟩ := List.append_of_mem hmem
  simp only [List.map_append, List.map_cons, List.nodup_append, List.nodup_cons, List.mem_map,
    List.mem_cons] at hids
  obtain ⟨-, ⟨hpost, -⟩, hpre⟩ := hids
  rw [List.filter_append, List.filter_cons_of_pos (by simp), List.filter_eq_nil_iff.mpr,
    List.filter_eq_nil_iff.mpr]
  · rfl
  · intro other hother
    simpa using fun hid => hpost ⟨other, hother, hid⟩
  · intro other hother
    simpa using hpre _ ⟨other, hother, rfl⟩ _ (.inl rfl)

/-- The attempts that a journal dispatches. -/
def attemptIds (journal : List SchedulerRecord) : List AttemptId :=
  journal.filterMap fun record => record.event.dispatched?.map (·.attemptId)

theorem filterMap_dispatchOf_eq_singleton (hattempts : (attemptIds journal).Nodup)
    {record : SchedulerRecord} {data : AttemptDispatched} (hmem : record ∈ journal)
    (hevent : record.event = .attemptDispatched data) :
    journal.filterMap (dispatchOf data.attemptId) = [(record, data)] := by
  obtain ⟨pre, post, rfl⟩ := List.append_of_mem hmem
  have hself : dispatchOf data.attemptId record = some (record, data) := by
    simp [dispatchOf, hevent, SchedulerEvent.dispatched?]
  have hof : ∀ other, dispatchOf data.attemptId other ≠ none →
      other.event.dispatched?.map (·.attemptId) = some data.attemptId := by
    intro other hother
    unfold dispatchOf at hother
    split at hother
    · next found hfound =>
      split at hother
      · next hattempt => simp [hfound, hattempt]
      · exact absurd rfl hother
    · exact absurd rfl hother
  simp only [attemptIds, List.filterMap_append, List.filterMap_cons, hevent,
    SchedulerEvent.dispatched?, Option.map_some, List.nodup_append, List.nodup_cons,
    List.mem_filterMap, List.mem_cons] at hattempts
  obtain ⟨-, ⟨hpost, -⟩, hpre⟩ := hattempts
  rw [List.filterMap_append, List.filterMap_cons_some hself, List.filterMap_eq_nil_iff.mpr,
    List.filterMap_eq_nil_iff.mpr]
  · rfl
  · intro other hother
    by_contra hne
    exact hpost ⟨other, hother, hof other hne⟩
  · intro other hother
    by_contra hne
    exact hpre _ ⟨other, hother, hof other hne⟩ _ (.inl rfl) rfl

end Lookup

section Complete

/-- A dispatch handed to a worker, with the evidence its run has retained for it. -/
structure Supported (digest : CanonicalDigest) (records : List SchedulerRecord)
    (dispatch : AgentDispatch) (position : ℕ) (record : SchedulerRecord)
    (data : AttemptDispatched) : Prop where
  backed : Backed records dispatch.graphAcceptedEventId dispatch.graphSha256 position record data
  workOrder : data.workOrderId = dispatch.workOrder.id
  actor : data.actorId = dispatch.actorId
  execution : data.executionId = dispatch.executionId
  attempt : data.attemptId = dispatch.attemptId
  parent : data.parentAttemptId = dispatch.parentAttemptId
  attestation : data.attestation = dispatch.attestation
  events : data.dependencyHandoffEventIds = dispatch.dependencyHandoffEventIds
  attested : dispatch.attestation =
    dispatchAttestation digest dispatch.graphSha256 dispatch.workOrder
  keys : ∀ id, id ∈ dispatch.dependencyHandoffs ↔ id ∈ dispatch.workOrder.dependencies
  eventIds : ∀ id : WorkOrderId, dispatch.dependencyHandoffEventIds[id]? =
    dispatch.dependencyHandoffs[id]?.map (·.retainedEventId)
  produced : ∀ (id : WorkOrderId) (handoff : Handoff),
    dispatch.dependencyHandoffs[id]? = some handoff →
      ∃ handoffPosition retained producerPosition producer producerData,
        DependencyEdge records dispatch.graphAcceptedEventId dispatch.graphSha256 position id
          handoff.retainedEventId handoffPosition retained handoff producerPosition producer
          producerData

/-- A verified dependency names the retained handoff and the dispatch record of the attempt that
produced it. -/
structure BoundTo (journal : List SchedulerRecord) (id : WorkOrderId) (handoff : Handoff)
    (verified : VerifiedSchedulerDependencyV1) (retained producer : SchedulerRecord)
    (data : AttemptDispatched) : Prop where
  dependency : verified.dependencyId = id
  retained_mem : retained ∈ journal
  retained_id : retained.id = verified.handoffEventId
  retained_event : retained.event = .handoffRetained handoff
  retained_causal : retained.causalParent = some producer.id
  producer_mem : producer ∈ journal
  producer_id : producer.id = verified.producerDispatchEventId
  producer_event : producer.event = .attemptDispatched data
  work_order : data.workOrderId = id ∧ handoff.workOrderId = id
  attempt : data.attemptId = handoff.attemptId ∧ verified.attemptId = handoff.attemptId
  actor : data.actorId = handoff.actorId ∧ verified.actorId = handoff.actorId
  execution : data.executionId = handoff.executionId ∧ verified.executionId = handoff.executionId
  attestation : verified.dispatchAttestation = data.attestation

variable {digest : CanonicalDigest} {dispatch : AgentDispatch} {position : ℕ}
  {record : SchedulerRecord} {data : AttemptDispatched}

theorem Supported.map (hf : Embeds records journal f)
    (h : Supported digest records dispatch position record data) :
    Supported digest journal dispatch (f position) record data :=
  { h with
    backed := h.backed.map hf
    produced := fun id handoff hhandoff => by
      obtain ⟨_, _, _, _, _, hedge⟩ := h.produced id handoff hhandoff
      exact ⟨_, _, _, _, _, hedge.map hf⟩ }

theorem Supported.verifyDispatchShape_eq_ok
    (h : Supported digest records dispatch position record data) :
    verifyDispatchShape digest dispatch = .ok () := by
  have hevents : ∀ id, id ∈ dispatch.dependencyHandoffEventIds ↔
      id ∈ dispatch.workOrder.dependencies := by
    intro id
    rw [← h.keys, Std.ExtTreeMap.mem_iff_isSome_getElem?, h.eventIds, Option.isSome_map,
      ← Std.ExtTreeMap.mem_iff_isSome_getElem?]
  simp only [verifyDispatchShape, bind_eq_ok, ensure_eq_ok]
  refine ⟨(), h.attested, (), mapKeysEqualSet_of_mem_iff h.keys, (),
    mapKeysEqualSet_of_mem_iff hevents, forM_eq_ok ?_⟩
  rintro ⟨id, handoff⟩ hentry
  have hhandoff := Std.ExtTreeMap.mem_toList_iff_getElem?_eq_some.mp hentry
  obtain ⟨_, _, _, _, _, hedge⟩ := h.produced id handoff hhandoff
  simp only [verifyDependencyShape, bind_eq_ok, ensure_eq_ok, expect_eq_ok]
  exact ⟨(), hedge.handoff_identity.2, handoff.retainedEventId, by rw [h.eventIds, hhandoff]; rfl,
    (), rfl, hedge.handoff_completed⟩

theorem Supported.verifyDependency_eq_ok (hids : (journal.map (·.id)).Nodup)
    (h : Supported digest journal dispatch position record data) {id : WorkOrderId}
    {handoff : Handoff} (hhandoff : dispatch.dependencyHandoffs[id]? = some handoff) :
    ∃ verified retained producer producerData,
      verifyDependency journal dispatch id handoff = .ok (id, verified) ∧
        BoundTo journal id handoff verified retained producer producerData := by
  obtain ⟨_, retained, _, producer, producerData, hedge⟩ := h.produced id handoff hhandoff
  obtain ⟨hworkOrder, hactor, hexecution, hattempt⟩ := hedge.producer_identity
  have hretained := List.mem_of_getElem? hedge.handoff_at
  have hproducer := List.mem_of_getElem? hedge.producer_at
  refine ⟨⟨id, dispatch.graphAcceptedEventId, retained.id, producer.id, producerData.actorId,
    producerData.executionId, producerData.attemptId, producerData.attestation⟩, retained, producer,
    producerData, ?_, ⟨rfl, hretained, rfl, hedge.handoff_event, hedge.handoff_causal, hproducer,
      rfl, hedge.producer_event, ⟨hworkOrder.trans hedge.handoff_identity.2,
        hedge.handoff_identity.2⟩, ⟨hattempt, hattempt⟩, ⟨hactor, hactor⟩,
      ⟨hexecution, hexecution⟩, rfl⟩⟩
  simp only [verifyDependency, uniqueDependencyRecord, verifyDependencyProducer, bind_eq_ok,
    unique_eq_ok, expect_eq_ok, ensure_eq_ok, handoff?_eq_some, dispatched?_eq_some, pure,
    Except.pure, Except.ok.injEq]
  refine ⟨retained, ?_, handoff, hedge.handoff_event, (), rfl, _, ⟨producer.id,
    hedge.handoff_causal, producer, filter_id_eq_singleton hids hproducer, producerData,
    hedge.producer_event, (), ⟨hworkOrder, hactor, hexecution, hattempt⟩, (),
    hedge.producer_graph, (), hedge.producer_root, rfl⟩, rfl⟩
  rw [← hedge.handoff_id]
  exact filter_id_eq_singleton hids hretained

/-- A supported dispatch is verified against every journal that its run is part of. -/
theorem verifyDispatch_of_supported (hsub : records.Sublist journal)
    (hids : (journal.map (·.id)).Nodup) (hattempts : (attemptIds journal).Nodup)
    (hbacked : ∀ (i : ℕ) (record : SchedulerRecord) (data : AttemptDispatched),
      records[i]? = some record → record.event = .attemptDispatched data →
        Backed records dispatch.graphAcceptedEventId dispatch.graphSha256 i record data)
    (h : Supported digest records dispatch position record data) :
    ∃ verified, verifyDispatch digest journal dispatch = .ok verified ∧
      verified.dispatchEventId = record.id ∧
      (∀ id, id ∈ verified.dependencies ↔ id ∈ dispatch.workOrder.dependencies) ∧
      ∀ (id : WorkOrderId) (dependency : VerifiedSchedulerDependencyV1),
        verified.dependencies[id]? = some dependency →
          ∃ handoff retained producer producerData,
            dispatch.dependencyHandoffs[id]? = some handoff ∧
              BoundTo journal id handoff dependency retained producer producerData := by
  obtain ⟨f, hf⟩ := exists_embeds hsub
  obtain ⟨index, hidx⟩ : ∃ index, indexRecords journal = .ok index :=
    ⟨_, indexRecords_eq_ok.mpr ⟨hids, rfl⟩⟩
  have hs := h.map hf
  have hmem := List.mem_of_getElem? hs.backed.at_position
  have hstart : IsDispatch records record.id :=
    ⟨position, record, data, h.backed.at_position, rfl, h.backed.event⟩
  obtain ⟨visited, hwalk⟩ := walkAncestry_eq_ok hsub (indexed_of_ok hidx) hbacked hstart
  obtain ⟨_, rootRecord, hroot, -⟩ := hs.backed.rooted
  have hrooted : verifyGraphRootRecord journal dispatch.graphAcceptedEventId dispatch.graphSha256 =
      .ok () := by
    refine verifyGraphRootRecord_eq_ok.mpr ⟨rootRecord, ?_, hroot.causal, hroot.event⟩
    rw [← hroot.id]
    exact filter_id_eq_singleton hids (List.mem_of_getElem? hroot.at_position)
  have hentry : ∀ entry ∈ dispatch.dependencyHandoffs.toList, ∃ found,
      verifyDependency journal dispatch entry.1 entry.2 = .ok found ∧ found.1 = entry.1 ∧
        ∃ retained producer producerData,
          BoundTo journal entry.1 entry.2 found.2 retained producer producerData := by
    rintro ⟨id, handoff⟩ hentry
    obtain ⟨verified, retained, producer, producerData, hok, hbound⟩ :=
      hs.verifyDependency_eq_ok hids (Std.ExtTreeMap.mem_toList_iff_getElem?_eq_some.mp hentry)
    exact ⟨(id, verified), hok, rfl, retained, producer, producerData, hbound⟩
  obtain ⟨dependencies, hdependencies, hall⟩ := exists_mapM_eq_ok hentry
  have hkeys : dependencies.map Prod.fst = dispatch.dependencyHandoffs.keys := by
    have hsame : List.Forall₂ (· = ·) (dispatch.dependencyHandoffs.toList.map Prod.fst)
        (dependencies.map Prod.fst) := by
      rw [List.forall₂_map_left_iff, List.forall₂_map_right_iff]
      exact hall.imp fun _ _ h => h.1.symm
    rw [List.forall₂_eq_eq_eq] at hsame
    rw [← Std.ExtTreeMap.map_fst_toList_eq_keys, hsame]
  refine ⟨⟨record.id, dispatch.graphAcceptedEventId, toMap dependencies⟩, ?_, rfl, ?_, ?_⟩
  · simp only [verifyDispatch, verifyDispatchCausalParent, verifyFullDispatchAncestry,
      uniqueDispatchRecordForAttempt, bind_eq_ok, ensure_eq_ok, unique_eq_ok, pure, Except.pure,
      Except.ok.injEq]
    exact ⟨(), hs.verifyDispatchShape_eq_ok, (record, data),
      h.attempt ▸ filterMap_dispatchOf_eq_singleton hattempts hmem h.backed.event, (), h.workOrder,
      (), h.actor, (), h.execution, (), h.parent, (), h.backed.run, (), h.attestation, (), h.events,
      (), hrooted, (), ⟨index, hidx, (), hrooted, visited, hwalk, trivial⟩, dependencies,
      hdependencies, rfl⟩
  · intro id
    rw [mem_toMap, hkeys, Std.ExtTreeMap.mem_keys, h.keys]
  · intro id dependency hdependency
    rw [toMap_getElem?_eq_some (hkeys ▸ Std.ExtTreeMap.nodup_keys)] at hdependency
    obtain ⟨i, hi, hget⟩ := List.mem_iff_getElem.mp hdependency
    have hi' : i < dispatch.dependencyHandoffs.toList.length := hall.length_eq ▸ hi
    obtain ⟨hid, retained, producer, producerData, hbound⟩ := hall.get hi' hi
    simp only [List.get_eq_getElem, hget] at hid hbound
    subst hid
    exact ⟨_, retained, producer, producerData,
      Std.ExtTreeMap.mem_toList_iff_getElem?_eq_some.mp (List.getElem_mem hi'), hbound⟩

end Complete

end BirdCode.Scheduler
