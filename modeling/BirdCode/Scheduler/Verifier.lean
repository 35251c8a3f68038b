import BirdCode.Lib.Worklist
import BirdCode.Scheduler.Journal

/-! The dispatch verifier of the in-memory journal: it re-derives every retry and dependency
edge behind one dispatch from the retained records alone. -/
namespace BirdCode.Scheduler

open Lib

inductive DispatchVerificationError
  | attestationMismatch
  | dependencyHandoffKeySetMismatch
  | dependencyEventKeySetMismatch
  | dependencyHandoffWorkOrderMismatch (dependencyId handoffWorkOrderId : WorkOrderId)
  | dependencyHandoffEventMismatch (dependencyId : WorkOrderId)
      (mappedEventId handoffEventId : SchedulerEventId)
  | dependencyHandoffIncomplete (dependencyId : WorkOrderId) (outcome : HandoffOutcome)
  | dispatchRecordNotFound (attemptId : AttemptId)
  | dispatchRecordAmbiguous (attemptId : AttemptId)
  | dispatchWorkOrderMismatch
  | dispatchActorMismatch
  | dispatchExecutionMismatch
  | dispatchParentAttemptMismatch
  | dispatchGraphRootMismatch
  | dispatchAttestationMismatch
  | dispatchDependencyEventsMismatch
  | dispatchCausalParentMismatch
  | dependencyRecordNotFound (dependencyId : WorkOrderId) (eventId : SchedulerEventId)
  | dependencyRecordAmbiguous (dependencyId : WorkOrderId) (eventId : SchedulerEventId)
  | dependencyRecordTypeMismatch (dependencyId : WorkOrderId)
  | dependencyRetainedHandoffMismatch (dependencyId : WorkOrderId)
  | dependencyProducerDispatchMissing (dependencyId : WorkOrderId)
  | dependencyProducerDispatchAmbiguous (dependencyId : WorkOrderId)
  | dependencyProducerRecordTypeMismatch (dependencyId : WorkOrderId)
  | dependencyProducerIdentityMismatch (dependencyId : WorkOrderId)
  | dependencyProducerGraphMismatch (dependencyId : WorkOrderId)
  | rootRecordNotFound
  | rootRecordAmbiguous
  | rootRecordMismatch
  deriving DecidableEq

abbrev Verified := Except DispatchVerificationError

structure VerifiedSchedulerDependencyV1 where
  dependencyId : WorkOrderId
  graphAcceptedEventId : SchedulerEventId
  handoffEventId : SchedulerEventId
  producerDispatchEventId : SchedulerEventId
  actorId : ActorId
  executionId : ExecutionId
  attemptId : AttemptId
  dispatchAttestation : DispatchAttestation
  deriving DecidableEq

structure VerifiedSchedulerDispatchV1 where
  dispatchEventId : SchedulerEventId
  graphAcceptedEventId : SchedulerEventId
  dependencies : BTreeMap WorkOrderId VerifiedSchedulerDependencyV1
  deriving DecidableEq

/-- `matches.next()` twice: exactly one match is accepted. -/
def unique {A : Type} (missing ambiguous : DispatchVerificationError) : List A → Verified A
  | [] => .error missing
  | [record] => .ok record
  | _ :: _ :: _ => .error ambiguous

@[simp] theorem unique_eq_ok {A : Type} {missing ambiguous : DispatchVerificationError}
    {records : List A} {record : A} :
    unique missing ambiguous records = .ok record ↔ records = [record] := by
  match records with
  | [] => simp [unique]
  | [found] => simp [unique]
  | _ :: _ :: _ => simp [unique]

/-- The payload of a record that dispatches this attempt. -/
def dispatchOf (attemptId : AttemptId) (record : SchedulerRecord) :
    Option (SchedulerRecord × AttemptDispatched) :=
  match record.event.dispatched? with
  | some data => if data.attemptId = attemptId then some (record, data) else none
  | none => none

def uniqueDispatchRecordForAttempt (records : List SchedulerRecord) (attemptId : AttemptId) :
    Verified (SchedulerRecord × AttemptDispatched) :=
  unique (.dispatchRecordNotFound attemptId) (.dispatchRecordAmbiguous attemptId)
    (records.filterMap (dispatchOf attemptId))

def uniqueDependencyRecord (records : List SchedulerRecord) (dependencyId : WorkOrderId)
    (eventId : SchedulerEventId) : Verified SchedulerRecord :=
  unique (.dependencyRecordNotFound dependencyId eventId)
    (.dependencyRecordAmbiguous dependencyId eventId) (records.filter (·.id = eventId))

def verifyGraphRootRecord (records : List SchedulerRecord)
    (graphAcceptedEventId : SchedulerEventId) (graphSha256 : String) : Verified Unit := do
  let parent ← unique .rootRecordNotFound .rootRecordAmbiguous
    (records.filter (·.id = graphAcceptedEventId))
  ensure (parent.causalParent = none ∧ parent.event.acceptedGraph? = some graphSha256)
    .rootRecordMismatch

def mapKeysEqualSet {V : Type} (map : BTreeMap WorkOrderId V) (set : BTreeSet WorkOrderId) : Bool :=
  map.size = set.size && map.keys = set.toList

/-- The checks of one dependency handoff that need no journal. -/
def verifyDependencyShape (dispatch : AgentDispatch) (dependencyId : WorkOrderId)
    (handoff : Handoff) : Verified Unit := do
  ensure (handoff.workOrderId = dependencyId)
    (.dependencyHandoffWorkOrderMismatch dependencyId handoff.workOrderId)
  -- the key sets are equal here, so that the mapped event exists
  let mappedEventId ← expect .dependencyEventKeySetMismatch
    dispatch.dependencyHandoffEventIds[dependencyId]?
  ensure (handoff.retainedEventId = mappedEventId)
    (.dependencyHandoffEventMismatch dependencyId mappedEventId handoff.retainedEventId)
  ensure (handoff.outcome = .completed)
    (.dependencyHandoffIncomplete dependencyId handoff.outcome)

def verifyDispatchShape (digest : CanonicalDigest) (dispatch : AgentDispatch) : Verified Unit := do
  ensure (dispatch.attestation =
    dispatchAttestation digest dispatch.graphSha256 dispatch.workOrder) .attestationMismatch
  ensure (mapKeysEqualSet dispatch.dependencyHandoffs dispatch.workOrder.dependencies)
    .dependencyHandoffKeySetMismatch
  ensure (mapKeysEqualSet dispatch.dependencyHandoffEventIds dispatch.workOrder.dependencies)
    .dependencyEventKeySetMismatch
  dispatch.dependencyHandoffs.toList.forM fun (dependencyId, handoff) =>
    verifyDependencyShape dispatch dependencyId handoff

def verifyDependencyProducer (records : List SchedulerRecord) (dependencyId : WorkOrderId)
    (handoffRecord : SchedulerRecord) (handoff : Handoff) (graphSha256 : String)
    (graphAcceptedEventId : SchedulerEventId) : Verified VerifiedSchedulerDependencyV1 := do
  let parentEventId ← expect (.dependencyProducerDispatchMissing dependencyId)
    handoffRecord.causalParent
  let parent ← unique (.dependencyProducerDispatchMissing dependencyId)
    (.dependencyProducerDispatchAmbiguous dependencyId) (records.filter (·.id = parentEventId))
  let producer ← expect (.dependencyProducerRecordTypeMismatch dependencyId)
    parent.event.dispatched?
  ensure (producer.workOrderId = handoff.workOrderId ∧ producer.actorId = handoff.actorId ∧
    producer.executionId = handoff.executionId ∧ producer.attemptId = handoff.attemptId)
    (.dependencyProducerIdentityMismatch dependencyId)
  ensure (producer.attestation.graphSha256 = graphSha256)
    (.dependencyProducerGraphMismatch dependencyId)
  ensure (producer.graphAcceptedEventId = graphAcceptedEventId) .dispatchGraphRootMismatch
  return {
    dependencyId, graphAcceptedEventId
    handoffEventId := handoffRecord.id
    producerDispatchEventId := parent.id
    actorId := producer.actorId
    executionId := producer.executionId
    attemptId := producer.attemptId
    dispatchAttestation := producer.attestation }

abbrev RecordIndex := BTreeMap SchedulerEventId (ℕ × SchedulerRecord)

/-- One insertion of the index; an id met twice rejects the journal. -/
def indexRecord (index : RecordIndex) (entry : SchedulerRecord × ℕ) : Verified RecordIndex := do
  ensure (index.contains entry.1.id = false) .dispatchCausalParentMismatch
  return index.insert entry.1.id (entry.2, entry.1)

def indexRecords (records : List SchedulerRecord) : Verified RecordIndex :=
  records.zipIdx.foldlM indexRecord ∅

def precedingRecord (index : RecordIndex) (eventId : SchedulerEventId) (childPosition : ℕ) :
    Verified (ℕ × SchedulerRecord) := do
  let entry ← expect .dispatchCausalParentMismatch index[eventId]?
  ensure (entry.1 < childPosition) .dispatchCausalParentMismatch
  return entry

/-- The retry edge of a dispatch: its failed parent attempt and that attempt's dispatch, which
is pushed. -/
def visitRetry (index : RecordIndex) (graphAcceptedEventId : SchedulerEventId)
    (dispatchPosition : ℕ) (current : SchedulerRecord) (data : AttemptDispatched)
    (parentAttemptId : AttemptId) : Verified (List SchedulerEventId) := do
  let failedEventId ← expect .dispatchCausalParentMismatch current.causalParent
  let failed ← precedingRecord index failedEventId dispatchPosition
  let failure ← expect .dispatchCausalParentMismatch failed.2.event.failed?
  ensure (failure.workOrderId = data.workOrderId ∧ failure.executionId = data.executionId ∧
    failure.attemptId = parentAttemptId ∧ failure.willRetry = true) .dispatchCausalParentMismatch
  let parentDispatchEventId ← expect .dispatchCausalParentMismatch failed.2.causalParent
  let parent ← precedingRecord index parentDispatchEventId failed.1
  let parentData ← expect .dispatchCausalParentMismatch parent.2.event.dispatched?
  ensure (parentData.workOrderId = data.workOrderId ∧ parentData.actorId = data.actorId ∧
    parentData.executionId = data.executionId ∧ parentData.attemptId = parentAttemptId ∧
    parentData.graphAcceptedEventId = graphAcceptedEventId ∧
    parentData.attestation = data.attestation ∧
    parentData.dependencyHandoffEventIds = data.dependencyHandoffEventIds)
    .dispatchCausalParentMismatch
  return [parent.2.id]

/-- One dependency edge of a first attempt: the retained handoff and the dispatch that produced
it, which is pushed. -/
def visitDependency (index : RecordIndex) (graphAcceptedEventId : SchedulerEventId)
    (graphSha256 : String) (dispatchPosition : ℕ) (dependencyId : WorkOrderId)
    (handoffEventId : SchedulerEventId) : Verified SchedulerEventId := do
  let retained ← precedingRecord index handoffEventId dispatchPosition
  let handoff ← expect (.dependencyRecordTypeMismatch dependencyId) retained.2.event.handoff?
  ensure (handoff.retainedEventId = handoffEventId ∧ handoff.workOrderId = dependencyId)
    (.dependencyRetainedHandoffMismatch dependencyId)
  ensure (handoff.outcome = .completed)
    (.dependencyHandoffIncomplete dependencyId handoff.outcome)
  let producerDispatchEventId ← expect (.dependencyProducerDispatchMissing dependencyId)
    retained.2.causalParent
  let producer ← precedingRecord index producerDispatchEventId retained.1
  let producerData ← expect (.dependencyProducerRecordTypeMismatch dependencyId)
    producer.2.event.dispatched?
  ensure (producerData.workOrderId = handoff.workOrderId ∧
    producerData.actorId = handoff.actorId ∧ producerData.executionId = handoff.executionId ∧
    producerData.attemptId = handoff.attemptId ∧
    producerData.graphAcceptedEventId = graphAcceptedEventId ∧
    producerData.attestation.graphSha256 = graphSha256)
    (.dependencyProducerIdentityMismatch dependencyId)
  return producer.2.id

/-- The loop over the dependencies, which rejects an event bound twice. -/
def visitDependencies (index : RecordIndex) (graphAcceptedEventId : SchedulerEventId)
    (graphSha256 : String) (dispatchPosition : ℕ) :
    BTreeSet SchedulerEventId → List (WorkOrderId × SchedulerEventId) →
      Verified (List SchedulerEventId)
  | _, [] => .ok []
  | uniqueEvents, (dependencyId, handoffEventId) :: rest => do
    ensure (uniqueEvents.contains handoffEventId = false) .dispatchCausalParentMismatch
    let producer ← visitDependency index graphAcceptedEventId graphSha256 dispatchPosition
      dependencyId handoffEventId
    let producers ← visitDependencies index graphAcceptedEventId graphSha256 dispatchPosition
      (uniqueEvents.insert handoffEventId) rest
    return producer :: producers

/-- A dispatch without dependencies follows the root of its run. -/
def visitRoot (index : RecordIndex) (graphAcceptedEventId : SchedulerEventId)
    (dispatchPosition : ℕ) (current : SchedulerRecord) : Verified (List SchedulerEventId) := do
  ensure (current.causalParent = some graphAcceptedEventId) .rootRecordMismatch
  let root ← expect .rootRecordNotFound index[graphAcceptedEventId]?
  ensure (root.1 < dispatchPosition) .rootRecordMismatch
  return []

/-- One turn of the ancestry walk: the dispatches whose own ancestry remains to be checked. -/
def visitDispatch (index : RecordIndex) (graphAcceptedEventId : SchedulerEventId)
    (graphSha256 : String) (dispatchEventId : SchedulerEventId) :
    Verified (List SchedulerEventId) := do
  let entry ← expect .dispatchCausalParentMismatch index[dispatchEventId]?
  let data ← expect .dispatchCausalParentMismatch entry.2.event.dispatched?
  ensure (data.graphAcceptedEventId = graphAcceptedEventId ∧
    data.attestation.graphSha256 = graphSha256) .dispatchGraphRootMismatch
  match data.parentAttemptId with
  | some parentAttemptId =>
    visitRetry index graphAcceptedEventId entry.1 entry.2 data parentAttemptId
  | none =>
    match firstValue data.dependencyHandoffEventIds with
    | none => visitRoot index graphAcceptedEventId entry.1 entry.2
    | some firstDependencyEventId => do
      ensure (entry.2.causalParent = some firstDependencyEventId) .dispatchCausalParentMismatch
      visitDependencies index graphAcceptedEventId graphSha256 entry.1 ∅
        data.dependencyHandoffEventIds.toList

theorem visitDispatch_mem_keys {index : RecordIndex} {graphAcceptedEventId : SchedulerEventId}
    {graphSha256 : String} : ∀ id next,
      visitDispatch index graphAcceptedEventId graphSha256 id = .ok next → next ≠ [] →
        id ∈ index.keys := by
  intro id next h _
  rw [visitDispatch, bind_eq_ok] at h
  obtain ⟨entry, hentry, -⟩ := h
  rw [expect_eq_ok] at hentry
  exact Std.ExtTreeMap.mem_keys.mpr (Std.ExtTreeMap.mem_iff_isSome_getElem?.mpr (by simp [hentry]))

/-- The worklist of `verify_full_dispatch_ancestry`. -/
def walkAncestry (index : RecordIndex) (graphAcceptedEventId : SchedulerEventId)
    (graphSha256 : String) (dispatchEventId : SchedulerEventId) :
    Verified (List SchedulerEventId) :=
  exhaust (visitDispatch index graphAcceptedEventId graphSha256) index.keys
    Std.ExtTreeMap.nodup_keys visitDispatch_mem_keys dispatchEventId

def verifyFullDispatchAncestry (records : List SchedulerRecord) (dispatchRecord : SchedulerRecord)
    (graphAcceptedEventId : SchedulerEventId) (graphSha256 : String) : Verified Unit := do
  let index ← indexRecords records
  verifyGraphRootRecord records graphAcceptedEventId graphSha256
  let _ ← walkAncestry index graphAcceptedEventId graphSha256 dispatchRecord.id
  return ()

def verifyDispatchCausalParent (records : List SchedulerRecord) (dispatchRecord : SchedulerRecord)
    (dispatch : AgentDispatch) : Verified Unit :=
  verifyFullDispatchAncestry records dispatchRecord dispatch.graphAcceptedEventId
    dispatch.graphSha256

/-- One turn of the loop over the dependency handoffs in `verify_dispatch`. -/
def verifyDependency (records : List SchedulerRecord) (dispatch : AgentDispatch)
    (dependencyId : WorkOrderId) (handoff : Handoff) :
    Verified (WorkOrderId × VerifiedSchedulerDependencyV1) := do
  let retainedRecord ← uniqueDependencyRecord records dependencyId handoff.retainedEventId
  let retainedHandoff ← expect (.dependencyRecordTypeMismatch dependencyId)
    retainedRecord.event.handoff?
  ensure (retainedHandoff = handoff) (.dependencyRetainedHandoffMismatch dependencyId)
  let verified ← verifyDependencyProducer records dependencyId retainedRecord retainedHandoff
    dispatch.graphSha256 dispatch.graphAcceptedEventId
  return (dependencyId, verified)

def verifyDispatch (digest : CanonicalDigest) (records : List SchedulerRecord)
    (dispatch : AgentDispatch) : Verified VerifiedSchedulerDispatchV1 := do
  verifyDispatchShape digest dispatch
  let found ← uniqueDispatchRecordForAttempt records dispatch.attemptId
  ensure (found.2.workOrderId = dispatch.workOrder.id) .dispatchWorkOrderMismatch
  ensure (found.2.actorId = dispatch.actorId) .dispatchActorMismatch
  ensure (found.2.executionId = dispatch.executionId) .dispatchExecutionMismatch
  ensure (found.2.parentAttemptId = dispatch.parentAttemptId) .dispatchParentAttemptMismatch
  ensure (found.2.graphAcceptedEventId = dispatch.graphAcceptedEventId) .dispatchGraphRootMismatch
  ensure (found.2.attestation = dispatch.attestation) .dispatchAttestationMismatch
  ensure (found.2.dependencyHandoffEventIds = dispatch.dependencyHandoffEventIds)
    .dispatchDependencyEventsMismatch
  verifyGraphRootRecord records dispatch.graphAcceptedEventId dispatch.graphSha256
  verifyDispatchCausalParent records found.1 dispatch
  let dependencies ← dispatch.dependencyHandoffs.toList.mapM fun (dependencyId, handoff) =>
    verifyDependency records dispatch dependencyId handoff
  return {
    dispatchEventId := found.1.id
    graphAcceptedEventId := dispatch.graphAcceptedEventId
    dependencies := toMap dependencies }

end BirdCode.Scheduler
