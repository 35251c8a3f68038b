import BirdCode.Lib.Worklist
import BirdCode.Lib.DepthFirst
import BirdCode.Scheduler.Journal

/-! Mechanical validation of a proposed actor graph against the trusted policy. -/
namespace BirdCode.Scheduler

open Lib

abbrev Orders := BTreeMap WorkOrderId WorkOrder

def validLineage (lineage : ModelLineage) : Bool :=
  [lineage.backendId, lineage.modelId, lineage.deploymentId, lineage.independenceDomainId].all
    fun value => !isBlank value && value.utf8ByteSize ≤ maxAssignmentIdBytes

/-- The collection sizes of one work order that are checked before anything is sorted. -/
def orderShapeViolations (order : WorkOrder) : List ActorGraphViolation :=
  collect [
    report (order.acceptanceCriteria.length > maxAcceptanceCriteria)
      (.acceptanceCriteriaLimitExceeded order.id maxAcceptanceCriteria
        order.acceptanceCriteria.length),
    report (order.dependencies.size > hardMaxDependencies)
      (.dependencyLimitExceeded order.id hardMaxDependencies order.dependencies.size),
    report (order.reviews.size > hardMaxReviews)
      (.reviewLimitExceeded order.id hardMaxReviews order.reviews.size),
    report (order.permissions.capabilities.size > hardMaxCapabilities)
      (.capabilityLimitExceeded order.id hardMaxCapabilities order.permissions.capabilities.size)]

/-- The sizes of the policy's own collections, checked before and again with the graph. -/
def policySizeViolations (policy : ActorGraphPolicy) : List ActorGraphViolation :=
  collect [
    report (policy.workspaceLeases.size > hardMaxPolicyLeases)
      (.policyWorkspaceLeaseLimitExceeded hardMaxPolicyLeases policy.workspaceLeases.size),
    report (policy.modelProfiles.size > hardMaxModelProfiles)
      (.policyModelProfileLimitExceeded hardMaxModelProfiles policy.modelProfiles.size),
    report (policy.rootPermissions.capabilities.size > hardMaxCapabilities)
      (.rootCapabilityLimitExceeded hardMaxCapabilities policy.rootPermissions.capabilities.size)]

def totalCapabilityReferences (graph : ActorGraph) (policy : ActorGraphPolicy) : ℕ :=
  graph.workOrders.foldl
    (fun total order => saturatingAdd total order.permissions.capabilities.size)
    policy.rootPermissions.capabilities.size

def structuralLimitViolations (graph : ActorGraph) (policy : ActorGraphPolicy) :
    List ActorGraphViolation :=
  collect [
    report (graph.workOrders.length > hardMaxWorkOrders)
      (.hardWorkOrderLimitExceeded hardMaxWorkOrders graph.workOrders.length),
    policySizeViolations policy,
    if graph.workOrders.length ≤ hardMaxWorkOrders then
      collect [
        graph.workOrders.flatMap orderShapeViolations,
        report (totalCapabilityReferences graph policy > hardMaxTotalCapabilityReferences)
          (.totalCapabilityReferenceLimitExceeded hardMaxTotalCapabilityReferences
            (totalCapabilityReferences graph policy))]
    else []]

/-- The checks of `graph_violations` before its loop over the work orders. -/
def policyViolations (graph : ActorGraph) (policy : ActorGraphPolicy) :
    List ActorGraphViolation :=
  collect [
    report (graph.schemaVersion ≠ actorGraphSchemaVersion)
      (.unsupportedSchemaVersion graph.schemaVersion),
    report (isBlank policy.policyVersion) .emptyPolicyVersion,
    report (policy.policyVersion.utf8ByteSize > maxAssignmentIdBytes)
      (.policyVersionTooLarge maxAssignmentIdBytes policy.policyVersion.utf8ByteSize),
    policySizeViolations policy,
    policy.workspaceLeases.toList.flatMap (fun (leaseId, lease) =>
      report (validSha256 lease.source.digestSha256 = false ∨
          lease.access = .write ∧ lease.source.supportsWrite = false)
        (.invalidWorkspaceLeasePolicy leaseId)),
    policy.modelProfiles.toList.flatMap (fun (modelProfileId, lineage) =>
      report (validLineage lineage = false) (.invalidModelProfilePolicy modelProfileId)),
    report (validSha256 policy.planInputSnapshotSha256 = false) .invalidPolicySnapshotDigest,
    report (validSha256 graph.planInputSnapshotSha256 = false) .invalidSnapshotDigest,
    report (graph.planInputSnapshotSha256 ≠ policy.planInputSnapshotSha256)
      .rootSnapshotMismatch,
    report (graph.workOrders = []) .emptyGraph,
    report (graph.workOrders.length > policy.limits.maxWorkOrders.toNat)
      (.workOrderLimitExceeded policy.limits.maxWorkOrders graph.workOrders.length),
    report (graph.workOrders.length > hardMaxWorkOrders)
      (.hardWorkOrderLimitExceeded hardMaxWorkOrders graph.workOrders.length),
    report (policy.limits.maxParallel = 0) .invalidParallelLimit]

def textViolations (order : WorkOrder) : List ActorGraphViolation :=
  collect [
    report (isBlank order.objective) (.emptyObjective order.id),
    report (order.objective.utf8ByteSize > maxObjectiveBytes)
      (.objectiveTooLarge order.id maxObjectiveBytes order.objective.utf8ByteSize),
    report (order.acceptanceCriteria.isEmpty ∨ order.acceptanceCriteria.any isBlank)
      (.emptyAcceptanceCriteria order.id),
    report (order.acceptanceCriteria.length > maxAcceptanceCriteria)
      (.acceptanceCriteriaLimitExceeded order.id maxAcceptanceCriteria
        order.acceptanceCriteria.length),
    order.acceptanceCriteria.zipIdx.flatMap fun (criterion, index) =>
      report (criterion.utf8ByteSize > maxAcceptanceCriterionBytes)
        (.acceptanceCriterionTooLarge order.id index maxAcceptanceCriterionBytes
          criterion.utf8ByteSize)]

def assignmentViolations (policy : ActorGraphPolicy) (order : WorkOrder) :
    List ActorGraphViolation :=
  collect [
    [("backend_id", order.assignment.lineage.backendId),
      ("model_id", order.assignment.lineage.modelId),
      ("deployment_id", order.assignment.lineage.deploymentId),
      ("independence_domain_id", order.assignment.lineage.independenceDomainId)].flatMap
      (fun (field, value) =>
        report (isBlank value ∨ value.utf8ByteSize > maxAssignmentIdBytes)
          (.invalidAssignment order.id field)),
    match policy.modelProfiles[order.assignment.modelProfileId]? with
    | none => [.unknownModelProfile order.id order.assignment.modelProfileId]
    | some lineage =>
      report (lineage ≠ order.assignment.lineage)
        (.modelLineageMismatch order.id order.assignment.modelProfileId)]

def workspaceViolations (policy : ActorGraphPolicy) (order : WorkOrder) :
    List ActorGraphViolation :=
  collect [
    report (validSha256 order.workspace.source.digestSha256 = false)
      (.invalidWorkspaceSourceDigest order.id),
    (match policy.workspaceLeases[order.workspace.leaseId]? with
    | none => [.unknownWorkspaceLease order.id order.workspace.leaseId]
    | some lease =>
      report (lease.source ≠ order.workspace.source ∨
          lease.access.permits order.workspace.access = false)
        (.workspaceLeaseMismatch order.id order.workspace.leaseId)),
    report (validSha256 order.workspace.source.digestSha256 ∧ order.workspace.access = .write ∧
        (order.workspace.source.supportsWrite = false ∨ order.budget.maxAttempts ≠ 1))
      (.workspaceExecutionProfileUnsupported order.id order.workspace.source
        order.workspace.access order.budget.maxAttempts),
    report (order.reviews.isEmpty = false ∧ order.workspace.access = .write)
      (.reviewerHasWriteWorkspace order.id)]

/-- The checks of one work order that look at nothing but the order and the policy. -/
def orderViolations (policy : ActorGraphPolicy) (order : WorkOrder) : List ActorGraphViolation :=
  collect [
    textViolations order,
    assignmentViolations policy order,
    report (validSha256 order.contextManifestSha256 = false)
      (.invalidContextManifestDigest order.id),
    report (order.budget.maxAttempts = 0 ∨ order.budget.maxWallTimeMs = 0 ∨
      order.budget.maxCleanupTimeMs = 0) (.invalidBudget order.id),
    report (order.dependencies.size > hardMaxDependencies)
      (.dependencyLimitExceeded order.id hardMaxDependencies order.dependencies.size),
    report (order.reviews.size > hardMaxReviews)
      (.reviewLimitExceeded order.id hardMaxReviews order.reviews.size),
    report (order.permissions.capabilities.size > hardMaxCapabilities)
      (.capabilityLimitExceeded order.id hardMaxCapabilities
        order.permissions.capabilities.size),
    report (order.permissions.isSubsetOf policy.rootPermissions = false)
      (.authorityExpansion order.id),
    workspaceViolations policy order]

/-- `unwrap_or_else(|| { overflow = true; u64::MAX })`. -/
def orOverflow (overflow : Bool) : Option UInt64 → UInt64 × Bool
  | some value => (value, overflow)
  | none => (18446744073709551615, true)

/-- Adds `attempts` times a per-attempt ceiling to a total. -/
def reserve (total attempts : UInt64) (perAttempt : UInt64 × Bool) : UInt64 × Bool :=
  let product := orOverflow perAttempt.2 (checkedMul perAttempt.1 attempts)
  orOverflow product.2 (checkedAdd total product.1)

/-- What the loop over the work orders accumulates. -/
structure Admission where
  orders : Orders
  leaseUses : BTreeMap WorkspaceLeaseId (ℕ × Bool)
  totalAttempts : UInt64
  totalOutputTokens : UInt64
  totalToolCalls : UInt64
  totalWallTimeMs : UInt64
  totalGraphTextBytes : ℕ
  overflow : Bool
  violations : List ActorGraphViolation

def Admission.start : Admission := ⟨∅, ∅, 0, 0, 0, 0, 0, false, []⟩

def useLease (leaseUses : BTreeMap WorkspaceLeaseId (ℕ × Bool)) (workspace : WorkspaceGrant) :
    BTreeMap WorkspaceLeaseId (ℕ × Bool) :=
  let leaseUse := leaseUses[workspace.leaseId]?.getD (0, false)
  leaseUses.insert workspace.leaseId (leaseUse.1 + 1, leaseUse.2 || workspace.access = .write)

def graphTextBytes (total : ℕ) (order : WorkOrder) : ℕ :=
  order.acceptanceCriteria.foldl (fun total criterion => saturatingAdd total criterion.utf8ByteSize)
    (saturatingAdd total order.objective.utf8ByteSize)

/-- One turn of the loop over the work orders. -/
def admitOrder (policy : ActorGraphPolicy) (acc : Admission) (order : WorkOrder) : Admission :=
  let attempts := order.budget.maxAttempts.toUInt64
  let totalAttempts := orOverflow acc.overflow (checkedAdd acc.totalAttempts attempts)
  let totalOutputTokens := reserve acc.totalOutputTokens attempts
    (order.budget.maxOutputTokens, totalAttempts.2)
  let totalToolCalls := reserve acc.totalToolCalls attempts
    (order.budget.maxToolCalls, totalOutputTokens.2)
  let totalWallTimeMs := reserve acc.totalWallTimeMs attempts
    (orOverflow totalToolCalls.2
      (checkedAdd order.budget.maxWallTimeMs order.budget.maxCleanupTimeMs))
  { orders := acc.orders.insert order.id order
    leaseUses := useLease acc.leaseUses order.workspace
    totalAttempts := totalAttempts.1
    totalOutputTokens := totalOutputTokens.1
    totalToolCalls := totalToolCalls.1
    totalWallTimeMs := totalWallTimeMs.1
    totalGraphTextBytes := graphTextBytes acc.totalGraphTextBytes order
    overflow := totalWallTimeMs.2
    violations := acc.violations ++
      report (acc.orders.contains order.id) (.duplicateWorkOrder order.id) ++
      orderViolations policy order }

def admitOrders (policy : ActorGraphPolicy) (workOrders : List WorkOrder) : Admission :=
  workOrders.foldl (admitOrder policy) .start

def reviewedTargets (workOrders : List WorkOrder) : BTreeSet WorkOrderId :=
  toSet (workOrders.flatMap fun order => order.reviews.toList)

def dependencyViolations (orders : Orders) (reviewed : BTreeSet WorkOrderId) (order : WorkOrder)
    (dependency : WorkOrderId) : List ActorGraphViolation :=
  if dependency = order.id then [.selfDependency order.id]
  else
    collect [
      (match orders[dependency]? with
      | none => [.unknownDependency order.id dependency]
      | some reviewOrder =>
        report (reviewOrder.reviews.isEmpty = false)
          (.ungatedReviewDependency order.id dependency)),
      report (reviewed.contains dependency ∧ order.reviews.contains dependency = false)
        (.ungatedReviewedTargetDependency order.id dependency)]

def reviewViolations (orders : Orders) (order : WorkOrder) (target : WorkOrderId) :
    List ActorGraphViolation :=
  match orders[target]? with
  | none => [.unknownReviewTarget order.id target]
  | some producer =>
    collect [
      report (order.dependencies.contains target = false)
        (.reviewMissingDependency order.id target),
      report (order.assignment.lineage.independenceDomainId =
          producer.assignment.lineage.independenceDomainId)
        (.reviewerLineageConflict order.id target)]

def relationViolations (orders : Orders) (reviewed : BTreeSet WorkOrderId) (order : WorkOrder) :
    List ActorGraphViolation :=
  order.dependencies.toList.flatMap (dependencyViolations orders reviewed order) ++
  order.reviews.toList.flatMap (reviewViolations orders order)

/-- The dependencies of a work order that name a known order. -/
def knownDependencies (orders : Orders) (id : WorkOrderId) : List WorkOrderId :=
  match orders[id]? with
  | none => []
  | some order => order.dependencies.toList.filter fun dependency => orders.contains dependency

theorem knownDependencies_closed (orders : Orders) :
    ∀ id ∈ orders.keys, ∀ dependency ∈ knownDependencies orders id, dependency ∈ orders.keys := by
  intro id _ dependency hdep
  unfold knownDependencies at hdep
  split at hdep
  · cases hdep
  · exact Std.ExtTreeMap.mem_keys.mpr (List.mem_filter.mp hdep).2

/-- One turn of the worklist in `dependency_reachable`: the target found among the dependencies
ends the search. -/
def searchDependencies (orders : Orders) (target current : WorkOrderId) :
    Except Unit (List WorkOrderId) :=
  match orders[current]? with
  | none => .ok []
  | some order =>
    if order.dependencies.contains target then .error ()
    else .ok (knownDependencies orders current)

theorem searchDependencies_mem_keys {orders : Orders} {target : WorkOrderId} :
    ∀ id next, searchDependencies orders target id = .ok next → next ≠ [] → id ∈ orders.keys := by
  intro id next h hne
  unfold searchDependencies at h
  split at h
  · next hnone =>
    cases h
    exact absurd rfl hne
  · next order hsome =>
    exact Std.ExtTreeMap.mem_keys.mpr ((Std.ExtTreeMap.mem_iff_isSome_getElem?.mpr (by simp [hsome])))

def dependencyReachable (source target : WorkOrderId) (orders : Orders) : Bool :=
  match exhaust (searchDependencies orders target) orders.keys Std.ExtTreeMap.nodup_keys
    searchDependencies_mem_keys source with
  | .ok _ => false
  | .error () => true

def dependencyCycle (orders : Orders) : Option (List WorkOrderId) :=
  findCycle (knownDependencies orders) orders.keys (knownDependencies_closed orders)

def candidateGroups (workOrders : List WorkOrder) :
    BTreeMap CandidateGroupId (List WorkOrder) :=
  workOrders.foldl (fun groups order =>
    match order.candidateGroup with
    | none => groups
    | some group => groups.insert group (groups[group]?.getD [] ++ [order])) ∅

/-- The checks of one candidate against the first of its group and the leases seen before. -/
def candidateViolations (orders : Orders) (group : CandidateGroupId) (first : WorkOrder)
    (peerIds : List WorkOrderId) :
    BTreeSet WorkspaceLeaseId → List WorkOrder → List ActorGraphViolation
  | _, [] => []
  | leases, candidate :: rest =>
    collect [
      (peerIds.filter (· ≠ candidate.id)).flatMap fun peerId =>
        report (dependencyReachable candidate.id peerId orders)
          (.candidateDependency group candidate.id peerId),
      report (candidate.workspace.source ≠ first.workspace.source)
        (.candidateSnapshotMismatch group),
      report (candidate.objective ≠ first.objective ∨
          candidate.acceptanceCriteria ≠ first.acceptanceCriteria ∨
          candidate.budget ≠ first.budget ∨
          candidate.contextManifestSha256 ≠ first.contextManifestSha256 ∨
          candidate.permissions ≠ first.permissions ∨
          candidate.workspace.access ≠ first.workspace.access ∨
          candidate.dependencies ≠ first.dependencies ∨ candidate.reviews ≠ first.reviews)
        (.candidateContractMismatch group),
      report (leases.contains candidate.workspace.leaseId)
        (.candidateSharedWorkspaceLease group candidate.workspace.leaseId),
      candidateViolations orders group first peerIds
        (leases.insert candidate.workspace.leaseId) rest]

def candidateGroupViolations (orders : Orders) (group : CandidateGroupId)
    (candidates : List WorkOrder) : List ActorGraphViolation :=
  match candidates with
  | [] => []
  | first :: _ =>
    report (candidates.length < 2) (.candidateGroupTooSmall group candidates.length) ++
    candidateViolations orders group first (toSet (candidates.map (·.id))).toList ∅ candidates

def budgetViolations (acc : Admission) (limits : ActorGraphLimits) : List ActorGraphViolation :=
  collect [
    report acc.overflow .budgetOverflow,
    report (acc.totalAttempts > limits.maxTotalAttempts)
      (.attemptBudgetExceeded limits.maxTotalAttempts acc.totalAttempts),
    report (acc.totalOutputTokens > limits.maxTotalOutputTokens)
      (.outputTokenBudgetExceeded limits.maxTotalOutputTokens acc.totalOutputTokens),
    report (acc.totalToolCalls > limits.maxTotalToolCalls)
      (.toolCallBudgetExceeded limits.maxTotalToolCalls acc.totalToolCalls),
    report (acc.totalWallTimeMs > limits.maxTotalWallTimeMs)
      (.wallTimeBudgetExceeded limits.maxTotalWallTimeMs acc.totalWallTimeMs)]

def graphViolations (graph : ActorGraph) (policy : ActorGraphPolicy) :
    List ActorGraphViolation :=
  let acc := admitOrders policy graph.workOrders
  collect [
    policyViolations graph policy,
    acc.violations,
    acc.leaseUses.toList.flatMap (fun (leaseId, uses, hasWriter) =>
      report (uses > 1 ∧ hasWriter) (.sharedWriterLease leaseId)),
    report (acc.totalGraphTextBytes > hardMaxGraphTextBytes)
      (.graphTextLimitExceeded hardMaxGraphTextBytes acc.totalGraphTextBytes),
    graph.workOrders.flatMap (relationViolations acc.orders (reviewedTargets graph.workOrders)),
    (candidateGroups graph.workOrders).toList.flatMap (fun (group, candidates) =>
      candidateGroupViolations acc.orders group candidates),
    ((dependencyCycle acc.orders).map .dependencyCycle).toList,
    budgetViolations acc policy.limits]

/-- A graph exists as validated only with its work orders sorted, no violation left and the
digest of exactly this graph under exactly this policy. -/
structure ValidatedActorGraph (digest : CanonicalDigest) where
  graph : ActorGraph
  policy : ActorGraphPolicy
  digestSha256 : String
  sorted : graph.workOrders.Pairwise fun a b => a.id.uuid ≤ b.id.uuid
  accepted : graphViolations graph policy = []
  digest_eq : digestSha256 = digest.graph graph policy

/-- `sort_by_key(|order| order.id)`, which is stable. -/
def sortWorkOrders (workOrders : List WorkOrder) : List WorkOrder :=
  workOrders.insertionSort fun a b => a.id.uuid ≤ b.id.uuid

theorem sortWorkOrders_sorted (workOrders : List WorkOrder) :
    (sortWorkOrders workOrders).Pairwise fun a b => a.id.uuid ≤ b.id.uuid := by
  have : IsTrans WorkOrder fun a b => a.id.uuid ≤ b.id.uuid := ⟨fun _ _ _ => le_trans⟩
  have : Std.Total fun a b : WorkOrder => a.id.uuid ≤ b.id.uuid := ⟨fun _ _ => le_total _ _⟩
  exact List.pairwise_insertionSort _ _

def validateAgainst (digest : CanonicalDigest) (graph : ActorGraph) (policy : ActorGraphPolicy) :
    Except (List ActorGraphViolation) (ValidatedActorGraph digest) :=
  if structuralLimitViolations graph policy ≠ [] then
    .error (structuralLimitViolations graph policy)
  else
    let sorted := { graph with workOrders := sortWorkOrders graph.workOrders }
    if haccepted : graphViolations sorted policy = [] then
      .ok ⟨sorted, policy, digest.graph sorted policy, sortWorkOrders_sorted _, haccepted, rfl⟩
    else .error (graphViolations sorted policy)

section Sample

def samplePolicy (leaseIds : List WorkspaceLeaseId) (maxParallel : UInt32) : ActorGraphPolicy where
  policyVersion := "policy"
  planInputSnapshotSha256 := sampleSha256
  rootPermissions := ⟨∅⟩
  limits := ⟨4, maxParallel, 4, 400, 40, 8000⟩
  requireReportedTokenUsage := false
  workspaceLeases := toMap (leaseIds.map fun leaseId =>
    (leaseId, ⟨.brokeredRepositorySnapshotV1 sampleSha256, .readOnly⟩))
  modelProfiles := toMap [(sampleProfile, sampleLineage)]

def firstLease : WorkspaceLeaseId := ⟨"first", by decide⟩

def secondLease : WorkspaceLeaseId := ⟨"second", by decide⟩

/-- Two independent orders that may be in flight together; only the second may be retried. -/
def pairGraph : ValidatedActorGraph constantDigest where
  graph := ⟨actorGraphSchemaVersion, sampleSha256,
    [sampleOrder ⟨1⟩ firstLease 1 [], sampleOrder ⟨2⟩ secondLease 2 []]⟩
  policy := samplePolicy [firstLease, secondLease] 2
  digestSha256 := "graph"
  sorted := by decide
  accepted := by decide +kernel
  digest_eq := rfl

def sampleDraw (n : ℕ) : Uuid := Fin.ofNat _ (n + 10)

end Sample

end BirdCode.Scheduler
