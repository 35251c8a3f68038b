import BirdCode.Lib.DepthFirst
import BirdCode.Planner.Plan

/-! One planner turn: the checks that a proposal passes before it is applied, the three mutators that
build the next plan, and the checks on what they built. -/
namespace BirdCode.Planner

open Lib

section Fields

def validateText (field value : String) : List PlannerViolation :=
  collect [
    report (isBlank value) (.emptyText field),
    report (value.utf8ByteSize > maxFieldBytes)
      (.fieldTooLarge field maxFieldBytes value.utf8ByteSize)]

def validateEvidenceSet (field : String) (evidenceIds : BTreeSet PlannerEvidenceId)
    (context : PlannerContextCatalog) : List PlannerViolation :=
  collect [
    report evidenceIds.isEmpty (.emptyEvidence field),
    report (evidenceIds.size > maxEvidencePerBasis)
      (.evidenceLimitExceeded field maxEvidencePerBasis evidenceIds.size),
    evidenceIds.toList.flatMap fun evidenceId =>
      report (context.containsEvidence evidenceId = false) (.unknownEvidence evidenceId)]

def validateBasis (field : String) (basis : DecisionBasis) (context : PlannerContextCatalog) :
    List PlannerViolation :=
  validateText (field ++ ".rationale") basis.rationale ++
    validateEvidenceSet field basis.evidenceIds context

def obligationRefViolations (catalog : ProtectedObligationCatalog)
    (obligationRef : ProtectedObligationRef) : List PlannerViolation :=
  match catalog.obligations[obligationRef.id]? with
  | none => [.unknownObligation obligationRef.id]
  | some obligation =>
    report (obligation.contentSha256 ≠ obligationRef.contentSha256)
      (.obligationDigestMismatch obligationRef.id)

def validateObligationRefs (field : String) (refs : BTreeSet ProtectedObligationRef)
    (catalog : ProtectedObligationCatalog) : List PlannerViolation :=
  report refs.isEmpty (.emptyObligationSet field) ++
    refs.toList.flatMap (obligationRefViolations catalog)

def validateSingleObligationRef (obligationRef : ProtectedObligationRef)
    (catalog : ProtectedObligationCatalog) : List PlannerViolation :=
  validateObligationRefs "obligation_ref" (toSet [obligationRef]) catalog

end Fields

section Structure

def selectionLen (selection : WorkSelection) : ℕ :=
  saturatingAdd selection.existing.size selection.new.size

/-- One collection of a directive against its hard limit. -/
def collectionViolation (field : String) (actual maximum : ℕ) : List PlannerViolation :=
  report (actual > maximum) (.directiveCollectionLimitExceeded field maximum actual)

def directiveCollectionViolations (directive : PlannerDirective) : List PlannerViolation :=
  collect [
    collectionViolation "directive.execute" (selectionLen directive.execute) hardMaxWorkOrders,
    directive.delegations.zipIdx.flatMap fun (delegation, index) => collect [
      collectionViolation s!"directive.delegations[{index}].work_orders"
        (selectionLen delegation.workOrders) hardMaxWorkOrders,
      collectionViolation s!"directive.delegations[{index}].basis.evidence_ids"
        delegation.basis.evidenceIds.size maxEvidencePerBasis],
    directive.clarifications.zipIdx.flatMap fun (clarification, index) => collect [
      collectionViolation s!"directive.clarifications[{index}].blocked_obligations"
        clarification.blockedObligations.size hardMaxObligations,
      collectionViolation s!"directive.clarifications[{index}].basis.evidence_ids"
        clarification.basis.evidenceIds.size maxEvidencePerBasis],
    directive.escalations.zipIdx.flatMap fun (escalation, index) => collect [
      collectionViolation s!"directive.escalations[{index}].blocked_obligations"
        escalation.blockedObligations.size hardMaxObligations,
      collectionViolation s!"directive.escalations[{index}].basis.evidence_ids"
        escalation.basis.evidenceIds.size maxEvidencePerBasis],
    directive.finishClaims.zipIdx.flatMap fun (claim, index) =>
      collectionViolation s!"directive.finish_claims[{index}].evidence_ids"
        claim.evidenceIds.size maxEvidencePerBasis]

def proposalTextBytes (proposal : PlannerTurnProposal) : ℕ :=
  let bytes := String.utf8ByteSize
  [[(proposal.patch.strategySummary.map bytes).getD 0],
    proposal.patch.addVerificationTargets.flatMap fun target =>
      [bytes target.statement, bytes target.basis.rationale],
    proposal.patch.addWorkOrders.flatMap fun work => [bytes work.objective, bytes work.basis.rationale],
    proposal.patch.replaceWorkOrders.flatMap fun work =>
      [bytes work.objective, bytes work.basis.rationale],
    proposal.patch.cancelWorkOrders.map fun work => bytes work.basis.rationale,
    proposal.directive.delegations.map fun delegation => bytes delegation.basis.rationale,
    proposal.directive.clarifications.flatMap fun clarification =>
      [bytes clarification.question, bytes clarification.basis.rationale],
    proposal.directive.escalations.flatMap fun escalation =>
      [bytes escalation.request, bytes escalation.basis.rationale]].flatten.foldl saturatingAdd 0

variable (encoding : PlannerEncoding) (proposal : PlannerTurnProposal) (base : PlanSnapshot)
  (policy : PlannerPolicy)

def workOrderTotal : ℕ := saturatingAdd base.workOrders.size proposal.patch.addWorkOrders.length

def verificationTargetTotal : ℕ :=
  saturatingAdd base.verificationTargets.size proposal.patch.addVerificationTargets.length

def revisionOverflows : Bool :=
  !proposal.patch.isEmpty && (checkedAdd base.revision 1).isNone

def cardinalityViolations : List PlannerViolation :=
  collect [
    report (revisionOverflows proposal base) .planRevisionOverflow,
    report (proposal.patch.operationCount > hardMaxPatchOperations ∨
        proposal.patch.operationCount > policy.limits.maxPatchOperations.toNat)
      (.patchOperationLimitExceeded policy.limits.maxPatchOperations
        proposal.patch.operationCount),
    report (workOrderTotal proposal base > hardMaxWorkOrders ∨
        workOrderTotal proposal base > policy.limits.maxWorkOrders.toNat)
      (.workOrderLimitExceeded policy.limits.maxWorkOrders (workOrderTotal proposal base)),
    report (verificationTargetTotal proposal base > hardMaxVerificationTargets ∨
        verificationTargetTotal proposal base > policy.limits.maxVerificationTargets.toNat)
      (.verificationTargetLimitExceeded policy.limits.maxVerificationTargets
        (verificationTargetTotal proposal base)),
    report (proposal.directive.delegations.length > hardMaxDelegations)
      (.delegationLimitExceeded policy.limits.maxDelegations
        proposal.directive.delegations.length),
    report (proposal.directive.clarifications.length > hardMaxQuestions)
      (.clarificationLimitExceeded policy.limits.maxQuestions
        proposal.directive.clarifications.length),
    report (proposal.directive.escalations.length > hardMaxEscalations)
      (.escalationLimitExceeded hardMaxEscalations proposal.directive.escalations.length),
    report (proposal.directive.finishClaims.length > hardMaxFinishClaims)
      (.finishClaimLimitExceeded hardMaxFinishClaims proposal.directive.finishClaims.length),
    directiveCollectionViolations proposal.directive]

/-- A policy limit alone does not end the structural checks; a hard limit does. -/
def hardCardinalityExceeded : Bool :=
  revisionOverflows proposal base || proposal.patch.operationCount > hardMaxPatchOperations ||
    workOrderTotal proposal base > hardMaxWorkOrders ||
    verificationTargetTotal proposal base > hardMaxVerificationTargets ||
    proposal.directive.delegations.length > hardMaxDelegations ||
    proposal.directive.clarifications.length > hardMaxQuestions ||
    proposal.directive.escalations.length > hardMaxEscalations ||
    proposal.directive.finishClaims.length > hardMaxFinishClaims ||
    !(directiveCollectionViolations proposal.directive).isEmpty

def structuralViolations : List PlannerViolation :=
  if hardCardinalityExceeded proposal base then cardinalityViolations proposal base policy
  else if encoding.directiveLength proposal.directive > hardMaxDirectiveEncodedBytes then
    cardinalityViolations proposal base policy ++
      [.directiveEncodedLimitExceeded hardMaxDirectiveEncodedBytes]
  else
    cardinalityViolations proposal base policy ++
      report (proposalTextBytes proposal > hardMaxTextBytes ∨
          proposalTextBytes proposal > policy.limits.maxTextBytes.toNat)
        (.textLimitExceeded policy.limits.maxTextBytes (proposalTextBytes proposal))

end Structure

section Invariants

/-- The dependencies of a work order that the plan has. -/
def planDependencies (workOrders : BTreeMap PlanWorkOrderId PlannedWorkOrder)
    (id : PlanWorkOrderId) : List PlanWorkOrderId :=
  match workOrders[id]? with
  | none => []
  | some work => work.dependencies.toList.filter workOrders.contains

theorem planDependencies_closed (workOrders : BTreeMap PlanWorkOrderId PlannedWorkOrder) :
    ∀ id ∈ workOrders.keys, ∀ dependency ∈ planDependencies workOrders id,
      dependency ∈ workOrders.keys := by
  intro id _ dependency hdependency
  unfold planDependencies at hdependency
  split at hdependency
  · cases hdependency
  · exact Std.ExtTreeMap.mem_keys.mpr
      (Std.ExtTreeMap.contains_iff_mem.mp (List.mem_filter.mp hdependency).2)

def dependencyGraphHasCycle (workOrders : BTreeMap PlanWorkOrderId PlannedWorkOrder) : Bool :=
  (findCycle (planDependencies workOrders) workOrders.keys
    (planDependencies_closed workOrders)).isSome

variable (plan : PlanSnapshot) (obligations : ProtectedObligationCatalog) (policy : PlannerPolicy)

def planDependencyViolations (id dependency : PlanWorkOrderId) : List PlannerViolation :=
  match plan.workOrders[dependency]? with
  | none => [.unknownWorkOrder dependency]
  | some dependencyWork =>
    report (dependencyWork.state = .cancelled) (.dependencyOnCancelled id dependency)

def plannedWorkOrderViolations (id : PlanWorkOrderId) (work : PlannedWorkOrder) :
    List PlannerViolation :=
  collect [
    report (id ≠ work.id) .basePlanInvalid,
    report (work.requiredAccess.rank > policy.maximumAccess.rank)
      (.accessExpansion work.requiredAccess),
    work.dependencies.toList.flatMap (planDependencyViolations plan id),
    work.verificationTargets.toList.flatMap fun target =>
      report (plan.verificationTargets.contains target = false) (.unknownVerificationTarget target),
    validateObligationRefs "plan.work_order.obligations" work.obligations obligations]

def plannedTargetViolations (id : VerificationTargetId) (target : VerificationTarget) :
    List PlannerViolation :=
  report (id ≠ target.id) .basePlanInvalid ++
    validateObligationRefs "plan.verification_target.obligations" target.obligations obligations

/-- Some work order that is not cancelled carries the obligation. -/
def covered (obligationId : ObligationId) : Bool :=
  (mapValues plan.workOrders).any fun work =>
    work.state ≠ .cancelled && work.obligations.toList.any (·.id = obligationId)

def coverageViolations : List PlannerViolation :=
  ((mapValues obligations.obligations).filter (·.required)).flatMap fun obligation =>
    report (covered plan obligation.id = false) (.requiredObligationUncovered obligation.id)

def planInvariantViolations (allowEmpty : Bool) : List PlannerViolation :=
  collect [
    report (plan.workOrders.size > policy.limits.maxWorkOrders.toNat)
      (.workOrderLimitExceeded policy.limits.maxWorkOrders plan.workOrders.size),
    report (plan.verificationTargets.size > policy.limits.maxVerificationTargets.toNat)
      (.verificationTargetLimitExceeded policy.limits.maxVerificationTargets
        plan.verificationTargets.size),
    plan.workOrders.toList.flatMap fun (id, work) =>
      plannedWorkOrderViolations plan obligations policy id work,
    plan.verificationTargets.toList.flatMap fun (id, target) =>
      plannedTargetViolations obligations id target,
    report (dependencyGraphHasCycle plan.workOrders) .dependencyCycle,
    if allowEmpty && plan.workOrders.isEmpty then [] else coverageViolations plan obligations]

end Invariants

section Bindings

variable (encoding : PlannerEncoding) (plan : PlanSnapshot)
  (obligations : ProtectedObligationCatalog) (context : PlannerContextCatalog)
  (policy : PlannerPolicy)

/-- The checks of the catalogs, the policy and the plan that the setup of an attempt and the bindings
of a turn begin with. -/
def snapshotViolations : List PlannerViolation :=
  collect [
    report (policy.isInternallyValid encoding = false) .policySnapshotInvalid,
    report (obligations.isInternallyValid encoding = false) .obligationCatalogInvalid,
    report (context.isInternallyValid encoding = false) .contextCatalogInvalid,
    report (plan.schemaVersion ≠ planSchemaVersion ∨
        plan.obligationSnapshotSha256 ≠ obligations.snapshotSha256 ∨
        plan.acceptancePolicySha256 ≠ obligations.acceptancePolicySha256) .basePlanInvalid]

/-- The invariants of a base plan, unless it is a first plan without work orders. -/
def basePlanViolations : List PlannerViolation :=
  if plan.revision > 0 || !plan.workOrders.isEmpty then
    planInvariantViolations plan obligations policy false
  else []

def plannerSetupViolations : List PlannerViolation :=
  snapshotViolations encoding plan obligations context policy ++
    basePlanViolations plan obligations policy

def bindingViolations (proposal : PlannerTurnProposal) : List PlannerViolation :=
  collect [
    report (proposal.schemaVersion ≠ planSchemaVersion)
      (.unsupportedSchemaVersion proposal.schemaVersion),
    snapshotViolations encoding plan obligations context policy,
    report (proposal.bindings.planId ≠ plan.planId ∨
        proposal.bindings.baseRevision ≠ plan.revision ∨
        encoding.plan plan ≠ proposal.bindings.basePlanSha256) .stalePlanBinding,
    report (proposal.bindings.obligationSnapshotSha256 ≠ obligations.snapshotSha256)
      .obligationSnapshotMismatch,
    report (proposal.bindings.acceptancePolicySha256 ≠ obligations.acceptancePolicySha256)
      .acceptancePolicyMismatch,
    report (proposal.bindings.contextManifestSha256 ≠ context.manifestSha256)
      .contextManifestMismatch,
    report (proposal.bindings.plannerPolicySha256 ≠ policy.policySha256) .plannerPolicyMismatch,
    basePlanViolations plan obligations policy]

end Bindings

end BirdCode.Planner
