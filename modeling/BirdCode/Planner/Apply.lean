import BirdCode.Planner.Turn

/-! The application of a turn to its base plan. Violations are collected while the next plan is built,
and the plan is thrown away if there is any. -/
namespace BirdCode.Planner

open Std

section Allocate

variable (encoding : PlannerEncoding)

/-- An overflowing revision was rejected before. -/
def derivedPatchUuid (domain : String) (base : PlanSnapshot) (localId : UInt32) : Uuid :=
  uuidV8 (encoding.patchBytes domain base.planId ((checkedAdd base.revision 1).getD base.revision)
    localId)

/-- Ids for the local ids of a patch; a repeated local id keeps its last allocation. -/
def allocateIds {kind : LocalIdKind} {V : Type} (mint : UInt32 → V)
    (invalid duplicate : LocalId kind → PlannerViolation) (localIds : List (LocalId kind)) :
    BTreeMap (LocalId kind) V × List PlannerViolation :=
  localIds.foldl (fun (ids, violations) localId =>
    if localId.value = 0 then (ids, violations ++ [invalid localId])
    else (ids.insert localId (mint localId.value),
      violations ++ report (ids.contains localId) (duplicate localId))) (∅, [])

def allocateWorkOrderIds (base : PlanSnapshot) (patch : PlanPatch) :
    BTreeMap LocalWorkOrderId PlanWorkOrderId × List PlannerViolation :=
  allocateIds (fun localId => ⟨derivedPatchUuid encoding "birdcode.plan.work-order.v1" base localId⟩)
    .invalidLocalWorkOrderId .duplicateLocalWorkOrderId (patch.addWorkOrders.map (·.localId))

def allocateVerificationTargetIds (base : PlanSnapshot) (patch : PlanPatch) :
    BTreeMap LocalVerificationTargetId VerificationTargetId × List PlannerViolation :=
  allocateIds
    (fun localId => ⟨derivedPatchUuid encoding "birdcode.plan.verification-target.v1" base localId⟩)
    .invalidLocalVerificationTargetId .duplicateLocalVerificationTargetId
    (patch.addVerificationTargets.map (·.localId))

end Allocate

section Resolve

/-- Existing ids that are known and local ids that are allocated, and a violation for each other. -/
def resolveIds {A L : Type} [Ord A] [TransOrd A] [Ord L] [TransOrd L] (existing : BTreeSet A)
    (new : BTreeSet L) (known : A → Bool) (allocated : BTreeMap L A)
    (unknown : A → PlannerViolation) (unknownNew : L → PlannerViolation) :
    BTreeSet A × List PlannerViolation :=
  (toSet (existing.toList.filter known ++ new.toList.filterMap (allocated[·]?)),
    (existing.toList.flatMap fun id => report (known id = false) (unknown id)) ++
      new.toList.flatMap fun localId =>
        report (allocated.contains localId = false) (unknownNew localId))

def resolveDependencies (existing : BTreeSet PlanWorkOrderId) (new : BTreeSet LocalWorkOrderId)
    (allocated : BTreeMap LocalWorkOrderId PlanWorkOrderId) (plan : PlanSnapshot) :
    BTreeSet PlanWorkOrderId × List PlannerViolation :=
  resolveIds existing new plan.workOrders.contains allocated .unknownWorkOrder .unknownNewWorkOrder

def resolveVerificationTargets (existing : BTreeSet VerificationTargetId)
    (new : BTreeSet LocalVerificationTargetId)
    (allocated : BTreeMap LocalVerificationTargetId VerificationTargetId) (plan : PlanSnapshot) :
    BTreeSet VerificationTargetId × List PlannerViolation :=
  resolveIds existing new plan.verificationTargets.contains allocated .unknownVerificationTarget
    .unknownNewVerificationTarget

def resolveWorkSelection (selection : WorkSelection)
    (localIds : BTreeMap LocalWorkOrderId PlanWorkOrderId) (plan : PlanSnapshot) :
    List PlanWorkOrderId × List PlannerViolation :=
  let resolved := resolveDependencies selection.existing selection.new localIds plan
  (resolved.1.toList, resolved.2)

def validatePendingTarget (id : PlanWorkOrderId) (plan : PlanSnapshot) : List PlannerViolation :=
  report (plan.workOrders[id]?.all (·.state ≠ .pending)) (.directiveTargetNotPending id)

end Resolve

/-- The next plan as far as it is built. -/
structure Applied where
  plan : PlanSnapshot
  targetsSeen : BTreeSet PlanWorkOrderId
  violations : List PlannerViolation

section Mutators

variable (encoding : PlannerEncoding) (obligations : ProtectedObligationCatalog)
  (context : PlannerContextCatalog) (policy : PlannerPolicy)
  (workIds : BTreeMap LocalWorkOrderId PlanWorkOrderId)
  (verificationIds : BTreeMap LocalVerificationTargetId VerificationTargetId)

def applyVerificationTarget (applied : Applied) (target : NewVerificationTarget) : Applied where
  plan :=
    match verificationIds[target.localId]? with
    | none => applied.plan
    | some id =>
      { applied.plan with
        verificationTargets := applied.plan.verificationTargets.insert id
          ⟨id, target.statement, target.obligations, target.basis⟩ }
  targetsSeen := applied.targetsSeen
  violations := collect [
    applied.violations,
    validateText "verification_target.statement" target.statement,
    validateBasis "verification_target.basis" target.basis context,
    validateObligationRefs "verification_target.obligations" target.obligations obligations]

def validateWorkOrderFields (id : Option PlanWorkOrderId) (content : WorkOrderContent)
    (dependencies : BTreeSet PlanWorkOrderId) (verificationTargets : BTreeSet VerificationTargetId) :
    List PlannerViolation :=
  collect [
    validateText "work_order.objective" content.objective,
    validateBasis "work_order.basis" content.basis context,
    validateObligationRefs "work_order.obligations" content.obligations obligations,
    report verificationTargets.isEmpty (.emptyVerificationTargets id),
    report (dependencies.size > hardMaxDependencies ∨
        dependencies.size > policy.limits.maxDependenciesPerWorkOrder.toNat)
      (.dependencyLimitExceeded policy.limits.maxDependenciesPerWorkOrder dependencies.size),
    report (content.requiredAccess.rank > policy.maximumAccess.rank)
      (.accessExpansion content.requiredAccess)]

/-- The dependencies and targets that a work order resolves to in a plan, with the violations of the
work order. -/
def resolveContent (plan : PlanSnapshot) (id : Option PlanWorkOrderId) (content : WorkOrderContent) :
    BTreeSet PlanWorkOrderId × BTreeSet VerificationTargetId × List PlannerViolation :=
  let dependencies := resolveDependencies content.existingDependencies content.newDependencies
    workIds plan
  let targets := resolveVerificationTargets content.existingVerificationTargets
    content.newVerificationTargets verificationIds plan
  (dependencies.1, targets.1, collect [dependencies.2, targets.2,
    validateWorkOrderFields obligations context policy id content dependencies.1 targets.1])

/-- A pending work order with this content. -/
def contentWorkOrder (id : PlanWorkOrderId) (revision : UInt32) (content : WorkOrderContent)
    (dependencies : BTreeSet PlanWorkOrderId) (verificationTargets : BTreeSet VerificationTargetId) :
    PlannedWorkOrder where
  id := id
  revision := revision
  objective := content.objective
  obligations := content.obligations
  dependencies := dependencies
  verificationTargets := verificationTargets
  requiredAccess := content.requiredAccess
  state := .pending
  basis := content.basis

def applyWorkOrderAddition (applied : Applied) (work : NewWorkOrder) : Applied :=
  match workIds[work.localId]? with
  | none => applied
  | some id =>
    let resolved := resolveContent obligations context policy workIds verificationIds applied.plan
      none work.toWorkOrderContent
    { applied with
      plan := { applied.plan with
        workOrders := applied.plan.workOrders.insert id
          (contentWorkOrder id 1 work.toWorkOrderContent resolved.1 resolved.2.1) }
      violations := applied.violations ++ resolved.2.2 }

/-- The optimistic checks on the work order that a mutation names. -/
def mutationViolations (target : ProtectedWorkOrderRef) (current : PlannedWorkOrder) :
    List PlannerViolation :=
  collect [
    report (encoding.workOrder current ≠ target.revisionSha256) (.staleWorkOrder target.id),
    report (current.state ≠ .pending ∧ current.state ≠ .failed)
      (.immutableWorkOrder target.id current.state)]

def revisionViolations (id : PlanWorkOrderId) (current : PlannedWorkOrder) : List PlannerViolation :=
  report (checkedSucc32 current.revision).isNone (.workOrderRevisionOverflow id)

def nextRevision (current : PlannedWorkOrder) : UInt32 :=
  (checkedSucc32 current.revision).getD current.revision

def applyReplacement (applied : Applied) (replacement : ReplaceWorkOrder) : Applied :=
  let id := replacement.target.id
  let conflict := report (applied.targetsSeen.contains id) (.workOrderOperationConflict id)
  match applied.plan.workOrders[id]? with
  | none =>
    { applied with
      targetsSeen := applied.targetsSeen.insert id
      violations := collect [applied.violations, conflict, [.unknownWorkOrder id]] }
  | some current =>
    let resolved := resolveContent obligations context policy workIds verificationIds applied.plan
      (some id) replacement.toWorkOrderContent
    { plan := { applied.plan with
        workOrders := applied.plan.workOrders.insert id
          (contentWorkOrder id (nextRevision current) replacement.toWorkOrderContent resolved.1
            resolved.2.1) }
      targetsSeen := applied.targetsSeen.insert id
      violations := collect [applied.violations, conflict,
        mutationViolations encoding replacement.target current, resolved.2.2,
        revisionViolations id current] }

def applyCancellation (applied : Applied) (cancellation : CancelWorkOrder) : Applied :=
  let id := cancellation.target.id
  let checked := report (applied.targetsSeen.contains id) (.workOrderOperationConflict id) ++
    validateBasis "cancel_work_order.basis" cancellation.basis context
  match applied.plan.workOrders[id]? with
  | none =>
    { applied with
      targetsSeen := applied.targetsSeen.insert id
      violations := collect [applied.violations, checked, [.unknownWorkOrder id]] }
  | some current =>
    { plan := { applied.plan with
        workOrders := applied.plan.workOrders.insert id { current with
          state := .cancelled
          revision := nextRevision current
          basis := cancellation.basis } }
      targetsSeen := applied.targetsSeen.insert id
      violations := collect [applied.violations, checked,
        mutationViolations encoding cancellation.target current, revisionViolations id current] }

/-- The mutators one after the other. -/
def applyOperations (patch : PlanPatch) (applied : Applied) : Applied :=
  let targets := patch.addVerificationTargets.foldl
    (applyVerificationTarget obligations context verificationIds) applied
  let added := patch.addWorkOrders.foldl
    (applyWorkOrderAddition obligations context policy workIds verificationIds) targets
  let replaced := patch.replaceWorkOrders.foldl
    (applyReplacement encoding obligations context policy workIds verificationIds) added
  patch.cancelWorkOrders.foldl (applyCancellation encoding context) replaced

def applyStrategySummary (patch : PlanPatch) (applied : Applied) : Applied :=
  match patch.strategySummary with
  | none => applied
  | some summary =>
    { applied with
      plan := { applied.plan with strategySummary := summary }
      violations := applied.violations ++ validateText "patch.strategy_summary" summary }

end Mutators

section Directive

variable (directive : PlannerDirective) (patch : PlanPatch) (plan : PlanSnapshot)
  (localWorkIds : BTreeMap LocalWorkOrderId PlanWorkOrderId)
  (obligations : ProtectedObligationCatalog) (context : PlannerContextCatalog)
  (policy : PlannerPolicy)

/-- The parts of a directive that are filled in. -/
def directiveParts : List PlannerDirectiveKind :=
  collect [
    report (directive.execute.isEmpty = false) .execute,
    report (directive.delegations ≠ []) .delegate,
    report (directive.clarifications ≠ []) .clarify,
    report (directive.escalations ≠ []) .escalate,
    report (directive.finishClaims ≠ []) .finish]

/-- A directive may fill in the part of its kind only. What an `execute` directive must have in its
own part is checked by its selection. -/
def shapeViolations : List PlannerViolation :=
  report ((directiveParts directive).any (· ≠ directive.kind) ∨
      directive.kind ≠ .execute ∧ directive.kind ∉ directiveParts directive)
    (.directiveShapeMismatch directive.kind)

def resolveExecute : Option ResolvedPlannerDirective × List PlannerViolation :=
  let selected := resolveWorkSelection directive.execute localWorkIds plan
  match selected.1 with
  | [id] => (some (.execute id), selected.2 ++ validatePendingTarget id plan)
  | _ => (none, selected.2 ++ [.directiveShapeMismatch directive.kind])

/-- One selected work order; it may be delegated once. -/
def delegateWorkOrder (state : BTreeSet PlanWorkOrderId × List PlannerViolation)
    (id : PlanWorkOrderId) : BTreeSet PlanWorkOrderId × List PlannerViolation :=
  (state.1.insert id, collect [state.2, validatePendingTarget id plan,
    report (state.1.contains id) (.directiveShapeMismatch directive.kind)])

def resolveDelegation (state : BTreeSet PlanWorkOrderId × List PlannerViolation)
    (delegation : DelegationRequest × ℕ) : BTreeSet PlanWorkOrderId × List PlannerViolation :=
  let resolved := resolveWorkSelection delegation.1.workOrders localWorkIds plan
  resolved.1.foldl (delegateWorkOrder directive plan)
    (state.1, collect [state.2,
      validateBasis s!"directive.delegations[{delegation.2}].basis" delegation.1.basis context,
      resolved.2, report (resolved.1 = []) (.directiveShapeMismatch directive.kind)])

def resolveDelegate : Option ResolvedPlannerDirective × List PlannerViolation :=
  let selected := directive.delegations.zipIdx.foldl
    (resolveDelegation directive plan localWorkIds context)
    (∅, report (directive.delegations.length > hardMaxDelegations ∨
        directive.delegations.length > policy.limits.maxDelegations.toNat)
      (.delegationLimitExceeded policy.limits.maxDelegations directive.delegations.length))
  (some (.delegate selected.1.toList), selected.2)

def resolveClarify : Option ResolvedPlannerDirective × List PlannerViolation :=
  (some (.clarify directive.clarifications), collect [
    report (directive.clarifications.length > hardMaxQuestions ∨
        directive.clarifications.length > policy.limits.maxQuestions.toNat)
      (.clarificationLimitExceeded policy.limits.maxQuestions directive.clarifications.length),
    directive.clarifications.zipIdx.flatMap fun (clarification, index) => collect [
      validateText s!"directive.clarifications[{index}].question" clarification.question,
      validateBasis s!"directive.clarifications[{index}].basis" clarification.basis context,
      validateObligationRefs "directive.clarification.blocked_obligations"
        clarification.blockedObligations obligations]])

def resolveEscalate : Option ResolvedPlannerDirective × List PlannerViolation :=
  (some (.escalate directive.escalations),
    directive.escalations.zipIdx.flatMap fun (escalation, index) => collect [
      validateText s!"directive.escalations[{index}].request" escalation.request,
      validateBasis s!"directive.escalations[{index}].basis" escalation.basis context,
      validateObligationRefs "directive.escalation.blocked_obligations"
        escalation.blockedObligations obligations])

/-- One finish claim; an obligation may be claimed once. -/
def resolveFinishClaim (state : BTreeSet ObligationId × List PlannerViolation)
    (claim : FinishClaim) : BTreeSet ObligationId × List PlannerViolation :=
  (state.1.insert claim.obligation.id, collect [state.2,
    validateSingleObligationRef claim.obligation obligations,
    validateEvidenceSet "directive.finish_claims.evidence_ids" claim.evidenceIds context,
    report (state.1.contains claim.obligation.id) (.duplicateFinishClaim claim.obligation.id)])

def resolveFinish : Option ResolvedPlannerDirective × List PlannerViolation :=
  let claimed := directive.finishClaims.foldl (resolveFinishClaim obligations context)
    (∅, report (patch.isEmpty = false) .finishRequiresEmptyPatch)
  (some (.finishPendingGate directive.finishClaims), claimed.2 ++
    ((mapValues obligations.obligations).filter (·.required)).flatMap fun obligation =>
      report (claimed.1.contains obligation.id = false)
        (.finishMissingRequiredObligation obligation.id))

def resolveDirective : Option ResolvedPlannerDirective × List PlannerViolation :=
  let resolved :=
    match directive.kind with
    | .execute => resolveExecute directive plan localWorkIds
    | .delegate => resolveDelegate directive plan localWorkIds context policy
    | .clarify => resolveClarify directive obligations context policy
    | .escalate => resolveEscalate directive obligations context
    | .finish => resolveFinish directive patch obligations context
  (resolved.1, shapeViolations directive ++ resolved.2)

end Directive

section Turn

variable (encoding : PlannerEncoding) (proposal : PlannerTurnProposal) (base : PlanSnapshot)
  (obligations : ProtectedObligationCatalog) (context : PlannerContextCatalog)
  (policy : PlannerPolicy)

/-- A first turn may pause without inventing a work order. -/
def allowInitialEmptyPause : Bool :=
  base.revision = 0 && base.workOrders.isEmpty && proposal.patch.isEmpty &&
    (proposal.directive.kind = .clarify || proposal.directive.kind = .escalate)

/-- The patch applied to the base, with the violations of the allocation and the mutators. -/
def applyTurn : Applied :=
  let work := allocateWorkOrderIds encoding base proposal.patch
  let verification := allocateVerificationTargetIds encoding base proposal.patch
  applyStrategySummary proposal.patch (applyOperations encoding obligations context policy work.1
    verification.1 proposal.patch ⟨base, ∅, work.2 ++ verification.2⟩)

def turnDirective : Option ResolvedPlannerDirective × List PlannerViolation :=
  resolveDirective proposal.directive proposal.patch
    (applyTurn encoding proposal base obligations context policy).plan
    (allocateWorkOrderIds encoding base proposal.patch).1 obligations context policy

/-- Every violation of a turn whose structure and bindings are valid. -/
def turnViolations : List PlannerViolation :=
  collect [
    (applyTurn encoding proposal base obligations context policy).violations,
    planInvariantViolations (applyTurn encoding proposal base obligations context policy).plan
      obligations policy (allowInitialEmptyPause proposal base),
    (turnDirective encoding proposal base obligations context policy).2]

/-- The revision and the parent of a plan that a patch has changed. -/
def advancePlan (next : PlanSnapshot) : Except (List PlannerViolation) PlanSnapshot :=
  if proposal.patch.isEmpty then .ok next
  else
    match checkedAdd base.revision 1 with
    | none => .error [.planRevisionOverflow]
    | some revision =>
      .ok { next with revision := revision, parentPlanSha256 := some (encoding.plan base) }

def validateAndApply : Except (List PlannerViolation) ValidatedPlannerTurn :=
  if structuralViolations encoding proposal base policy ≠ [] then
    .error (structuralViolations encoding proposal base policy)
  else if bindingViolations encoding base obligations context policy proposal ≠ [] then
    .error (bindingViolations encoding base obligations context policy proposal)
  else if turnViolations encoding proposal base obligations context policy ≠ [] then
    .error (turnViolations encoding proposal base obligations context policy)
  else
    match (turnDirective encoding proposal base obligations context policy).1 with
    | none => .error [.directiveShapeMismatch proposal.directive.kind]
    | some directive =>
      (advancePlan encoding proposal base
        (applyTurn encoding proposal base obligations context policy).plan).map fun plan =>
          ⟨plan, encoding.plan plan, directive⟩

end Turn

end BirdCode.Planner
