import BirdCode.Basic

/-! The plan of a root actor, the catalogs and the policy it is checked against, and the turn that a
model proposes for it. -/
namespace BirdCode.Planner

open Std

abbrev PlanId := UuidId .plan
abbrev ObligationId := UuidId .obligation
abbrev PlanWorkOrderId := UuidId .planWorkOrder
abbrev VerificationTargetId := UuidId .verificationTarget
abbrev PlannerEvidenceId := OpaqueId .plannerEvidence

def planSchemaVersion : UInt32 := 1
def hardMaxWorkOrders : ℕ := 256
def hardMaxVerificationTargets : ℕ := 512
def hardMaxPatchOperations : ℕ := 512
def hardMaxDependencies : ℕ := 64
def hardMaxDelegations : ℕ := 64
def hardMaxQuestions : ℕ := 16
def hardMaxEscalations : ℕ := 16
def hardMaxFinishClaims : ℕ := 4096
def hardMaxObligations : ℕ := 4096
def hardMaxContextEvidenceIds : ℕ := 4096
def hardMaxTextBytes : ℕ := 2 * 1024 * 1024
def hardMaxObligationCatalogEncodedBytes : ℕ := 4 * 1024 * 1024
def hardMaxContextManifestEncodedBytes : ℕ := 2 * 1024 * 1024
def hardMaxDirectiveEncodedBytes : ℕ := 4 * 1024 * 1024
def maxFieldBytes : ℕ := 64 * 1024
def maxEvidencePerBasis : ℕ := 64

/-- A digest exists only in canonical form. -/
structure PlannerDigest where
  value : String
  canonical : validSha256 value
  deriving DecidableEq

/-- The ids that a model gives to what it proposes. -/
inductive LocalIdKind
  | workOrder | verificationTarget
  deriving DecidableEq

structure LocalId (kind : LocalIdKind) where
  value : UInt32
  deriving DecidableEq

instance (kind : LocalIdKind) : Ord (LocalId kind) := ⟨fun a b => compare a.value b.value⟩

instance (kind : LocalIdKind) : TransOrd (LocalId kind) where
  eq_swap := (inferInstance : OrientedOrd UInt32).eq_swap
  isLE_trans := (inferInstance : TransOrd UInt32).isLE_trans

instance (kind : LocalIdKind) : LawfulEqOrd (LocalId kind) where
  eq_of_compare {a b} h := by
    have : a.value = b.value := (inferInstance : LawfulEqOrd UInt32).eq_of_compare h
    cases a
    cases b
    simpa using this

abbrev LocalWorkOrderId := LocalId .workOrder
abbrev LocalVerificationTargetId := LocalId .verificationTarget

structure ProtectedObligation where
  id : ObligationId
  contentSha256 : PlannerDigest
  statement : String
  required : Bool
  deriving DecidableEq

structure ProtectedObligationCatalog where
  snapshotSha256 : PlannerDigest
  acceptancePolicySha256 : PlannerDigest
  obligations : BTreeMap ObligationId ProtectedObligation
  deriving DecidableEq

structure ProtectedObligationRef where
  id : ObligationId
  contentSha256 : PlannerDigest
  deriving DecidableEq

instance : Ord ProtectedObligationRef :=
  ⟨compareLex (compareOn (·.id)) (compareOn (·.contentSha256.value))⟩

instance : TransOrd ProtectedObligationRef :=
  inferInstanceAs (TransCmp (compareLex (compareOn ProtectedObligationRef.id)
    (compareOn fun ref => ref.contentSha256.value)))

instance : LawfulEqOrd ProtectedObligationRef where
  eq_of_compare {a b} h := by
    obtain ⟨hid, hdigest⟩ := compareLex_eq_eq.mp h
    have hid : a.id = b.id := (inferInstance : LawfulEqOrd ObligationId).eq_of_compare hid
    have hdigest : a.contentSha256.value = b.contentSha256.value :=
      (inferInstance : LawfulEqOrd String).eq_of_compare hdigest
    obtain ⟨_, ⟨_, _⟩⟩ := a
    obtain ⟨_, ⟨_, _⟩⟩ := b
    simp_all

structure PlannerEvidenceBinding where
  id : PlannerEvidenceId
  contentSha256 : PlannerDigest
  deriving DecidableEq

/-- Every constructor sorts the bindings and rejects a repeated id. -/
structure PlannerContextCatalog where
  manifestSha256 : PlannerDigest
  evidenceBindings : List PlannerEvidenceBinding
  sorted : evidenceBindings.Pairwise fun left right => compare left.id right.id = .lt
  deriving DecidableEq

inductive PlannerAccess
  | none | readOnly | workspaceWrite
  deriving DecidableEq

/-- The position in the derived order. -/
def PlannerAccess.rank : PlannerAccess → ℕ
  | .none => 0
  | .readOnly => 1
  | .workspaceWrite => 2

structure PlannerLimits where
  maxWorkOrders : UInt32
  maxVerificationTargets : UInt32
  maxPatchOperations : UInt32
  maxDependenciesPerWorkOrder : UInt32
  maxDelegations : UInt32
  maxQuestions : UInt32
  maxTextBytes : UInt64
  deriving DecidableEq

structure PlannerPolicy where
  policySha256 : PlannerDigest
  maximumAccess : PlannerAccess
  limits : PlannerLimits
  deriving DecidableEq

structure DecisionBasis where
  evidenceIds : BTreeSet PlannerEvidenceId
  rationale : String
  deriving DecidableEq

structure NewVerificationTarget where
  localId : LocalVerificationTargetId
  statement : String
  obligations : BTreeSet ProtectedObligationRef
  basis : DecisionBasis
  deriving DecidableEq

structure VerificationTarget where
  id : VerificationTargetId
  statement : String
  obligations : BTreeSet ProtectedObligationRef
  basis : DecisionBasis
  deriving DecidableEq

inductive PlannedWorkOrderState
  | pending | running | completed | failed | cancelled
  deriving DecidableEq

structure PlannedWorkOrder where
  id : PlanWorkOrderId
  revision : UInt32
  objective : String
  obligations : BTreeSet ProtectedObligationRef
  dependencies : BTreeSet PlanWorkOrderId
  verificationTargets : BTreeSet VerificationTargetId
  requiredAccess : PlannerAccess
  state : PlannedWorkOrderState
  basis : DecisionBasis
  deriving DecidableEq

/-- What an added and a replaced work order have in common. -/
structure WorkOrderContent where
  objective : String
  obligations : BTreeSet ProtectedObligationRef
  existingDependencies : BTreeSet PlanWorkOrderId
  newDependencies : BTreeSet LocalWorkOrderId
  existingVerificationTargets : BTreeSet VerificationTargetId
  newVerificationTargets : BTreeSet LocalVerificationTargetId
  requiredAccess : PlannerAccess
  basis : DecisionBasis
  deriving DecidableEq

structure NewWorkOrder extends WorkOrderContent where
  localId : LocalWorkOrderId
  deriving DecidableEq

structure ProtectedWorkOrderRef where
  id : PlanWorkOrderId
  revisionSha256 : PlannerDigest
  deriving DecidableEq

structure ReplaceWorkOrder extends WorkOrderContent where
  target : ProtectedWorkOrderRef
  deriving DecidableEq

structure CancelWorkOrder where
  target : ProtectedWorkOrderRef
  basis : DecisionBasis
  deriving DecidableEq

structure PlanPatch where
  strategySummary : Option String
  addVerificationTargets : List NewVerificationTarget
  addWorkOrders : List NewWorkOrder
  replaceWorkOrders : List ReplaceWorkOrder
  cancelWorkOrders : List CancelWorkOrder
  deriving DecidableEq

def PlanPatch.isEmpty (patch : PlanPatch) : Bool :=
  patch.strategySummary.isNone && patch.addVerificationTargets.isEmpty &&
    patch.addWorkOrders.isEmpty && patch.replaceWorkOrders.isEmpty &&
    patch.cancelWorkOrders.isEmpty

def PlanPatch.operationCount (patch : PlanPatch) : ℕ :=
  [if patch.strategySummary.isSome then 1 else 0, patch.addVerificationTargets.length,
    patch.addWorkOrders.length, patch.replaceWorkOrders.length,
    patch.cancelWorkOrders.length].foldl saturatingAdd 0

structure PlanSnapshot where
  schemaVersion : UInt32
  planId : PlanId
  revision : UInt64
  parentPlanSha256 : Option PlannerDigest
  obligationSnapshotSha256 : PlannerDigest
  acceptancePolicySha256 : PlannerDigest
  strategySummary : String
  verificationTargets : BTreeMap VerificationTargetId VerificationTarget
  workOrders : BTreeMap PlanWorkOrderId PlannedWorkOrder
  deriving DecidableEq

def PlanSnapshot.empty (planId : PlanId) (obligations : ProtectedObligationCatalog) :
    PlanSnapshot where
  schemaVersion := planSchemaVersion
  planId := planId
  revision := 0
  parentPlanSha256 := none
  obligationSnapshotSha256 := obligations.snapshotSha256
  acceptancePolicySha256 := obligations.acceptancePolicySha256
  strategySummary := ""
  verificationTargets := ∅
  workOrders := ∅

structure PlannerTurnBindings where
  planId : PlanId
  baseRevision : UInt64
  basePlanSha256 : PlannerDigest
  obligationSnapshotSha256 : PlannerDigest
  acceptancePolicySha256 : PlannerDigest
  contextManifestSha256 : PlannerDigest
  plannerPolicySha256 : PlannerDigest
  deriving DecidableEq

structure WorkSelection where
  existing : BTreeSet PlanWorkOrderId
  new : BTreeSet LocalWorkOrderId
  deriving DecidableEq

def WorkSelection.isEmpty (selection : WorkSelection) : Bool :=
  selection.existing.isEmpty && selection.new.isEmpty

structure DelegationRequest where
  workOrders : WorkSelection
  basis : DecisionBasis
  deriving DecidableEq

structure ClarificationRequest where
  question : String
  blockedObligations : BTreeSet ProtectedObligationRef
  basis : DecisionBasis
  deriving DecidableEq

inductive EscalationKind
  | authority | budget | modelCapability | humanDecision
  deriving DecidableEq

structure EscalationRequest where
  kind : EscalationKind
  request : String
  blockedObligations : BTreeSet ProtectedObligationRef
  basis : DecisionBasis
  deriving DecidableEq

structure FinishClaim where
  obligation : ProtectedObligationRef
  evidenceIds : BTreeSet PlannerEvidenceId
  deriving DecidableEq

inductive PlannerDirectiveKind
  | execute | delegate | clarify | escalate | finish
  deriving DecidableEq

structure PlannerDirective where
  kind : PlannerDirectiveKind
  execute : WorkSelection
  delegations : List DelegationRequest
  clarifications : List ClarificationRequest
  escalations : List EscalationRequest
  finishClaims : List FinishClaim
  deriving DecidableEq

structure PlannerTurnProposal where
  schemaVersion : UInt32
  bindings : PlannerTurnBindings
  patch : PlanPatch
  directive : PlannerDirective
  deriving DecidableEq

inductive ResolvedPlannerDirective
  | execute (workOrderId : PlanWorkOrderId)
  | delegate (workOrderIds : List PlanWorkOrderId)
  | clarify (requests : List ClarificationRequest)
  | escalate (requests : List EscalationRequest)
  | finishPendingGate (claims : List FinishClaim)
  deriving DecidableEq

structure ValidatedPlannerTurn where
  plan : PlanSnapshot
  planSha256 : PlannerDigest
  directive : ResolvedPlannerDirective
  deriving DecidableEq

inductive PlannerViolation
  | unsupportedSchemaVersion (actual : UInt32)
  | policySnapshotInvalid
  | obligationCatalogInvalid
  | contextCatalogInvalid
  | basePlanInvalid
  | stalePlanBinding
  | obligationSnapshotMismatch
  | acceptancePolicyMismatch
  | contextManifestMismatch
  | plannerPolicyMismatch
  | patchOperationLimitExceeded (maximum : UInt32) (actual : ℕ)
  | workOrderLimitExceeded (maximum : UInt32) (actual : ℕ)
  | verificationTargetLimitExceeded (maximum : UInt32) (actual : ℕ)
  | textLimitExceeded (maximum : UInt64) (actual : ℕ)
  | directiveEncodedLimitExceeded (maximum : ℕ)
  | directiveCollectionLimitExceeded (field : String) (maximum actual : ℕ)
  | emptyText (field : String)
  | fieldTooLarge (field : String) (maximum actual : ℕ)
  | emptyEvidence (field : String)
  | evidenceLimitExceeded (field : String) (maximum actual : ℕ)
  | unknownEvidence (evidenceId : PlannerEvidenceId)
  | invalidLocalWorkOrderId (id : LocalWorkOrderId)
  | invalidLocalVerificationTargetId (id : LocalVerificationTargetId)
  | duplicateLocalWorkOrderId (id : LocalWorkOrderId)
  | duplicateLocalVerificationTargetId (id : LocalVerificationTargetId)
  | unknownObligation (obligationId : ObligationId)
  | obligationDigestMismatch (obligationId : ObligationId)
  | emptyObligationSet (field : String)
  | unknownWorkOrder (workOrderId : PlanWorkOrderId)
  | unknownNewWorkOrder (localId : LocalWorkOrderId)
  | staleWorkOrder (workOrderId : PlanWorkOrderId)
  | workOrderOperationConflict (workOrderId : PlanWorkOrderId)
  | immutableWorkOrder (workOrderId : PlanWorkOrderId) (state : PlannedWorkOrderState)
  | unknownVerificationTarget (verificationTargetId : VerificationTargetId)
  | unknownNewVerificationTarget (localId : LocalVerificationTargetId)
  | emptyVerificationTargets (workOrderId : Option PlanWorkOrderId)
  | accessExpansion (access : PlannerAccess)
  | dependencyLimitExceeded (maximum : UInt32) (actual : ℕ)
  | dependencyOnCancelled (workOrderId dependencyId : PlanWorkOrderId)
  | dependencyCycle
  | requiredObligationUncovered (obligationId : ObligationId)
  | planRevisionOverflow
  | workOrderRevisionOverflow (workOrderId : PlanWorkOrderId)
  | directiveShapeMismatch (directive : PlannerDirectiveKind)
  | directiveTargetNotPending (workOrderId : PlanWorkOrderId)
  | delegationLimitExceeded (maximum : UInt32) (actual : ℕ)
  | clarificationLimitExceeded (maximum : UInt32) (actual : ℕ)
  | escalationLimitExceeded (maximum actual : ℕ)
  | finishClaimLimitExceeded (maximum actual : ℕ)
  | finishRequiresEmptyPatch
  | finishMissingRequiredObligation (obligationId : ObligationId)
  | duplicateFinishClaim (obligationId : ObligationId)
  deriving DecidableEq

/-- What the serializer and the hash function compute. Encoding cannot fail here: every map among
these types has string keys. -/
structure PlannerEncoding where
  text : String → PlannerDigest
  plan : PlanSnapshot → PlannerDigest
  workOrder : PlannedWorkOrder → PlannerDigest
  obligations : PlannerDigest → BTreeMap ObligationId ProtectedObligation → PlannerDigest
  obligationLength : ProtectedObligation → ℕ
  evidenceBindings : List PlannerEvidenceBinding → PlannerDigest
  evidenceBindingsLength : List PlannerEvidenceBinding → ℕ
  policy : PlannerAccess → PlannerLimits → PlannerDigest
  directiveLength : PlannerDirective → ℕ
  /-- The first 16 bytes of the hash of a domain, a plan id, a revision and a local id. -/
  patchBytes : String → PlanId → UInt64 → UInt32 → Uuid

section Valid

variable (encoding : PlannerEncoding)

def obligationCatalogEncodedLen (obligations : List ProtectedObligation) : Option ℕ :=
  obligations.foldlM (fun total obligation =>
    (checkedAddUsize (encoding.obligationLength obligation) 80).bind (checkedAddUsize total)) 256

def ProtectedObligationCatalog.isInternallyValid (catalog : ProtectedObligationCatalog) : Bool :=
  !catalog.obligations.isEmpty && catalog.obligations.size ≤ hardMaxObligations &&
    ((mapValues catalog.obligations).all fun obligation =>
      !isBlank obligation.statement && obligation.statement.utf8ByteSize ≤ maxFieldBytes &&
        obligation.contentSha256 = encoding.text obligation.statement) &&
    ((obligationCatalogEncodedLen encoding (mapValues catalog.obligations)).any
      (· ≤ hardMaxObligationCatalogEncodedBytes)) &&
    encoding.obligations catalog.acceptancePolicySha256 catalog.obligations =
      catalog.snapshotSha256

/-- The order of the bindings is part of the type. -/
def PlannerContextCatalog.isInternallyValid (context : PlannerContextCatalog) : Bool :=
  !context.evidenceBindings.isEmpty &&
    context.evidenceBindings.length ≤ hardMaxContextEvidenceIds &&
    encoding.evidenceBindingsLength context.evidenceBindings ≤
      hardMaxContextManifestEncodedBytes &&
    encoding.evidenceBindings context.evidenceBindings = context.manifestSha256

def validLimits (limits : PlannerLimits) : Bool :=
  limits.maxWorkOrders > 0 && limits.maxWorkOrders.toNat ≤ hardMaxWorkOrders &&
    limits.maxVerificationTargets > 0 &&
    limits.maxVerificationTargets.toNat ≤ hardMaxVerificationTargets &&
    limits.maxPatchOperations > 0 && limits.maxPatchOperations.toNat ≤ hardMaxPatchOperations &&
    limits.maxDependenciesPerWorkOrder > 0 &&
    limits.maxDependenciesPerWorkOrder.toNat ≤ hardMaxDependencies &&
    limits.maxDelegations > 0 && limits.maxDelegations.toNat ≤ hardMaxDelegations &&
    limits.maxQuestions > 0 && limits.maxQuestions.toNat ≤ hardMaxQuestions &&
    limits.maxTextBytes > 0 && limits.maxTextBytes.toNat ≤ hardMaxTextBytes

def PlannerPolicy.isInternallyValid (policy : PlannerPolicy) : Bool :=
  policy.maximumAccess = .readOnly && validLimits policy.limits &&
    encoding.policy policy.maximumAccess policy.limits = policy.policySha256

end Valid

/-- Binary search in sorted bindings. -/
def PlannerContextCatalog.containsEvidence (context : PlannerContextCatalog)
    (evidenceId : PlannerEvidenceId) : Bool :=
  context.evidenceBindings.any (·.id = evidenceId)

/-- A UUID of version 8 over hashed bytes. -/
def uuidV8 (bytes : Uuid) : Uuid :=
  Fin.ofNat _ ((bytes.val &&& (2 ^ 128 - 1 - (0xf0 <<< 72) - (0xc0 <<< 56))) |||
    (0x80 <<< 72) ||| (0x80 <<< 56))

end BirdCode.Planner
