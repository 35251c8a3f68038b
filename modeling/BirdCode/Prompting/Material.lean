import BirdCode.Prompting.Canonical

/-! What the digests of obligations, policies, evidence and manifests are taken of: records of JSON values
that name every field but the digest itself. -/
namespace BirdCode.Prompting

open Lib Lib.Json

variable {N : Type} (numbers : Numbers N)

section Fields

def texts (values : List String) : JsonTree N := .array (values.map .string)

def natural (value : UInt32) : JsonTree N := .number (numbers.natural value.toNat)

@[simp] theorem same_texts {values values' : List String} :
    Same (texts values : JsonTree N) (texts values') ↔ values = values' :=
  same_array fun _ _ => same_string

@[simp] theorem same_natural {value value' : UInt32} :
    Same (natural numbers value) (natural numbers value') ↔ value = value' := by
  rw [natural, natural, same_number, numbers.natural_injective.eq_iff, UInt32.toNat_inj]

end Fields

section Obligations

structure ProtectedObligationRef where
  obligationId : String
  obligationSha256 : String
  deriving DecidableEq

@[ext] structure ProtectedObligation where
  obligationId : String
  obligationSha256 : String
  statement : String
  mandatory : Bool
  evidenceRequirements : List String
  deriving DecidableEq

def ProtectedObligation.reference (obligation : ProtectedObligation) : ProtectedObligationRef :=
  ⟨obligation.obligationId, obligation.obligationSha256⟩

/-- `ProtectedObligationHashMaterial`. -/
def ProtectedObligation.hashMaterial (obligation : ProtectedObligation) : JsonTree N :=
  .object [
    ("obligation_id", .string obligation.obligationId),
    ("statement", .string obligation.statement),
    ("mandatory", .bool obligation.mandatory),
    ("evidence_requirements", texts obligation.evidenceRequirements)]

/-- The obligation as it is serialized itself. -/
def ProtectedObligation.toValue (obligation : ProtectedObligation) : JsonTree N :=
  .object [
    ("obligation_id", .string obligation.obligationId),
    ("obligation_sha256", .string obligation.obligationSha256),
    ("statement", .string obligation.statement),
    ("mandatory", .bool obligation.mandatory),
    ("evidence_requirements", texts obligation.evidenceRequirements)]

end Obligations

section Policies

inductive VerificationKind
  | repositoryTree | repositoryFile | repositorySearch | existingEvidence
  deriving DecidableEq

def VerificationKind.name : VerificationKind → String
  | .repositoryTree => "repository_tree"
  | .repositoryFile => "repository_file"
  | .repositorySearch => "repository_search"
  | .existingEvidence => "existing_evidence"

@[ext] structure RootPlannerPolicy where
  rootSnapshotSha256 : String
  plannerPolicySha256 : String
  contextManifestSha256 : String
  obligations : List ProtectedObligation
  allowedVerificationKinds : List VerificationKind
  maxWorkOrders : UInt32
  maxDependencyReferences : UInt32
  maxVerificationTargets : UInt32
  deriving DecidableEq

/-- `RootPlannerPolicyHashMaterial`. -/
def RootPlannerPolicy.hashMaterial (policy : RootPlannerPolicy) : JsonTree N :=
  .object [
    ("root_snapshot_sha256", .string policy.rootSnapshotSha256),
    ("context_manifest_sha256", .string policy.contextManifestSha256),
    ("obligations", .array (policy.obligations.map ProtectedObligation.toValue)),
    ("allowed_verification_kinds",
      .array (policy.allowedVerificationKinds.map fun kind => .string kind.name)),
    ("max_work_orders", natural numbers policy.maxWorkOrders),
    ("max_dependency_references", natural numbers policy.maxDependencyReferences),
    ("max_verification_targets", natural numbers policy.maxVerificationTargets)]

@[ext] structure PlanCriticPolicy where
  rootSnapshotSha256 : String
  plannerPolicySha256 : String
  contextManifestSha256 : String
  candidatePlanSha256 : String
  obligations : List ProtectedObligation
  candidateWorkOrderIds : List String
  maxFindings : UInt32
  maxEvidenceReferences : UInt32
  criticPolicySha256 : String
  deriving DecidableEq

/-- `PlanCriticPolicyHashMaterial`. -/
def PlanCriticPolicy.hashMaterial (policy : PlanCriticPolicy) : JsonTree N :=
  .object [
    ("root_snapshot_sha256", .string policy.rootSnapshotSha256),
    ("planner_policy_sha256", .string policy.plannerPolicySha256),
    ("context_manifest_sha256", .string policy.contextManifestSha256),
    ("candidate_plan_sha256", .string policy.candidatePlanSha256),
    ("obligations", .array (policy.obligations.map ProtectedObligation.toValue)),
    ("candidate_work_order_ids", texts policy.candidateWorkOrderIds),
    ("max_findings", natural numbers policy.maxFindings),
    ("max_evidence_references", natural numbers policy.maxEvidenceReferences)]

end Policies

section Evidence

def evidencePacketSchemaVersion : UInt32 := 2

inductive PlannerReplannerV2EvidenceKind
  | acceptedRootPlan | childHandoff | childFailed | childCancelled
  deriving DecidableEq

/-- The tag of an entry, which is also the field of its content. -/
def PlannerReplannerV2EvidenceKind.name : PlannerReplannerV2EvidenceKind → String
  | .acceptedRootPlan => "accepted_root_plan"
  | .childHandoff => "child_handoff"
  | .childFailed => "child_failed"
  | .childCancelled => "child_cancelled"

/-- An entry with its content as it is serialized. -/
structure EvidenceEntryMaterial (N : Type) where
  kind : PlannerReplannerV2EvidenceKind
  evidenceId : String
  content : Value N

/-- `EvidenceEntryHashMaterial`. -/
def EvidenceEntryMaterial.hashMaterial (entry : EvidenceEntryMaterial N) : JsonTree N :=
  .object [
    ("kind", .string entry.kind.name),
    ("schema_version", natural numbers evidencePacketSchemaVersion),
    ("evidence_id", .string entry.evidenceId),
    (entry.kind.name, entry.content.tree)]

end Evidence

section Manifests

/-- A manifest, its version as the text it is displayed as. -/
structure PromptManifest (N : Type) where
  manifestSchemaVersion : UInt32
  id : String
  version : String
  purpose : String
  systemPolicy : String
  inputSchema : Value N
  generationSchema : Value N
  outputSchema : Value N

/-- The manifest as it is serialized, with the only role there is. -/
def PromptManifest.toValue (manifest : PromptManifest N) : JsonTree N :=
  .object [
    ("manifest_schema_version", natural numbers manifest.manifestSchemaVersion),
    ("id", .string manifest.id),
    ("version", .string manifest.version),
    ("role", .string "system"),
    ("purpose", .string manifest.purpose),
    ("system_policy", .string manifest.systemPolicy),
    ("input_schema", manifest.inputSchema.tree),
    ("generation_schema", manifest.generationSchema.tree),
    ("output_schema", manifest.outputSchema.tree)]

end Manifests

section Distinct

@[simp] theorem distinct_texts (values : List String) :
    (texts values : JsonTree N).distinct = true := by
  refine distinct_array.mpr ?_
  rw [List.forall_mem_map]
  exact fun _ _ => rfl

theorem ProtectedObligation.distinct_hashMaterial (obligation : ProtectedObligation) :
    (obligation.hashMaterial : JsonTree N).distinct = true :=
  distinct_object.mpr ⟨by simp, by simp [JsonTree.distinct]⟩

theorem ProtectedObligation.distinct_toValue (obligation : ProtectedObligation) :
    (obligation.toValue : JsonTree N).distinct = true :=
  distinct_object.mpr ⟨by simp, by simp [JsonTree.distinct]⟩

theorem distinct_obligations (obligations : List ProtectedObligation) :
    (JsonTree.array (obligations.map ProtectedObligation.toValue) : JsonTree N).distinct = true := by
  refine distinct_array.mpr ?_
  rw [List.forall_mem_map]
  exact fun obligation _ => obligation.distinct_toValue

theorem distinct_kinds (kinds : List VerificationKind) :
    (JsonTree.array (kinds.map fun kind => .string kind.name) : JsonTree N).distinct = true := by
  refine distinct_array.mpr ?_
  rw [List.forall_mem_map]
  exact fun _ _ => rfl

theorem distinct_natural (value : UInt32) : (natural numbers value).distinct = true := rfl

theorem RootPlannerPolicy.distinct_hashMaterial (policy : RootPlannerPolicy) :
    (policy.hashMaterial numbers).distinct = true := by
  refine distinct_object.mpr ⟨by simp, ?_⟩
  simp only [List.forall_mem_cons, distinct_obligations, distinct_kinds, distinct_natural]
  simp [JsonTree.distinct]

theorem PlanCriticPolicy.distinct_hashMaterial (policy : PlanCriticPolicy) :
    (policy.hashMaterial numbers).distinct = true := by
  refine distinct_object.mpr ⟨by simp, ?_⟩
  simp only [List.forall_mem_cons, distinct_obligations, distinct_natural, distinct_texts]
  simp [JsonTree.distinct]

theorem EvidenceEntryMaterial.distinct_hashMaterial (entry : EvidenceEntryMaterial N) :
    (entry.hashMaterial numbers).distinct = true := by
  refine distinct_object.mpr ⟨?_, ?_⟩
  · cases entry.kind <;> simp [PlannerReplannerV2EvidenceKind.name]
  · simp only [List.forall_mem_cons, distinct_natural, entry.content.distinct]
    simp [JsonTree.distinct]

theorem PromptManifest.distinct_toValue (manifest : PromptManifest N) :
    (manifest.toValue numbers).distinct = true := by
  refine distinct_object.mpr ⟨by simp, ?_⟩
  simp only [List.forall_mem_cons, distinct_natural, manifest.inputSchema.distinct,
    manifest.generationSchema.distinct, manifest.outputSchema.distinct]
  simp [JsonTree.distinct]

end Distinct

section Faithful

theorem VerificationKind.name_injective : Function.Injective VerificationKind.name := by
  intro kind kind' h
  cases kind <;> cases kind' <;> first | rfl | exact absurd h (by decide)

theorem PlannerReplannerV2EvidenceKind.name_injective :
    Function.Injective PlannerReplannerV2EvidenceKind.name := by
  intro kind kind' h
  cases kind <;> cases kind' <;> first | rfl | exact absurd h (by decide)

/-- Obligations that are serialized the same are the same. -/
theorem ProtectedObligation.same_toValue (obligation other : ProtectedObligation) :
    Same (obligation.toValue : JsonTree N) other.toValue ↔ obligation = other := by
  refine Iff.trans (same_record rfl ?_) ?_
  · simp
  simp only [List.forall₂_cons, List.Forall₂.nil, same_string, same_bool, same_texts, and_true]
  rw [ProtectedObligation.ext_iff]

theorem ProtectedObligation.same_hashMaterial (obligation other : ProtectedObligation) :
    Same (obligation.hashMaterial : JsonTree N) other.hashMaterial ↔
      { obligation with obligationSha256 := other.obligationSha256 } = other := by
  refine Iff.trans (same_record rfl ?_) ?_
  · simp
  simp only [List.forall₂_cons, List.Forall₂.nil, same_string, same_bool, same_texts, and_true,
    ProtectedObligation.ext_iff, true_and]

theorem same_obligations {obligations others : List ProtectedObligation} :
    Same (JsonTree.array (obligations.map ProtectedObligation.toValue) : JsonTree N)
      (.array (others.map ProtectedObligation.toValue)) ↔ obligations = others :=
  same_array ProtectedObligation.same_toValue

theorem same_kinds {kinds others : List VerificationKind} :
    Same (JsonTree.array (kinds.map fun kind => .string kind.name) : JsonTree N)
      (.array (others.map fun kind => .string kind.name)) ↔ kinds = others :=
  same_array fun _ _ => same_string.trans VerificationKind.name_injective.eq_iff

theorem RootPlannerPolicy.same_hashMaterial (policy other : RootPlannerPolicy) :
    Same (policy.hashMaterial numbers) (other.hashMaterial numbers) ↔
      { policy with plannerPolicySha256 := other.plannerPolicySha256 } = other := by
  refine Iff.trans (same_record rfl ?_) ?_
  · simp
  simp only [List.forall₂_cons, List.Forall₂.nil, same_string, same_natural, same_obligations,
    same_kinds, and_true, RootPlannerPolicy.ext_iff, true_and]

theorem PlanCriticPolicy.same_hashMaterial (policy other : PlanCriticPolicy) :
    Same (policy.hashMaterial numbers) (other.hashMaterial numbers) ↔
      { policy with criticPolicySha256 := other.criticPolicySha256 } = other := by
  refine Iff.trans (same_record rfl ?_) ?_
  · simp
  simp only [List.forall₂_cons, List.Forall₂.nil, same_string, same_natural, same_obligations,
    same_texts, and_true, PlanCriticPolicy.ext_iff]

/-- The same entry: of one kind and id, with the same content. -/
def EvidenceEntryMaterial.Matches (entry other : EvidenceEntryMaterial N) : Prop :=
  entry.kind = other.kind ∧ entry.evidenceId = other.evidenceId ∧
    Same entry.content.tree other.content.tree

theorem EvidenceEntryMaterial.same_hashMaterial (entry other : EvidenceEntryMaterial N) :
    Same (entry.hashMaterial numbers) (other.hashMaterial numbers) ↔ entry.Matches other := by
  have hfields : entry.kind = other.kind →
      (Same (entry.hashMaterial numbers) (other.hashMaterial numbers) ↔
        entry.evidenceId = other.evidenceId ∧ Same entry.content.tree other.content.tree) := by
    intro hkind
    unfold EvidenceEntryMaterial.hashMaterial
    rw [hkind]
    refine Iff.trans (same_record rfl ?_) ?_
    · cases other.kind <;> simp [PlannerReplannerV2EvidenceKind.name]
    simp only [List.forall₂_cons, List.Forall₂.nil, same_string, same_natural, and_true, true_and]
  constructor
  · intro h
    have hname := h.field "kind" List.mem_cons_self List.mem_cons_self
    have hkind := PlannerReplannerV2EvidenceKind.name_injective (same_string.mp hname)
    exact ⟨hkind, (hfields hkind).mp h⟩
  · rintro ⟨hkind, h⟩
    exact (hfields hkind).mpr h

/-- The same manifest, its schemas as JSON values. -/
structure PromptManifest.Matches (manifest other : PromptManifest N) : Prop where
  manifestSchemaVersion : manifest.manifestSchemaVersion = other.manifestSchemaVersion
  id : manifest.id = other.id
  version : manifest.version = other.version
  purpose : manifest.purpose = other.purpose
  systemPolicy : manifest.systemPolicy = other.systemPolicy
  inputSchema : Same manifest.inputSchema.tree other.inputSchema.tree
  generationSchema : Same manifest.generationSchema.tree other.generationSchema.tree
  outputSchema : Same manifest.outputSchema.tree other.outputSchema.tree

theorem PromptManifest.same_toValue (manifest other : PromptManifest N) :
    Same (manifest.toValue numbers) (other.toValue numbers) ↔ manifest.Matches other := by
  refine Iff.trans (same_record rfl ?_) ?_
  · simp
  simp only [List.forall₂_cons, List.Forall₂.nil, same_string, same_natural, and_true, true_and]
  constructor
  · rintro ⟨hschema, hid, hversion, hpurpose, hpolicy, hinput, hgeneration, houtput⟩
    exact ⟨hschema, hid, hversion, hpurpose, hpolicy, hinput, hgeneration, houtput⟩
  · rintro ⟨hschema, hid, hversion, hpurpose, hpolicy, hinput, hgeneration, houtput⟩
    exact ⟨hschema, hid, hversion, hpurpose, hpolicy, hinput, hgeneration, houtput⟩

end Faithful

section Exact

/-- Values have one canonical text exactly if they are the same, and a reader of that text reads the value.
So obligations, policies, evidence entries and manifests have one hash material exactly if they agree in
all but their digest. -/
theorem encode_exact (parser : Parser numbers) :
    (∀ a b : Value N, encode numbers a.tree = encode numbers b.tree ↔ Same a.tree b.tree) ∧
    (∀ a : Value N, ∃ read, parser.parse (encode numbers a.tree) = some read ∧
      Same read.tree a.tree) ∧
    (∀ obligation other : ProtectedObligation,
      encode numbers obligation.hashMaterial = encode numbers other.hashMaterial ↔
        { obligation with obligationSha256 := other.obligationSha256 } = other) ∧
    (∀ policy other : RootPlannerPolicy,
      encode numbers (policy.hashMaterial numbers) = encode numbers (other.hashMaterial numbers) ↔
        { policy with plannerPolicySha256 := other.plannerPolicySha256 } = other) ∧
    (∀ policy other : PlanCriticPolicy,
      encode numbers (policy.hashMaterial numbers) = encode numbers (other.hashMaterial numbers) ↔
        { policy with criticPolicySha256 := other.criticPolicySha256 } = other) ∧
    (∀ entry other : EvidenceEntryMaterial N,
      encode numbers (entry.hashMaterial numbers) = encode numbers (other.hashMaterial numbers) ↔
        entry.Matches other) ∧
    ∀ manifest other : PromptManifest N,
      encode numbers (manifest.toValue numbers) = encode numbers (other.toValue numbers) ↔
        manifest.Matches other := by
  refine ⟨fun a b => encode_eq_iff numbers a.distinct b.distinct,
    fun a => parse_encode numbers parser a.distinct, ?_, ?_, ?_, ?_, ?_⟩
  · intro obligation other
    rw [encode_eq_iff numbers obligation.distinct_hashMaterial other.distinct_hashMaterial]
    exact obligation.same_hashMaterial other
  · intro policy other
    rw [encode_eq_iff numbers (policy.distinct_hashMaterial numbers)
      (other.distinct_hashMaterial numbers)]
    exact policy.same_hashMaterial numbers other
  · intro policy other
    rw [encode_eq_iff numbers (policy.distinct_hashMaterial numbers)
      (other.distinct_hashMaterial numbers)]
    exact policy.same_hashMaterial numbers other
  · intro entry other
    rw [encode_eq_iff numbers (entry.distinct_hashMaterial numbers)
      (other.distinct_hashMaterial numbers)]
    exact entry.same_hashMaterial numbers other
  · intro manifest other
    rw [encode_eq_iff numbers (manifest.distinct_toValue numbers) (other.distinct_toValue numbers)]
    exact manifest.same_toValue numbers other

def sampleValue : Value ℤ :=
  ⟨.object [("b", .array [.number (-1), .null]), ("a,\"]", .object [])], by decide⟩

def sampleReordered : Value ℤ :=
  ⟨.object [("a,\"]", .object []), ("b", .array [.number (-1), .null])], by decide⟩

theorem encode_exact_sample :
    encode integers sampleValue.tree = encode integers sampleReordered.tree ∧
      ∃ read, (reader integers).parse (encode integers sampleValue.tree) = some read ∧
        Same read.tree sampleValue.tree := by
  obtain ⟨hexact, hread, _⟩ := encode_exact integers (reader integers)
  have hsorted : sampleValue.tree.sorted = sampleReordered.tree.sorted :=
    congrArg JsonTree.object (sortBy_eq_of_perm (.swap _ _ []) (by decide))
  exact ⟨(hexact _ _).mpr
    (same_of_sorted sampleValue.distinct sampleReordered.distinct hsorted), hread sampleValue⟩

end Exact

end BirdCode.Prompting
