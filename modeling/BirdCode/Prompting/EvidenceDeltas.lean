import BirdCode.Lib.Collecting
import BirdCode.Prompting.EvidencePackets

/-! What is new in an evidence packet. A delta splits the packet into what an earlier one held and what it
did not, each in the order of the ids. -/
namespace BirdCode.Prompting

open Std Lib Lib.Json Review

variable {N : Type}

section Deltas

structure PlannerReplannerV2EvidenceBinding where
  evidenceId : String
  normalizedContentSha256 : String
  deriving DecidableEq

/-- The derived order: of the ids, then of the digests. -/
instance evidenceBinding_ord : Ord PlannerReplannerV2EvidenceBinding :=
  ⟨compareLex (compareOn PlannerReplannerV2EvidenceBinding.evidenceId)
    (compareOn PlannerReplannerV2EvidenceBinding.normalizedContentSha256)⟩

instance evidenceBinding_trans : TransOrd PlannerReplannerV2EvidenceBinding :=
  inferInstanceAs (TransCmp (compareLex
    (compareOn PlannerReplannerV2EvidenceBinding.evidenceId)
    (compareOn PlannerReplannerV2EvidenceBinding.normalizedContentSha256)))

instance evidenceBinding_lawful : LawfulEqOrd PlannerReplannerV2EvidenceBinding where
  eq_of_compare {binding other} h := by
    obtain ⟨name, digest⟩ := binding
    obtain ⟨name', digest'⟩ := other
    obtain ⟨hname, hdigest⟩ := Ordering.then_eq_eq.mp h
    obtain rfl := Std.compare_eq_iff_eq.mp hname
    obtain rfl := Std.compare_eq_iff_eq.mp hdigest
    rfl

/-- `evidence_binding`. -/
def PlannerReplannerV2EvidenceEntry.binding (entry : PlannerReplannerV2EvidenceEntry N) :
    PlannerReplannerV2EvidenceBinding :=
  ⟨entry.evidenceId, entry.normalizedContentSha256⟩

structure PlannerReplannerV2EvidenceDelta where
  schemaVersion : UInt32
  purpose : PlannerReplannerV2Purpose
  previousPacketSha256 : Option String
  previousEvidence : List PlannerReplannerV2EvidenceBinding
  newlyAvailable : List PlannerReplannerV2EvidenceBinding
  deltaSha256 : String
  deriving DecidableEq

def PlannerReplannerV2EvidenceBinding.toValue (binding : PlannerReplannerV2EvidenceBinding) :
    JsonTree N :=
  .object [
    ("evidence_id", .string binding.evidenceId),
    ("normalized_content_sha256", .string binding.normalizedContentSha256)]

/-- `EvidenceDeltaHashMaterial`. -/
def PlannerReplannerV2EvidenceDelta.hashMaterial (numbers : Numbers N)
    (delta : PlannerReplannerV2EvidenceDelta) : JsonTree N :=
  .object [
    ("schema_version", natural numbers delta.schemaVersion),
    ("purpose", .string delta.purpose.name),
    ("previous_packet_sha256", match delta.previousPacketSha256 with
      | none => .null
      | some digest => .string digest),
    ("previous_evidence",
      .array (delta.previousEvidence.map PlannerReplannerV2EvidenceBinding.toValue)),
    ("newly_available",
      .array (delta.newlyAvailable.map PlannerReplannerV2EvidenceBinding.toValue))]

/-- The entries of a packet under their ids. -/
def PlannerReplannerV2EvidencePacket.byId (packet : PlannerReplannerV2EvidencePacket N) :
    BTreeMap String (PlannerReplannerV2EvidenceEntry N) :=
  toMap (packet.entries.map fun entry => (entry.evidenceId, entry))

/-- What is found of a binding that stands behind others. -/
def deltaBindingViolations (byId : BTreeMap String (PlannerReplannerV2EvidenceEntry N))
    (before : List PlannerReplannerV2EvidenceBinding) (binding : PlannerReplannerV2EvidenceBinding) :
    List PlannerReplannerV2EvidenceViolation :=
  report ((∃ previous ∈ before.getLast?, compare previous.evidenceId binding.evidenceId ≠ .lt) ∨
      binding.evidenceId ∈ before.map PlannerReplannerV2EvidenceBinding.evidenceId)
    .deltaShapeMismatch ++
  match byId[binding.evidenceId]? with
  | none => [.deltaUnknownEvidence binding.evidenceId]
  | some entry =>
      report (entry.normalizedContentSha256 ≠ binding.normalizedContentSha256)
        (.deltaDigestMismatch binding.evidenceId)

def validateDeltaBindings (bindings : List PlannerReplannerV2EvidenceBinding)
    (byId : BTreeMap String (PlannerReplannerV2EvidenceEntry N)) :
    List PlannerReplannerV2EvidenceViolation :=
  bindings.zipIdx.flatMap fun (binding, index) =>
    deltaBindingViolations byId (bindings.take index) binding

def bindsAcceptedRootPlan (byId : BTreeMap String (PlannerReplannerV2EvidenceEntry N))
    (binding : PlannerReplannerV2EvidenceBinding) : Bool :=
  byId[binding.evidenceId]?.any fun entry => entry.kind = .acceptedRootPlan

def bindsOther (byId : BTreeMap String (PlannerReplannerV2EvidenceEntry N))
    (binding : PlannerReplannerV2EvidenceBinding) : Bool :=
  byId[binding.evidenceId]?.any fun entry => entry.kind ≠ .acceptedRootPlan

def validDeltaShape (byId : BTreeMap String (PlannerReplannerV2EvidenceEntry N))
    (delta : PlannerReplannerV2EvidenceDelta) : Bool :=
  match delta.purpose with
  | .initialDelegation =>
      delta.previousPacketSha256.isNone && delta.previousEvidence.isEmpty &&
        delta.newlyAvailable.length = 1 &&
        delta.newlyAvailable.head?.any (bindsAcceptedRootPlan byId)
  | .evidenceReplan =>
      delta.previousPacketSha256.any validSha256 && !delta.previousEvidence.isEmpty &&
        delta.previousEvidence.any (bindsAcceptedRootPlan byId) &&
        !delta.newlyAvailable.isEmpty && delta.newlyAvailable.all (bindsOther byId)

def idsOf (bindings : List PlannerReplannerV2EvidenceBinding) : Finset String :=
  (bindings.map PlannerReplannerV2EvidenceBinding.evidenceId).toFinset

def evidenceDeltaStructureViolations (delta : PlannerReplannerV2EvidenceDelta)
    (packet : PlannerReplannerV2EvidencePacket N) : List PlannerReplannerV2EvidenceViolation :=
  collect [
    report (delta.schemaVersion ≠ evidencePacketSchemaVersion)
      (.schemaVersion evidencePacketSchemaVersion delta.schemaVersion),
    report (delta.purpose ≠ packet.purpose) .deltaPurposeMismatch,
    validateDeltaBindings delta.previousEvidence packet.byId,
    validateDeltaBindings delta.newlyAvailable packet.byId,
    report (¬Disjoint (idsOf delta.previousEvidence) (idsOf delta.newlyAvailable) ∨
        idsOf delta.previousEvidence ∪ idsOf delta.newlyAvailable ≠
          packet.byId.keys.toFinset)
      .deltaShapeMismatch,
    report (validDeltaShape packet.byId delta = false) .deltaShapeMismatch]

variable (hashing : Hashing N)

def evidenceDeltaSha256 (delta : PlannerReplannerV2EvidenceDelta) : String :=
  hashing.canonicalSha256 (delta.hashMaterial hashing.numbers)

/-- `evidence_delta_integrity_violations`, which is what `validate_against` reports. -/
def evidenceDeltaIntegrityViolations (delta : PlannerReplannerV2EvidenceDelta)
    (packet : PlannerReplannerV2EvidencePacket N) : List PlannerReplannerV2EvidenceViolation :=
  collect [
    evidenceDeltaStructureViolations delta packet,
    validateDigest "delta_sha256" delta.deltaSha256,
    report (evidenceDeltaSha256 hashing delta ≠ delta.deltaSha256) .deltaSha256Mismatch]

/-- The delta that `new` derives, before it has a digest. -/
def derivedDelta (purpose : PlannerReplannerV2Purpose) (packet : PlannerReplannerV2EvidencePacket N)
    (previousPacket : Option (PlannerReplannerV2EvidencePacket N)) : PlannerReplannerV2EvidenceDelta :=
  let previousEvidence := sortBy id
    ((previousPacket.map fun previous =>
      previous.entries.map PlannerReplannerV2EvidenceEntry.binding).getD [])
  let previousIds := previousEvidence.map PlannerReplannerV2EvidenceBinding.evidenceId
  { schemaVersion := evidencePacketSchemaVersion
    purpose
    previousPacketSha256 := previousPacket.map PlannerReplannerV2EvidencePacket.packetSha256
    previousEvidence
    newlyAvailable := ((mapValues packet.byId).filter fun entry =>
      entry.evidenceId ∉ previousIds).map PlannerReplannerV2EvidenceEntry.binding
    deltaSha256 := "" }

def PlannerReplannerV2EvidenceDelta.new (purpose : PlannerReplannerV2Purpose)
    (packet : PlannerReplannerV2EvidencePacket N)
    (previousPacket : Option (PlannerReplannerV2EvidencePacket N)) :
    Except (List PlannerReplannerV2EvidenceViolation) PlannerReplannerV2EvidenceDelta := do
  let delta := derivedDelta purpose packet previousPacket
  let violations :=
    (previousPacket.map (evidencePacketIntegrityViolations hashing)).getD [] ++
      evidenceDeltaStructureViolations delta packet
  if violations ≠ [] then throw violations
  let delta := { delta with deltaSha256 := evidenceDeltaSha256 hashing delta }
  let violations := evidenceDeltaIntegrityViolations hashing delta packet
  if violations ≠ [] then throw violations
  pure delta

end Deltas

section Packets

variable {hashing : Hashing N} {packet : PlannerReplannerV2EvidencePacket N}

/-- What the deltas rest on: the entries are in the order of their ids, and one of them alone is the
accepted root plan. -/
structure PacketHolds (packet : PlannerReplannerV2EvidencePacket N) : Prop where
  sorted : StrictlySorted PlannerReplannerV2EvidenceEntry.evidenceId packet.entries
  accepted : packet.entries.countP (fun entry => entry.kind = .acceptedRootPlan) = 1
  initial : packet.purpose = .initialDelegation → packet.entries.length = 1
  replan : packet.purpose = .evidenceReplan → 2 ≤ packet.entries.length

theorem packetShapeViolations_eq_nil (h : packetShapeViolations packet = []) :
    packet.entries.countP (fun entry => entry.kind = .acceptedRootPlan) = 1 ∧
      (packet.purpose = .initialDelegation → packet.entries.length = 1) ∧
      (packet.purpose = .evidenceReplan → 2 ≤ packet.entries.length) := by
  unfold packetShapeViolations at h
  cases hpurpose : packet.purpose with
  | initialDelegation =>
    simp only [hpurpose, report_eq_nil, not_or, not_not] at h
    obtain ⟨hlength, hkind⟩ := h
    obtain ⟨entry, hentries⟩ := List.length_eq_one_iff.mp hlength
    rw [hentries] at hkind ⊢
    have hkind : entry.kind = .acceptedRootPlan := Option.some.inj hkind
    exact ⟨by simp [hkind], fun _ => rfl, fun h => by cases h⟩
  | evidenceReplan =>
    simp only [hpurpose, report_eq_nil, not_or, not_not, Nat.not_lt] at h
    exact ⟨h.2.1, fun h => (by cases h), fun _ => h.1⟩

theorem packetHolds (h : evidencePacketStructureViolations hashing packet = []) :
    PacketHolds packet := by
  simp only [evidencePacketStructureViolations, collect_eq_nil, List.forall_mem_cons,
    zipIdx_flatMap_eq_nil] at h
  obtain ⟨_, _, _, hshape, hentries, _⟩ := h
  obtain ⟨haccepted, hinitial, hreplan⟩ := packetShapeViolations_eq_nil hshape
  refine ⟨strictlySorted_iff.mpr ?_, haccepted, hinitial, hreplan⟩
  intro index entry hentry previous hprevious
  have hchecks := hentries index entry hentry
  simp only [packetEntryViolations, collect_eq_nil, List.forall_mem_cons, report_eq_nil] at hchecks
  obtain ⟨_, _, _, _, horder, _⟩ := hchecks
  by_contra hlt
  exact horder ⟨previous, hprevious, hlt⟩

theorem packetHolds_of_integrity (h : evidencePacketIntegrityViolations hashing packet = []) :
    PacketHolds packet ∧ validSha256 packet.packetSha256 = true := by
  simp only [evidencePacketIntegrityViolations, collect_eq_nil, List.forall_mem_cons, validateDigest,
    report_eq_nil, Bool.not_eq_false] at h
  exact ⟨packetHolds h.1, h.2.1⟩

/-- There is one accepted root plan. -/
theorem PacketHolds.exists_accepted (h : PacketHolds packet) :
    ∃ root ∈ packet.entries, root.kind = .acceptedRootPlan ∧
      ∀ entry ∈ packet.entries, entry.kind = .acceptedRootPlan → entry = root := by
  have hone := h.accepted
  rw [List.countP_eq_length_filter, List.length_eq_one_iff] at hone
  obtain ⟨root, hroot⟩ := hone
  have hmem : ∀ entry, entry ∈ packet.entries ∧ entry.kind = .acceptedRootPlan ↔ entry = root := by
    intro entry
    rw [← List.mem_singleton (b := root), ← hroot, List.mem_filter, decide_eq_true_eq]
  obtain ⟨hinside, hkind⟩ := (hmem root).mpr rfl
  exact ⟨root, hinside, hkind, fun entry hentry hkind => (hmem entry).mp ⟨hentry, hkind⟩⟩

theorem PacketHolds.nodup (h : PacketHolds packet) :
    ((packet.entries.map fun entry => (entry.evidenceId, entry)).map Prod.fst).Nodup := by
  rw [List.map_map]
  exact h.sorted.nodup

theorem PacketHolds.byId_eq_some (h : PacketHolds packet) {name : String}
    {entry : PlannerReplannerV2EvidenceEntry N} :
    packet.byId[name]? = some entry ↔ entry ∈ packet.entries ∧ entry.evidenceId = name := by
  rw [PlannerReplannerV2EvidencePacket.byId, toMap_getElem?_eq_some h.nodup, List.mem_map]
  constructor
  · rintro ⟨other, hmem, heq⟩
    cases heq
    exact ⟨hmem, rfl⟩
  · rintro ⟨hmem, rfl⟩
    exact ⟨entry, hmem, rfl⟩

/-- Entries of one id are one entry. -/
theorem PacketHolds.eq_of_id (h : PacketHolds packet) {entry other : PlannerReplannerV2EvidenceEntry N}
    (hentry : entry ∈ packet.entries) (hother : other ∈ packet.entries)
    (hid : entry.evidenceId = other.evidenceId) : entry = other := by
  have hsome := h.byId_eq_some.mpr ⟨hentry, hid⟩
  rw [h.byId_eq_some.mpr ⟨hother, rfl⟩] at hsome
  exact (Option.some.inj hsome).symm

theorem mem_keys_byId {name : String} : name ∈ packet.byId.keys.toFinset ↔
    name ∈ packet.entries.map PlannerReplannerV2EvidenceEntry.evidenceId := by
  rw [List.mem_toFinset, ExtTreeMap.mem_keys, PlannerReplannerV2EvidencePacket.byId, mem_toMap,
    List.map_map]
  rfl

/-- The entries come out of the map in the order they have in the packet. -/
theorem PacketHolds.mapValues_byId (h : PacketHolds packet) :
    mapValues packet.byId = packet.entries := by
  have hperm : (mapValues packet.byId).Perm packet.entries := by
    have hvalues := mapValues_toMap_perm h.nodup
    rwa [List.map_map, Function.comp_def, List.map_id'] at hvalues
  refine StrictlySorted.eq_of_perm ?_ h.sorted hperm
  have hordered : packet.byId.toList.Pairwise fun a b => compare a.1 b.1 = .lt :=
    ExtTreeMap.ordered_keys_toList
  unfold mapValues StrictlySorted
  rw [List.pairwise_map]
  refine hordered.imp_of_mem ?_
  rintro ⟨name, entry⟩ ⟨name', entry'⟩ hmem hmem' hlt
  rw [ExtTreeMap.mem_toList_iff_getElem?_eq_some, h.byId_eq_some] at hmem hmem'
  rwa [← hmem.2, ← hmem'.2] at hlt

end Packets

section Splits

variable {packet : PlannerReplannerV2EvidencePacket N} {delta : PlannerReplannerV2EvidenceDelta}
  {bindings : List PlannerReplannerV2EvidenceBinding}

/-- Bindings of entries of the packet, in the order of their ids. -/
structure Selects (bindings : List PlannerReplannerV2EvidenceBinding)
    (packet : PlannerReplannerV2EvidencePacket N) : Prop where
  sorted : StrictlySorted PlannerReplannerV2EvidenceBinding.evidenceId bindings
  known : bindings ⊆ packet.entries.map PlannerReplannerV2EvidenceEntry.binding

theorem validateDeltaBindings_eq_nil (h : PacketHolds packet) :
    validateDeltaBindings bindings packet.byId = [] ↔ Selects bindings packet := by
  have hknown : ∀ binding : PlannerReplannerV2EvidenceBinding,
      (match packet.byId[binding.evidenceId]? with
        | none => [.deltaUnknownEvidence binding.evidenceId]
        | some entry => report (entry.normalizedContentSha256 ≠ binding.normalizedContentSha256)
            (PlannerReplannerV2EvidenceViolation.deltaDigestMismatch binding.evidenceId)) = [] ↔
      binding ∈ packet.entries.map PlannerReplannerV2EvidenceEntry.binding := by
    intro binding
    rw [List.mem_map]
    constructor
    · intro hnil
      cases hentry : packet.byId[binding.evidenceId]? with
      | none =>
        rw [hentry] at hnil
        cases hnil
      | some entry =>
        rw [hentry] at hnil
        simp only [report_eq_nil, not_not] at hnil
        obtain ⟨hmem, hid⟩ := h.byId_eq_some.mp hentry
        obtain ⟨name, digest⟩ := binding
        exact ⟨entry, hmem, by rw [PlannerReplannerV2EvidenceEntry.binding, hid, hnil]⟩
    · rintro ⟨entry, hmem, rfl⟩
      have hentry : packet.byId[entry.binding.evidenceId]? = some entry :=
        h.byId_eq_some.mpr ⟨hmem, rfl⟩
      rw [hentry]
      exact report_eq_nil.mpr fun hne => hne rfl
  rw [validateDeltaBindings, zipIdx_flatMap_eq_nil]
  simp only [deltaBindingViolations, List.append_eq_nil_iff, report_eq_nil, hknown, not_or]
  constructor
  · intro hchecks
    refine ⟨strictlySorted_iff.mpr ?_, ?_⟩
    · intro index binding hbinding previous hprevious
      by_contra hlt
      exact (hchecks index binding hbinding).1.1 ⟨previous, hprevious, hlt⟩
    · have hmem := forall_getElem?.mp fun index binding hbinding =>
        (hchecks index binding hbinding).2
      exact fun binding => hmem binding
  · intro hselects index binding hbinding
    refine ⟨⟨?_, ?_⟩, hselects.known (List.mem_of_getElem? hbinding)⟩
    · rintro ⟨previous, hprevious, hlt⟩
      exact hlt (strictlySorted_iff.mp hselects.sorted index binding hbinding previous hprevious)
    · rw [List.map_take]
      exact nodup_map_iff.mp hselects.sorted.nodup index binding hbinding

/-- What a delta accepted against a packet is: it splits the packet, in the shape of its purpose. -/
structure DeltaHolds (delta : PlannerReplannerV2EvidenceDelta)
    (packet : PlannerReplannerV2EvidencePacket N) : Prop where
  schemaVersion : delta.schemaVersion = evidencePacketSchemaVersion
  purpose : delta.purpose = packet.purpose
  previous : Selects delta.previousEvidence packet
  newly : Selects delta.newlyAvailable packet
  disjoint : ∀ binding ∈ delta.previousEvidence, ∀ other ∈ delta.newlyAvailable,
    binding.evidenceId ≠ other.evidenceId
  covers : ∀ entry ∈ packet.entries,
    entry.evidenceId ∈ delta.previousEvidence.map PlannerReplannerV2EvidenceBinding.evidenceId ∨
    entry.evidenceId ∈ delta.newlyAvailable.map PlannerReplannerV2EvidenceBinding.evidenceId
  shape : validDeltaShape packet.byId delta = true

theorem Selects.id_mem (h : Selects bindings packet) {name : String}
    (hname : name ∈ bindings.map PlannerReplannerV2EvidenceBinding.evidenceId) :
    name ∈ packet.entries.map PlannerReplannerV2EvidenceEntry.evidenceId := by
  obtain ⟨binding, hbinding, rfl⟩ := List.mem_map.mp hname
  obtain ⟨entry, hentry, rfl⟩ := List.mem_map.mp (h.known hbinding)
  exact List.mem_map.mpr ⟨entry, hentry, rfl⟩

theorem evidenceDeltaStructureViolations_eq_nil (h : PacketHolds packet) :
    evidenceDeltaStructureViolations delta packet = [] ↔ DeltaHolds delta packet := by
  simp only [evidenceDeltaStructureViolations, collect_eq_nil, List.forall_mem_cons, report_eq_nil,
    not_or, not_not, validateDeltaBindings_eq_nil h, Bool.not_eq_false, List.not_mem_nil,
    false_imp_iff, implies_true, and_true]
  have hdisjoint : Disjoint (idsOf delta.previousEvidence) (idsOf delta.newlyAvailable) ↔
      ∀ binding ∈ delta.previousEvidence, ∀ other ∈ delta.newlyAvailable,
        binding.evidenceId ≠ other.evidenceId := by
    simp only [idsOf, Finset.disjoint_left, List.mem_toFinset]
    constructor
    · intro hapart binding hbinding other hother heq
      apply hapart (List.mem_map_of_mem hbinding)
      rw [heq]
      exact List.mem_map_of_mem hother
    · intro hapart name hname hname'
      obtain ⟨binding, hbinding, rfl⟩ := List.mem_map.mp hname
      obtain ⟨other, hother, heq⟩ := List.mem_map.mp hname'
      exact hapart binding hbinding other hother heq.symm
  rw [hdisjoint]
  constructor
  · rintro ⟨hschema, hpurpose, hprevious, hnewly, ⟨hapart, hunion⟩, hshape⟩
    refine ⟨hschema, hpurpose, hprevious, hnewly, hapart, ?_, hshape⟩
    intro entry hentry
    have hmem := mem_keys_byId.mpr (List.mem_map_of_mem hentry)
    rw [← hunion, Finset.mem_union, idsOf, idsOf, List.mem_toFinset, List.mem_toFinset] at hmem
    exact hmem
  · rintro ⟨hschema, hpurpose, hprevious, hnewly, hapart, hcovers, hshape⟩
    refine ⟨hschema, hpurpose, hprevious, hnewly, ⟨hapart, ?_⟩, hshape⟩
    ext name
    rw [Finset.mem_union, idsOf, idsOf, List.mem_toFinset, List.mem_toFinset, mem_keys_byId]
    constructor
    · rintro (hname | hname)
      · exact hprevious.id_mem hname
      · exact hnewly.id_mem hname
    · intro hname
      obtain ⟨entry, hentry, rfl⟩ := List.mem_map.mp hname
      exact hcovers entry hentry

/-- What was there before and what is new is the packet, every entry once. -/
theorem DeltaHolds.perm (h : DeltaHolds delta packet) (hpacket : PacketHolds packet) :
    (delta.previousEvidence ++ delta.newlyAvailable).Perm
      (packet.entries.map PlannerReplannerV2EvidenceEntry.binding) := by
  have hids : ∀ {bindings : List PlannerReplannerV2EvidenceBinding},
      (bindings.map PlannerReplannerV2EvidenceBinding.evidenceId).Nodup → bindings.Nodup :=
    List.Nodup.of_map _
  have hentries : (packet.entries.map PlannerReplannerV2EvidenceEntry.binding).Nodup := by
    apply hids
    rw [List.map_map]
    exact hpacket.sorted.nodup
  have hboth : (delta.previousEvidence ++ delta.newlyAvailable).Nodup := by
    refine (hids h.previous.sorted.nodup).append (hids h.newly.sorted.nodup) ?_
    intro binding hprevious hnewly
    exact h.disjoint binding hprevious binding hnewly rfl
  refine (List.perm_ext_iff_of_nodup hboth hentries).mpr ?_
  intro binding
  rw [List.mem_append]
  constructor
  · rintro (hmem | hmem)
    · exact h.previous.known hmem
    · exact h.newly.known hmem
  · intro hmem
    obtain ⟨entry, hentry, rfl⟩ := List.mem_map.mp hmem
    -- the binding that covers the entry is of an entry of its id, which is the entry itself
    have hsame : ∀ {bindings : List PlannerReplannerV2EvidenceBinding}, Selects bindings packet →
        entry.evidenceId ∈ bindings.map PlannerReplannerV2EvidenceBinding.evidenceId →
        entry.binding ∈ bindings := by
      intro bindings hselects hid
      obtain ⟨binding, hbinding, heq⟩ := List.mem_map.mp hid
      obtain ⟨other, hother, rfl⟩ := List.mem_map.mp (hselects.known hbinding)
      rwa [hpacket.eq_of_id hentry hother heq.symm]
    rcases h.covers entry hentry with hid | hid
    · exact .inl (hsame h.previous hid)
    · exact .inr (hsame h.newly hid)

end Splits

end BirdCode.Prompting
