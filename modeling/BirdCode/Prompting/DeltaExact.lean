import BirdCode.Prompting.CriticReviews
import BirdCode.Prompting.EvidenceDeltas

/-! Deltas of evidence are exact: they are derived for every packet that goes on from an earlier one, and they
hold what is new in it and nothing else. -/
namespace BirdCode.Prompting

open Std Lib Lib.Json Review

variable {N : Type}

section Derived

variable {hashing : Hashing N} {packet previous : PlannerReplannerV2EvidencePacket N}
  {delta : PlannerReplannerV2EvidenceDelta}

theorem PacketHolds.sortBy_bindings (h : PacketHolds previous) :
    sortBy id (previous.entries.map PlannerReplannerV2EvidenceEntry.binding) =
      previous.entries.map PlannerReplannerV2EvidenceEntry.binding := by
  apply StrictlySorted.eq_sortBy
  refine List.pairwise_map.mpr (h.sorted.imp ?_)
  intro entry entry' hlt
  exact Ordering.then_eq_lt.mpr (.inl hlt)

/-- The ids of an earlier packet stand in the delta as they stand in the packet. -/
theorem PacketHolds.previousEvidence (h : PacketHolds previous)
    (packet : PlannerReplannerV2EvidencePacket N) (purpose : PlannerReplannerV2Purpose) :
    (derivedDelta purpose packet (some previous)).previousEvidence =
      previous.entries.map PlannerReplannerV2EvidenceEntry.binding := h.sortBy_bindings

theorem mem_newlyAvailable (h : PacketHolds packet) (hprevious : PacketHolds previous)
    (purpose : PlannerReplannerV2Purpose) {binding : PlannerReplannerV2EvidenceBinding} :
    binding ∈ (derivedDelta purpose packet (some previous)).newlyAvailable ↔
      ∃ entry ∈ packet.entries,
        entry.evidenceId ∉ previous.entries.map PlannerReplannerV2EvidenceEntry.evidenceId ∧
        entry.binding = binding := by
  have hids : ((derivedDelta purpose packet (some previous)).previousEvidence.map
      PlannerReplannerV2EvidenceBinding.evidenceId) =
      previous.entries.map PlannerReplannerV2EvidenceEntry.evidenceId := by
    rw [hprevious.previousEvidence packet purpose, List.map_map]
    rfl
  have hnewly : (derivedDelta purpose packet (some previous)).newlyAvailable =
      ((mapValues packet.byId).filter fun entry => entry.evidenceId ∉
        ((derivedDelta purpose packet (some previous)).previousEvidence.map
          PlannerReplannerV2EvidenceBinding.evidenceId)).map
        PlannerReplannerV2EvidenceEntry.binding := rfl
  rw [hnewly, hids, h.mapValues_byId, List.mem_map]
  simp only [List.mem_filter, decide_eq_true_eq, and_assoc]

theorem newlyAvailable_selects (h : PacketHolds packet)
    (previous : Option (PlannerReplannerV2EvidencePacket N)) (purpose : PlannerReplannerV2Purpose) :
    Selects (derivedDelta purpose packet previous).newlyAvailable packet := by
  have hvalues := h.mapValues_byId
  constructor
  · unfold derivedDelta
    dsimp only
    rw [hvalues]
    exact List.pairwise_map.mpr (h.sorted.sublist List.filter_sublist)
  · unfold derivedDelta
    dsimp only
    rw [hvalues]
    exact List.map_subset _ List.filter_sublist.subset

theorem bindsAcceptedRootPlan_iff (h : PacketHolds packet)
    {binding : PlannerReplannerV2EvidenceBinding} :
    bindsAcceptedRootPlan packet.byId binding = true ↔
      ∃ entry ∈ packet.entries, entry.kind = .acceptedRootPlan ∧
        entry.evidenceId = binding.evidenceId := by
  simp only [bindsAcceptedRootPlan, Option.any_eq_true, h.byId_eq_some, decide_eq_true_eq]
  constructor
  · rintro ⟨entry, ⟨hmem, hid⟩, hkind⟩
    exact ⟨entry, hmem, hkind, hid⟩
  · rintro ⟨entry, hmem, hkind, hid⟩
    exact ⟨entry, ⟨hmem, hid⟩, hkind⟩

theorem bindsOther_iff (h : PacketHolds packet) {binding : PlannerReplannerV2EvidenceBinding} :
    bindsOther packet.byId binding = true ↔
      ∃ entry ∈ packet.entries, entry.kind ≠ .acceptedRootPlan ∧
        entry.evidenceId = binding.evidenceId := by
  simp only [bindsOther, Option.any_eq_true, h.byId_eq_some, decide_eq_true_eq]
  constructor
  · rintro ⟨entry, ⟨hmem, hid⟩, hkind⟩
    exact ⟨entry, hmem, hkind, hid⟩
  · rintro ⟨entry, hmem, hkind, hid⟩
    exact ⟨entry, ⟨hmem, hid⟩, hkind⟩

/-- What an earlier packet has to be for the difference to a later one to be a delta. -/
structure Precedes (previous packet : PlannerReplannerV2EvidencePacket N) : Prop where
  purpose : packet.purpose = .evidenceReplan
  kept : ∀ entry ∈ previous.entries, ∃ other ∈ packet.entries,
    other.evidenceId = entry.evidenceId ∧
      other.normalizedContentSha256 = entry.normalizedContentSha256
  accepted : ∃ entry ∈ previous.entries, ∃ root ∈ packet.entries,
    root.kind = .acceptedRootPlan ∧ root.evidenceId = entry.evidenceId
  grown : ∃ entry ∈ packet.entries,
    entry.evidenceId ∉ previous.entries.map PlannerReplannerV2EvidenceEntry.evidenceId

theorem derivedDelta_holds (h : PacketHolds packet) (hprevious : PacketHolds previous)
    (hdigest : validSha256 previous.packetSha256 = true) :
    DeltaHolds (derivedDelta .evidenceReplan packet (some previous)) packet ↔
      Precedes previous packet := by
  have hevidence := hprevious.previousEvidence packet .evidenceReplan
  constructor
  · intro hdelta
    have hshape := hdelta.shape
    simp only [validDeltaShape, derivedDelta, Bool.and_eq_true, List.any_eq_true] at hshape
    obtain ⟨⟨⟨_, binding, hbinding, haccepted⟩, hnewly⟩, _⟩ := hshape
    refine ⟨hdelta.purpose.symm, ?_, ?_, ?_⟩
    · intro entry hentry
      have hmem := hdelta.previous.known (hevidence ▸ List.mem_map_of_mem hentry)
      obtain ⟨other, hother, heq⟩ := List.mem_map.mp hmem
      rw [PlannerReplannerV2EvidenceEntry.binding, PlannerReplannerV2EvidenceEntry.binding,
        PlannerReplannerV2EvidenceBinding.mk.injEq] at heq
      exact ⟨other, hother, heq⟩
    · obtain ⟨root, hroot, hkind, hid⟩ := (bindsAcceptedRootPlan_iff h).mp haccepted
      have hbinding' : binding ∈ (derivedDelta .evidenceReplan packet
        (some previous)).previousEvidence := hbinding
      rw [hevidence] at hbinding'
      obtain ⟨entry, hentry, rfl⟩ := List.mem_map.mp hbinding'
      exact ⟨entry, hentry, root, hroot, hkind, hid⟩
    · have hne : (derivedDelta .evidenceReplan packet (some previous)).newlyAvailable ≠ [] := by
        intro hnil
        rw [Bool.not_eq_true', ← Bool.not_eq_true] at hnewly
        exact hnewly (List.isEmpty_iff.mpr hnil)
      obtain ⟨binding, hnew⟩ := List.exists_mem_of_ne_nil _ hne
      obtain ⟨entry, hentry, hfresh, _⟩ := (mem_newlyAvailable h hprevious .evidenceReplan).mp hnew
      exact ⟨entry, hentry, hfresh⟩
  · intro hprecedes
    obtain ⟨root, hroot, hkind, hunique⟩ := h.exists_accepted
    obtain ⟨entry, hentry, root', hroot', hkind', hid⟩ := hprecedes.accepted
    obtain rfl := hunique root' hroot' hkind'
    have hselects : Selects (derivedDelta .evidenceReplan packet (some previous)).previousEvidence
        packet := by
      rw [hevidence]
      refine ⟨List.pairwise_map.mpr hprevious.sorted, ?_⟩
      intro binding hbinding
      obtain ⟨entry, hentry, rfl⟩ := List.mem_map.mp hbinding
      obtain ⟨other, hother, hname, hsame⟩ := hprecedes.kept entry hentry
      refine List.mem_map.mpr ⟨other, hother, ?_⟩
      rw [PlannerReplannerV2EvidenceEntry.binding, hname, hsame]
      rfl
    refine ⟨rfl, hprecedes.purpose.symm, hselects, newlyAvailable_selects h _ _, ?_, ?_, ?_⟩
    · intro binding hbinding other hother
      rw [hevidence] at hbinding
      obtain ⟨entry, hentry, rfl⟩ := List.mem_map.mp hbinding
      obtain ⟨fresh, _, hfresh, rfl⟩ := (mem_newlyAvailable h hprevious .evidenceReplan).mp hother
      intro heq
      exact hfresh (List.mem_map.mpr ⟨entry, hentry, heq⟩)
    · intro other hother
      by_cases hold : other.evidenceId ∈
          previous.entries.map PlannerReplannerV2EvidenceEntry.evidenceId
      · left
        rw [hevidence, List.map_map]
        exact hold
      · right
        have hmem := (mem_newlyAvailable h hprevious .evidenceReplan).mpr
          ⟨other, hother, hold, rfl⟩
        exact List.mem_map_of_mem (f := PlannerReplannerV2EvidenceBinding.evidenceId) hmem
    · have hprevious' : entry.binding ∈
          (derivedDelta .evidenceReplan packet (some previous)).previousEvidence := by
        rw [hevidence]
        exact List.mem_map_of_mem hentry
      obtain ⟨grown, hgrown, hfresh⟩ := hprecedes.grown
      have hnewly := (mem_newlyAvailable h hprevious .evidenceReplan).mpr
        ⟨grown, hgrown, hfresh, rfl⟩
      have hothers : ∀ binding ∈
          (derivedDelta .evidenceReplan packet (some previous)).newlyAvailable,
          bindsOther packet.byId binding = true := by
        intro binding hbinding
        obtain ⟨fresh, hmem, hfresh, rfl⟩ :=
          (mem_newlyAvailable h hprevious .evidenceReplan).mp hbinding
        refine (bindsOther_iff h).mpr ⟨fresh, hmem, ?_, rfl⟩
        intro hroot
        obtain rfl := hunique fresh hmem hroot
        exact hfresh (List.mem_map.mpr ⟨entry, hentry, hid.symm⟩)
      have hdigest' : (some previous.packetSha256).any validSha256 = true := hdigest
      unfold validDeltaShape
      simp only [derivedDelta, Option.map_some, hdigest', Bool.true_and, Bool.and_eq_true]
      refine ⟨⟨⟨?_, ?_⟩, ?_⟩, ?_⟩
      · rw [Bool.not_eq_true', ← Bool.not_eq_true, List.isEmpty_iff]
        exact List.ne_nil_of_mem hprevious'
      · exact List.any_eq_true.mpr ⟨_, hprevious',
          (bindsAcceptedRootPlan_iff h).mpr ⟨root', hroot, hkind, hid⟩⟩
      · rw [Bool.not_eq_true', ← Bool.not_eq_true, List.isEmpty_iff]
        exact List.ne_nil_of_mem hnewly
      · exact List.all_eq_true.mpr hothers

end Derived

section Exact

variable {hashing : Hashing N} {packet previous : PlannerReplannerV2EvidencePacket N}
  {delta : PlannerReplannerV2EvidenceDelta}

theorem evidenceDelta_new (hdigest : ∀ text, validSha256 (hashing.sha256 text) = true)
    (h : PacketHolds packet) (hprevious : evidencePacketIntegrityViolations hashing previous = []) :
    (∃ delta, PlannerReplannerV2EvidenceDelta.new hashing .evidenceReplan packet (some previous) =
      .ok delta) ↔ DeltaHolds (derivedDelta .evidenceReplan packet (some previous)) packet := by
  rw [← evidenceDeltaStructureViolations_eq_nil h]
  unfold PlannerReplannerV2EvidenceDelta.new
  simp only [Option.map_some, Option.getD_some, hprevious, List.nil_append]
  constructor
  · rintro ⟨delta, hnew⟩
    by_contra hviolations
    rw [if_pos hviolations] at hnew
    cases hnew
  · intro hholds
    rw [if_neg (not_not.mpr hholds)]
    -- the structure does not depend on the digest, and the digest is the one that was just derived
    have hintegrity : evidenceDeltaIntegrityViolations hashing
        { derivedDelta .evidenceReplan packet (some previous) with
          deltaSha256 := evidenceDeltaSha256 hashing
            (derivedDelta .evidenceReplan packet (some previous)) } packet = [] := by
      simp only [evidenceDeltaIntegrityViolations, collect_eq_nil, List.forall_mem_cons,
        validateDigest, report_eq_nil, not_not, Bool.not_eq_false]
      refine ⟨hholds, hdigest _, rfl, ?_⟩
      intro check hcheck
      cases hcheck
    rw [if_neg (not_not.mpr hintegrity)]
    exact ⟨_, rfl⟩

theorem deltaHolds_of_integrity (h : PacketHolds packet)
    (hdelta : evidenceDeltaIntegrityViolations hashing delta packet = []) :
    DeltaHolds delta packet := by
  rw [evidenceDeltaIntegrityViolations, collect_eq_nil] at hdelta
  exact (evidenceDeltaStructureViolations_eq_nil h).mp (hdelta _ List.mem_cons_self)

/-- After the first turn the accepted root plan is never new. -/
theorem DeltaHolds.not_newly (h : DeltaHolds delta packet) (hpacket : PacketHolds packet)
    (hpurpose : delta.purpose = .evidenceReplan) {root : PlannerReplannerV2EvidenceEntry N}
    (hroot : root ∈ packet.entries) (hkind : root.kind = .acceptedRootPlan) :
    root.binding ∉ delta.newlyAvailable := by
  have hshape := h.shape
  unfold validDeltaShape at hshape
  simp only [hpurpose, Bool.and_eq_true] at hshape
  intro hmem
  have hother := List.all_eq_true.mp hshape.2 _ hmem
  obtain ⟨entry, hentry, hne, hid⟩ := (bindsOther_iff hpacket).mp hother
  obtain rfl := hpacket.eq_of_id hentry hroot hid
  exact hne hkind

/-- In the first turn it is all that is new. -/
theorem DeltaHolds.newly_initial (h : DeltaHolds delta packet) (hpacket : PacketHolds packet)
    (hpurpose : delta.purpose = .initialDelegation) {root : PlannerReplannerV2EvidenceEntry N}
    (hroot : root ∈ packet.entries) (hkind : root.kind = .acceptedRootPlan) :
    delta.previousEvidence = [] ∧ delta.newlyAvailable = [root.binding] := by
  have hshape := h.shape
  unfold validDeltaShape at hshape
  simp only [hpurpose, Bool.and_eq_true, List.isEmpty_iff, decide_eq_true_eq] at hshape
  obtain ⟨⟨⟨_, hprevious⟩, hlength⟩, hfirst⟩ := hshape
  refine ⟨hprevious, ?_⟩
  obtain ⟨binding, hnewly⟩ := List.length_eq_one_iff.mp hlength
  rw [hnewly] at hfirst ⊢
  obtain ⟨root', hroot', hkind', hid⟩ := (bindsAcceptedRootPlan_iff hpacket).mp hfirst
  obtain ⟨only, _, _, hunique⟩ := hpacket.exists_accepted
  have hsame : root' = root := (hunique root' hroot' hkind').trans (hunique root hroot hkind).symm
  have hmem := h.newly.known (hnewly ▸ List.mem_singleton_self binding)
  obtain ⟨entry, hentry, rfl⟩ := List.mem_map.mp hmem
  rw [hpacket.eq_of_id hentry hroot' hid.symm, hsame]

/-- A packet that is built had entries of distinct ids. -/
theorem nodup_of_new {purpose : PlannerReplannerV2Purpose} {context : String}
    {entries : List (PlannerReplannerV2EvidenceEntry N)}
    (h : PlannerReplannerV2EvidencePacket.new hashing purpose context entries = .ok packet) :
    (entries.map PlannerReplannerV2EvidenceEntry.evidenceId).Nodup := by
  unfold PlannerReplannerV2EvidencePacket.new at h
  dsimp only at h
  split at h
  · cases h
  next hviolations =>
    have hsorted := (packetHolds (not_not.mp hviolations)).sorted.nodup
    exact ((sortBy_perm _ entries).map _).nodup_iff.mp hsorted

theorem new_perm {purpose : PlannerReplannerV2Purpose} {context : String}
    {entries entries' : List (PlannerReplannerV2EvidenceEntry N)} (hperm : entries.Perm entries')
    (h : PlannerReplannerV2EvidencePacket.new hashing purpose context entries = .ok packet) :
    PlannerReplannerV2EvidencePacket.new hashing purpose context entries' = .ok packet := by
  have hsame := sortBy_eq_of_perm hperm (nodup_of_new h)
  unfold PlannerReplannerV2EvidencePacket.new at h ⊢
  rwa [← hsame]

/-- A delta is derived exactly if the packet goes on from the earlier one, and whatever delta is accepted
splits the packet in two. The accepted root plan is new in the first turn and in no other. The order in which
the entries of a packet came makes no difference. -/
theorem evidenceDeltas_exact (hashing : Hashing N)
    (hdigest : ∀ text, validSha256 (hashing.sha256 text) = true) :
    (∀ packet previous : PlannerReplannerV2EvidencePacket N,
      evidencePacketIntegrityViolations hashing packet = [] →
      evidencePacketIntegrityViolations hashing previous = [] →
      ((∃ delta, PlannerReplannerV2EvidenceDelta.new hashing .evidenceReplan packet
        (some previous) = .ok delta) ↔ Precedes previous packet)) ∧
    (∀ (packet : PlannerReplannerV2EvidencePacket N) (delta : PlannerReplannerV2EvidenceDelta),
      evidencePacketIntegrityViolations hashing packet = [] →
      evidenceDeltaIntegrityViolations hashing delta packet = [] →
      StrictlySorted PlannerReplannerV2EvidenceBinding.evidenceId delta.previousEvidence ∧
      StrictlySorted PlannerReplannerV2EvidenceBinding.evidenceId delta.newlyAvailable ∧
      (∀ binding ∈ delta.previousEvidence, ∀ other ∈ delta.newlyAvailable,
        binding.evidenceId ≠ other.evidenceId) ∧
      (delta.previousEvidence ++ delta.newlyAvailable).Perm
        (packet.entries.map PlannerReplannerV2EvidenceEntry.binding) ∧
      ∀ root ∈ packet.entries, root.kind = .acceptedRootPlan →
        match delta.purpose with
        | .evidenceReplan => root.binding ∉ delta.newlyAvailable
        | .initialDelegation =>
            delta.previousEvidence = [] ∧ delta.newlyAvailable = [root.binding]) ∧
    ∀ (purpose : PlannerReplannerV2Purpose) (context : String)
      (entries entries' : List (PlannerReplannerV2EvidenceEntry N))
      (packet : PlannerReplannerV2EvidencePacket N), entries.Perm entries' →
      (PlannerReplannerV2EvidencePacket.new hashing purpose context entries = .ok packet ↔
        PlannerReplannerV2EvidencePacket.new hashing purpose context entries' = .ok packet) := by
  refine ⟨?_, ?_, ?_⟩
  · intro packet previous hpacket hprevious
    obtain ⟨hholds, _⟩ := packetHolds_of_integrity hpacket
    obtain ⟨hearlier, hvalid⟩ := packetHolds_of_integrity hprevious
    rw [evidenceDelta_new hdigest hholds hprevious, derivedDelta_holds hholds hearlier hvalid]
  · intro packet delta hpacket hdelta
    obtain ⟨hholds, _⟩ := packetHolds_of_integrity hpacket
    have hsplit := deltaHolds_of_integrity hholds hdelta
    refine ⟨hsplit.previous.sorted, hsplit.newly.sorted, hsplit.disjoint, hsplit.perm hholds, ?_⟩
    intro root hroot hkind
    split
    · next hpurpose => exact hsplit.not_newly hholds hpurpose hroot hkind
    · next hpurpose => exact hsplit.newly_initial hholds hpurpose hroot hkind
  · intro purpose context entries entries' packet hperm
    exact ⟨new_perm hperm, new_perm hperm.symm⟩

def samplePlan : RootPlannerOutput ℤ :=
  { schemaVersion := 1
    rootSnapshotSha256 := sampleDigest
    plannerPolicySha256 := sampleDigest
    contextManifestSha256 := sampleDigest
    directive := .plan
    rationale := "rationale"
    decisionEvidence := ⟨.array [], rfl⟩
    workOrders := ⟨.array [], rfl⟩
    clarificationQuestions := []
    escalationRequests := ⟨.array [], rfl⟩ }

def sampleEvent : String := "00000000-0000-7000-8000-000000000000"

def sampleRoot : PlannerReplannerV2EvidenceEntry ℤ :=
  { evidenceId := "root"
    content := .acceptedRootPlan
      { contractVersion := 1
        reviewEventId := sampleEvent
        reviewId := sampleEvent
        proposalEventId := sampleEvent
        planRevision := 1
        planDigest := sampleDigest
        planArtifact := ⟨sampleDigest, 431, acceptedPlanMediaType⟩
        critiqueArtifact := ⟨sampleDigest, 1, planCritiqueMediaType⟩
        validationEvidenceArtifact := ⟨sampleDigest, 1, planValidationMediaType⟩
        plan := samplePlan }
    normalizedContentSha256 := sampleDigest }

def sampleCancelled : PlannerReplannerV2EvidenceEntry ℤ :=
  { evidenceId := "child"
    content := .childCancelled
      { contractVersion := 1
        binding := ⟨sampleEvent, sampleEvent, sampleEvent, sampleEvent, sampleEvent, sampleDigest,
          sampleDigest⟩
        finishedEventId := "00000000-0000-7000-8000-000000000001"
        completedModelCalls := 0
        completedToolCalls := 0
        cause := ⟨sampleEvent, sampleEvent, 1⟩ }
    normalizedContentSha256 := sampleDigest }

def sampleInitial : PlannerReplannerV2EvidencePacket ℤ :=
  ⟨evidencePacketSchemaVersion, .initialDelegation, sampleDigest, [sampleRoot], sampleDigest⟩

def sampleReplan : PlannerReplannerV2EvidencePacket ℤ :=
  ⟨evidencePacketSchemaVersion, .evidenceReplan, sampleDigest, [sampleCancelled, sampleRoot],
    sampleDigest⟩

theorem validSha256_sampleDigest : validSha256 sampleDigest = true :=
  validSha256_ofList (by decide) (by decide)

theorem isUuidV7_sampleEvent : isUuidV7 sampleEvent = true := by rfl

theorem length_sampleDigest : (Json.string sampleDigest).length = 66 := by rfl

theorem length_sampleEvent : (Json.string sampleEvent).length = 38 := by rfl

theorem length_samplePlan :
    (sampleHashing.wire (samplePlan.toValue sampleHashing.numbers)).length = 431 := by
  simp only [Hashing.wire, sampleHashing, samplePlan, RootPlannerOutput.toValue, Json.write,
    Json.writeEntries, Json.writeItems, Json.length_object, List.map_cons, List.map_nil,
    List.sum_cons, List.sum_nil, length_sampleDigest]
  decide

theorem length_sampleRoot_le :
    (sampleHashing.wire (sampleRoot.toValue sampleHashing.numbers)).length ≤ 2000 := by
  have h := length_samplePlan
  simp only [Hashing.wire, sampleHashing] at h
  simp only [Hashing.wire, sampleHashing, sampleRoot, PlannerReplannerV2EvidenceEntry.toValue,
    PlannerReplannerV2EvidenceContent.toValue, PlannerAcceptedRootPlanEvidenceV2.toValue,
    PlannerEvidenceArtifactRef.toValue, Json.write, Json.writeEntries, Json.length_object,
    List.map_cons, List.map_nil, List.sum_cons, List.sum_nil, length_sampleDigest,
    length_sampleEvent, h]
  clear h
  decide

theorem length_sampleCancelled_le :
    (sampleHashing.wire (sampleCancelled.toValue sampleHashing.numbers)).length ≤ 2000 := by
  simp only [Hashing.wire, sampleHashing, sampleCancelled, PlannerReplannerV2EvidenceEntry.toValue,
    PlannerReplannerV2EvidenceContent.toValue, PlannerChildCancelledV2.toValue,
    PlannerChildExecutionBinding.toValue, Json.write, Json.writeEntries, Json.length_object,
    List.map_cons, List.map_nil, List.sum_cons, List.sum_nil, length_sampleDigest,
    length_sampleEvent]
  decide

theorem sampleRoot_integrity :
    evidenceEntryIntegrityViolations sampleHashing sampleRoot = [] := by
  have hmatches : wireArtifactMatches sampleHashing (samplePlan.toValue sampleHashing.numbers)
      ⟨sampleDigest, 431, acceptedPlanMediaType⟩ = true := by
    simp only [wireArtifactMatches, length_samplePlan]
    rfl
  simp only [evidenceEntryIntegrityViolations, evidenceEntryStructureViolations, sampleRoot,
    validateAcceptedRootPlan, validateUuid, validateDigest, validateArtifact,
    validateArtifactMediaType, hmatches, isUuidV7_sampleEvent, validSha256_sampleDigest]
  decide

theorem sampleCancelled_integrity :
    evidenceEntryIntegrityViolations sampleHashing sampleCancelled = [] := by
  have hchild : isPlanChildUuid sampleEvent = true := by
    rw [isPlanChildUuid, ← isUuidV7.eq_1, isUuidV7_sampleEvent, Bool.true_or]
  simp only [evidenceEntryIntegrityViolations, evidenceEntryStructureViolations, sampleCancelled,
    validateChildCancelled, validateUuid, validateDigest, validateChildBinding, hchild,
    isUuidV7_sampleEvent, validSha256_sampleDigest]
  decide

/-- The packets of the sample differ in their purpose and their entries only. -/
theorem samplePacket_integrity {purpose : PlannerReplannerV2Purpose}
    {entries : List (PlannerReplannerV2EvidenceEntry ℤ)}
    (hcount : 1 ≤ entries.length ∧ entries.length ≤ maxEvidencePacketEntries)
    (hshape : packetShapeViolations (⟨evidencePacketSchemaVersion, purpose, sampleDigest, entries,
      sampleDigest⟩ : PlannerReplannerV2EvidencePacket ℤ) = [])
    (hentries : (entries.zipIdx.flatMap fun (entry, index) =>
      packetEntryViolations sampleHashing (entries.take index) entry index) = [])
    (hsize : (Json.array (writeItems Json.integers (entries.map
      (PlannerReplannerV2EvidenceEntry.toValue Json.integers)))).length ≤ 10000) :
    evidencePacketIntegrityViolations sampleHashing ⟨evidencePacketSchemaVersion, purpose,
      sampleDigest, entries, sampleDigest⟩ = [] := by
  have hwire : (sampleHashing.wire (PlannerReplannerV2EvidencePacket.toValue sampleHashing.numbers
      ⟨evidencePacketSchemaVersion, purpose, sampleDigest, entries, sampleDigest⟩)).length ≤
      maxEvidencePacketBytes := by
    have hpurpose : (Json.string purpose.name).length ≤ 100 := by cases purpose <;> decide
    clear hcount hshape hentries
    have hframing : framing ["schema_version", "purpose", "context_manifest_sha256", "entries",
        "packet_sha256"] +
        (write Json.integers (natural Json.integers evidencePacketSchemaVersion)).length ≤ 200 := by
      decide
    simp only [Hashing.wire, sampleHashing, PlannerReplannerV2EvidencePacket.toValue,
      PlannerReplannerV2EvidencePacket.hashFields, List.cons_append, List.nil_append, Json.write,
      Json.writeEntries, Json.length_object, List.map_cons, List.map_nil, List.sum_cons,
      List.sum_nil, length_sampleDigest]
    have hmax : maxEvidencePacketBytes = 1048576 := rfl
    omega
  simp only [evidencePacketIntegrityViolations, evidencePacketStructureViolations, collect_eq_nil,
    List.forall_mem_cons, report_eq_nil, validateDigest, validSha256_sampleDigest]
  exact ⟨⟨not_not.mpr rfl, by simp, not_not.mpr hcount, hshape, hentries, hwire.not_gt, by simp⟩,
    by simp, not_not.mpr rfl, by simp⟩

theorem length_array_pair_le {first second : Text} {size : ℕ} (hfirst : first.length ≤ size)
    (hsecond : second.length ≤ size) : (array [first, second]).length ≤ 2 * size + 3 := by
  simp only [length_array, List.map_cons, List.map_nil, List.sum_cons, List.sum_nil,
    List.length_cons, List.length_nil]
  omega

theorem length_array_singleton_le {item : Text} {size : ℕ} (h : item.length ≤ size) :
    (array [item]).length ≤ size + 2 := by
  simp only [length_array, List.map_cons, List.map_nil, List.sum_cons, List.sum_nil,
    List.length_cons, List.length_nil]
  omega

theorem sampleInitial_integrity :
    evidencePacketIntegrityViolations sampleHashing sampleInitial = [] := by
  refine samplePacket_integrity (by decide) (by decide) ?_
    ((length_array_singleton_le length_sampleRoot_le).trans (by decide))
  simp only [List.zipIdx_cons, List.zipIdx_nil, List.flatMap_cons, List.flatMap_nil,
    packetEntryViolations, sampleRoot_integrity]
  decide

theorem sampleReplan_integrity :
    evidencePacketIntegrityViolations sampleHashing sampleReplan = [] := by
  refine samplePacket_integrity (by decide) (by decide) ?_
    ((length_array_pair_le length_sampleCancelled_le length_sampleRoot_le).trans (by decide))
  simp only [List.zipIdx_cons, List.zipIdx_nil, List.flatMap_cons, List.flatMap_nil,
    packetEntryViolations, sampleRoot_integrity, sampleCancelled_integrity]
  decide

theorem sampleHashing_digest (text : Text) : validSha256 (sampleHashing.sha256 text) = true :=
  validSha256_sampleDigest

/-- A replan from the accepted plan and a cancelled child. -/
theorem evidenceDeltas_exact_sample :
    (∃ delta, PlannerReplannerV2EvidenceDelta.new sampleHashing .evidenceReplan sampleReplan
      (some sampleInitial) = .ok delta) ∧
    ∀ packet, PlannerReplannerV2EvidencePacket.new sampleHashing .evidenceReplan sampleDigest
        [sampleRoot, sampleCancelled] = .ok packet ↔
      PlannerReplannerV2EvidencePacket.new sampleHashing .evidenceReplan sampleDigest
        [sampleCancelled, sampleRoot] = .ok packet := by
  obtain ⟨hderived, _, hperm⟩ := evidenceDeltas_exact sampleHashing sampleHashing_digest
  refine ⟨(hderived _ _ sampleReplan_integrity sampleInitial_integrity).mpr ?_, ?_⟩
  · refine ⟨rfl, ?_, ?_, sampleCancelled, List.mem_cons_self, by decide⟩
    · intro entry hentry
      obtain rfl := List.mem_singleton.mp hentry
      exact ⟨sampleRoot, List.mem_cons_of_mem _ List.mem_cons_self, rfl, rfl⟩
    · exact ⟨sampleRoot, List.mem_cons_self, sampleRoot, List.mem_cons_of_mem _ List.mem_cons_self,
        rfl, rfl⟩
  · exact fun packet => hperm _ _ _ _ packet (.swap _ _ [])

/-- The delta of the first turn. -/
def sampleDelta : PlannerReplannerV2EvidenceDelta :=
  ⟨evidencePacketSchemaVersion, .initialDelegation, none, [], [sampleRoot.binding], sampleDigest⟩

/-- A delta may be accepted and have the accepted root plan newly available. -/
theorem acceptedRootPlan_newly :
    (∀ text, validSha256 (sampleHashing.sha256 text) = true) ∧
      evidencePacketIntegrityViolations sampleHashing sampleInitial = [] ∧
      evidenceDeltaIntegrityViolations sampleHashing sampleDelta sampleInitial = [] ∧
      sampleRoot ∈ sampleInitial.entries ∧ sampleRoot.kind = .acceptedRootPlan ∧
      sampleRoot.binding ∈ sampleDelta.newlyAvailable := by
  refine ⟨sampleHashing_digest, sampleInitial_integrity, ?_, List.mem_cons_self, rfl,
    List.mem_cons_self⟩
  decide

end Exact

end BirdCode.Prompting
