import BirdCode.Validation.PolicyBytes
import BirdCode.Validation.CleanRuns

/-! The seal commits to the run, its policy and its report, and the digests of a log give away every
tampering with it that leaves them as they are. Both rest on the absence of collisions among what is
hashed for the two runs compared. -/
namespace BirdCode.Validation

open Std Lib

section Hashed

variable (hashing : Hashing) (run : RunProvenance) (policy : ValidationPolicy)

def recordMaterials : List RecordHashMaterial := run.records.map run.recordMaterial

/-- What the seal of a run digests, which needs a last record. -/
def sealMaterials : List SealHashMaterial :=
  run.records.getLast?.toList.map fun terminal =>
    sealMaterial hashing run policy terminal
      (hashing.sha256 (hashing.reportJson (validate hashing run policy)))

/-- All the bytes that are hashed when a run is validated and sealed. -/
def hashedBytes : List (List UInt8) :=
  policy.bytes :: hashing.contextJson run.toRunHeader ::
    hashing.reportJson (validate hashing run policy) ::
    ((recordMaterials run).map hashing.recordJson ++
      (sealMaterials hashing run policy).map hashing.sealJson)

end Hashed

/-- Among what is hashed for two runs, equal digests come from equal bytes, and equal bytes from equal
structs. -/
structure CollisionFree (hashing : Hashing) (run : RunProvenance) (policy : ValidationPolicy)
    (run' : RunProvenance) (policy' : ValidationPolicy) : Prop where
  sha256 : ∀ bytes ∈ hashedBytes hashing run policy, ∀ bytes' ∈ hashedBytes hashing run' policy',
    hashing.sha256 bytes = hashing.sha256 bytes' → bytes = bytes'
  contextJson : hashing.contextJson run.toRunHeader = hashing.contextJson run'.toRunHeader →
    run.toRunHeader = run'.toRunHeader
  recordJson : ∀ material ∈ recordMaterials run, ∀ material' ∈ recordMaterials run',
    hashing.recordJson material = hashing.recordJson material' → material = material'
  sealJson : ∀ material ∈ sealMaterials hashing run policy,
    ∀ material' ∈ sealMaterials hashing run' policy',
      hashing.sealJson material = hashing.sealJson material' → material = material'
  reportJson : hashing.reportJson (validate hashing run policy) =
      hashing.reportJson (validate hashing run' policy') →
    validate hashing run policy = validate hashing run' policy'

variable {hashing : Hashing} {run run' : RunProvenance} {policy policy' : ValidationPolicy}
  {record record' : ProvenanceRecord}

section Digests

theorem CollisionFree.context_inj (h : CollisionFree hashing run policy run' policy')
    (heq : computeRunContextHash hashing run.toRunHeader =
      computeRunContextHash hashing run'.toRunHeader) : run.toRunHeader = run'.toRunHeader :=
  h.contextJson (h.sha256 _ (by simp [hashedBytes]) _ (by simp [hashedBytes]) heq)

theorem CollisionFree.policy_inj (h : CollisionFree hashing run policy run' policy')
    (heq : hashing.policySha256 policy = hashing.policySha256 policy') : policy.bytes = policy'.bytes :=
  h.sha256 _ List.mem_cons_self _ List.mem_cons_self heq

theorem CollisionFree.report_inj (h : CollisionFree hashing run policy run' policy')
    (heq : hashing.sha256 (hashing.reportJson (validate hashing run policy)) =
      hashing.sha256 (hashing.reportJson (validate hashing run' policy'))) :
    validate hashing run policy = validate hashing run' policy' :=
  h.reportJson (h.sha256 _ (by simp [hashedBytes]) _ (by simp [hashedBytes]) heq)

theorem CollisionFree.record_inj (h : CollisionFree hashing run policy run' policy')
    (hrecord : record ∈ run.records) (hrecord' : record' ∈ run'.records)
    (heq : computeRecordHash hashing (run.recordMaterial record) =
      computeRecordHash hashing (run'.recordMaterial record')) :
    run.recordMaterial record = run'.recordMaterial record' := by
  have hmaterial : run.recordMaterial record ∈ recordMaterials run := List.mem_map_of_mem hrecord
  have hmaterial' : run'.recordMaterial record' ∈ recordMaterials run' := List.mem_map_of_mem hrecord'
  refine h.recordJson _ hmaterial _ hmaterial' (h.sha256 _ ?_ _ ?_ heq)
  · exact List.mem_cons_of_mem _ (List.mem_cons_of_mem _ (List.mem_cons_of_mem _
      (List.mem_append_left _ (List.mem_map_of_mem hmaterial))))
  · exact List.mem_cons_of_mem _ (List.mem_cons_of_mem _ (List.mem_cons_of_mem _
      (List.mem_append_left _ (List.mem_map_of_mem hmaterial'))))

theorem CollisionFree.seal_inj (h : CollisionFree hashing run policy run' policy')
    {material material' : SealHashMaterial} (hmaterial : material ∈ sealMaterials hashing run policy)
    (hmaterial' : material' ∈ sealMaterials hashing run' policy')
    (heq : computeSealHash hashing material = computeSealHash hashing material') :
    material = material' := by
  refine h.sealJson _ hmaterial _ hmaterial' (h.sha256 _ ?_ _ ?_ heq)
  · exact List.mem_cons_of_mem _ (List.mem_cons_of_mem _ (List.mem_cons_of_mem _
      (List.mem_append_right _ (List.mem_map_of_mem hmaterial))))
  · exact List.mem_cons_of_mem _ (List.mem_cons_of_mem _ (List.mem_cons_of_mem _
      (List.mem_append_right _ (List.mem_map_of_mem hmaterial'))))

/-- A record is what its digest is computed from, and the digest. -/
theorem record_eq (hmaterial : run.recordMaterial record = run'.recordMaterial record')
    (hdigest : record.recordSha256 = record'.recordSha256) : record = record' := by
  obtain ⟨sequence, observedAtUnixMs, previous, digest, event⟩ := record
  obtain ⟨sequence', observedAtUnixMs', previous', digest', event'⟩ := record'
  injection hmaterial with _ _ _ hsequence hobserved hprevious hevent
  subst hsequence hobserved hprevious hevent hdigest
  rfl

end Digests

section Sealed

theorem CollisionFree.binds (h : CollisionFree hashing run policy run' policy') :
    recordChain.Binds (fun record => computeRecordHash hashing (run.recordMaterial record))
      (fun record => computeRecordHash hashing (run'.recordMaterial record)) run.records
      run'.records := by
  intro record hrecord record' hrecord' heq
  have hmaterial := h.record_inj hrecord hrecord' heq
  exact ⟨congrArg RecordHashMaterial.previousRecordSha256 hmaterial, record_eq hmaterial⟩

/-- Runs with the digests of their headers and of their last records in common are the same. -/
theorem run_eq (h : CollisionFree hashing run policy run' policy')
    (hclean : Clean hashing run policy) (hclean' : Clean hashing run' policy')
    (hcontext : run.runContextSha256 = run'.runContextSha256)
    (hlast : run.records.getLast?.map ProvenanceRecord.recordSha256 =
      run'.records.getLast?.map ProvenanceRecord.recordSha256) : run = run' := by
  have hrecords : run.records = run'.records :=
    hclean.chain.eq_of_getLast hclean'.chain h.binds hlast
  have hheader : run.toRunHeader = run'.toRunHeader := by
    refine h.context_inj ?_
    rw [hclean.context, hclean'.context, hcontext]
  obtain ⟨header, context, records⟩ := run
  obtain ⟨header', context', records'⟩ := run'
  obtain rfl : header = header' := hheader
  obtain rfl : context = context' := hcontext
  obtain rfl : records = records' := hrecords
  rfl

theorem sealed_eq (hfree : CollisionFree hashing run policy run' policy')
    {sealed sealed' : SealedRunProvenance} (h : sealRun hashing run policy = .ok sealed)
    (h' : sealRun hashing run' policy' = .ok sealed')
    (heq : sealed.sealedRunSha256 = sealed'.sealedRunSha256) : sealed = sealed' := by
  obtain ⟨hvalid, terminal, hterminal, rfl⟩ := sealRun_eq_ok h
  obtain ⟨hvalid', terminal', hterminal', rfl⟩ := sealRun_eq_ok h'
  have hclean := clean_of_validate hvalid
  have hclean' := clean_of_validate hvalid'
  have hmaterial := hfree.seal_inj (by simp [sealMaterials, hterminal])
    (by simp [sealMaterials, hterminal']) heq
  injection hmaterial with _ _ hcontext _ hlast _ hpolicy hreport
  obtain rfl : run = run' := by
    refine run_eq hfree hclean hclean' hcontext ?_
    rw [hterminal, hterminal', Option.map_some, Option.map_some, hlast]
  obtain rfl : policy = policy' :=
    ValidationPolicy.bytes_inj hclean.checkCount hclean'.checkCount (hfree.policy_inj hpolicy)
  obtain rfl : terminal = terminal' := Option.some.inj (hterminal.symm.trans hterminal')
  rfl

end Sealed

section Tampering

/-- The digests are not recomputed: a record whose digest fits its contents has a digest from the run. -/
def Unrecomputed (hashing : Hashing) (run tampered : RunProvenance) : Prop :=
  ∀ record ∈ tampered.records,
    computeRecordHash hashing (tampered.recordMaterial record) = record.recordSha256 →
      record.recordSha256 ∈ run.records.map ProvenanceRecord.recordSha256

/-- Whatever is changed, inserted, removed or put in another order under the digests of the run. -/
theorem unrecomputed_of_subset {tampered : RunProvenance}
    (h : tampered.records.map ProvenanceRecord.recordSha256 ⊆
      run.records.map ProvenanceRecord.recordSha256) : Unrecomputed hashing run tampered :=
  fun _ hmem _ => h (List.mem_map_of_mem hmem)

/-- Clean logs that share digests share a header, and one is a prefix of the other. -/
theorem prefix_of_unrecomputed {tampered : RunProvenance}
    (hfree : CollisionFree hashing run policy tampered policy')
    (hclean : Clean hashing run policy) (hclean' : Clean hashing tampered policy')
    (h : Unrecomputed hashing run tampered) :
    tampered.toRunHeader = run.toRunHeader ∧ tampered.runContextSha256 = run.runContextSha256 ∧
      tampered.records <+: run.records := by
  have hshared : ∀ record ∈ tampered.records, ∃ original ∈ run.records, original = record ∧
      run.recordMaterial original = tampered.recordMaterial record := by
    intro record hrecord
    have hfits := hclean'.chain.computed_eq hrecord
    obtain ⟨original, horiginal, hdigest⟩ := List.mem_map.mp (h record hrecord hfits)
    have hmaterial : run.recordMaterial original = tampered.recordMaterial record := by
      refine hfree.record_inj horiginal hrecord ?_
      rw [hfits, hclean.chain.computed_eq horiginal]
      exact hdigest
    exact ⟨original, horiginal, record_eq hmaterial hdigest, hmaterial⟩
  have hsubset : tampered.records ⊆ run.records := by
    intro record hrecord
    obtain ⟨original, horiginal, rfl, -⟩ := hshared record hrecord
    exact horiginal
  have hprefix : tampered.records <+: run.records :=
    hclean.chain.prefix_of_subset hclean'.chain hsubset
  obtain ⟨first, hfirst⟩ := List.exists_mem_of_ne_nil _ hclean'.nonempty
  obtain ⟨original, -, -, hmaterial⟩ := hshared first hfirst
  have hcontext : run.runContextSha256 = tampered.runContextSha256 :=
    congrArg RecordHashMaterial.runContextSha256 hmaterial
  refine ⟨?_, hcontext.symm, hprefix⟩
  refine (hfree.context_inj ?_).symm
  rw [hclean.context, hclean'.context, hcontext]

end Tampering

/-- Equal seal digests come from equal runs, policies and reports; and a log free of structural violations
cannot be tampered with, but for its last records left out, without one being reported. -/
theorem seal_binds (hfree : CollisionFree hashing run policy run' policy') :
    (∀ sealed sealed', sealRun hashing run policy = .ok sealed →
      sealRun hashing run' policy' = .ok sealed' →
      sealed.sealedRunSha256 = sealed'.sealedRunSha256 → sealed = sealed') ∧
    ((validate hashing run policy).hasStructuralViolations = false →
      Unrecomputed hashing run run' →
      (run'.toRunHeader ≠ run.toRunHeader ∨ run'.runContextSha256 ≠ run.runContextSha256 ∨
        ¬run'.records <+: run.records) →
      (validate hashing run' policy').hasStructuralViolations = true) := by
  refine ⟨fun _ _ h h' heq => sealed_eq hfree h h' heq, ?_⟩
  intro hclean hdigests htampered
  by_contra hclean'
  rw [Bool.not_eq_true] at hclean'
  obtain ⟨hheader, hcontext, hprefix⟩ :=
    prefix_of_unrecomputed hfree (clean_of_validate hclean) (clean_of_validate hclean') hdigests
  rcases htampered with hother | hother | hother
  · exact hother hheader
  · exact hother hcontext
  · exact hother hprefix

section Sample

/-- The sample digests, with seals and reports told apart by the violations of the report. -/
def countingHashing : Hashing :=
  { sampleHashing with
    sealJson := fun material => 3 :: material.reportSha256.bytes
    reportJson := fun report => 4 :: beBytes 4 report.violations.length }

/-- The accepted run without its first record. -/
def beheadedRun : RunProvenance := { acceptedRun with records := acceptedRun.records.tail }

/-- The digests tell the two runs apart, the accepted run is free of structural violations, and the
beheaded one is no prefix of it. -/
theorem beheadedRun_told :
    CollisionFree countingHashing acceptedRun samplePolicy beheadedRun samplePolicy ∧
    (validate countingHashing acceptedRun samplePolicy).hasStructuralViolations = false ∧
    ¬beheadedRun.records <+: acceptedRun.records := by
  -- one evaluation of the runs decides all that is asked of them
  obtain ⟨hsha256, hrecord, hseal, hreport, hclean, hprefix⟩ :
      (∀ bytes ∈ hashedBytes countingHashing acceptedRun samplePolicy,
        ∀ bytes' ∈ hashedBytes countingHashing beheadedRun samplePolicy,
          countingHashing.sha256 bytes = countingHashing.sha256 bytes' → bytes = bytes') ∧
      (∀ material ∈ recordMaterials acceptedRun, ∀ material' ∈ recordMaterials beheadedRun,
        countingHashing.recordJson material = countingHashing.recordJson material' →
          material = material') ∧
      (∀ material ∈ sealMaterials countingHashing acceptedRun samplePolicy,
        ∀ material' ∈ sealMaterials countingHashing beheadedRun samplePolicy,
          countingHashing.sealJson material = countingHashing.sealJson material' →
            material = material') ∧
      (countingHashing.reportJson (validate countingHashing acceptedRun samplePolicy) =
          countingHashing.reportJson (validate countingHashing beheadedRun samplePolicy) →
        validate countingHashing acceptedRun samplePolicy =
          validate countingHashing beheadedRun samplePolicy) ∧
      (validate countingHashing acceptedRun samplePolicy).hasStructuralViolations = false ∧
      ¬beheadedRun.records <+: acceptedRun.records := by
    decide +kernel
  exact ⟨⟨hsha256, fun _ => rfl, hrecord, hseal, hreport⟩, hclean, hprefix⟩

theorem seal_binds_sample :
    (∀ sealed sealed', sealRun countingHashing acceptedRun samplePolicy = .ok sealed →
      sealRun countingHashing beheadedRun samplePolicy = .ok sealed' →
      sealed.sealedRunSha256 = sealed'.sealedRunSha256 → sealed = sealed') ∧
    (validate countingHashing beheadedRun samplePolicy).hasStructuralViolations = true := by
  obtain ⟨hfree, hclean, hprefix⟩ := beheadedRun_told
  have hbinds := seal_binds hfree
  refine ⟨hbinds.1, hbinds.2 hclean ?_ (Or.inr (Or.inr hprefix))⟩
  exact unrecomputed_of_subset (List.map_subset _ (List.tail_subset acceptedRun.records))

end Sample

end BirdCode.Validation
