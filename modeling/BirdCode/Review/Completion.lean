import BirdCode.Review.Coverage

/-! A repair completes exactly what is missing: preparing one shows that uncovered requirements are all
that is wrong with a candidate, and applying one adds an entry for each of them and nothing else. -/
namespace BirdCode.Review

open Std

variable {encoding : RepairEncoding} {input : RepositoryReviewInput}
  {invocation : PromptInvocation encoding.Value} {compiled : encoding.CompiledPrompt}
  {candidate other repaired : RepositoryReviewOutput}
  {parentRawTextSha256 parentResponseArtifactSha256 : String}
  {prepared : PreparedMissingEvidenceRepair encoding} {patch : MissingEvidenceRepairOutput}
  {policy : RepositoryReviewPolicy}

section Validating

/-- The contract of a subject: its invocation carries a sound policy, which the output meets. -/
def MeetsContract (encoding : ReviewEncoding) (invocation : PromptInvocation encoding.Value)
    (output : RepositoryReviewOutput) : Prop :=
  ∃ policy, invocationPolicy encoding invocation = some policy ∧ contractViolations policy output = []

theorem validateRepositoryReviewOutput_eq_ok {encoding : ReviewEncoding}
    {invocation : PromptInvocation encoding.Value} {output : RepositoryReviewOutput} :
    validateRepositoryReviewOutput encoding (encoding.output.write output) invocation = .ok () ↔
      MeetsContract encoding invocation output := by
  simp only [validateRepositoryReviewOutput, bind_eq_ok, expect_eq_ok, ensure_eq_ok,
    encoding.output.read_write, MeetsContract]
  constructor
  · rintro ⟨policy, hpolicy, read, hread, hviolations⟩
    cases hread
    exact ⟨policy, hpolicy, hviolations⟩
  · rintro ⟨policy, hpolicy, hviolations⟩
    exact ⟨policy, hpolicy, output, rfl, hviolations⟩

/-- Under the reviewer's prompt the registry checks the whole contract. -/
theorem meetsContract_of_validateOutput (hreviewer : encoding.prompt compiled = repositoryReviewerKey)
    (h : validateOutput encoding compiled invocation (encoding.output.write repaired) = .ok ()) :
    MeetsContract encoding.toReviewEncoding invocation repaired := by
  rw [validateOutput, bind_eq_ok] at h
  obtain ⟨-, -, h⟩ := h
  rw [if_pos hreviewer] at h
  split at h
  · cases h
  · next hok => exact validateRepositoryReviewOutput_eq_ok.mp hok

end Validating

section Slots

theorem notMem_of_missingEvidenceIdFrom {requirement : RepositoryReviewRequirementRef}
    {taken : List String} {fuel counter : ℕ} {id : String}
    (h : missingEvidenceIdFrom encoding parentRawTextSha256 requirement taken fuel counter = some id) :
    id ∉ taken := by
  induction fuel generalizing counter with
  | zero => cases h
  | succ fuel ih =>
    rw [missingEvidenceIdFrom] at h
    split at h
    · next hnew =>
      cases h
      exact hnew
    · exact ih h

/-- What the slots say of the assessments they were made for. -/
structure SlotsFor (existing generated : List String) (index : ℕ)
    (assessments : List RepositoryReviewRequirementAssessment)
    (slots : List MissingEvidenceRepairSlot) : Prop where
  requirements : slots.map (·.requirement) = assessments.map (·.requirement)
  slotIds : slots.map (·.slotId) = (List.range' index assessments.length).map slotIdAt
  nodup : (slots.map (·.missingEvidenceId)).Nodup
  fresh : ∀ slot ∈ slots, slot.missingEvidenceId ∉ existing ∧ slot.missingEvidenceId ∉ generated

theorem slotsFor_of_repairSlots {texts : BTreeMap RepositoryReviewRequirementRef String}
    {existing generated : List String} {index : ℕ}
    {assessments : List RepositoryReviewRequirementAssessment}
    {contexts : List MissingEvidenceRepairContext} {slots : List MissingEvidenceRepairSlot}
    (h : repairSlots encoding texts parentRawTextSha256 existing index generated assessments =
      .ok (contexts, slots)) : SlotsFor existing generated index assessments slots := by
  induction assessments generalizing index generated contexts slots with
  | nil =>
    cases h
    exact ⟨rfl, rfl, List.nodup_nil, by simp⟩
  | cons assessment rest ih =>
    simp only [repairSlots, bind_eq_ok, expect_eq_ok] at h
    obtain ⟨text, -, id, hid, ⟨restContexts, restSlots⟩, hrest, heq⟩ := h
    cases heq
    have hslots := ih hrest
    have hnew := notMem_of_missingEvidenceIdFrom hid
    rw [List.mem_append, not_or] at hnew
    refine ⟨?_, ?_, ?_, ?_⟩
    · rw [List.map_cons, List.map_cons, hslots.requirements]
    · rw [List.map_cons, List.length_cons, List.range'_succ, List.map_cons, hslots.slotIds]
    · refine List.nodup_cons.mpr ⟨?_, hslots.nodup⟩
      intro hmem
      obtain ⟨slot, hslot, heq⟩ := List.mem_map.mp hmem
      exact (hslots.fresh slot hslot).2 (heq ▸ List.mem_cons_self)
    · intro slot hslot
      rcases List.mem_cons.mp hslot with rfl | hslot
      · exact hnew
      · have hfresh := hslots.fresh slot hslot
        exact ⟨hfresh.1, fun hmem => hfresh.2 (List.mem_cons_of_mem _ hmem)⟩

theorem ofDigitChars_replicate_zero (count : ℕ) (digits : List Char) :
    Nat.ofDigitChars 10 (List.replicate count '0' ++ digits) 0 = Nat.ofDigitChars 10 digits 0 := by
  induction count with
  | zero => rfl
  | succ count ih => rw [List.replicate_succ, List.cons_append, Nat.ofDigitChars_cons, ← ih]; rfl

/-- Slots have distinct names, however many digits their numbers have. -/
theorem slotIdAt_injective : Function.Injective slotIdAt := by
  intro index index' h
  have hdigits := String.ofList_injective (String.append_right_inj _ |>.mp h)
  have hvalue := congrArg (Nat.ofDigitChars 10 · 0) hdigits
  simp only [ofDigitChars_replicate_zero, Nat.ofDigitChars_ten_toDigits] at hvalue
  omega

end Slots

section Preparing

/-- What a preparation that succeeded has checked, and what it commits to. -/
structure PreparedFor (invocation : PromptInvocation encoding.Value)
    (candidate : RepositoryReviewOutput) (parentRawTextSha256 parentResponseArtifactSha256 : String)
    (prepared : PreparedMissingEvidenceRepair encoding) : Prop where
  inconclusive : candidate.verdict = .inconclusive
  uncovered : candidate.uncovered ≠ []
  slots : SlotsFor candidate.missingEvidenceIds [] 0 candidate.uncovered prepared.policy.slots
  probe : MeetsContract encoding.toReviewEncoding invocation
    (eligibilityProbe candidate prepared.policy.slots)
  policy : prepared.policy = repairPolicyFor encoding candidate parentRawTextSha256
    parentResponseArtifactSha256 prepared.policy.slots

theorem preparedFor_of_prepare
    (h : prepareRepositoryReviewMissingEvidenceRepair encoding input invocation compiled candidate
      parentRawTextSha256 parentResponseArtifactSha256 = .ok prepared) :
    PreparedFor invocation candidate parentRawTextSha256 parentResponseArtifactSha256 prepared := by
  simp only [prepareRepositoryReviewMissingEvidenceRepair, bind_eq_ok, ensure_eq_ok, expect_eq_ok,
    validateRepositoryReviewOutput_eq_ok] at h
  obtain ⟨-, hverdict, -, -, -, -, -, huncovered, ⟨contexts, slots⟩, hslots, -, hprobe, repairPrompt,
    -, heq⟩ := h
  cases heq
  exact ⟨hverdict.1, huncovered, slotsFor_of_repairSlots hslots, hprobe.2, rfl⟩

/-- The uncovered requirements are reported, and the verdict's shape only because nothing is missing. -/
def OnlyUncovered (policy : RepositoryReviewPolicy) (candidate : RepositoryReviewOutput) : Prop :=
  (contractViolations policy candidate).Perm
    ((candidate.uncovered.map fun assessment =>
      .missingEvidenceCoverage assessment.requirement.requirementId) ++
    report (candidate.missingEvidence = []) .verdictShape)

theorem shaped_of_inconclusive (hverdict : candidate.verdict = .inconclusive)
    (huncovered : candidate.uncovered ≠ []) :
    candidate.shaped = !candidate.missingEvidence.isEmpty := by
  obtain ⟨assessment, hassessment⟩ := List.exists_mem_of_ne_nil _ huncovered
  obtain ⟨hmem, hopen⟩ := List.mem_filter.mp hassessment
  have hany : candidate.requirementAssessments.any (·.status = .notEvaluable) = true :=
    List.any_eq_true.mpr ⟨assessment, hmem, (Bool.and_eq_true_iff.mp hopen).1⟩
  rw [RepositoryReviewOutput.shaped, hverdict]
  simp only [hany, Bool.true_and]

theorem onlyUncovered_of_probe {slots : List MissingEvidenceRepairSlot}
    (hverdict : candidate.verdict = .inconclusive) (huncovered : candidate.uncovered ≠ [])
    (hprobe : contractViolations policy (eligibilityProbe candidate slots) = []) :
    OnlyUncovered policy candidate := by
  obtain ⟨hmeets, hentries, -, -⟩ := contractViolations_eq_nil.mp hprobe
  have hmeets : MeetsOtherwise policy candidate := hmeets.of_withMissingEvidence
  obtain ⟨hall, hnodup, -⟩ := missingEvidenceViolations_eq_nil.mp hentries
  -- The entries of the candidate come first in the probe, so they are acceptable by themselves.
  have hown : missingEvidenceViolations policy [] candidate.missingEvidence = [] := by
    refine missingEvidenceViolations_eq_nil.mpr ⟨?_, ?_, by simp⟩
    · exact fun missing hmem => hall missing (List.mem_append_left _ hmem)
    · exact hnodup.sublist ((List.sublist_append_left _ _).map _)
  rw [OnlyUncovered, hmeets.contractViolations_eq hown, shaped_of_inconclusive hverdict huncovered]
  have hshape : report ((!!candidate.missingEvidence.isEmpty) = true)
        RepositoryReviewInvariantViolation.verdictShape =
      report (candidate.missingEvidence = []) .verdictShape := by
    simp [report]
  rw [hshape]
  exact (coverageViolations_perm hmeets.nodup_requirements).append_right _

end Preparing

section Applying

theorem of_completionViolations {slots : List MissingEvidenceRepairSlot} {index : ℕ}
    {seen : List String} {completions : List MissingEvidenceCompletion}
    (h : completionViolations slots index seen completions = []) :
    (∀ i, ∀ completion, completions[i]? = some completion →
      slots[index + i]?.map (·.slotId) = some completion.slotId) := by
  induction completions generalizing index seen with
  | nil => simp
  | cons completion rest ih =>
    rw [completionViolations, List.append_eq_nil_iff, List.append_eq_nil_iff, report_eq_nil,
      report_eq_nil, not_not] at h
    obtain ⟨⟨-, hordered⟩, hrest⟩ := h
    intro i found hfound
    cases i with
    | zero =>
      cases hfound
      exact hordered
    | succ i =>
      have := ih hrest i found hfound
      rwa [Nat.add_right_comm] at this

/-- A patch that is not refused completes the slots, each once and in order. -/
theorem slotIds_of_patchViolations
    (h : patchViolations encoding candidate prepared.policy patch = []) :
    patch.completions.map (·.slotId) = prepared.policy.slots.map (·.slotId) := by
  simp only [patchViolations, collect_eq_nil, List.forall_mem_cons, report_eq_nil, not_not] at h
  obtain ⟨-, hlength, hordered, -, -⟩ := h
  refine List.ext_getElem? fun i => ?_
  rw [List.getElem?_map, List.getElem?_map]
  cases hget : patch.completions[i]? with
  | some completion =>
    have := of_completionViolations hordered i completion hget
    rw [Nat.zero_add] at this
    exact this.symm
  | none =>
    have hlong : prepared.policy.slots[i]? = none := by
      rw [List.getElem?_eq_none_iff, ← hlength]
      exact List.getElem?_eq_none_iff.mp hget
    rw [hlong]
    rfl

/-- What an application that succeeded returns, and what it has checked. -/
theorem applyRepair_eq_ok
    (h : applyRepositoryReviewMissingEvidenceRepair encoding candidate invocation compiled prepared
      patch = .ok repaired) :
    patchViolations encoding candidate prepared.policy patch = [] ∧
      repaired = candidate.withMissingEvidence
        (candidate.missingEvidence ++ completedEntries prepared.policy.slots patch.completions) ∧
      validateOutput encoding compiled invocation (encoding.output.write repaired) = .ok () := by
  rw [applyRepositoryReviewMissingEvidenceRepair, bind_eq_ok] at h
  obtain ⟨_, hensured, h⟩ := h
  have hviolations := ensure_eq_ok.mp hensured
  dsimp only at h
  split at h
  · cases h
  · next hvalid =>
    obtain ⟨_, _, heq⟩ := bind_eq_ok.mp h
    cases heq
    exact ⟨hviolations, rfl, hvalid⟩

/-- The digests of a prepared repair tell its candidate from this other one. -/
structure CollisionFree (encoding : RepairEncoding) (candidate other : RepositoryReviewOutput) :
    Prop where
  projection : encoding.sha256 (encoding.outputJson (other.withMissingEvidence [])) =
      encoding.sha256 (encoding.outputJson (candidate.withMissingEvidence [])) →
    encoding.outputJson (other.withMissingEvidence []) =
      encoding.outputJson (candidate.withMissingEvidence [])
  missingEvidence : encoding.sha256 (encoding.missingEvidenceJson other.missingEvidence) =
      encoding.sha256 (encoding.missingEvidenceJson candidate.missingEvidence) →
    encoding.missingEvidenceJson other.missingEvidence =
      encoding.missingEvidenceJson candidate.missingEvidence
  outputJson : encoding.outputJson (other.withMissingEvidence []) =
      encoding.outputJson (candidate.withMissingEvidence []) →
    other.withMissingEvidence [] = candidate.withMissingEvidence []
  missingEvidenceJson : encoding.missingEvidenceJson other.missingEvidence =
      encoding.missingEvidenceJson candidate.missingEvidence →
    other.missingEvidence = candidate.missingEvidence

theorem digest_eq_of_value {digest digest' : Store.Sha256Digest} (h : digest.value = digest'.value) :
    digest = digest' := by
  cases digest
  cases digest'
  cases h
  rfl

theorem eq_of_withMissingEvidence
    (hprojection : other.withMissingEvidence [] = candidate.withMissingEvidence [])
    (hmissing : other.missingEvidence = candidate.missingEvidence) : other = candidate := by
  calc
    other = (other.withMissingEvidence []).withMissingEvidence other.missingEvidence := rfl
    _ = (candidate.withMissingEvidence []).withMissingEvidence candidate.missingEvidence := by
      rw [hprojection, hmissing]
    _ = candidate := rfl

/-- A patch is not refused for the candidate it was prepared for only. -/
theorem eq_of_patchViolations (hfree : CollisionFree encoding candidate other)
    (hprepared : PreparedFor invocation candidate parentRawTextSha256 parentResponseArtifactSha256
      prepared)
    (h : patchViolations encoding other prepared.policy patch = []) : other = candidate := by
  simp only [patchViolations, collect_eq_nil, List.forall_mem_cons, report_eq_nil, not_or,
    not_not] at h
  obtain ⟨-, -, -, ⟨hprojection, hmissing⟩, -⟩ := h
  rw [hprepared.policy] at hprojection hmissing
  exact eq_of_withMissingEvidence
    (hfree.outputJson (hfree.projection (digest_eq_of_value hprojection)))
    (hfree.missingEvidenceJson (hfree.missingEvidence (digest_eq_of_value hmissing)))

end Applying

section Completing

/-- The entries added to a candidate: one for each uncovered requirement, in the order of the
assessments, under identities that differ from each other and from every other. -/
structure Completed (candidate repaired : RepositoryReviewOutput)
    (added : List RepositoryReviewMissingEvidence) : Prop where
  appended : repaired = candidate.withMissingEvidence (candidate.missingEvidence ++ added)
  requirements : added.map (·.requirementRefs) =
    candidate.uncovered.map fun assessment => [assessment.requirement]
  once : (candidate.uncovered.map (·.requirement)).Nodup
  distinct : repaired.missingEvidenceIds.Nodup

theorem map_completedEntries {T : Type} {slots : List MissingEvidenceRepairSlot}
    {completions : List MissingEvidenceCompletion} (f : MissingEvidenceRepairSlot → T)
    (g : RepositoryReviewMissingEvidence → T) (hfg : ∀ slot text, g (slot.entry text) = f slot)
    (h : completions.length = slots.length) :
    (completedEntries slots completions).map g = slots.map f := by
  rw [completedEntries, List.map_map]
  calc
    (slots.zip completions).map (g ∘ fun pair => pair.1.entry pair.2.description)
        = (slots.zip completions).map (f ∘ Prod.fst) :=
      List.map_congr_left fun pair _ => hfg pair.1 pair.2.description
    _ = ((slots.zip completions).map Prod.fst).map f := by rw [List.map_map]
    _ = slots.map f := by rw [List.map_fst_zip h.ge]

theorem descriptions_completedEntries {slots : List MissingEvidenceRepairSlot}
    {completions : List MissingEvidenceCompletion} (h : completions.length = slots.length) :
    (completedEntries slots completions).map (·.description) = completions.map (·.description) := by
  rw [completedEntries, List.map_map]
  calc
    (slots.zip completions).map
          ((·.description) ∘ fun pair => pair.1.entry pair.2.description)
        = ((slots.zip completions).map Prod.snd).map (·.description) := by
      rw [List.map_map]
      rfl
    _ = completions.map (·.description) := by rw [List.map_snd_zip h.le]

/-- Filling every slot completes a candidate, whatever the descriptions are. -/
theorem completed_of_completions
    (hprepared : PreparedFor invocation candidate parentRawTextSha256 parentResponseArtifactSha256
      prepared)
    (hlength : patch.completions.length = prepared.policy.slots.length) :
    Completed candidate
      (candidate.withMissingEvidence (candidate.missingEvidence ++
        completedEntries prepared.policy.slots patch.completions))
      (completedEntries prepared.policy.slots patch.completions) := by
  obtain ⟨policy, -, hviolations⟩ := hprepared.probe
  obtain ⟨hmeets, hentries, -, -⟩ := contractViolations_eq_nil.mp hviolations
  have hmeets : MeetsOtherwise policy candidate := hmeets.of_withMissingEvidence
  have hexisting : candidate.missingEvidenceIds.Nodup :=
    (missingEvidenceViolations_eq_nil.mp hentries).2.1.sublist
      ((List.sublist_append_left _ _).map _)
  have hids := map_completedEntries (·.missingEvidenceId) (·.missingEvidenceId) (fun _ _ => rfl)
    hlength
  refine ⟨rfl, ?_, nodup_uncovered hmeets.nodup_requirements, ?_⟩
  · rw [map_completedEntries (fun slot => [slot.requirement]) _ (fun _ _ => rfl) hlength]
    have hrequirements := congrArg (List.map fun requirement => [requirement])
      hprepared.slots.requirements
    rwa [List.map_map, List.map_map] at hrequirements
  · change ((candidate.missingEvidence ++ completedEntries prepared.policy.slots
      patch.completions).map (·.missingEvidenceId)).Nodup
    rw [List.map_append, hids, List.nodup_append']
    refine ⟨hexisting, hprepared.slots.nodup, ?_⟩
    intro id hid hslot
    obtain ⟨slot, hmem, rfl⟩ := List.mem_map.mp hslot
    exact (hprepared.slots.fresh slot hmem).1 hid

/-- Applying a patch to some candidate of the subject it was prepared for. -/
structure Applied (invocation : PromptInvocation encoding.Value) (compiled : encoding.CompiledPrompt)
    (candidate : RepositoryReviewOutput) (prepared : PreparedMissingEvidenceRepair encoding)
    (other : RepositoryReviewOutput) (patch : MissingEvidenceRepairOutput)
    (repaired : RepositoryReviewOutput) : Prop where
  same : other = candidate
  slots : patch.completions.map (·.slotId) = prepared.policy.slots.map (·.slotId)
  completed : ∃ added, Completed candidate repaired added ∧
    added.map (·.description) = patch.completions.map (·.description)
  contract : MeetsContract encoding.toReviewEncoding invocation repaired
  valid : validateOutput encoding compiled invocation (encoding.output.write repaired) = .ok ()

theorem applied_of_apply (hreviewer : encoding.prompt compiled = repositoryReviewerKey)
    (hfree : CollisionFree encoding candidate other)
    (hprepared : PreparedFor invocation candidate parentRawTextSha256 parentResponseArtifactSha256
      prepared)
    (h : applyRepositoryReviewMissingEvidenceRepair encoding other invocation compiled prepared
      patch = .ok repaired) :
    Applied invocation compiled candidate prepared other patch repaired := by
  obtain ⟨hviolations, hrepaired, hvalid⟩ := applyRepair_eq_ok h
  have hsame := eq_of_patchViolations hfree hprepared hviolations
  have hslots := slotIds_of_patchViolations hviolations
  have hlength : patch.completions.length = prepared.policy.slots.length := by
    simpa using congrArg List.length hslots
  subst hsame
  refine ⟨rfl, hslots, ⟨_, ?_, descriptions_completedEntries hlength⟩,
    meetsContract_of_validateOutput hreviewer hvalid, hvalid⟩
  rw [hrepaired]
  exact completed_of_completions hprepared hlength

/-- A repair that is prepared shows that uncovered requirements are all that is wrong with its
candidate, and it can only be applied to that candidate, by a patch that completes its slots one by
one; then it adds the missing entries, and what it returns meets the contract of the subject. -/
theorem repair_completes (encoding : RepairEncoding) (input : RepositoryReviewInput)
    (invocation : PromptInvocation encoding.Value) (compiled : encoding.CompiledPrompt)
    (candidate : RepositoryReviewOutput) (parentRawTextSha256 parentResponseArtifactSha256 : String)
    (prepared : PreparedMissingEvidenceRepair encoding)
    (hreviewer : encoding.prompt compiled = repositoryReviewerKey)
    (hprepare : prepareRepositoryReviewMissingEvidenceRepair encoding input invocation compiled
      candidate parentRawTextSha256 parentResponseArtifactSha256 = .ok prepared) :
    (candidate.uncovered ≠ [] ∧ ∃ policy,
      invocationPolicy encoding.toReviewEncoding invocation = some policy ∧
      OnlyUncovered policy candidate) ∧
    (prepared.policy.slots.map (·.slotId)).Nodup ∧
    ∀ other patch, CollisionFree encoding candidate other →
      (∀ repaired, applyRepositoryReviewMissingEvidenceRepair encoding other invocation compiled
          prepared patch = .ok repaired →
        Applied invocation compiled candidate prepared other patch repaired) ∧
      (other ≠ candidate ∨
          patch.completions.map (·.slotId) ≠ prepared.policy.slots.map (·.slotId) →
        ∃ violations, applyRepositoryReviewMissingEvidenceRepair encoding other invocation compiled
          prepared patch = .error violations) := by
  have hprepared := preparedFor_of_prepare hprepare
  obtain ⟨policy, hpolicy, hprobe⟩ := hprepared.probe
  refine ⟨⟨hprepared.uncovered, policy, hpolicy, onlyUncovered_of_probe hprepared.inconclusive
    hprepared.uncovered hprobe⟩, ?_, ?_⟩
  · rw [hprepared.slots.slotIds]
    exact List.Nodup.map slotIdAt_injective List.nodup_range'
  · intro other patch hfree
    have happlied : ∀ repaired, applyRepositoryReviewMissingEvidenceRepair encoding other invocation
        compiled prepared patch = .ok repaired →
        Applied invocation compiled candidate prepared other patch repaired :=
      fun repaired h => applied_of_apply hreviewer hfree hprepared h
    refine ⟨happlied, ?_⟩
    intro hwrong
    cases hresult : applyRepositoryReviewMissingEvidenceRepair encoding other invocation compiled
        prepared patch with
    | error violations => exact ⟨violations, rfl⟩
    | ok repaired =>
      have happly := happlied repaired hresult
      rcases hwrong with hother | hslots
      · exact absurd happly.same hother
      · exact absurd happly.slots hslots

end Completing

section Samples

/-- A JSON document that knows what was written. -/
inductive SampleValue
  | source (value : RepositoryReviewSourceInput)
  | requirements (value : List RepositoryReviewRequirementInput)
  | candidateArtifacts (value : RepositoryReviewCandidateArtifactsInput)
  | producerClaim (value : RepositoryReviewProducerClaimInput)
  | policy (value : RepositoryReviewPolicy)
  | output (value : RepositoryReviewOutput)
  | repairInput (value : MissingEvidenceRepairInput)
  | repairPolicy (value : MissingEvidenceRepairPolicy)
  | patch (value : MissingEvidenceRepairOutput)
  deriving DecidableEq

theorem sampleDigit_valid : ∀ digit : Fin 16,
    validSha256 (String.ofList (List.replicate 64 (Nat.digitChar digit))) = true := by
  have hdigits : ∀ digit : Fin 16,
      ((List.replicate 64 (Nat.digitChar digit)).map Char.utf8Size).sum = 64 ∧
      (List.replicate 64 (Nat.digitChar digit)).all
        fun c => ('0' ≤ c && c ≤ '9') || ('a' ≤ c && c ≤ 'f') := by
    decide
  exact fun digit => validSha256_ofList (hdigits digit).1 (hdigits digit).2

/-- One hexadecimal digit, repeated, for the sum of the bytes. -/
def sampleSha256 (bytes : List UInt8) : Store.Sha256Digest :=
  ⟨_, sampleDigit_valid (Fin.ofNat 16 (bytes.map UInt8.toNat).sum)⟩

def textBytes (text : String) : List UInt8 := text.toUTF8.data.toList

def sampleEncoding : RepairEncoding where
  Value := SampleValue
  source := ⟨.source, fun | .source value => some value | _ => none, fun _ => rfl⟩
  requirements := ⟨.requirements, fun | .requirements value => some value | _ => none, fun _ => rfl⟩
  candidateArtifacts :=
    ⟨.candidateArtifacts, fun | .candidateArtifacts value => some value | _ => none, fun _ => rfl⟩
  producerClaim :=
    ⟨.producerClaim, fun | .producerClaim value => some value | _ => none, fun _ => rfl⟩
  policy := ⟨.policy, fun | .policy value => some value | _ => none, fun _ => rfl⟩
  output := ⟨.output, fun | .output value => some value | _ => none, fun _ => rfl⟩
  sha256 := sampleSha256
  inputJson := fun input => textBytes input.source.blindSubjectId
  policyJson := fun policy => textBytes policy.visiblePayloadSha256
  CompiledPrompt := PromptKey
  prompt := id
  schemaChecked := fun _ _ _ => .ok ()
  describeViolations := fun _ => "the review violates its contract"
  compileRepair := fun _ => some ⟨"birdcode.repository-review-missing-evidence-repair", "1.0.0"⟩
  repairInput := .repairInput
  repairPolicy := .repairPolicy
  outputJson := fun output => textBytes output.summary
  missingEvidenceJson := fun entries => entries.flatMap fun missing => textBytes missing.description
  repairPolicyJson := fun policy => textBytes policy.parentRawTextSha256

def sampleRequirement (requirementId text : String) : RepositoryReviewRequirementInput where
  requirement := ⟨requirementId, repositoryReviewRequirementSha256 sampleEncoding.toReviewEncoding text⟩
  kind := .acceptanceCriterion
  text

def sampleInput : RepositoryReviewInput where
  source := ⟨"subject", .exactUtf8ReplaceArtifactReview, "runtime_identity_blinded"⟩
  requirements := [sampleRequirement "builds" "It builds.", sampleRequirement "runs" "It runs."]
  candidateArtifacts := ⟨⟨[.utf8 "main.rs"]⟩,
    [⟨.preimage, "a", true⟩, ⟨.postimage, "b", true⟩, ⟨.diff, "-a\n+b", true⟩]⟩
  producerClaim := ⟨"Replaced a by b.", [], [], []⟩

/-- The policy and the invocation of the sample input. -/
def sampleSubject : Option (RepositoryReviewPolicy × PromptInvocation SampleValue) :=
  (do
    let policy ← deriveRepositoryReviewPolicy sampleEncoding.toReviewEncoding sampleInput
    let invocation ← repositoryReviewInvocation sampleEncoding.toReviewEncoding sampleInput policy
    return (policy, invocation)).toOption

/-- Both requirements are open, and the first one is covered. -/
def sampleCandidate (policy : RepositoryReviewPolicy) (summary : String) : RepositoryReviewOutput where
  schemaVersion := 1
  bindings := ⟨policy.blindSubjectId, policy.scope, policy.visiblePayloadSha256,
    policy.reviewPolicySha256⟩
  verdict := .inconclusive
  summary
  requirementAssessments := policy.requirements.map fun requirement =>
    ⟨requirement, .notEvaluable, "The artifacts alone do not show it.", []⟩
  findings := []
  missingEvidence := [⟨"build-log", policy.requirements.take 1, "The log of a build."⟩]

def samplePatch (prepared : PreparedMissingEvidenceRepair sampleEncoding) :
    MissingEvidenceRepairOutput where
  schemaVersion := 1
  bindings := ⟨prepared.policy.blindSubjectId, prepared.policy.parentRawTextSha256,
    prepared.policy.repairPolicySha256⟩
  completions := [⟨"missing-001", "The output of a run."⟩]

def samplePrepare (subject : RepositoryReviewPolicy × PromptInvocation SampleValue) :
    Except PrepareFailure (PreparedMissingEvidenceRepair sampleEncoding) :=
  prepareRepositoryReviewMissingEvidenceRepair sampleEncoding sampleInput subject.2
    repositoryReviewerKey (sampleCandidate subject.1 "Nothing was run.") "parent" "response"

def sampleApply (subject : RepositoryReviewPolicy × PromptInvocation SampleValue) (summary : String)
    (prepared : PreparedMissingEvidenceRepair sampleEncoding) :
    Except (List MissingEvidenceRepairViolation) RepositoryReviewOutput :=
  applyRepositoryReviewMissingEvidenceRepair sampleEncoding (sampleCandidate subject.1 summary)
    subject.2 repositoryReviewerKey prepared (samplePatch prepared)

/-- The sample candidate is repairable, and its patch is applied to it. -/
def sampleRepairs : Bool :=
  match sampleSubject with
  | none => false
  | some subject =>
    match samplePrepare subject with
    | .error _ => false
    | .ok prepared => (sampleApply subject "Nothing was run." prepared).isOk

theorem exists_sample : ∃ subject prepared repaired,
    samplePrepare subject = .ok prepared ∧
    sampleApply subject "Nothing was run." prepared = .ok repaired := by
  have hrepairs : sampleRepairs = true := by decide +kernel
  unfold sampleRepairs at hrepairs
  -- nothing more is to be evaluated than was
  generalize sampleSubject = chosen at hrepairs
  split at hrepairs
  · cases hrepairs
  · next subject =>
    split at hrepairs
    · cases hrepairs
    · next prepared hprepared =>
      cases hresult : sampleApply subject "Nothing was run." prepared with
      | error violations =>
        rw [hresult] at hrepairs
        cases hrepairs
      | ok repaired => exact ⟨subject, prepared, repaired, hprepared, hresult⟩

theorem collisionFree_self : CollisionFree encoding candidate candidate :=
  ⟨fun _ => rfl, fun _ => rfl, fun _ => rfl, fun _ => rfl⟩

/-- The digests tell the two summaries apart. -/
theorem sample_collisionFree (policy : RepositoryReviewPolicy) :
    CollisionFree sampleEncoding (sampleCandidate policy "Nothing was run.")
      (sampleCandidate policy "All was run.") := by
  have hdigests : sampleSha256 (textBytes "All was run.") ≠
      sampleSha256 (textBytes "Nothing was run.") := by
    decide
  have hbytes : textBytes "All was run." ≠ textBytes "Nothing was run." :=
    fun h => hdigests (congrArg sampleSha256 h)
  exact ⟨fun h => absurd h hdigests, fun _ => rfl, fun h => absurd h hbytes, fun _ => rfl⟩

theorem repair_completes_sample : ∃ subject prepared repaired,
    samplePrepare subject = .ok prepared ∧
    sampleApply subject "Nothing was run." prepared = .ok repaired ∧
    Applied subject.2 repositoryReviewerKey (sampleCandidate subject.1 "Nothing was run.") prepared
      (sampleCandidate subject.1 "Nothing was run.") (samplePatch prepared) repaired ∧
    ∃ violations, sampleApply subject "All was run." prepared = .error violations := by
  obtain ⟨subject, prepared, repaired, hprepared, hrepaired⟩ := exists_sample
  have hcompletes := repair_completes sampleEncoding sampleInput subject.2 repositoryReviewerKey
    (sampleCandidate subject.1 "Nothing was run.") "parent" "response" prepared rfl hprepared
  have happlied := (hcompletes.2.2 _ (samplePatch prepared) collisionFree_self).1 repaired hrepaired
  have hother : sampleCandidate subject.1 "All was run." ≠
      sampleCandidate subject.1 "Nothing was run." := by
    intro h
    have hsummary : "All was run." = "Nothing was run." := congrArg RepositoryReviewOutput.summary h
    exact absurd hsummary (by decide)
  have hrefused := (hcompletes.2.2 _ (samplePatch prepared) (sample_collisionFree subject.1)).2
    (Or.inl hother)
  exact ⟨subject, prepared, repaired, hprepared, hrepaired, happlied, hrefused⟩

end Samples

end BirdCode.Review
