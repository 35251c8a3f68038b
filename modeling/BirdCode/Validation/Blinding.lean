import BirdCode.Lib.Renaming
import BirdCode.Validation.BlindMaps
import BirdCode.Validation.CleanRuns

/-! What the projection of a sealed run is: the run with every identity replaced through the one
correspondence the disclosure lists. The projection fails just if a check that the policy does not declare
cites what the log does not hold. -/
namespace BirdCode.Validation

open Std Lib

section Correspondences

/-- Which blind identity stands for which source identity. -/
@[ext] structure BlindPairs where
  attempts : AttemptId → BlindAttemptId → Prop
  artifacts : ArtifactId → BlindArtifactHandle → Prop
  checks : CheckId → BlindCheckId → Prop

def BlindMaps.pairs (maps : BlindMaps) : BlindPairs where
  attempts := fun id blind => maps.attempts[id]? = some blind
  artifacts := fun id blind => maps.artifacts[id]? = some blind
  checks := fun id blind => maps.checks[id]? = some blind

def BlindDisclosure.pairs (disclosure : BlindDisclosure) : BlindPairs where
  attempts := fun id blind =>
    ∃ mapping ∈ disclosure.attempts, mapping.sourceAttemptId = id ∧ mapping.blindAttemptId = blind
  artifacts := fun id blind =>
    ∃ mapping ∈ disclosure.artifacts, mapping.sourceArtifactId = id ∧ mapping.blindHandle = blind
  checks := fun id blind =>
    ∃ mapping ∈ disclosure.checks, mapping.sourceCheckId = id ∧ mapping.blindCheckId = blind

variable (pairs : BlindPairs)

/-- The outcome is that of the attempt's end, under the blind identities of the attempt and its parent. -/
structure BlindsAttempt (records : List ProvenanceRecord) (finish : AttemptFinished)
    (attempt : BlindAttemptOutcome) : Prop where
  identity : pairs.attempts finish.attemptId attempt.attemptId
  start : ∃ start ∈ starts records, start.attemptId = finish.attemptId ∧
    Option.Rel pairs.attempts start.parentAttemptId attempt.parentAttemptId ∧
    attempt.phase = start.phase
  outcome : attempt.outcome = finish.outcome
  processExit : attempt.processExit = finish.processExit.map ProcessExit.blind

structure BlindsArtifact (artifact : ArtifactRecord) (blind : BlindArtifact) : Prop where
  handle : pairs.artifacts artifact.artifactId blind.handle
  owner : pairs.attempts artifact.attemptId blind.attemptId
  kind : blind.kind = artifact.kind
  truncated : blind.truncated = artifact.truncated

inductive BlindsEvidence : CheckEvidence → BlindCheckEvidence → Prop
  | artifact {id : ArtifactId} {handle : BlindArtifactHandle} (h : pairs.artifacts id handle) :
    BlindsEvidence (.artifact id) (.artifact handle)
  | attemptExit {id : AttemptId} {blind : BlindAttemptId} (h : pairs.attempts id blind) :
    BlindsEvidence (.attemptExit id) (.attemptExit blind)

structure BlindsCheck (check : ValidationCheck) (blind : BlindCheck) : Prop where
  identity : pairs.checks check.checkId blind.checkId
  owner : pairs.attempts check.attemptId blind.attemptId
  kind : blind.kind = check.kind
  outcome : blind.outcome = check.outcome
  evidence : List.Forall₂ (BlindsEvidence pairs) check.evidence blind.evidence

structure BlindsRequirement (entry : CheckId × CheckRequirement) (blind : BlindCheckRequirement) :
    Prop where
  identity : pairs.checks entry.1 blind.checkId
  rule : blind = { entry.2 with checkId := blind.checkId }

end Correspondences

section Steps

variable {maps : BlindMaps} {error : BlindBuildError}

theorem map_expect_eq_ok {A B : Type} {f : A → B} {option : Option A} {b : B} :
    f <$> expect error option = .ok b ↔ ∃ a, option = some a ∧ f a = b := by
  cases option <;> simp [expect, Functor.map, Except.map]

theorem blindParent_eq_ok {parent : Option AttemptId} {blind : Option BlindAttemptId} :
    blindParent maps error parent = .ok blind ↔ Option.Rel maps.pairs.attempts parent blind := by
  cases parent with
  | none =>
    rw [blindParent, Except.ok.injEq]
    constructor
    · rintro rfl
      exact .none
    · intro h
      cases h
      rfl
  | some parent =>
    rw [blindParent, map_expect_eq_ok]
    constructor
    · rintro ⟨id, hfound, rfl⟩
      exact .some hfound
    · intro h
      cases h with
      | some hfound => exact ⟨_, hfound, rfl⟩

theorem blindEvidence_eq_ok {item : CheckEvidence} {blind : BlindCheckEvidence} :
    blindEvidence maps error item = .ok blind ↔ BlindsEvidence maps.pairs item blind := by
  cases item with
  | artifact id =>
    rw [blindEvidence, map_expect_eq_ok]
    constructor
    · rintro ⟨handle, hfound, rfl⟩
      exact .artifact hfound
    · intro h
      cases h with
      | artifact hfound => exact ⟨_, hfound, rfl⟩
  | attemptExit id =>
    rw [blindEvidence, map_expect_eq_ok]
    constructor
    · rintro ⟨blindId, hfound, rfl⟩
      exact .attemptExit hfound
    · intro h
      cases h with
      | attemptExit hfound => exact ⟨_, hfound, rfl⟩

theorem blindArtifact_eq_ok {artifact : ArtifactRecord} {blind : BlindArtifact} :
    blindArtifact maps error artifact = .ok blind ↔ BlindsArtifact maps.pairs artifact blind := by
  simp only [blindArtifact, bind_eq_ok, expect_eq_ok]
  constructor
  · rintro ⟨handle, hhandle, attemptId, hattempt, hblind⟩
    cases hblind
    exact ⟨hhandle, hattempt, rfl, rfl⟩
  · rintro ⟨hhandle, hattempt, hkind, htruncated⟩
    refine ⟨blind.handle, hhandle, blind.attemptId, hattempt, ?_⟩
    rw [← hkind, ← htruncated]
    rfl

theorem blindCheck_eq_ok {check : ValidationCheck} {blind : BlindCheck} :
    blindCheck maps error check = .ok blind ↔ BlindsCheck maps.pairs check blind := by
  simp only [blindCheck, bind_eq_ok, expect_eq_ok, mapM_eq_ok, blindEvidence_eq_ok]
  constructor
  · rintro ⟨evidence, hevidence, checkId, hcheck, attemptId, hattempt, hblind⟩
    cases hblind
    exact ⟨hcheck, hattempt, rfl, rfl, hevidence⟩
  · rintro ⟨hcheck, hattempt, hkind, houtcome, hevidence⟩
    refine ⟨blind.evidence, hevidence, blind.checkId, hcheck, blind.attemptId, hattempt, ?_⟩
    rw [← hkind, ← houtcome]
    rfl

theorem blindRequirement_eq_ok {entry : CheckId × CheckRequirement} {blind : BlindCheckRequirement} :
    blindRequirement maps error entry = .ok blind ↔ BlindsRequirement maps.pairs entry blind := by
  simp only [blindRequirement, bind_eq_ok, expect_eq_ok]
  constructor
  · rintro ⟨checkId, hcheck, hblind⟩
    cases hblind
    exact ⟨hcheck, rfl⟩
  · rintro ⟨hcheck, hrule⟩
    refine ⟨blind.checkId, hcheck, ?_⟩
    rw [hrule]
    rfl

/-- The parent and the phase an attempt was started with. -/
def startLink (start : AttemptStarted) : AttemptId × (Option AttemptId × ExecutionPhase) :=
  (start.attemptId, start.parentAttemptId, start.phase)

theorem blindAttempt_of_ok {before : List ProvenanceRecord} {finish : AttemptFinished}
    {attempt : BlindAttemptOutcome}
    (h : blindAttempt maps error (toMap ((starts before).map startLink)) finish = .ok attempt) :
    BlindsAttempt maps.pairs before finish attempt := by
  simp only [blindAttempt, bind_eq_ok, expect_eq_ok, blindParent_eq_ok] at h
  obtain ⟨⟨parent, phase⟩, hlink, attemptId, hattempt, blindParentId, hparent, hblind⟩ := h
  cases hblind
  obtain ⟨start, hstart, heq⟩ := List.mem_map.mp (mem_of_getElem?_toMap hlink)
  obtain ⟨hid, rfl, rfl⟩ : start.attemptId = finish.attemptId ∧ start.parentAttemptId = parent ∧
      start.phase = phase := by simpa [startLink] using heq
  exact ⟨hattempt, ⟨start, hstart, hid, hparent, rfl⟩, rfl, rfl⟩

end Steps

section Runs

variable {maps : BlindMaps} {error : BlindBuildError} {records : List ProvenanceRecord}
  {record : ProvenanceRecord} {projection next : Projection}

/-- What the second pass holds after some records. -/
structure Emitted (maps : BlindMaps) (records : List ProvenanceRecord) (projection : Projection) :
    Prop where
  linked : projection.starts = toMap ((starts records).map startLink)
  timed : ∀ id, id ∈ projection.elapsedByAttempt ↔
    id ∈ (finishes records).map AttemptFinished.attemptId
  ended : List.Forall₂ (BlindsAttempt maps.pairs records) (finishes records) projection.attempts
  recorded : List.Forall₂ (BlindsArtifact maps.pairs) (artifacts records) projection.artifacts
  judged : List.Forall₂ (BlindsCheck maps.pairs) (checks records) projection.checks

theorem BlindsAttempt.append {pairs : BlindPairs} {finish : AttemptFinished}
    {attempt : BlindAttemptOutcome} (h : BlindsAttempt pairs records finish attempt)
    (record : ProvenanceRecord) : BlindsAttempt pairs (records ++ [record]) finish attempt := by
  obtain ⟨start, hstart, hlink⟩ := h.start
  refine ⟨h.identity, ⟨start, ?_, hlink⟩, h.outcome, h.processExit⟩
  rw [starts_concat]
  exact List.mem_append_left _ hstart

theorem emitted_nil : Emitted maps [] initialProjection := by
  refine ⟨rfl, fun id => ?_, .nil, .nil, .nil⟩
  simp [initialProjection, finishes]

/-- A record adds its own item and leaves the others. -/
theorem Emitted.step (h : Emitted maps records projection)
    (hstep : projection.project maps error record = .ok next) :
    Emitted maps (records ++ [record]) next := by
  have hended : List.Forall₂ (BlindsAttempt maps.pairs (records ++ [record])) (finishes records)
      projection.attempts := h.ended.imp fun _ _ hattempt => hattempt.append record
  unfold Projection.project at hstep
  cases hevent : record.event with
  | attemptStarted start =>
    rw [hevent] at hstep
    cases hstep
    refine ⟨?_, ?_, ?_, ?_, ?_⟩ <;> simp only [starts_concat, finishes_concat, artifacts_concat,
      checks_concat, startOf, finishOf, artifactOf, checkOf, hevent, Option.toList_none,
      Option.toList_some, List.append_nil]
    · rw [List.map_append, List.map_singleton, startLink, toMap_append, h.linked]
    · exact h.timed
    · exact hended
    · exact h.recorded
    · exact h.judged
  | attemptFinished finish =>
    rw [hevent] at hstep
    obtain ⟨attempt, hattempt, hnext⟩ := bind_eq_ok.mp hstep
    cases hnext
    rw [h.linked] at hattempt
    refine ⟨?_, ?_, ?_, ?_, ?_⟩ <;> simp only [starts_concat, finishes_concat, artifacts_concat,
      checks_concat, startOf, finishOf, artifactOf, checkOf, hevent, Option.toList_none,
      Option.toList_some, List.append_nil]
    · exact h.linked
    · intro id
      rw [ExtTreeMap.mem_insert, Std.compare_eq_iff_eq, h.timed, List.map_append, List.mem_append,
        List.map_singleton, List.mem_singleton, or_comm, eq_comm]
    · exact List.rel_append hended (.cons ((blindAttempt_of_ok hattempt).append record) .nil)
    · exact h.recorded
    · exact h.judged
  | artifactRecorded artifact =>
    rw [hevent] at hstep
    obtain ⟨blind, hblind, hnext⟩ := bind_eq_ok.mp hstep
    cases hnext
    refine ⟨?_, ?_, ?_, ?_, ?_⟩ <;> simp only [starts_concat, finishes_concat, artifacts_concat,
      checks_concat, startOf, finishOf, artifactOf, checkOf, hevent, Option.toList_none,
      Option.toList_some, List.append_nil]
    · exact h.linked
    · exact h.timed
    · exact hended
    · exact List.rel_append h.recorded (.cons (blindArtifact_eq_ok.mp hblind) .nil)
    · exact h.judged
  | checkRecorded check =>
    rw [hevent] at hstep
    obtain ⟨blind, hblind, hnext⟩ := bind_eq_ok.mp hstep
    cases hnext
    refine ⟨?_, ?_, ?_, ?_, ?_⟩ <;> simp only [starts_concat, finishes_concat, artifacts_concat,
      checks_concat, startOf, finishOf, artifactOf, checkOf, hevent, Option.toList_none,
      Option.toList_some, List.append_nil]
    · exact h.linked
    · exact h.timed
    · exact hended
    · exact h.recorded
    · exact List.rel_append h.judged (.cons (blindCheck_eq_ok.mp hblind) .nil)

theorem emitted_of_foldlM
    (h : records.foldlM (Projection.project maps error) initialProjection = .ok projection) :
    Emitted maps records projection := by
  induction records using List.reverseRecOn generalizing projection with
  | nil =>
    cases h
    exact emitted_nil
  | append_singleton records record ih =>
    obtain ⟨before, hbefore, hstep⟩ := foldlM_concat_eq_ok.mp h
    exact (ih hbefore).step hstep

/-- What a record needs for its item to be made. -/
def Projectable (maps : BlindMaps) (records : List ProvenanceRecord) (record : ProvenanceRecord) :
    Prop :=
  match record.event with
  | .attemptStarted _ => True
  | .attemptFinished finish => finish.attemptId ∈ maps.attempts ∧
      finish.attemptId ∈ (starts records).map AttemptStarted.attemptId ∧
      ∀ start ∈ starts records, ∀ parent ∈ start.parentAttemptId, parent ∈ maps.attempts
  | .artifactRecorded artifact => artifact.artifactId ∈ maps.artifacts ∧
      artifact.attemptId ∈ maps.attempts
  | .checkRecorded check => check.checkId ∈ maps.checks ∧ check.attemptId ∈ maps.attempts ∧
      ∀ item ∈ check.evidence, ∃ blind, BlindsEvidence maps.pairs item blind

theorem exists_of_mem {K V : Type} [Ord K] [TransOrd K] {map : BTreeMap K V} {key : K} (h : key ∈ map) :
    ∃ value, map[key]? = some value := by
  rwa [ExtTreeMap.mem_iff_isSome_getElem?, Option.isSome_iff_exists] at h

theorem Emitted.exists_step (h : Emitted maps records projection)
    (hrecord : Projectable maps records record) :
    ∃ next, projection.project maps error record = .ok next := by
  unfold Projectable at hrecord
  unfold Projection.project
  cases hevent : record.event with
  | attemptStarted start => exact ⟨_, rfl⟩
  | attemptFinished finish =>
    rw [hevent] at hrecord
    obtain ⟨hmem, hstarted, hparents⟩ := hrecord
    obtain ⟨blind, hblind⟩ := exists_of_mem hmem
    have hlinked : finish.attemptId ∈ projection.starts := by
      rw [h.linked, mem_toMap, List.map_map]
      exact hstarted
    obtain ⟨⟨parent, phase⟩, hlink⟩ := exists_of_mem hlinked
    have hparent : ∃ blind, Option.Rel maps.pairs.attempts parent blind := by
      cases parent with
      | none => exact ⟨none, .none⟩
      | some parent =>
        rw [h.linked] at hlink
        obtain ⟨start, hstart, heq⟩ := List.mem_map.mp (mem_of_getElem?_toMap hlink)
        have hsome : start.parentAttemptId = some parent := by
          simp only [startLink, Prod.mk.injEq] at heq
          exact heq.2.1
        obtain ⟨blindParentId, hfound⟩ := exists_of_mem (hparents start hstart parent hsome)
        exact ⟨some blindParentId, .some hfound⟩
    obtain ⟨blindParentId, hrelated⟩ := hparent
    have hmade : blindAttempt maps error projection.starts finish = .ok ⟨blind, blindParentId, phase,
        finish.outcome, finish.processExit.map ProcessExit.blind⟩ := by
      simp only [blindAttempt, bind_eq_ok, expect_eq_ok, blindParent_eq_ok]
      exact ⟨_, hlink, _, hblind, _, hrelated, rfl⟩
    dsimp only
    rw [hmade]
    exact ⟨_, rfl⟩
  | artifactRecorded artifact =>
    rw [hevent] at hrecord
    obtain ⟨handle, hhandle⟩ := exists_of_mem hrecord.1
    obtain ⟨blind, hblind⟩ := exists_of_mem hrecord.2
    have hmade : blindArtifact maps error artifact = .ok ⟨handle, blind, artifact.kind, artifact.truncated⟩ :=
      blindArtifact_eq_ok.mpr ⟨hhandle, hblind, rfl, rfl⟩
    dsimp only
    rw [hmade]
    exact ⟨_, rfl⟩
  | checkRecorded check =>
    rw [hevent] at hrecord
    obtain ⟨hcheck, howner, hitems⟩ := hrecord
    obtain ⟨checkId, hcheckId⟩ := exists_of_mem hcheck
    obtain ⟨blind, hblind⟩ := exists_of_mem howner
    have hevidence : ∀ item ∈ check.evidence, ∃ b, blindEvidence maps error item = .ok b ∧
        BlindsEvidence maps.pairs item b := by
      intro item hitem
      obtain ⟨b, hb⟩ := hitems item hitem
      exact ⟨b, blindEvidence_eq_ok.mpr hb, hb⟩
    obtain ⟨evidence, -, hall⟩ := exists_mapM_eq_ok hevidence
    have hmade : blindCheck maps error check =
        .ok ⟨checkId, blind, check.kind, check.outcome, evidence⟩ :=
      blindCheck_eq_ok.mpr ⟨hcheckId, hblind, rfl, rfl, hall⟩
    dsimp only
    rw [hmade]
    exact ⟨_, rfl⟩

theorem exists_foldlM (h : Stepwise (Projectable maps) records) :
    ∃ projection, records.foldlM (Projection.project maps error) initialProjection = .ok projection := by
  induction records using List.reverseRecOn with
  | nil => exact ⟨_, rfl⟩
  | append_singleton records record ih =>
    obtain ⟨before, hbefore⟩ := ih h.init
    obtain ⟨next, hnext⟩ := (emitted_of_foldlM hbefore).exists_step h.last
    exact ⟨next, foldlM_concat_eq_ok.mpr ⟨before, hbefore, hnext⟩⟩

end Runs

section Packages

variable {hashing : Hashing} {inputSha256 : BlindEvaluationInput → Sha256Digest}
  {source : UuidSource} {sealed : SealedRunProvenance} {package : BlindEvaluationPackage}

/-- What a package is of the run it was built from, under the correspondence its disclosure lists. -/
structure Projects (hashing : Hashing) (pairs : BlindPairs) (sealed : SealedRunProvenance)
    (input : BlindEvaluationInput) : Prop where
  schemaVersion : input.schemaVersion = 1
  evaluationCaseId : input.evaluationCaseId = sealed.provenance.evaluationCaseId
  targetKind : sealed.provenance.target.kind = .ok input.targetKind
  platformKind : input.platformKind = sealed.provenance.target.platform.kind
  attempts : List.Forall₂ (BlindsAttempt pairs sealed.provenance.records)
    (finishes sealed.provenance.records) input.attempts
  artifacts : List.Forall₂ (BlindsArtifact pairs) (artifacts sealed.provenance.records)
    input.artifacts
  checks : List.Forall₂ (BlindsCheck pairs) (checks sealed.provenance.records) input.checks
  requirements : List.Forall₂ (BlindsRequirement pairs) sealed.policy.checkRequirements.toList
    input.policy.checkRequirements
  policy : input.policy = {
    validationPlanSha256 := sealed.policy.validationPlanSha256
    validationPolicySha256 := hashing.policySha256 sealed.policy
    phaseRequirements := sealed.policy.phaseRequirements
    checkRequirements := input.policy.checkRequirements
    minimumPrimaryPasses := sealed.policy.minimumPrimaryPasses }

/-- What the disclosure lists of the maps. -/
structure Discloses (source : UuidSource) (maps : BlindMaps) (sealed : SealedRunProvenance)
    (package : BlindEvaluationPackage) : Prop where
  inputRun : package.input.runId = source.draw .blindRun rfl 1
  inputCandidate : package.input.candidateId = source.draw .blindCandidate rfl 0
  run : package.disclosure.run = ⟨sealed.sealedRunSha256, package.input.runId⟩
  candidate : package.disclosure.candidate =
    ⟨sealed.provenance.candidateId, package.input.candidateId⟩
  attempts : package.disclosure.attempts.map (fun mapping =>
    (mapping.sourceAttemptId, mapping.blindAttemptId)) = maps.attempts.toList
  artifacts : List.Forall₂ (fun artifact mapping => mapping.sourceArtifactId = artifact.artifactId ∧
    maps.artifacts[artifact.artifactId]? = some mapping.blindHandle)
    (artifacts sealed.provenance.records) package.disclosure.artifacts
  checks : package.disclosure.checks.map (fun mapping =>
    (mapping.sourceCheckId, mapping.blindCheckId)) = maps.checks.toList

theorem discloseArtifact_of_ok {maps : BlindMaps} {error : BlindBuildError}
    {artifact : ArtifactRecord} {mapping : BlindArtifactMapping}
    (h : discloseArtifact maps error artifact = .ok mapping) :
    mapping.sourceArtifactId = artifact.artifactId ∧
      maps.artifacts[artifact.artifactId]? = some mapping.blindHandle := by
  simp only [discloseArtifact, bind_eq_ok, expect_eq_ok] at h
  obtain ⟨handle, hhandle, hmapping⟩ := h
  cases hmapping
  exact ⟨rfl, hhandle⟩

theorem discloseAttempt_of_ok {error : BlindBuildError} {elapsed : BTreeMap AttemptId UInt64}
    {entry : AttemptId × BlindAttemptId} {mapping : BlindIdMapping}
    (h : discloseAttempt error elapsed entry = .ok mapping) :
    (mapping.sourceAttemptId, mapping.blindAttemptId) = entry := by
  simp only [discloseAttempt, bind_eq_ok, expect_eq_ok] at h
  obtain ⟨elapsedMs, -, hmapping⟩ := h
  cases hmapping
  rfl

theorem map_eq_of_forall₂_eq {A B : Type} {read : B → A} {l : List A} {l' : List B}
    (h : List.Forall₂ (fun a b => read b = a) l l') : l'.map read = l := by
  induction h with
  | nil => rfl
  | cons hab _ ih => rw [List.map_cons, hab, ih]

theorem of_build (h : buildBlindEvaluationPackage hashing inputSha256 source sealed = .ok package) :
    Projects hashing (blindMaps source sealed.provenance.records sealed.policy).pairs sealed
        package.input ∧
      Discloses source (blindMaps source sealed.provenance.records sealed.policy) sealed package := by
  simp only [buildBlindEvaluationPackage, bind_eq_ok, mapM_eq_ok] at h
  obtain ⟨projection, hprojection, disclosedArtifacts, hartifacts, attempts, hattempts, requirements,
    hrequirements, targetKind, hkind, hpackage⟩ := h
  cases hpackage
  have hemitted := emitted_of_foldlM hprojection
  constructor
  · refine ⟨rfl, rfl, ?_, rfl, hemitted.ended, hemitted.recorded, hemitted.judged, ?_, rfl⟩
    · unfold projectedKind at hkind
      split at hkind
      · next kind heq =>
        cases hkind
        exact heq
      · cases hkind
    · exact hrequirements.imp fun _ _ => blindRequirement_eq_ok.mp
  · refine ⟨rfl, rfl, rfl, rfl, ?_, ?_, ?_⟩
    · exact map_eq_of_forall₂_eq (hattempts.imp fun _ _ => discloseAttempt_of_ok)
    · exact hartifacts.imp fun _ _ => discloseArtifact_of_ok
    · rw [List.map_map]
      exact List.map_id _

end Packages

end BirdCode.Validation
