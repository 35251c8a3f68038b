import BirdCode.Validation.BlindRuns
import BirdCode.Validation.Fixtures

/-! The evaluator's input says nothing of who produced a run: two sealed runs that agree but for what is
left out, with their identities renamed, have inputs that differ by a permutation of blind identities. -/
namespace BirdCode.Validation

open Std Lib

section Agreement

/-- New identities for the attempts and the artifacts of a run. -/
structure SourceRenaming where
  attempt : AttemptId → AttemptId
  artifact : ArtifactId → ArtifactId
  attempt_injective : Function.Injective attempt
  artifact_injective : Function.Injective artifact

variable (ρ : SourceRenaming)

/-- Starts that agree but for the actor, the timeout and the command. -/
structure AlikeStarts (start start' : AttemptStarted) : Prop where
  attemptId : start'.attemptId = ρ.attempt start.attemptId
  parentAttemptId : start'.parentAttemptId = start.parentAttemptId.map ρ.attempt
  phase : start'.phase = start.phase

/-- Ends that agree but for the elapsed time and the details of a failed launch. -/
structure AlikeFinishes (finish finish' : AttemptFinished) : Prop where
  attemptId : finish'.attemptId = ρ.attempt finish.attemptId
  outcome : finish'.outcome = finish.outcome
  processExit : finish'.processExit.map ProcessExit.blind = finish.processExit.map ProcessExit.blind
  stdoutArtifactId : finish'.stdoutArtifactId = finish.stdoutArtifactId.map ρ.artifact
  stderrArtifactId : finish'.stderrArtifactId = finish.stderrArtifactId.map ρ.artifact

/-- Artifacts that agree but for the digest, the sizes, the media type and the storage reference. -/
structure AlikeArtifacts (artifact artifact' : ArtifactRecord) : Prop where
  artifactId : artifact'.artifactId = ρ.artifact artifact.artifactId
  attemptId : artifact'.attemptId = ρ.attempt artifact.attemptId
  kind : artifact'.kind = artifact.kind
  truncated : artifact'.truncated = artifact.truncated

def SourceRenaming.evidence : CheckEvidence → CheckEvidence
  | .artifact id => .artifact (ρ.artifact id)
  | .attemptExit id => .attemptExit (ρ.attempt id)

structure AlikeChecks (check check' : ValidationCheck) : Prop where
  checkId : check'.checkId = check.checkId
  attemptId : check'.attemptId = ρ.attempt check.attemptId
  kind : check'.kind = check.kind
  outcome : check'.outcome = check.outcome
  evidence : check'.evidence = check.evidence.map ρ.evidence

inductive AlikeEvents : ProvenanceEvent → ProvenanceEvent → Prop
  | attemptStarted {start start'} (h : AlikeStarts ρ start start') :
    AlikeEvents (.attemptStarted start) (.attemptStarted start')
  | attemptFinished {finish finish'} (h : AlikeFinishes ρ finish finish') :
    AlikeEvents (.attemptFinished finish) (.attemptFinished finish')
  | artifactRecorded {artifact artifact'} (h : AlikeArtifacts ρ artifact artifact') :
    AlikeEvents (.artifactRecorded artifact) (.artifactRecorded artifact')
  | checkRecorded {check check'} (h : AlikeChecks ρ check check') :
    AlikeEvents (.checkRecorded check) (.checkRecorded check')

/-- Records of one event but for what is left out, at whatever times. -/
def AlikeRecords (record record' : ProvenanceRecord) : Prop := AlikeEvents ρ record.event record'.event

/-- Runs of one evaluation case on one kind of target whose records agree position by position. -/
structure AlikeRuns (run run' : RunProvenance) : Prop where
  evaluationCaseId : run'.evaluationCaseId = run.evaluationCaseId
  targetKind : run'.target.kind = run.target.kind
  platformKind : run'.target.platform.kind = run.target.platform.kind
  records : List.Forall₂ (AlikeRecords ρ) run.records run'.records

variable {ρ} {records records' : List ProvenanceRecord}

theorem alike_starts (h : List.Forall₂ (AlikeRecords ρ) records records') :
    List.Forall₂ (AlikeStarts ρ) (starts records) (starts records') := by
  refine List.rel_filterMap ?_ h
  rintro ⟨_, _, _, _, event⟩ ⟨_, _, _, _, event'⟩ halike
  cases halike with
  | attemptStarted hstart => exact .some hstart
  | attemptFinished => exact .none
  | artifactRecorded => exact .none
  | checkRecorded => exact .none

theorem alike_finishes (h : List.Forall₂ (AlikeRecords ρ) records records') :
    List.Forall₂ (AlikeFinishes ρ) (finishes records) (finishes records') := by
  refine List.rel_filterMap ?_ h
  rintro ⟨_, _, _, _, event⟩ ⟨_, _, _, _, event'⟩ halike
  cases halike with
  | attemptStarted => exact .none
  | attemptFinished hfinish => exact .some hfinish
  | artifactRecorded => exact .none
  | checkRecorded => exact .none

theorem alike_artifacts (h : List.Forall₂ (AlikeRecords ρ) records records') :
    List.Forall₂ (AlikeArtifacts ρ) (artifacts records) (artifacts records') := by
  refine List.rel_filterMap ?_ h
  rintro ⟨_, _, _, _, event⟩ ⟨_, _, _, _, event'⟩ halike
  cases halike with
  | attemptStarted => exact .none
  | attemptFinished => exact .none
  | artifactRecorded hartifact => exact .some hartifact
  | checkRecorded => exact .none

theorem alike_checks (h : List.Forall₂ (AlikeRecords ρ) records records') :
    List.Forall₂ (AlikeChecks ρ) (checks records) (checks records') := by
  refine List.rel_filterMap ?_ h
  rintro ⟨_, _, _, _, event⟩ ⟨_, _, _, _, event'⟩ halike
  cases halike with
  | attemptStarted => exact .none
  | attemptFinished => exact .none
  | artifactRecorded => exact .none
  | checkRecorded hcheck => exact .some hcheck

/-- A log alike holds the renamed evidence. -/
theorem held_of_alike (h : List.Forall₂ (AlikeRecords ρ) records records') {item : CheckEvidence}
    (hheld : Held records item) : Held records' (ρ.evidence item) := by
  cases item with
  | artifact id =>
    obtain ⟨artifact, hartifact, rfl⟩ := List.mem_map.mp hheld
    obtain ⟨artifact', hartifact', halike⟩ := exists_of_forall₂ (alike_artifacts h) hartifact
    exact List.mem_map.mpr ⟨artifact', hartifact', halike.artifactId⟩
  | attemptExit id =>
    obtain ⟨start, hstart, rfl⟩ := List.mem_map.mp hheld
    obtain ⟨start', hstart', halike⟩ := exists_of_forall₂ (alike_starts h) hstart
    exact List.mem_map.mpr ⟨start', hstart', halike.attemptId⟩

theorem evidenceHeld_of_alike {run run' : RunProvenance} {policy : ValidationPolicy}
    (h : AlikeRuns ρ run run') (hheld : EvidenceHeld run policy) : EvidenceHeld run' policy := by
  intro check' hcheck' hundeclared item' hitem'
  obtain ⟨check, hcheck, halike⟩ := exists_of_forall₂ (alike_checks h.records).flip hcheck'
  rw [halike.checkId] at hundeclared
  rw [halike.evidence] at hitem'
  obtain ⟨item, hitem, rfl⟩ := List.mem_map.mp hitem'
  exact held_of_alike h.records (hheld check hcheck hundeclared item hitem)

end Agreement

section Renaming

instance (kind : ProvenanceIdKind) : Finite (ProvenanceId kind) :=
  Finite.of_injective ProvenanceId.uuid fun _ _ => ProvenanceId.eq_of_uuid

/-- A permutation of the blind identities of every kind. -/
structure BlindRenaming where
  run : Equiv.Perm BlindRunId
  candidate : Equiv.Perm BlindCandidateId
  attempt : Equiv.Perm BlindAttemptId
  artifact : Equiv.Perm BlindArtifactHandle
  check : Equiv.Perm BlindCheckId

variable (σ : BlindRenaming)

def BlindAttemptOutcome.rename (attempt : BlindAttemptOutcome) : BlindAttemptOutcome :=
  { attempt with
    attemptId := σ.attempt attempt.attemptId
    parentAttemptId := attempt.parentAttemptId.map σ.attempt }

def BlindArtifact.rename (artifact : BlindArtifact) : BlindArtifact :=
  { artifact with
    handle := σ.artifact artifact.handle
    attemptId := σ.attempt artifact.attemptId }

def BlindCheckEvidence.rename : BlindCheckEvidence → BlindCheckEvidence
  | .artifact handle => .artifact (σ.artifact handle)
  | .attemptExit attemptId => .attemptExit (σ.attempt attemptId)

def BlindCheck.rename (check : BlindCheck) : BlindCheck :=
  { check with
    checkId := σ.check check.checkId
    attemptId := σ.attempt check.attemptId
    evidence := check.evidence.map (BlindCheckEvidence.rename σ) }

def BlindCheckRequirement.rename (requirement : BlindCheckRequirement) : BlindCheckRequirement :=
  { requirement with checkId := σ.check requirement.checkId }

/-- The input with every blind identity replaced, and nothing else. -/
def BlindEvaluationInput.rename (input : BlindEvaluationInput) : BlindEvaluationInput :=
  { input with
    runId := σ.run input.runId
    candidateId := σ.candidate input.candidateId
    policy := { input.policy with
      checkRequirements := input.policy.checkRequirements.map (BlindCheckRequirement.rename σ) }
    attempts := input.attempts.map (BlindAttemptOutcome.rename σ)
    artifacts := input.artifacts.map (BlindArtifact.rename σ)
    checks := input.checks.map (BlindCheck.rename σ) }

/-- The permutation takes what the first run calls an identity to what the second calls the renamed one. -/
structure Translates (ρ : SourceRenaming) (pairs pairs' : BlindPairs) (σ : BlindRenaming) : Prop where
  attempts : ∀ id blind blind', pairs.attempts id blind → pairs'.attempts (ρ.attempt id) blind' →
    blind' = σ.attempt blind
  artifacts : ∀ id blind blind', pairs.artifacts id blind →
    pairs'.artifacts (ρ.artifact id) blind' → blind' = σ.artifact blind
  checks : ∀ id blind blind', pairs.checks id blind → pairs'.checks id blind' → blind' = σ.check blind

variable {σ} {ρ : SourceRenaming} {pairs pairs' : BlindPairs}

theorem Translates.attempt (h : Translates ρ pairs pairs' σ)
    {records records' : List ProvenanceRecord}
    (hrecords : List.Forall₂ (AlikeRecords ρ) records records')
    (hnodup : ((starts records').map AttemptStarted.attemptId).Nodup)
    {finish finish' : AttemptFinished} {attempt attempt' : BlindAttemptOutcome}
    (halike : AlikeFinishes ρ finish finish') (hattempt : BlindsAttempt pairs records finish attempt)
    (hattempt' : BlindsAttempt pairs' records' finish' attempt') :
    attempt' = attempt.rename σ := by
  obtain ⟨start, hstart, hid, hparent, hphase⟩ := hattempt.start
  obtain ⟨start', hstart', hid', hparent', hphase'⟩ := hattempt'.start
  obtain ⟨other, hother, hsame⟩ := exists_of_forall₂ (alike_starts hrecords) hstart
  obtain rfl : other = start' := by
    refine List.inj_on_of_nodup_map hnodup hother hstart' ?_
    rw [hsame.attemptId, hid, hid', halike.attemptId]
  have hidentity' := hattempt'.identity
  rw [halike.attemptId] at hidentity'
  have hidentity := h.attempts _ _ _ hattempt.identity hidentity'
  have hlink : attempt'.parentAttemptId = attempt.parentAttemptId.map σ.attempt := by
    rw [hsame.parentAttemptId] at hparent'
    generalize start.parentAttemptId = parent at hparent hparent'
    generalize attempt.parentAttemptId = blind at hparent ⊢
    generalize attempt'.parentAttemptId = blind' at hparent' ⊢
    cases hparent with
    | none =>
      cases hparent'
      rfl
    | some hp =>
      cases hparent' with
      | some hp' => rw [h.attempts _ _ _ hp hp', Option.map_some]
  obtain ⟨attemptId, parentAttemptId, phase, outcome, exit⟩ := attempt
  obtain ⟨attemptId', parentAttemptId', phase', outcome', exit'⟩ := attempt'
  unfold BlindAttemptOutcome.rename
  congr 1
  · exact (hphase'.trans hsame.phase).trans hphase.symm
  · exact (hattempt'.outcome.trans halike.outcome).trans hattempt.outcome.symm
  · exact (hattempt'.processExit.trans halike.processExit).trans hattempt.processExit.symm

theorem Translates.artifact (h : Translates ρ pairs pairs' σ) {artifact artifact' : ArtifactRecord}
    {blind blind' : BlindArtifact} (halike : AlikeArtifacts ρ artifact artifact')
    (hblind : BlindsArtifact pairs artifact blind) (hblind' : BlindsArtifact pairs' artifact' blind') :
    blind' = blind.rename σ := by
  have hhandle := hblind'.handle
  have howner := hblind'.owner
  rw [halike.artifactId] at hhandle
  rw [halike.attemptId] at howner
  obtain ⟨handle, attemptId, kind, truncated⟩ := blind
  obtain ⟨handle', attemptId', kind', truncated'⟩ := blind'
  unfold BlindArtifact.rename
  congr 1
  · exact h.artifacts _ _ _ hblind.handle hhandle
  · exact h.attempts _ _ _ hblind.owner howner
  · exact (hblind'.kind.trans halike.kind).trans hblind.kind.symm
  · exact (hblind'.truncated.trans halike.truncated).trans hblind.truncated.symm

theorem Translates.evidence (h : Translates ρ pairs pairs' σ) {item item' : CheckEvidence}
    {blind blind' : BlindCheckEvidence} (hitem : item' = ρ.evidence item)
    (hblind : BlindsEvidence pairs item blind) (hblind' : BlindsEvidence pairs' item' blind') :
    blind' = blind.rename σ := by
  subst hitem
  cases hblind with
  | artifact hp =>
    cases hblind' with
    | artifact hp' => exact congrArg _ (h.artifacts _ _ _ hp hp')
  | attemptExit hp =>
    cases hblind' with
    | attemptExit hp' => exact congrArg _ (h.attempts _ _ _ hp hp')

theorem Translates.check (h : Translates ρ pairs pairs' σ) {check check' : ValidationCheck}
    {blind blind' : BlindCheck} (halike : AlikeChecks ρ check check')
    (hblind : BlindsCheck pairs check blind) (hblind' : BlindsCheck pairs' check' blind') :
    blind' = blind.rename σ := by
  have hidentity := hblind'.identity
  have howner := hblind'.owner
  rw [halike.checkId] at hidentity
  rw [halike.attemptId] at howner
  have hitems : List.Forall₂ (fun item item' => item' = ρ.evidence item) check.evidence
      check'.evidence := by
    rw [halike.evidence, List.forall₂_map_right_iff]
    exact List.forall₂_same.mpr fun _ _ => rfl
  obtain ⟨checkId, attemptId, kind, outcome, evidence⟩ := blind
  obtain ⟨checkId', attemptId', kind', outcome', evidence'⟩ := blind'
  unfold BlindCheck.rename
  congr 1
  · exact h.checks _ _ _ hblind.identity hidentity
  · exact h.attempts _ _ _ hblind.owner howner
  · exact (hblind'.kind.trans halike.kind).trans hblind.kind.symm
  · exact (hblind'.outcome.trans halike.outcome).trans hblind.outcome.symm
  · refine map_eq_of_forall₂ ?_ hitems hblind.evidence hblind'.evidence
    intro item item' made made' hitem hmade hmade'
    exact h.evidence hitem hmade hmade'

theorem Translates.requirement (h : Translates ρ pairs pairs' σ) {entry : CheckId × CheckRequirement}
    {blind blind' : BlindCheckRequirement} (hblind : BlindsRequirement pairs entry blind)
    (hblind' : BlindsRequirement pairs' entry blind') : blind' = blind.rename σ := by
  rw [hblind'.rule, hblind.rule, BlindCheckRequirement.rename,
    h.checks _ _ _ hblind.identity hblind'.identity]

theorem exists_translation (hattempts : Relator.BiUnique pairs.attempts)
    (hartifacts : Relator.BiUnique pairs.artifacts) (hchecks : Relator.BiUnique pairs.checks)
    (hattempts' : Relator.BiUnique pairs'.attempts) (hartifacts' : Relator.BiUnique pairs'.artifacts)
    (hchecks' : Relator.BiUnique pairs'.checks) (ρ : SourceRenaming) (runPerm : Equiv.Perm BlindRunId)
    (candidatePerm : Equiv.Perm BlindCandidateId) :
    ∃ σ : BlindRenaming, σ.run = runPerm ∧ σ.candidate = candidatePerm ∧
      Translates ρ pairs pairs' σ := by
  obtain ⟨attempt, hattempt⟩ :=
    exists_perm_of_biUnique (biUnique_through ρ.attempt_injective hattempts hattempts')
  obtain ⟨artifact, hartifact⟩ :=
    exists_perm_of_biUnique (biUnique_through ρ.artifact_injective hartifacts hartifacts')
  obtain ⟨check, hcheck⟩ :=
    exists_perm_of_biUnique (biUnique_through Function.injective_id hchecks hchecks')
  refine ⟨⟨runPerm, candidatePerm, attempt, artifact, check⟩, rfl, rfl, ?_, ?_, ?_⟩
  · intro id blind blind' hp hp'
    exact (hattempt blind blind' ⟨id, hp, hp'⟩).symm
  · intro id blind blind' hp hp'
    exact (hartifact blind blind' ⟨id, hp, hp'⟩).symm
  · intro id blind blind' hp hp'
    exact (hcheck blind blind' ⟨id, hp, hp'⟩).symm

end Renaming

section Unattributed

variable {hashing : Hashing} {run run' : RunProvenance} {policy : ValidationPolicy}
  {inputSha256 : BlindEvaluationInput → Sha256Digest} {source : UuidSource}
  {sealed sealed' : SealedRunProvenance} {package package' : BlindEvaluationPackage}
  {ρ : SourceRenaming}

/-- The inputs of runs that are alike are renamings of each other. -/
theorem renamed_of_alike (h : sealRun hashing run policy = .ok sealed)
    (h' : sealRun hashing run' policy = .ok sealed') (halike : AlikeRuns ρ run run')
    (hblinded : Blinded hashing sealed package) (hblinded' : Blinded hashing sealed' package') :
    ∃ σ : BlindRenaming, package'.input = package.input.rename σ := by
  obtain ⟨-, terminal, -, rfl⟩ := sealRun_eq_ok h
  obtain ⟨hvalid', terminal', -, rfl⟩ := sealRun_eq_ok h'
  have hclean' := clean_of_validate hvalid'
  obtain ⟨σ, hrun, hcandidate, htranslates⟩ := exists_translation hblinded.attempts
    hblinded.artifacts hblinded.checks hblinded'.attempts hblinded'.artifacts hblinded'.checks ρ
    (Equiv.swap package.input.runId package'.input.runId)
    (Equiv.swap package.input.candidateId package'.input.candidateId)
  refine ⟨σ, ?_⟩
  have hprojects := hblinded.projects
  have hprojects' := hblinded'.projects
  have hkind : package'.input.targetKind = package.input.targetKind := by
    have hsame := halike.targetKind
    rw [hprojects.targetKind, hprojects'.targetKind] at hsame
    exact Except.ok.inj hsame
  have hattempts : package'.input.attempts =
      package.input.attempts.map (BlindAttemptOutcome.rename σ) := by
    refine map_eq_of_forall₂ ?_ (alike_finishes halike.records) hprojects.attempts
      hprojects'.attempts
    intro finish finish' attempt attempt' hfinish hmade hmade'
    exact htranslates.attempt halike.records (nodup_starts hclean'.log) hfinish hmade hmade'
  have hartifacts : package'.input.artifacts =
      package.input.artifacts.map (BlindArtifact.rename σ) := by
    refine map_eq_of_forall₂ ?_ (alike_artifacts halike.records) hprojects.artifacts
      hprojects'.artifacts
    intro artifact artifact' blind blind' hartifact hmade hmade'
    exact htranslates.artifact hartifact hmade hmade'
  have hchecks : package'.input.checks = package.input.checks.map (BlindCheck.rename σ) := by
    refine map_eq_of_forall₂ ?_ (alike_checks halike.records) hprojects.checks hprojects'.checks
    intro check check' blind blind' hcheck hmade hmade'
    exact htranslates.check hcheck hmade hmade'
  have hrequirements : package'.input.policy.checkRequirements =
      package.input.policy.checkRequirements.map (BlindCheckRequirement.rename σ) := by
    refine map_eq_of_forall₂ (T := Eq) ?_ (List.forall₂_same.mpr fun _ _ => rfl)
      hprojects.requirements hprojects'.requirements
    rintro entry _ blind blind' rfl hb hb'
    exact htranslates.requirement hb hb'
  have hpolicy : package'.input.policy = { package.input.policy with
      checkRequirements :=
        package.input.policy.checkRequirements.map (BlindCheckRequirement.rename σ) } := by
    rw [hprojects'.policy, hrequirements, hprojects.policy]
  have hschema := hprojects'.schemaVersion.trans hprojects.schemaVersion.symm
  have hcase := (hprojects'.evaluationCaseId.trans halike.evaluationCaseId).trans
    hprojects.evaluationCaseId.symm
  have hplatform := (hprojects'.platformKind.trans halike.platformKind).trans
    hprojects.platformKind.symm
  have hrunId : package'.input.runId = σ.run package.input.runId := by
    rw [hrun, Equiv.swap_apply_left]
  have hcandidateId : package'.input.candidateId = σ.candidate package.input.candidateId := by
    rw [hcandidate, Equiv.swap_apply_left]
  unfold BlindEvaluationInput.rename
  rw [← hattempts, ← hartifacts, ← hchecks, ← hpolicy, ← hrunId, ← hcandidateId, ← hschema, ← hcase,
    ← hplatform, ← hkind]

/-- The package of a sealed run is built, its input is the run under the one correspondence its disclosure
lists, and no run that is alike tells itself apart by it, just if every check that the policy does not
declare cites what the log holds. -/
theorem blinded_iff (h : sealRun hashing run policy = .ok sealed)
    (hfresh : source.DistinctBelow (drawBound run.records policy)) :
    (∃ package, buildBlindEvaluationPackage hashing inputSha256 source sealed = .ok package ∧
      Blinded hashing sealed package ∧
      ∀ ρ run' sealed' source', sealRun hashing run' policy = .ok sealed' →
        source'.DistinctBelow (drawBound run'.records policy) → AlikeRuns ρ run run' →
        ∃ package', buildBlindEvaluationPackage hashing inputSha256 source' sealed' = .ok package' ∧
          ∃ σ : BlindRenaming, package'.input = package.input.rename σ) ↔
    EvidenceHeld run policy := by
  constructor
  · rintro ⟨package, hbuild, -, -⟩
    obtain ⟨-, terminal, -, rfl⟩ := sealRun_eq_ok h
    exact evidenceHeld_of_build hbuild
  · intro hheld
    obtain ⟨package, hbuild⟩ := exists_package h hheld
    have hblinded := blinded_of_build h hfresh hbuild
    refine ⟨package, hbuild, hblinded, ?_⟩
    intro ρ run' sealed' source' h' hfresh' halike
    obtain ⟨package', hbuild'⟩ := exists_package h' (evidenceHeld_of_alike halike hheld)
    exact ⟨package', hbuild', renamed_of_alike h h' halike hblinded (blinded_of_build h' hfresh' hbuild')⟩

end Unattributed

section Samples

/-- UUIDs that count the calls. -/
def countingSource : UuidSource where
  next := fun call => ⟨4 * 2 ^ 76 + call % 2 ^ 16, by omega⟩
  versioned := by
    intro call
    constructor
    · intro hzero
      have hval := congrArg Fin.val hzero
      simp at hval
    · simp only [uuidVersion]
      omega

theorem countingSource_distinct : countingSource.DistinctBelow (2 ^ 16) := by
  intro i hi j hj heq
  have hval := congrArg Fin.val heq
  simp only [countingSource] at hval
  omega

theorem UuidSource.DistinctBelow.mono {source : UuidSource} {bound bound' : ℕ}
    (h : source.DistinctBelow bound') (hle : bound ≤ bound') : source.DistinctBelow bound :=
  fun i hi j hj => h i (Nat.lt_of_lt_of_le hi hle) j (Nat.lt_of_lt_of_le hj hle)

/-- The digest the samples give every input. -/
def sampleInputSha256 (_ : BlindEvaluationInput) : Sha256Digest := sampleDigest 11

theorem exists_sealed {hashing : Hashing} {run : RunProvenance} {policy : ValidationPolicy}
    (hclean : (validate hashing run policy).hasStructuralViolations = false) :
    ∃ sealed, sealRun hashing run policy = .ok sealed := by
  have hne := (clean_of_validate hclean).nonempty
  rw [sealRun, hclean, List.getLast?_eq_some_getLast hne]
  exact ⟨_, rfl⟩

theorem blinded_iff_sample :
    ∃ sealed, sealRun sampleHashing acceptedRun samplePolicy = .ok sealed ∧
      ((∃ package, buildBlindEvaluationPackage sampleHashing sampleInputSha256 countingSource sealed =
          .ok package ∧
        Blinded sampleHashing sealed package ∧
        ∀ ρ run' sealed' source', sealRun sampleHashing run' samplePolicy = .ok sealed' →
          source'.DistinctBelow (drawBound run'.records samplePolicy) → AlikeRuns ρ acceptedRun run' →
          ∃ package', buildBlindEvaluationPackage sampleHashing sampleInputSha256 source' sealed' =
              .ok package' ∧
            ∃ σ : BlindRenaming, package'.input = package.input.rename σ) ↔
        EvidenceHeld acceptedRun samplePolicy) := by
  obtain ⟨hclean, hbound⟩ :
      (validate sampleHashing acceptedRun samplePolicy).hasStructuralViolations = false ∧
      drawBound acceptedRun.records samplePolicy ≤ 2 ^ 16 := by
    decide +kernel
  obtain ⟨sealed, hsealed⟩ := exists_sealed hclean
  exact ⟨sealed, hsealed, blinded_iff hsealed (countingSource_distinct.mono hbound)⟩

/-- A check that the policy does not declare, on an artifact that was never recorded. -/
def undeclaredCheck : ProvenanceEvent :=
  .checkRecorded {
    checkId := sampleId .check 2
    attemptId := sampleAttempt .exercise
    kind := .test
    outcome := .passed
    evidence := [.artifact (sampleId .artifact 2)] }

/-- The accepted run with the check after its last record, under the digests it has to carry. -/
def undeclaredRun : RunProvenance :=
  let record : ProvenanceRecord := {
    sequence := 27
    observedAtUnixMs := 0
    previousRecordSha256 := acceptedRun.records.getLast?.map ProvenanceRecord.recordSha256
    recordSha256 := sampleDigest 0
    event := undeclaredCheck }
  { acceptedRun with
    records := acceptedRun.records ++ [{ record with
      recordSha256 := computeRecordHash sampleHashing (acceptedRun.recordMaterial record) }] }

/-- The run is sealed, and no blind package can be built of it. -/
theorem undeclared_unprojectable :
    ∃ sealed, sealRun sampleHashing undeclaredRun samplePolicy = .ok sealed ∧
      ∀ inputSha256 source package,
        buildBlindEvaluationPackage sampleHashing inputSha256 source sealed ≠ .ok package := by
  obtain ⟨hclean, hnot⟩ :
      (validate sampleHashing undeclaredRun samplePolicy).hasStructuralViolations = false ∧
      ¬EvidenceHeld undeclaredRun samplePolicy := by
    decide +kernel
  obtain ⟨sealed, hsealed⟩ := exists_sealed hclean
  refine ⟨sealed, hsealed, ?_⟩
  intro inputSha256 source package hbuild
  have hheld := evidenceHeld_of_build hbuild
  obtain ⟨-, terminal, -, rfl⟩ := sealRun_eq_ok hsealed
  exact hnot hheld

end Samples

end BirdCode.Validation
