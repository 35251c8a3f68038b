import BirdCode.Validation.Blinding

/-! The blind package of a sealed run: it is built just if every check the policy does not declare cites what
the log holds, its identities are listed once each in the disclosure, and runs that differ only in what is
left out have inputs that differ only in their identities. -/
namespace BirdCode.Validation

open Std Lib

variable {hashing : Hashing} {run : RunProvenance} {policy : ValidationPolicy}
  {inputSha256 : BlindEvaluationInput → Sha256Digest} {source : UuidSource}
  {sealed : SealedRunProvenance} {package : BlindEvaluationPackage}

section Success

/-- Every check that the policy does not declare cites what the log holds. -/
def EvidenceHeld (run : RunProvenance) (policy : ValidationPolicy) : Prop :=
  ∀ check ∈ checks run.records, check.checkId ∉ policy.checkRequirements →
    ∀ item ∈ check.evidence, Held run.records item

instance (run : RunProvenance) (policy : ValidationPolicy) : Decidable (EvidenceHeld run policy) :=
  inferInstanceAs (Decidable (∀ check ∈ checks run.records,
    check.checkId ∉ policy.checkRequirements → ∀ item ∈ check.evidence, Held run.records item))

theorem held_iff {records : List ProvenanceRecord} {item : CheckEvidence} :
    (∃ blind, BlindsEvidence (blindMaps source records policy).pairs item blind) ↔
      Held records item := by
  constructor
  · rintro ⟨blind, hblind⟩
    cases hblind with
    | artifact hfound =>
      refine (mem_blindArtifacts source records policy _).mp ?_
      exact ExtTreeMap.mem_iff_isSome_getElem?.mpr (Option.isSome_of_mem hfound)
    | attemptExit hfound =>
      refine (mem_blindAttempts source records policy _).mp ?_
      exact ExtTreeMap.mem_iff_isSome_getElem?.mpr (Option.isSome_of_mem hfound)
  · intro hheld
    cases item with
    | artifact id =>
      obtain ⟨handle, hhandle⟩ := exists_of_mem ((mem_blindArtifacts source records policy id).mpr hheld)
      exact ⟨_, .artifact hhandle⟩
    | attemptExit id =>
      obtain ⟨blind, hblind⟩ := exists_of_mem ((mem_blindAttempts source records policy id).mpr hheld)
      exact ⟨_, .attemptExit hblind⟩

theorem mem_starts_of_before {before after : List ProvenanceRecord} {record : ProvenanceRecord}
    {id : AttemptId} (h : id ∈ (starts before).map AttemptStarted.attemptId) :
    id ∈ (starts (before ++ record :: after)).map AttemptStarted.attemptId := by
  rw [starts, List.filterMap_append, List.map_append]
  exact List.mem_append_left _ h

/-- The records of a clean run whose evidence is held can all be projected. -/
theorem projectable_of_held (hclean : Clean hashing run policy) (hheld : EvidenceHeld run policy) :
    Stepwise (Projectable (blindMaps source run.records policy)) run.records := by
  intro before record after heq
  have hsound := hclean.log before record after heq
  have hmem : record ∈ run.records := heq ▸ List.mem_append_right _ List.mem_cons_self
  have hattempt {id : AttemptId} (hid : id ∈ (starts before).map AttemptStarted.attemptId) :
      id ∈ (blindMaps source run.records policy).attempts := by
    rw [mem_blindAttempts, heq]
    exact mem_starts_of_before hid
  unfold Projectable
  cases hevent : record.event with
  | attemptStarted start => exact trivial
  | attemptFinished finish =>
    have hstarted := (hsound.ofFinish hevent).1
    refine ⟨hattempt hstarted, hstarted, ?_⟩
    intro start hstart parent hparent
    obtain ⟨earlier, hearlier, hstartEvent⟩ := mem_starts.mp hstart
    obtain ⟨first, rest, hsplit⟩ := List.append_of_mem hearlier
    have hfirst : run.records = first ++ earlier :: (rest ++ record :: after) := by
      rw [heq, hsplit, List.append_assoc, List.cons_append]
    have hknown := (((hclean.log first earlier _ hfirst).ofStart hstartEvent).2.1 parent hparent).2
    rw [mem_blindAttempts, hfirst]
    exact mem_starts_of_before hknown
  | artifactRecorded artifact =>
    refine ⟨?_, hattempt (hsound.ofArtifact hevent).1⟩
    rw [mem_blindArtifacts]
    exact List.mem_map_of_mem (mem_artifacts.mpr ⟨record, hmem, hevent⟩)
  | checkRecorded check =>
    have hcheck : check ∈ checks run.records := mem_checks.mpr ⟨record, hmem, hevent⟩
    refine ⟨?_, hattempt (hsound.ofCheck hevent).1, ?_⟩
    · rw [mem_blindChecks]
      exact Or.inr (List.mem_map_of_mem hcheck)
    · intro item hitem
      refine held_iff.mpr ?_
      by_cases hdeclared : check.checkId ∈ policy.checkRequirements
      · exact hclean.held check hcheck hdeclared item hitem
      · exact hheld check hcheck hdeclared item hitem

theorem evidenceHeld_of_build
    (h : buildBlindEvaluationPackage hashing inputSha256 source sealed = .ok package) :
    EvidenceHeld sealed.provenance sealed.policy := by
  intro check hcheck _ item hitem
  obtain ⟨hprojects, -⟩ := of_build h
  obtain ⟨blind, -, hblind⟩ := exists_of_forall₂ hprojects.checks hcheck
  obtain ⟨blindItem, -, hblindItem⟩ := exists_of_forall₂ hblind.evidence hitem
  exact held_iff.mp ⟨blindItem, hblindItem⟩

variable (error : BlindBuildError) {records : List ProvenanceRecord}

/-- The requirement of a check that the policy asks for is found in the maps. -/
theorem exists_requirement {entry : CheckId × CheckRequirement}
    (h : entry ∈ policy.checkRequirements.toList) :
    ∃ blind, blindRequirement (blindMaps source records policy) error entry = .ok blind := by
  have hkey : entry.1 ∈ policy.checkRequirements := by
    rw [ExtTreeMap.mem_iff_isSome_getElem?, ExtTreeMap.mem_toList_iff_getElem?_eq_some.mp h]
    rfl
  obtain ⟨checkId, hfound⟩ :=
    exists_of_mem ((mem_blindChecks source records policy entry.1).mpr (Or.inl hkey))
  exact ⟨{ entry.2 with checkId }, blindRequirement_eq_ok.mpr ⟨hfound, rfl⟩⟩

theorem exists_disclosed {artifact : ArtifactRecord} (h : artifact ∈ artifacts records) :
    ∃ mapping, discloseArtifact (blindMaps source records policy) error artifact = .ok mapping := by
  obtain ⟨handle, hfound⟩ :=
    exists_of_mem ((mem_blindArtifacts source records policy _).mpr (List.mem_map_of_mem h))
  rw [discloseArtifact, hfound]
  exact ⟨_, rfl⟩

/-- Every attempt of a clean run has ended, so its time is known. -/
theorem exists_elapsed {projection : Projection} {entry : AttemptId × BlindAttemptId}
    (hemitted : Emitted (blindMaps source records policy) records projection)
    (hended : ∀ start ∈ starts records, ∃ finish ∈ finishes records,
      finish.attemptId = start.attemptId)
    (h : entry ∈ (blindMaps source records policy).attempts.toList) :
    ∃ mapping, discloseAttempt error projection.elapsedByAttempt entry = .ok mapping := by
  have hkey : entry.1 ∈ (blindMaps source records policy).attempts := by
    rw [ExtTreeMap.mem_iff_isSome_getElem?, ExtTreeMap.mem_toList_iff_getElem?_eq_some.mp h]
    rfl
  obtain ⟨start, hstart, hid⟩ := List.mem_map.mp ((mem_blindAttempts source records policy _).mp hkey)
  obtain ⟨finish, hfinish, hsame⟩ := hended start hstart
  have htimed : entry.1 ∈ projection.elapsedByAttempt := by
    rw [hemitted.timed, ← hid, ← hsame]
    exact List.mem_map_of_mem hfinish
  obtain ⟨elapsedMs, hfound⟩ := exists_of_mem htimed
  rw [discloseAttempt, hfound]
  exact ⟨_, rfl⟩

theorem exists_kind (target : ExecutionTarget) : ∃ kind, projectedKind error target = .ok kind := by
  have hsupported := target.supported
  unfold projectedKind ExecutionTarget.kind
  cases hkind : targetKind target.surface target.platform with
  | ok kind => exact ⟨kind, rfl⟩
  | error failure =>
    rw [hkind] at hsupported
    cases hsupported

theorem exists_package (h : sealRun hashing run policy = .ok sealed)
    (hheld : EvidenceHeld run policy) :
    ∃ package, buildBlindEvaluationPackage hashing inputSha256 source sealed = .ok package := by
  obtain ⟨hvalid, terminal, -, rfl⟩ := sealRun_eq_ok h
  have hclean := clean_of_validate hvalid
  generalize validate hashing run policy = report at *
  let error : BlindBuildError := .projectionInvariant report
  let maps := blindMaps source run.records policy
  have hprojectable : Stepwise (Projectable maps) run.records := projectable_of_held hclean hheld
  obtain ⟨projection, hprojection⟩ :
      ∃ projection, run.records.foldlM (Projection.project maps error) initialProjection =
        .ok projection := exists_foldlM hprojectable
  obtain ⟨disclosed, hdisclosed⟩ :
      ∃ disclosed, (artifacts run.records).mapM (discloseArtifact maps error) = .ok disclosed :=
    exists_mapM fun artifact hartifact => exists_disclosed error hartifact
  obtain ⟨attempts, hattempts⟩ :
      ∃ attempts, maps.attempts.toList.mapM (discloseAttempt error projection.elapsedByAttempt) =
        .ok attempts :=
    exists_mapM fun entry hentry =>
      exists_elapsed error (emitted_of_foldlM hprojection) hclean.ended hentry
  obtain ⟨requirements, hrequirements⟩ :
      ∃ requirements, policy.checkRequirements.toList.mapM (blindRequirement maps error) =
        .ok requirements :=
    exists_mapM fun entry hentry => exists_requirement error hentry
  obtain ⟨kind, hkind⟩ := exists_kind error run.target
  simp only [buildBlindEvaluationPackage, bind_eq_ok]
  exact ⟨_, projection, hprojection, disclosed, hdisclosed, attempts, hattempts, requirements,
    hrequirements, kind, hkind, rfl⟩

end Success

section Disclosures

/-- The UUIDs of the blind identities a disclosure lists. -/
def BlindDisclosure.uuids (disclosure : BlindDisclosure) : List Uuid :=
  disclosure.candidate.blindCandidateId.uuid :: disclosure.run.blindRunId.uuid ::
    (disclosure.attempts.map (fun mapping => mapping.blindAttemptId.uuid) ++
      disclosure.artifacts.map (fun mapping => mapping.blindHandle.uuid) ++
      disclosure.checks.map (fun mapping => mapping.blindCheckId.uuid))

/-- The package of a sealed run: its input is the run under the correspondence of the disclosure, which is
one to one and lists no identity twice. -/
structure Blinded (hashing : Hashing) (sealed : SealedRunProvenance)
    (package : BlindEvaluationPackage) : Prop where
  run : package.disclosure.run = ⟨sealed.sealedRunSha256, package.input.runId⟩
  candidate : package.disclosure.candidate =
    ⟨sealed.provenance.candidateId, package.input.candidateId⟩
  projects : Projects hashing package.disclosure.pairs sealed package.input
  once : package.disclosure.uuids.Nodup
  attempts : Relator.BiUnique package.disclosure.pairs.attempts
  artifacts : Relator.BiUnique package.disclosure.pairs.artifacts
  checks : Relator.BiUnique package.disclosure.pairs.checks

variable {maps : BlindMaps}

theorem pairs_of_discloses
    (h : Discloses source (blindMaps source sealed.provenance.records policy) sealed package) :
    package.disclosure.pairs = (blindMaps source sealed.provenance.records policy).pairs := by
  have hattempts : package.disclosure.pairs.attempts =
      (blindMaps source sealed.provenance.records policy).pairs.attempts := by
    funext id blind
    refine propext ?_
    change _ ↔ (blindMaps source sealed.provenance.records policy).attempts[id]? = some blind
    rw [← ExtTreeMap.mem_toList_iff_getElem?_eq_some, ← h.attempts, List.mem_map]
    simp only [Prod.mk.injEq]
    rfl
  have hchecks : package.disclosure.pairs.checks =
      (blindMaps source sealed.provenance.records policy).pairs.checks := by
    funext id blind
    refine propext ?_
    change _ ↔ (blindMaps source sealed.provenance.records policy).checks[id]? = some blind
    rw [← ExtTreeMap.mem_toList_iff_getElem?_eq_some, ← h.checks, List.mem_map]
    simp only [Prod.mk.injEq]
    rfl
  have hartifacts : package.disclosure.pairs.artifacts =
      (blindMaps source sealed.provenance.records policy).pairs.artifacts := by
    funext id blind
    refine propext ⟨?_, ?_⟩
    · rintro ⟨mapping, hmapping, rfl, rfl⟩
      obtain ⟨artifact, -, hid, hfound⟩ := exists_of_forall₂ h.artifacts.flip hmapping
      rw [hid]
      exact hfound
    · intro hfound
      have hkey : id ∈ (blindMaps source sealed.provenance.records policy).artifacts :=
        ExtTreeMap.mem_iff_isSome_getElem?.mpr (Option.isSome_of_mem hfound)
      obtain ⟨artifact, hartifact, rfl⟩ := List.mem_map.mp ((mem_blindArtifacts ..).mp hkey)
      obtain ⟨mapping, hmapping, hid, hsame⟩ := exists_of_forall₂ h.artifacts hartifact
      exact ⟨mapping, hmapping, hid, Option.some.inj (hsame.symm.trans hfound)⟩
  exact BlindPairs.ext hattempts hartifacts hchecks

/-- The artifacts are disclosed in the order of the log, each once. -/
theorem artifacts_perm_of_discloses
    (h : Discloses source (blindMaps source sealed.provenance.records policy) sealed package)
    (hnodup : ((artifacts sealed.provenance.records).map ArtifactRecord.artifactId).Nodup) :
    (package.disclosure.artifacts.map fun mapping =>
      (mapping.sourceArtifactId, mapping.blindHandle)).Perm
        (blindMaps source sealed.provenance.records policy).artifacts.toList := by
  have hsources : package.disclosure.artifacts.map BlindArtifactMapping.sourceArtifactId =
      (artifacts sealed.provenance.records).map ArtifactRecord.artifactId :=
    map_eq_of_forall₂_eq ((List.forall₂_map_left_iff).mpr (h.artifacts.imp fun _ _ => And.left))
  have hkeys : ((blindMaps source sealed.provenance.records policy).artifacts.toList.map
      Prod.fst).Nodup := by
    rw [ExtTreeMap.map_fst_toList_eq_keys]
    exact ExtTreeMap.nodup_keys
  refine (List.perm_ext_iff_of_nodup (List.Nodup.of_map Prod.fst ?_) (List.Nodup.of_map _ hkeys)).mpr ?_
  · rw [List.map_map]
    change (package.disclosure.artifacts.map BlindArtifactMapping.sourceArtifactId).Nodup
    rw [hsources]
    exact hnodup
  · rintro ⟨id, handle⟩
    rw [ExtTreeMap.mem_toList_iff_getElem?_eq_some, List.mem_map]
    simp only [Prod.mk.injEq]
    have hpairs := congrArg (fun pairs => pairs.artifacts id handle) (pairs_of_discloses h)
    exact Iff.of_eq hpairs

theorem nodup_of_discloses
    (h : Discloses source (blindMaps source sealed.provenance.records policy) sealed package)
    (hnodup : ((artifacts sealed.provenance.records).map ArtifactRecord.artifactId).Nodup)
    (hfresh : source.DistinctBelow (drawBound sealed.provenance.records policy)) :
    package.disclosure.uuids.Nodup := by
  have hattempts : package.disclosure.attempts.map (fun mapping => mapping.blindAttemptId.uuid) =
      mapUuids (blindMaps source sealed.provenance.records policy).attempts := by
    rw [mapUuids, ← h.attempts, List.map_map]
    rfl
  have hchecks : package.disclosure.checks.map (fun mapping => mapping.blindCheckId.uuid) =
      mapUuids (blindMaps source sealed.provenance.records policy).checks := by
    rw [mapUuids, ← h.checks, List.map_map]
    rfl
  have hartifacts := (artifacts_perm_of_discloses h hnodup).map fun entry => entry.2.uuid
  rw [List.map_map] at hartifacts
  have hcandidate : package.disclosure.candidate.blindCandidateId.uuid = source.next 0 := by
    rw [h.candidate, h.inputCandidate]
    rfl
  have hrun : package.disclosure.run.blindRunId.uuid = source.next 1 := by
    rw [h.run, h.inputRun]
    rfl
  unfold BlindDisclosure.uuids
  rw [hattempts, hchecks, hcandidate, hrun]
  refine (List.Perm.nodup_iff ?_).mpr (nodup_uuids hfresh)
  exact (((hartifacts.append_left _).append_right _).cons _).cons _

/-- Behind distinct UUIDs stand different identities, so each has one source. -/
theorem biUnique_of_nodup {K : Type} [Ord K] [TransOrd K] [LawfulEqOrd K] {kind : ProvenanceIdKind}
    {map : BTreeMap K (ProvenanceId kind)} (h : (mapUuids map).Nodup) :
    Relator.BiUnique fun (id : K) (blind : ProvenanceId kind) => map[id]? = some blind := by
  constructor
  · intro id id' blind hid hid'
    have hmem := ExtTreeMap.mem_toList_iff_getElem?_eq_some.mpr hid
    have hmem' := ExtTreeMap.mem_toList_iff_getElem?_eq_some.mpr hid'
    exact congrArg Prod.fst (List.inj_on_of_nodup_map h hmem hmem' rfl)
  · intro id blind blind' hblind hblind'
    exact Option.some.inj (hblind.symm.trans hblind')

theorem blinded_of_build (h : sealRun hashing run policy = .ok sealed)
    (hfresh : source.DistinctBelow (drawBound run.records policy))
    (hbuild : buildBlindEvaluationPackage hashing inputSha256 source sealed = .ok package) :
    Blinded hashing sealed package := by
  obtain ⟨hvalid, terminal, -, rfl⟩ := sealRun_eq_ok h
  have hclean := clean_of_validate hvalid
  obtain ⟨hprojects, hdiscloses⟩ := of_build hbuild
  have hpairs := pairs_of_discloses hdiscloses
  have huuids : (blindMaps source run.records policy).uuids.Nodup :=
    (List.nodup_cons.mp (List.nodup_cons.mp (nodup_uuids hfresh)).2).2
  obtain ⟨hleft, hchecks, -⟩ := List.nodup_append.mp huuids
  obtain ⟨hattempts, hartifacts, -⟩ := List.nodup_append.mp hleft
  refine ⟨hdiscloses.run, hdiscloses.candidate, ?_,
    nodup_of_discloses hdiscloses (nodup_artifacts hclean.log) hfresh, ?_, ?_, ?_⟩
  · rw [hpairs]
    exact hprojects
  · rw [hpairs]
    exact biUnique_of_nodup hattempts
  · rw [hpairs]
    exact biUnique_of_nodup hartifacts
  · rw [hpairs]
    exact biUnique_of_nodup hchecks

end Disclosures

end BirdCode.Validation
