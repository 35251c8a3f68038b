import BirdCode.Validation.Logs

/-! What a log free of violations is: one chain, with every identity introduced once and every record
about an attempt that has started. -/
namespace BirdCode.Validation

open Std Lib

variable {hashing : Hashing} {run : RunProvenance} {records before : List ProvenanceRecord}
  {record : ProvenanceRecord} {start : AttemptStarted} {finish : AttemptFinished}
  {artifact : ArtifactRecord} {check : ValidationCheck}

section Steps

theorem Unobjectionable.ofStart (h : Unobjectionable hashing run before record)
    (hevent : record.event = .attemptStarted start) :
    start.attemptId ∉ (starts before).map AttemptStarted.attemptId ∧
      (∀ parent ∈ start.parentAttemptId,
        parent ≠ start.attemptId ∧ parent ∈ (starts before).map AttemptStarted.attemptId) ∧
      start.timeoutMs ≠ 0 ∧ start.timeoutMs ≤ run.bounds.maxTimeoutMs ∧
      ∀ command ∈ start.command, validateCommand start.attemptId command run.bounds
        (operatingSystemEncoding run.environment.operatingSystem) = [] := by
  obtain ⟨-, h⟩ := h
  rw [eventViolations, hevent] at h
  simp only [startViolations, collect_eq_nil, List.forall_mem_cons, report_eq_nil,
    started_absorbAll, not_or, Bool.not_eq_true, contains_toMap_eq_false, List.map_map] at h
  obtain ⟨-, hparent, hfresh, ⟨hzero, hbound⟩, hcommand, -⟩ := h
  refine ⟨hfresh, ?_, hzero, UInt64.not_lt.mp hbound, ?_⟩
  · intro parent hmem
    rw [Option.mem_def] at hmem
    rw [hmem, Option.elim_some, report_eq_nil, not_or, not_not] at hparent
    exact hparent
  · intro command hmem
    rw [Option.mem_def] at hmem
    rw [hmem, Option.elim_some] at hcommand
    exact hcommand

theorem Unobjectionable.ofFinish (h : Unobjectionable hashing run before record)
    (hevent : record.event = .attemptFinished finish) :
    finish.attemptId ∈ (starts before).map AttemptStarted.attemptId ∧
      finish.attemptId ∉ (finishes before).map AttemptFinished.attemptId := by
  obtain ⟨-, h⟩ := h
  rw [eventViolations, hevent] at h
  simp only [finishViolations, requireStarted, collect_eq_nil, List.forall_mem_cons, report_eq_nil,
    started_absorbAll, finished_absorbAll, Bool.not_eq_true, contains_toMap_eq_false, not_not,
    List.map_map] at h
  exact ⟨h.1, h.2.1⟩

theorem Unobjectionable.ofArtifact (h : Unobjectionable hashing run before record)
    (hevent : record.event = .artifactRecorded artifact) :
    artifact.attemptId ∈ (starts before).map AttemptStarted.attemptId ∧
      artifact.artifactId ∉ (artifacts before).map ArtifactRecord.artifactId ∧
      validateArtifact artifact run.bounds = [] := by
  obtain ⟨-, h⟩ := h
  rw [eventViolations, hevent] at h
  simp only [requireStarted, collect_eq_nil, List.forall_mem_cons, report_eq_nil,
    started_absorbAll, artifacts_absorbAll, Bool.not_eq_true, contains_toMap_eq_false, not_not,
    List.map_map] at h
  exact ⟨h.1, h.2.1, h.2.2.1⟩

theorem Unobjectionable.ofCheck (h : Unobjectionable hashing run before record)
    (hevent : record.event = .checkRecorded check) :
    check.attemptId ∈ (starts before).map AttemptStarted.attemptId ∧
      check.checkId ∉ (checks before).map ValidationCheck.checkId := by
  obtain ⟨-, h⟩ := h
  rw [eventViolations, hevent] at h
  simp only [requireStarted, collect_eq_nil, List.forall_mem_cons, report_eq_nil,
    started_absorbAll, checks_absorbAll, Bool.not_eq_true, contains_toMap_eq_false, not_not,
    List.map_map] at h
  exact ⟨h.1, h.2.1⟩

end Steps

section Chain

/-- The records of a log as the entries of a chain. -/
def recordChain : ChainReading ProvenanceRecord Sha256Digest where
  number := fun record => record.sequence.toNat
  previous := ProvenanceRecord.previousRecordSha256
  digest := ProvenanceRecord.recordSha256

/-- The records of a run form one chain under the digests of their contents. -/
def OneChain (hashing : Hashing) (run : RunProvenance) : Prop :=
  recordChain.Chained (fun record => computeRecordHash hashing (run.recordMaterial record))
    run.records

theorem Unobjectionable.chain (h : Unobjectionable hashing run before record) :
    record.sequence.toNat = before.getLast?.elim 1 (fun last => asU64 (last.sequence.toNat + 1)) ∧
      (∀ timestamp ∈ before.getLast?.map ProvenanceRecord.observedAtUnixMs,
        timestamp ≤ record.observedAtUnixMs) ∧
      record.previousRecordSha256 = before.getLast?.map ProvenanceRecord.recordSha256 ∧
      computeRecordHash hashing (run.recordMaterial record) = record.recordSha256 := by
  obtain ⟨h, -⟩ := h
  simp only [chainViolations, collect_eq_nil, List.forall_mem_cons, report_eq_nil,
    expectedSequence_absorbAll, previousTimestamp_absorbAll, previousHash_absorbAll, not_not,
    not_exists, not_and, UInt64.not_lt] at h
  exact ⟨h.1, h.2.1, h.2.2.1, h.2.2.2.1⟩

/-- A log no longer than a sequence number can count is one chain. -/
theorem chained_of_unobjectionable (h : Stepwise (Unobjectionable hashing run) records)
    (hlength : records.length < 2 ^ 64) :
    recordChain.Chained (fun record => computeRecordHash hashing (run.recordMaterial record))
      records := by
  refine h.induct (P := fun records => records.length < 2 ^ 64 → recordChain.Chained
    (fun record => computeRecordHash hashing (run.recordMaterial record)) records) ?_ ?_ hlength
  · intro _ before entry after heq
    simp at heq
  · intro before record ih hrecord hlength
    rw [List.length_append, List.length_singleton] at hlength
    have hbefore := ih (by omega)
    obtain ⟨hsequence, -, hprevious, hdigest⟩ := hrecord.chain
    refine Stepwise.append hbefore ⟨?_, hprevious, hdigest⟩
    change record.sequence.toNat = before.length + 1
    obtain rfl | ⟨rest, last, rfl⟩ := List.eq_nil_or_concat before
    · exact hsequence
    · rw [List.concat_eq_append] at hbefore hsequence hlength ⊢
      rw [List.getLast?_concat, Option.elim_some] at hsequence
      have hlast : last.sequence.toNat = rest.length + 1 := (Stepwise.last hbefore).1
      rw [hsequence, hlast, List.length_append, List.length_singleton]
      rw [List.length_append, List.length_singleton] at hlength
      exact Nat.min_eq_left (by omega)

end Chain

section Identities

theorem nodup_starts (h : Stepwise (Unobjectionable hashing run) records) :
    ((starts records).map AttemptStarted.attemptId).Nodup :=
  h.nodup_filterMap fun _ _ _ hrecord hkept => (hrecord.ofStart (startOf_eq_some.mp hkept)).1

theorem nodup_finishes (h : Stepwise (Unobjectionable hashing run) records) :
    ((finishes records).map AttemptFinished.attemptId).Nodup :=
  h.nodup_filterMap fun _ _ _ hrecord hkept => (hrecord.ofFinish (finishOf_eq_some.mp hkept)).2

theorem nodup_artifacts (h : Stepwise (Unobjectionable hashing run) records) :
    ((artifacts records).map ArtifactRecord.artifactId).Nodup :=
  h.nodup_filterMap fun _ _ _ hrecord hkept =>
    (hrecord.ofArtifact (artifactOf_eq_some.mp hkept)).2.1

theorem nodup_checks (h : Stepwise (Unobjectionable hashing run) records) :
    ((checks records).map ValidationCheck.checkId).Nodup :=
  h.nodup_filterMap fun _ _ _ hrecord hkept => (hrecord.ofCheck (checkOf_eq_some.mp hkept)).2

end Identities

section Lookups

theorem started_eq_some (h : Stepwise (Unobjectionable hashing run) records)
    {attemptId : AttemptId} {kept : AttemptStart} :
    (absorbAll records).started[attemptId]? = some kept ↔
      ∃ start ∈ starts records, start.attemptId = attemptId ∧ start.kept = kept := by
  have hkeys : (((starts records).map startEntry).map Prod.fst).Nodup := by
    rw [List.map_map]
    exact nodup_starts h
  rw [started_absorbAll, toMap_getElem?_eq_some hkeys, List.mem_map]
  simp only [startEntry, Prod.mk.injEq]

theorem finished_eq_some (h : Stepwise (Unobjectionable hashing run) records)
    {attemptId : AttemptId} {exit : Option ProcessExit} :
    (absorbAll records).finished[attemptId]? = some exit ↔
      ∃ finish ∈ finishes records, finish.attemptId = attemptId ∧ finish.processExit = exit := by
  have hkeys : (((finishes records).map finishEntry).map Prod.fst).Nodup := by
    rw [List.map_map]
    exact nodup_finishes h
  rw [finished_absorbAll, toMap_getElem?_eq_some hkeys, List.mem_map]
  simp only [finishEntry, Prod.mk.injEq]

theorem artifacts_eq_some (h : Stepwise (Unobjectionable hashing run) records)
    {artifactId : ArtifactId} {artifact : ArtifactRecord} :
    (absorbAll records).artifacts[artifactId]? = some artifact ↔
      artifact ∈ artifacts records ∧ artifact.artifactId = artifactId := by
  have hkeys : (((artifacts records).map artifactEntry).map Prod.fst).Nodup := by
    rw [List.map_map]
    exact nodup_artifacts h
  rw [artifacts_absorbAll, toMap_getElem?_eq_some hkeys, List.mem_map]
  constructor
  · rintro ⟨other, hmem, heq⟩
    obtain ⟨rfl, rfl⟩ := Prod.mk.inj heq
    exact ⟨hmem, rfl⟩
  · rintro ⟨hmem, rfl⟩
    exact ⟨artifact, hmem, rfl⟩

theorem checks_eq_some (h : Stepwise (Unobjectionable hashing run) records)
    {checkId : CheckId} {check : ValidationCheck} :
    (absorbAll records).checks[checkId]? = some check ↔
      check ∈ checks records ∧ check.checkId = checkId := by
  have hkeys : (((checks records).map checkEntry).map Prod.fst).Nodup := by
    rw [List.map_map]
    exact nodup_checks h
  rw [checks_absorbAll, toMap_getElem?_eq_some hkeys, List.mem_map]
  constructor
  · rintro ⟨other, hmem, heq⟩
    obtain ⟨rfl, rfl⟩ := Prod.mk.inj heq
    exact ⟨hmem, rfl⟩
  · rintro ⟨hmem, rfl⟩
    exact ⟨check, hmem, rfl⟩

theorem processExit_eq_some (h : Stepwise (Unobjectionable hashing run) records)
    {attemptId : AttemptId} {exit : ProcessExit} :
    (absorbAll records).processExit attemptId = some exit ↔
      ∃ finish ∈ finishes records, finish.attemptId = attemptId ∧ finish.processExit = some exit := by
  rw [Collected.processExit, Option.join_eq_some_iff, finished_eq_some h]

/-- The values the validator goes through are those of the log, in another order. -/
theorem checks_perm (h : Stepwise (Unobjectionable hashing run) records) :
    (mapValues (absorbAll records).checks).Perm (checks records) := by
  have hkeys : (((checks records).map checkEntry).map Prod.fst).Nodup := by
    rw [List.map_map]
    exact nodup_checks h
  have hperm := mapValues_toMap_perm hkeys
  rw [← checks_absorbAll, List.map_map] at hperm
  have hid : (checks records).map (Prod.snd ∘ checkEntry) = checks records := List.map_id _
  rwa [hid] at hperm

theorem artifacts_perm (h : Stepwise (Unobjectionable hashing run) records) :
    (mapValues (absorbAll records).artifacts).Perm (artifacts records) := by
  have hkeys : (((artifacts records).map artifactEntry).map Prod.fst).Nodup := by
    rw [List.map_map]
    exact nodup_artifacts h
  have hperm := mapValues_toMap_perm hkeys
  rw [← artifacts_absorbAll, List.map_map] at hperm
  have hid : (artifacts records).map (Prod.snd ∘ artifactEntry) = artifacts records := List.map_id _
  rwa [hid] at hperm

theorem size_started (h : Stepwise (Unobjectionable hashing run) records) :
    (absorbAll records).started.size = (starts records).length := by
  rw [started_absorbAll, size_toMap, List.length_map]
  rw [List.map_map]
  exact nodup_starts h

theorem size_checks (h : Stepwise (Unobjectionable hashing run) records) :
    (absorbAll records).checks.size = (checks records).length := by
  rw [checks_absorbAll, size_toMap, List.length_map]
  rw [List.map_map]
  exact nodup_checks h

theorem size_artifacts (h : Stepwise (Unobjectionable hashing run) records) :
    (absorbAll records).artifacts.size = (artifacts records).length := by
  rw [artifacts_absorbAll, size_toMap, List.length_map]
  rw [List.map_map]
  exact nodup_artifacts h

end Lookups

end BirdCode.Validation
