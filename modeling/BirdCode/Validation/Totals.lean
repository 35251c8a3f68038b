import BirdCode.Validation.SoundLogs

/-! The resource totals of a run. The validator adds in saturating `u64` arithmetic, so a total that fits
its bound is the true total unless the bound is the largest `u64`. -/
namespace BirdCode.Validation

open Std Lib

section Sums

/-- A sum kept at the largest `u64` fits a bound just if it fits it, or the bound is that value. -/
def Fits (total : ℕ) (bound : UInt64) : Prop := total ≤ bound.toNat ∨ bound.toNat = 2 ^ 64 - 1

theorem fits_iff {total : ℕ} {bound : UInt64} :
    Fits total bound ↔ ¬bound.toNat < min total (2 ^ 64 - 1) := by
  have hbound := bound.toNat_lt
  unfold Fits
  omega

theorem saturatingAdd_saturatingAdd (a b c : ℕ) :
    saturatingAdd (saturatingAdd a b) c = saturatingAdd a (b + c) := by
  unfold saturatingAdd
  omega

theorem saturatingAdd_asU64 (a b : ℕ) : saturatingAdd a (asU64 b) = saturatingAdd a b := by
  unfold saturatingAdd asU64
  omega

theorem asU64_le {value : ℕ} {bound : UInt32} : ¬bound.toNat < asU64 value ↔ value ≤ bound.toNat := by
  have hbound := bound.toNat_lt
  unfold asU64
  omega

end Sums

section Parts

def entryBytes (entry : EnvironmentEntry) : ℕ := entry.name.encodedBytes + entry.value.resolvedBytes

/-- The metadata of a snapshot in bytes. -/
def snapshotBytes (snapshot : EnvironmentSnapshot) : ℕ :=
  snapshot.architecture.utf8ByteSize + snapshot.osVersion.utf8ByteSize +
    snapshot.locale.elim 0 String.utf8ByteSize +
    (snapshot.toolchain.map fun tool =>
      tool.toolId.value.utf8ByteSize + tool.version.utf8ByteSize).sum +
    (snapshot.selectedVariables.map fun entry =>
      entryBytes entry + entry.value.retainedMetadataBytes).sum

theorem metadataBytes_eq (snapshot : EnvironmentSnapshot) :
    metadataBytes snapshot = min (snapshotBytes snapshot) (2 ^ 64 - 1) := by
  simp only [metadataBytes, saturatingAdd_asU64, saturatingAdd_saturatingAdd]
  have hlocale : (snapshot.locale.elim 0 fun locale => asU64 locale.utf8ByteSize) =
      asU64 (snapshot.locale.elim 0 String.utf8ByteSize) := by
    cases snapshot.locale <;> rfl
  rw [hlocale]
  have htext (n : ℕ) : saturatingAdd (asU64 snapshot.architecture.utf8ByteSize) n ≤ 2 ^ 64 - 1 :=
    Nat.min_le_right _ _
  rw [foldl_saturatingAdd (htext _), foldl_saturatingAdd (Nat.min_le_right _ _)]
  unfold snapshotBytes saturatingAdd asU64 entryBytes
  simp only [Nat.add_assoc]
  omega

theorem argumentBytes_eq (arguments : List RetainedArgument) :
    argumentBytes arguments = min (arguments.map RetainedValue.resolvedBytes).sum (2 ^ 64 - 1) :=
  foldl_saturatingAdd_zero

theorem environmentBytes_eq (entries : List EnvironmentEntry) :
    environmentBytes entries = min (entries.map entryBytes).sum (2 ^ 64 - 1) := by
  simp only [environmentBytes, saturatingAdd_asU64, saturatingAdd_saturatingAdd]
  exact foldl_saturatingAdd_zero

theorem elapsedTotal_eq (records : List ProvenanceRecord) :
    elapsedTotal records =
      min ((finishes records).map fun finish => finish.elapsedMs.toNat).sum (2 ^ 64 - 1) := by
  rw [← foldl_saturatingAdd_zero, finishes, List.foldl_filterMap, elapsedTotal]
  congr 1
  funext total record
  unfold finishOf
  cases record.event <;> rfl

theorem evidenceTotal_eq (checks : List ValidationCheck) :
    evidenceTotal checks = min (checks.map fun check => check.evidence.length).sum (2 ^ 64 - 1) := by
  simp only [evidenceTotal, saturatingAdd_asU64]
  exact foldl_saturatingAdd_zero

theorem retainedTotal_eq (artifacts : List ArtifactRecord) :
    retainedTotal artifacts =
      min (artifacts.map fun artifact => artifact.retainedBytes.toNat).sum (2 ^ 64 - 1) :=
  foldl_saturatingAdd_zero

end Parts

section Commands

/-- The bounds of one command. -/
structure CommandWithinBounds (bounds : ExecutionBounds) (command : CommandSpec) : Prop where
  argvItems : command.arguments.length ≤ bounds.maxArgvItems.toNat
  argumentBytes : Fits (command.arguments.map RetainedValue.resolvedBytes).sum bounds.maxArgumentBytes
  environmentEntries : command.environment.length ≤ bounds.maxEnvironmentEntries.toNat
  environmentBytes : Fits (command.environment.map entryBytes).sum bounds.maxEnvironmentBytes
  stdin : stdinBytes command ≤ bounds.maxStdinBytes.toNat
  stdout : command.capture.stdoutBytes ≤ bounds.maxStdoutBytes
  stderr : command.capture.stderrBytes ≤ bounds.maxStderrBytes

theorem commandWithinBounds {attemptId : AttemptId} {command : CommandSpec}
    {bounds : ExecutionBounds} {encoding : Option NativeEncoding}
    (h : validateCommand attemptId command bounds encoding = []) :
    CommandWithinBounds bounds command := by
  simp only [validateCommand, collect_eq_nil, List.forall_mem_cons, report_eq_nil,
    argumentBytes_eq, environmentBytes_eq, ← fits_iff, asU64_le] at h
  obtain ⟨-, -, -, -, -, -, hargv, -, harguments, hentries, -, henvironment, hstdin, hstdout, hstderr,
    -⟩ := h
  exact ⟨hargv, harguments, hentries, henvironment, Nat.not_lt.mp hstdin,
    UInt64.le_iff_toNat_le.mpr (Nat.not_lt.mp hstdout),
    UInt64.le_iff_toNat_le.mpr (Nat.not_lt.mp hstderr)⟩

end Commands

section Runs

/-- The resources of a run, each within the bound the run declares for it. -/
structure RunWithinBounds (run : RunProvenance) : Prop where
  recordCount : run.records.length ≤ run.bounds.maxRecords.toNat
  attemptCount : (starts run.records).length ≤ run.bounds.maxAttempts.toNat
  checkCount : (checks run.records).length ≤ run.bounds.maxChecks.toNat
  checkEvidence : ∀ check ∈ checks run.records,
    check.evidence.length ≤ run.bounds.maxCheckEvidenceItems.toNat
  evidence : ((checks run.records).map fun check => check.evidence.length).sum ≤
    run.bounds.maxTotalEvidenceItems.toNat
  elapsed : Fits ((finishes run.records).map fun finish => finish.elapsedMs.toNat).sum
    run.bounds.maxTotalElapsedMs
  artifactCount : (artifacts run.records).length ≤ run.bounds.maxArtifacts.toNat
  artifactBytes : Fits ((artifacts run.records).map fun artifact => artifact.retainedBytes.toNat).sum
    run.bounds.maxTotalArtifactBytes
  screenshots : ((artifacts run.records).countP fun artifact => artifact.kind = .screenshot) ≤ run.bounds.maxScreenshots.toNat
  videos : ((artifacts run.records).countP fun artifact => artifact.kind = .video) ≤
    run.bounds.maxVideos.toNat
  toolchain : run.environment.toolchain.length ≤ run.bounds.maxToolchainEntries.toNat
  selectedVariables : run.environment.selectedVariables.length ≤ run.bounds.maxEnvironmentEntries.toNat
  metadata : Fits (snapshotBytes run.environment) run.bounds.maxMetadataBytes
  commands : ∀ start ∈ starts run.records, ∀ command ∈ start.command,
    CommandWithinBounds run.bounds command

variable {hashing : Hashing} {run : RunProvenance}

theorem runWithinBounds (h : Stepwise (Unobjectionable hashing run) run.records)
    (henvironment : validateEnvironmentSnapshot run.environment run.bounds = [])
    (htotals : validateExecutionTotals run (absorbAll run.records) = [])
    (hartifacts : validateArtifactTotals run (absorbAll run.records) = []) :
    RunWithinBounds run := by
  have hchecks := checks_perm h
  have hretained := artifacts_perm h
  simp only [validateEnvironmentSnapshot, collect_eq_nil, List.forall_mem_cons, report_eq_nil,
    metadataBytes_eq, ← fits_iff, asU64_le] at henvironment
  simp only [validateExecutionTotals, collect_eq_nil, List.forall_mem_cons, report_eq_nil,
    List.flatMap_eq_nil_iff, evidenceTotal_eq, elapsedTotal_eq, asU64_le, ← fits_iff,
    size_started h, size_checks h] at htotals
  simp only [validateArtifactTotals, collect_eq_nil, List.forall_mem_cons, report_eq_nil,
    retainedTotal_eq, asU64_le, ← fits_iff, size_artifacts h] at hartifacts
  obtain ⟨hrecords, hattempts, hcount, hevidence, htotal, helapsed, -⟩ := htotals
  obtain ⟨hartifact, hbytes, hscreenshots, hvideos, -⟩ := hartifacts
  refine ⟨hrecords, hattempts, hcount, ?_, ?_, helapsed, hartifact, ?_, ?_, ?_,
    henvironment.2.2.2.1, henvironment.2.2.2.2.1, henvironment.2.2.2.2.2.2.2.1, ?_⟩
  · intro check hmem
    exact hevidence check (hchecks.mem_iff.mpr hmem)
  · rw [(hchecks.map fun check => check.evidence.length).sum_eq] at htotal
    have hbound := run.bounds.maxTotalEvidenceItems.toNat_lt
    omega
  · rwa [← (hretained.map fun artifact => artifact.retainedBytes.toNat).sum_eq]
  · rw [← hretained.countP_eq]
    exact asU64_le.mp hscreenshots
  · rw [← hretained.countP_eq]
    exact asU64_le.mp hvideos
  · intro start hstart command hcommand
    obtain ⟨record, hmem, hevent⟩ := mem_starts.mp hstart
    obtain ⟨before, after, heq, hrecord⟩ := h.of_mem hmem
    exact commandWithinBounds ((hrecord.ofStart hevent).2.2.2.2 command hcommand)

end Runs

end BirdCode.Validation
