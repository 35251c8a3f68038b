import BirdCode.Lib.HashChain
import BirdCode.Lib.Collecting
import BirdCode.Validation.Validator

/-! What the validator keeps of a log, in terms of the log: the maps are collected from the starts, the
ends, the artifacts and the checks, and the pass reports nothing just if every record is free of
violations against the records before it. -/
namespace BirdCode.Validation

open Std Lib

section Projections

def startOf (record : ProvenanceRecord) : Option AttemptStarted :=
  match record.event with
  | .attemptStarted start => some start
  | _ => none

def finishOf (record : ProvenanceRecord) : Option AttemptFinished :=
  match record.event with
  | .attemptFinished finish => some finish
  | _ => none

def artifactOf (record : ProvenanceRecord) : Option ArtifactRecord :=
  match record.event with
  | .artifactRecorded artifact => some artifact
  | _ => none

def checkOf (record : ProvenanceRecord) : Option ValidationCheck :=
  match record.event with
  | .checkRecorded check => some check
  | _ => none

variable {records before : List ProvenanceRecord} {record : ProvenanceRecord}
  {start : AttemptStarted} {finish : AttemptFinished} {artifact : ArtifactRecord}
  {check : ValidationCheck}

@[simp] theorem startOf_eq_some : startOf record = some start ↔ record.event = .attemptStarted start := by
  unfold startOf
  cases record.event <;> simp

@[simp] theorem finishOf_eq_some :
    finishOf record = some finish ↔ record.event = .attemptFinished finish := by
  unfold finishOf
  cases record.event <;> simp

@[simp] theorem artifactOf_eq_some :
    artifactOf record = some artifact ↔ record.event = .artifactRecorded artifact := by
  unfold artifactOf
  cases record.event <;> simp

@[simp] theorem checkOf_eq_some : checkOf record = some check ↔ record.event = .checkRecorded check := by
  unfold checkOf
  cases record.event <;> simp

def starts (records : List ProvenanceRecord) : List AttemptStarted := records.filterMap startOf
def finishes (records : List ProvenanceRecord) : List AttemptFinished := records.filterMap finishOf
def artifacts (records : List ProvenanceRecord) : List ArtifactRecord := records.filterMap artifactOf
def checks (records : List ProvenanceRecord) : List ValidationCheck := records.filterMap checkOf

theorem mem_starts : start ∈ starts records ↔ ∃ record ∈ records, record.event = .attemptStarted start := by
  simp [starts]

theorem mem_finishes :
    finish ∈ finishes records ↔ ∃ record ∈ records, record.event = .attemptFinished finish := by
  simp [finishes]

theorem mem_artifacts :
    artifact ∈ artifacts records ↔ ∃ record ∈ records, record.event = .artifactRecorded artifact := by
  simp [artifacts]

theorem mem_checks : check ∈ checks records ↔ ∃ record ∈ records, record.event = .checkRecorded check := by
  simp [checks]

theorem starts_concat : starts (records ++ [record]) = starts records ++ (startOf record).toList := by
  simp only [starts, List.filterMap_append]
  cases h : startOf record <;> simp [h]

theorem finishes_concat :
    finishes (records ++ [record]) = finishes records ++ (finishOf record).toList := by
  simp only [finishes, List.filterMap_append]
  cases h : finishOf record <;> simp [h]

theorem artifacts_concat :
    artifacts (records ++ [record]) = artifacts records ++ (artifactOf record).toList := by
  simp only [artifacts, List.filterMap_append]
  cases h : artifactOf record <;> simp [h]

theorem checks_concat : checks (records ++ [record]) = checks records ++ (checkOf record).toList := by
  simp only [checks, List.filterMap_append]
  cases h : checkOf record <;> simp [h]

end Projections

section Collected

/-- The state of the validator after some records. -/
def absorbAll (records : List ProvenanceRecord) : Collected :=
  records.foldl Collected.absorb initialCollected

theorem absorbAll_concat (records : List ProvenanceRecord) (record : ProvenanceRecord) :
    absorbAll (records ++ [record]) = (absorbAll records).absorb record := by
  simp [absorbAll]

/-- The end of an attempt changes only what is kept of ends and phases. -/
theorem finish_frame (state : Collected) (finish : AttemptFinished) :
    (state.finish finish).started = state.started ∧
      (state.finish finish).artifacts = state.artifacts ∧
      (state.finish finish).checks = state.checks ∧
      (state.finish finish).expectedSequence = state.expectedSequence ∧
      (state.finish finish).previousTimestamp = state.previousTimestamp ∧
      (state.finish finish).previousHash = state.previousHash ∧
      (state.finish finish).lastStartedPhase = state.lastStartedPhase := by
  simp only [Collected.finish]
  split
  · simp
  · cases state.started[finish.attemptId]? <;> simp [Collected.endPhase]

theorem started_absorb (state : Collected) (record : ProvenanceRecord) :
    (state.absorb record).started =
      match startOf record with
      | some start => state.started.insert start.attemptId start.kept
      | none => state.started := by
  unfold Collected.absorb startOf
  cases record.event with
  | attemptStarted start => rfl
  | attemptFinished finish => exact (finish_frame _ finish).1
  | artifactRecorded artifact => rfl
  | checkRecorded check => rfl

theorem finished_absorb (state : Collected) (record : ProvenanceRecord) :
    (state.absorb record).finished =
      match finishOf record with
      | some finish => state.finished.insert finish.attemptId finish.processExit
      | none => state.finished := by
  unfold Collected.absorb finishOf
  cases record.event <;> rfl

theorem artifacts_absorb (state : Collected) (record : ProvenanceRecord) :
    (state.absorb record).artifacts =
      match artifactOf record with
      | some artifact => state.artifacts.insert artifact.artifactId artifact
      | none => state.artifacts := by
  unfold Collected.absorb artifactOf
  cases record.event with
  | attemptStarted start => rfl
  | attemptFinished finish => exact (finish_frame _ finish).2.1
  | artifactRecorded artifact => rfl
  | checkRecorded check => rfl

theorem checks_absorb (state : Collected) (record : ProvenanceRecord) :
    (state.absorb record).checks =
      match checkOf record with
      | some check => state.checks.insert check.checkId check
      | none => state.checks := by
  unfold Collected.absorb checkOf
  cases record.event with
  | attemptStarted start => rfl
  | attemptFinished finish => exact (finish_frame _ finish).2.2.1
  | artifactRecorded artifact => rfl
  | checkRecorded check => rfl

theorem chain_absorb (state : Collected) (record : ProvenanceRecord) :
    (state.absorb record).expectedSequence = asU64 (record.sequence.toNat + 1) ∧
      (state.absorb record).previousTimestamp = some record.observedAtUnixMs ∧
      (state.absorb record).previousHash = some record.recordSha256 := by
  unfold Collected.absorb
  cases record.event with
  | attemptStarted start => exact ⟨rfl, rfl, rfl⟩
  | attemptFinished finish =>
    obtain ⟨-, -, -, hsequence, htimestamp, hhash, -⟩ := finish_frame _ finish
    exact ⟨hsequence, htimestamp, hhash⟩
  | artifactRecorded artifact => exact ⟨rfl, rfl, rfl⟩
  | checkRecorded check => exact ⟨rfl, rfl, rfl⟩

def startEntry (start : AttemptStarted) : AttemptId × AttemptStart := (start.attemptId, start.kept)

def finishEntry (finish : AttemptFinished) : AttemptId × Option ProcessExit :=
  (finish.attemptId, finish.processExit)

def artifactEntry (artifact : ArtifactRecord) : ArtifactId × ArtifactRecord :=
  (artifact.artifactId, artifact)

def checkEntry (check : ValidationCheck) : CheckId × ValidationCheck := (check.checkId, check)

variable (records : List ProvenanceRecord)

theorem started_absorbAll :
    (absorbAll records).started = toMap ((starts records).map startEntry) := by
  induction records using List.reverseRecOn with
  | nil => rfl
  | append_singleton records record ih =>
    rw [absorbAll_concat, started_absorb, starts_concat, ih]
    cases startOf record with
    | none => simp
    | some start => simp [toMap_append, startEntry]

theorem finished_absorbAll :
    (absorbAll records).finished = toMap ((finishes records).map finishEntry) := by
  induction records using List.reverseRecOn with
  | nil => rfl
  | append_singleton records record ih =>
    rw [absorbAll_concat, finished_absorb, finishes_concat, ih]
    cases finishOf record with
    | none => simp
    | some finish => simp [toMap_append, finishEntry]

theorem artifacts_absorbAll :
    (absorbAll records).artifacts = toMap ((artifacts records).map artifactEntry) := by
  induction records using List.reverseRecOn with
  | nil => rfl
  | append_singleton records record ih =>
    rw [absorbAll_concat, artifacts_absorb, artifacts_concat, ih]
    cases artifactOf record with
    | none => simp
    | some artifact => simp [toMap_append, artifactEntry]

theorem checks_absorbAll :
    (absorbAll records).checks = toMap ((checks records).map checkEntry) := by
  induction records using List.reverseRecOn with
  | nil => rfl
  | append_singleton records record ih =>
    rw [absorbAll_concat, checks_absorb, checks_concat, ih]
    cases checkOf record with
    | none => simp
    | some check => simp [toMap_append, checkEntry]

theorem expectedSequence_absorbAll :
    (absorbAll records).expectedSequence =
      records.getLast?.elim 1 fun record => asU64 (record.sequence.toNat + 1) := by
  obtain rfl | ⟨rest, last, rfl⟩ := List.eq_nil_or_concat records
  · rfl
  · rw [List.concat_eq_append, absorbAll_concat, (chain_absorb _ _).1, List.getLast?_concat,
      Option.elim_some]

theorem previousTimestamp_absorbAll :
    (absorbAll records).previousTimestamp =
      records.getLast?.map ProvenanceRecord.observedAtUnixMs := by
  obtain rfl | ⟨rest, last, rfl⟩ := List.eq_nil_or_concat records
  · rfl
  · rw [List.concat_eq_append, absorbAll_concat, (chain_absorb _ _).2.1, List.getLast?_concat,
      Option.map_some]

theorem previousHash_absorbAll :
    (absorbAll records).previousHash = records.getLast?.map ProvenanceRecord.recordSha256 := by
  obtain rfl | ⟨rest, last, rfl⟩ := List.eq_nil_or_concat records
  · rfl
  · rw [List.concat_eq_append, absorbAll_concat, (chain_absorb _ _).2.2, List.getLast?_concat,
      Option.map_some]

end Collected

section Violations

variable {hashing : Hashing} {run : RunProvenance}

/-- A record that adds no violation to what the records before it left. -/
def Unobjectionable (hashing : Hashing) (run : RunProvenance) (before : List ProvenanceRecord)
    (record : ProvenanceRecord) : Prop :=
  chainViolations hashing run (absorbAll before) record = [] ∧
    eventViolations run.toRunHeader (absorbAll before) record = []

/-- The violations of a record against the records before it. -/
def recordViolations (hashing : Hashing) (run : RunProvenance) (before : List ProvenanceRecord)
    (record : ProvenanceRecord) : List ValidationViolation :=
  chainViolations hashing run (absorbAll before) record ++
    eventViolations run.toRunHeader (absorbAll before) record

theorem recordViolations_eq_nil {before : List ProvenanceRecord} {record : ProvenanceRecord} :
    recordViolations hashing run before record = [] ↔ Unobjectionable hashing run before record :=
  List.append_eq_nil_iff

/-- What holds of every violation the pass reports holds of those of every record. -/
theorem foldl_collectRecord (p : ValidationViolation → Prop) (records : List ProvenanceRecord) :
    (records.foldl (collectRecord hashing run) (initialCollected, [])).1 = absorbAll records ∧
      ((∀ violation ∈ (records.foldl (collectRecord hashing run) (initialCollected, [])).2,
          p violation) ↔
        Stepwise (fun before record => ∀ violation ∈ recordViolations hashing run before record,
          p violation) records) := by
  induction records using List.reverseRecOn with
  | nil =>
    refine ⟨rfl, ⟨fun _ => ?_, fun _ => List.forall_mem_nil _⟩⟩
    intro before entry after heq
    simp at heq
  | append_singleton records record ih =>
    obtain ⟨hstate, hviolations⟩ := ih
    rw [List.foldl_append, List.foldl_cons, List.foldl_nil]
    refine ⟨by rw [absorbAll_concat, ← hstate]; rfl, ?_⟩
    simp only [collectRecord, hstate, List.append_assoc, List.forall_mem_append, hviolations]
    constructor
    · rintro ⟨hbefore, hrecord⟩
      exact hbefore.append (List.forall_mem_append.mpr hrecord)
    · intro h
      exact ⟨h.init, List.forall_mem_append.mp h.last⟩

theorem collectRecords_fst : (collectRecords hashing run).1 = absorbAll run.records :=
  (foldl_collectRecord (fun _ => True) run.records).1

theorem forall_mem_collectRecords_snd {p : ValidationViolation → Prop} :
    (∀ violation ∈ (collectRecords hashing run).2, p violation) ↔
      Stepwise (fun before record => ∀ violation ∈ recordViolations hashing run before record,
        p violation) run.records :=
  (foldl_collectRecord p run.records).2

theorem collectRecords_snd_eq_nil :
    (collectRecords hashing run).2 = [] ↔ Stepwise (Unobjectionable hashing run) run.records := by
  rw [List.eq_nil_iff_forall_not_mem]
  refine forall_mem_collectRecords_snd.trans ⟨?_, ?_⟩
  · intro h
    refine h.imp fun before record hrecord => recordViolations_eq_nil.mp ?_
    exact List.eq_nil_iff_forall_not_mem.mpr hrecord
  · intro h
    refine h.imp fun before record hrecord => List.eq_nil_iff_forall_not_mem.mp ?_
    exact recordViolations_eq_nil.mpr hrecord

end Violations

end BirdCode.Validation
