import BirdCode.Validation.Rules

/-! `RunProvenance::append`: a record joins the log only if the log with it passes two checks of the
whole log, one of its resources and one of its chain and its references. -/
namespace BirdCode.Validation

open Std

section Resources

/-- The totals of `append_prefix_resources_are_valid`. -/
structure ResourceTotals where
  starts : BTreeMap AttemptId (UInt64 × Bool)
  artifacts : List ArtifactRecord
  checkCount : ℕ
  totalEvidence : ℕ
  totalElapsed : ℕ
  violations : List ValidationViolation

def ResourceTotals.start (header : RunHeader) (totals : ResourceTotals) (start : AttemptStarted) :
    ResourceTotals :=
  { totals with
    starts := totals.starts.insert start.attemptId (start.timeoutMs, start.command.isSome)
    violations := totals.violations ++ collect [
      report (start.timeoutMs = 0 ∨ header.bounds.maxTimeoutMs < start.timeoutMs)
        (.timeoutOutOfBounds start.attemptId start.timeoutMs.toNat header.bounds.maxTimeoutMs.toNat),
      start.command.elim [] fun command =>
        validateCommand start.attemptId command header.bounds
          (operatingSystemEncoding header.environment.operatingSystem)] }

def ResourceTotals.finish (totals : ResourceTotals) (finish : AttemptFinished) : ResourceTotals :=
  { totals with
    totalElapsed := saturatingAdd totals.totalElapsed finish.elapsedMs.toNat
    violations := totals.violations ++ collect [
      match totals.starts[finish.attemptId]? with
      | none => []
      | some (timeoutMs, hasCommand) =>
        collect [
          report (timeoutMs < finish.elapsedMs)
            (.elapsedTimeOutOfBounds finish.attemptId finish.elapsedMs.toNat timeoutMs.toNat),
          report (hasCommand = true ∧ finish.processExit = none ∧
              finish.outcome ∉ [.policyDenied, .notApplicable])
            (.commandAttemptMissingProcessExit finish.attemptId),
          report (hasCommand = false ∧ finish.processExit ≠ none)
            (.unexpectedProcessExit finish.attemptId)],
      finish.processExit.elim [] fun processExit =>
        report (phaseOutcomeContradictsExit finish.outcome processExit = true)
          (.contradictoryPhaseOutcome finish.attemptId finish.outcome processExit)] }

def ResourceTotals.artifact (header : RunHeader) (totals : ResourceTotals)
    (artifact : ArtifactRecord) : ResourceTotals :=
  { totals with
    artifacts := totals.artifacts ++ [artifact]
    violations := totals.violations ++ validateArtifact artifact header.bounds }

/-- A check with too much evidence ends the scan. -/
def ResourceTotals.check (header : RunHeader) (totals : ResourceTotals) (check : ValidationCheck) :
    Option ResourceTotals :=
  if header.bounds.maxCheckEvidenceItems.toNat < asU64 check.evidence.length then none
  else some { totals with
    checkCount := saturatingAdd totals.checkCount 1
    totalEvidence := saturatingAdd totals.totalEvidence (asU64 check.evidence.length) }

def accountRecord (header : RunHeader) (totals : ResourceTotals) (record : ProvenanceRecord) :
    Option ResourceTotals :=
  match record.event with
  | .attemptStarted start => some (totals.start header start)
  | .attemptFinished finish => some (totals.finish finish)
  | .artifactRecorded artifact => some (totals.artifact header artifact)
  | .checkRecorded check => totals.check header check

/-- The saturating sum of the bytes retained of some artifacts. -/
def retainedTotal (artifacts : List ArtifactRecord) : ℕ :=
  artifacts.foldl (fun total artifact => saturatingAdd total artifact.retainedBytes.toNat) 0

/-- How many artifacts are of a kind. -/
def kindCount (kind : ArtifactKind) (artifacts : List ArtifactRecord) : ℕ :=
  asU64 (artifacts.countP fun artifact => artifact.kind = kind)

def initialTotals (header : RunHeader) : ResourceTotals where
  starts := ∅
  artifacts := []
  checkCount := 0
  totalEvidence := 0
  totalElapsed := 0
  violations := validateEnvironmentSnapshot header.environment header.bounds

def ResourceTotals.withinBounds (bounds : ExecutionBounds) (totals : ResourceTotals) : Prop :=
  asU64 totals.artifacts.length ≤ bounds.maxArtifacts.toNat ∧
  asU64 totals.starts.size ≤ bounds.maxAttempts.toNat ∧
  totals.checkCount ≤ bounds.maxChecks.toNat ∧
  totals.totalEvidence ≤ bounds.maxTotalEvidenceItems.toNat ∧
  totals.totalElapsed ≤ bounds.maxTotalElapsedMs.toNat ∧
  retainedTotal totals.artifacts ≤ bounds.maxTotalArtifactBytes.toNat ∧
  kindCount .screenshot totals.artifacts ≤ bounds.maxScreenshots.toNat ∧
  kindCount .video totals.artifacts ≤ bounds.maxVideos.toNat ∧
  totals.violations = []

instance (bounds : ExecutionBounds) (totals : ResourceTotals) :
    Decidable (totals.withinBounds bounds) := inferInstanceAs (Decidable (_ ∧ _))

def appendPrefixResourcesAreValid (run : RunProvenance) : Bool :=
  if run.bounds.maxRecords.toNat < asU64 run.records.length then false
  else if targetEnvironmentMatches run.target run.environment = false then false
  else if (targetUrlBytes run.target).any (run.bounds.maxUrlBytes.toNat < ·) then false
  else match run.records.foldlM (accountRecord run.toRunHeader) (initialTotals run.toRunHeader) with
    | none => false
    | some totals => decide (totals.withinBounds run.bounds)

end Resources

section Prefixes

/-- What `is_appendable_prefix` keeps of the records it has passed. -/
structure PrefixState where
  expectedSequence : UInt64
  previousHash : Option Sha256Digest
  previousTimestamp : Option UInt64
  started : BTreeSet AttemptId
  finished : BTreeSet AttemptId
  artifacts : BTreeMap ArtifactId (AttemptId × ArtifactKind)
  checks : BTreeSet CheckId
  attemptPhases : BTreeMap AttemptId ExecutionPhase
  unfinishedByPhase : BTreeMap ExecutionPhase ℕ
  lastStartedPhase : Option ExecutionPhase

def initialPrefix : PrefixState where
  expectedSequence := 1
  previousHash := none
  previousTimestamp := none
  started := ∅
  finished := ∅
  artifacts := ∅
  checks := ∅
  attemptPhases := ∅
  unfinishedByPhase := ∅
  lastStartedPhase := none

/-- A start of a phase before the last one, or after one that still runs. -/
def startsOutOfPhase (lastStartedPhase : Option ExecutionPhase)
    (unfinishedByPhase : BTreeMap ExecutionPhase ℕ) (phase : ExecutionPhase) : Prop :=
  ∃ previous ∈ lastStartedPhase,
    phase.ordinal < previous.ordinal ∨
      previous.ordinal < phase.ordinal ∧ ∃ unfinished ∈ unfinishedByPhase[previous]?, 0 < unfinished

instance (last : Option ExecutionPhase) (unfinished : BTreeMap ExecutionPhase ℕ)
    (phase : ExecutionPhase) : Decidable (startsOutOfPhase last unfinished phase) :=
  inferInstanceAs (Decidable (∃ previous ∈ last, _))

def PrefixState.start (state : PrefixState) (start : AttemptStarted) : Option PrefixState :=
  if state.started.contains start.attemptId = true ∨
      ∃ parent ∈ start.parentAttemptId,
        parent = start.attemptId ∨ state.started.contains parent = false then none
  else if startsOutOfPhase state.lastStartedPhase state.unfinishedByPhase start.phase then none
  else some { state with
    lastStartedPhase := some start.phase
    started := state.started.insert start.attemptId
    attemptPhases := state.attemptPhases.insert start.attemptId start.phase
    unfinishedByPhase := state.unfinishedByPhase.insert start.phase
      (asU32 (state.unfinishedByPhase.getD start.phase 0 + 1)) }

def PrefixState.finish (state : PrefixState) (finish : AttemptFinished) : Option PrefixState :=
  if state.started.contains finish.attemptId = false ∨
      state.finished.contains finish.attemptId = true ∨
      (∃ id ∈ finish.stdoutArtifactId, state.artifacts[id]? ≠ some (finish.attemptId, .stdoutLog)) ∨
      (∃ id ∈ finish.stderrArtifactId, state.artifacts[id]? ≠ some (finish.attemptId, .stderrLog))
    then none
  else match state.attemptPhases[finish.attemptId]? with
    | none => none
    | some phase =>
      match state.unfinishedByPhase[phase]? with
      | none => none
      | some unfinished => some { state with
          finished := state.finished.insert finish.attemptId
          unfinishedByPhase := state.unfinishedByPhase.insert phase (unfinished - 1) }

def PrefixState.artifact (state : PrefixState) (artifact : ArtifactRecord) : Option PrefixState :=
  if state.started.contains artifact.attemptId = false ∨
      state.artifacts.contains artifact.artifactId = true then none
  else some { state with
    artifacts := state.artifacts.insert artifact.artifactId (artifact.attemptId, artifact.kind) }

/-- The evidence stands in the log before the check that cites it. -/
def PrefixState.holds (state : PrefixState) : CheckEvidence → Bool
  | .artifact artifactId => state.artifacts.contains artifactId
  | .attemptExit attemptId => state.finished.contains attemptId

def PrefixState.check (state : PrefixState) (check : ValidationCheck) : Option PrefixState :=
  if state.started.contains check.attemptId = false ∨ state.checks.contains check.checkId = true
    then none
  else if check.evidence.dedup.length ≠ check.evidence.length then none
  else if ∃ evidence ∈ check.evidence, state.holds evidence = false then none
  else some { state with checks := state.checks.insert check.checkId }

variable (hashing : Hashing)

/-- The chain fields of a record that the log does not continue with. -/
def breaksChain (run : RunProvenance) (state : PrefixState) (record : ProvenanceRecord) : Prop :=
  record.sequence ≠ state.expectedSequence ∨
  (∃ timestamp ∈ state.previousTimestamp, record.observedAtUnixMs < timestamp) ∨
  record.previousRecordSha256 ≠ state.previousHash ∨
  computeRecordHash hashing (run.recordMaterial record) ≠ record.recordSha256

instance (run : RunProvenance) (state : PrefixState) (record : ProvenanceRecord) :
    Decidable (breaksChain hashing run state record) := inferInstanceAs (Decidable (_ ∨ _))

def admitRecord (run : RunProvenance) (state : PrefixState) (record : ProvenanceRecord) :
    Option PrefixState :=
  if breaksChain hashing run state record then none
  else match checkedAdd record.sequence 1 with
    | none => none
    | some expectedSequence =>
      let state := { state with
        expectedSequence
        previousHash := some record.recordSha256
        previousTimestamp := some record.observedAtUnixMs }
      match record.event with
      | .attemptStarted start => state.start start
      | .attemptFinished finish => state.finish finish
      | .artifactRecorded artifact => state.artifact artifact
      | .checkRecorded check => state.check check

/-- `.ok()` of a result. -/
def okOf {E A : Type} : Except E A → Option A
  | .ok value => some value
  | .error _ => none

def isAppendablePrefix (run : RunProvenance) : Bool :=
  if run.schemaVersion ≠ provenanceSchemaVersion ∨ run.target.kind.isOk = false ∨
      okOf run.target.requiredAdapter ≠ some run.manifest.adapter.requirement ∨
      computeRunContextHash hashing run.toRunHeader ≠ run.runContextSha256 then false
  else if appendPrefixResourcesAreValid run = false then false
  else (run.records.foldlM (admitRecord hashing run) initialPrefix).isSome

end Prefixes

section Appending

inductive AppendError
  | sequenceOverflow | invalidExistingLog | invalidNewRecord
  deriving DecidableEq

variable (hashing : Hashing)

/-- The record that would follow the log. -/
def nextRecord (run : RunProvenance) (sequence observedAtUnixMs : UInt64)
    (event : ProvenanceEvent) : ProvenanceRecord :=
  let previous := run.records.getLast?.map ProvenanceRecord.recordSha256
  { sequence
    observedAtUnixMs
    previousRecordSha256 := previous
    recordSha256 := computeRecordHash hashing
      { schemaVersion := run.schemaVersion
        runId := run.runId
        runContextSha256 := run.runContextSha256
        sequence
        observedAtUnixMs
        previousRecordSha256 := previous
        event }
    event }

/-- `RunProvenance::append`: the result, and the log as the call leaves it. -/
def append (run : RunProvenance) (observedAtUnixMs : UInt64) (event : ProvenanceEvent) :
    Except AppendError ProvenanceRecord × RunProvenance :=
  if isAppendablePrefix hashing run = false then (.error .invalidExistingLog, run)
  else
    match run.records.getLast?.elim (some 1) fun record => checkedAdd record.sequence 1 with
    | none => (.error .sequenceOverflow, run)
    | some sequence =>
      let record := nextRecord hashing run sequence observedAtUnixMs event
      let pushed := { run with records := run.records ++ [record] }
      if isAppendablePrefix hashing pushed = false then
        (.error .invalidNewRecord, { pushed with records := pushed.records.dropLast })
      else (expect .invalidNewRecord pushed.records.getLast?, pushed)

end Appending

end BirdCode.Validation
