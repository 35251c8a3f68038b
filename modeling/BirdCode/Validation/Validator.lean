import BirdCode.Validation.Append

/-! `RunProvenance::validate` and `seal`. The validator collects every violation of a log and a
policy in nine passes; a run whose report has no structural violation is sealed. -/
namespace BirdCode.Validation

open Std

section Header

variable (hashing : Hashing) (run : RunProvenance) (policy : ValidationPolicy)

/-- A requirement that no check could meet, or that asks for nothing. -/
def invalidRequirement (bounds : ExecutionBounds) (requirement : CheckRequirement) : Prop :=
  let expectedClass := requirement.expectedKind.evidenceClass
  let exitIsAllowed := requirement.attemptExit.tag ≠ 0
  requirement.minimumEvidenceItems = 0 ∨
  bounds.maxCheckEvidenceItems < requirement.minimumEvidenceItems ∨
  (¬exitIsAllowed ∧ requirement.allowedArtifactKinds.isEmpty = true) ∨
  (∃ kind ∈ requirement.allowedArtifactKinds.toList,
    kind.evidenceClass ≠ some expectedClass ∨
      requirement.expectedKind.isArtifactCompatible kind = false) ∨
  (match requirement.attemptExit with
    | .allowedCodes codes => codes.isEmpty
    | _ => false) = true ∨
  (exitIsAllowed ∧ requirement.expectedKind.isExitCompatible = false) ∨
  (expectedClass = .vision ∧ exitIsAllowed)

instance (bounds : ExecutionBounds) (requirement : CheckRequirement) :
    Decidable (invalidRequirement bounds requirement) := inferInstanceAs (Decidable (_ ∨ _))

/-- The evidence items a policy asks for in all. -/
def policyEvidenceMinimum : ℕ :=
  (mapValues policy.checkRequirements).foldl
    (fun total requirement => saturatingAdd total requirement.minimumEvidenceItems.toNat) 0

/-- The checks of a policy that mechanical evidence can carry. -/
def availablePrimary : ℕ :=
  asU32 ((mapValues policy.checkRequirements).countP fun requirement =>
    requirement.expectedKind.evidenceClass = .primaryMechanical)

/-- The violations of a policy by itself, against the bounds of a run. -/
def policyViolations (bounds : ExecutionBounds) : List ValidationViolation :=
  collect [
    report (policy.minimumPrimaryPasses = 0) .zeroPolicyPrimaryMinimum,
    executionPhases.flatMap fun phase =>
      report (policy.phaseRequirements.contains phase = false) (.missingPhaseRequirement phase),
    report ((mapValues policy.phaseRequirements).all (· ≠ .requiredSuccess) = true)
      .zeroRequiredSuccessPhases,
    report (policy.checkRequirements.isEmpty = true) .noRequiredChecks,
    report (bounds.maxChecks.toNat < asU64 policy.checkRequirements.size)
      (.policyCheckCountOutOfBounds (asU64 policy.checkRequirements.size) bounds.maxChecks.toNat),
    report (bounds.maxTotalEvidenceItems.toNat < policyEvidenceMinimum policy)
      (.policyEvidenceMinimumOutOfBounds (policyEvidenceMinimum policy)
        bounds.maxTotalEvidenceItems.toNat),
    report (availablePrimary policy < policy.minimumPrimaryPasses.toNat)
      (.policyPrimaryMinimumImpossible policy.minimumPrimaryPasses.toNat
        (availablePrimary policy)),
    policy.checkRequirements.toList.flatMap fun entry =>
      report (invalidRequirement bounds entry.2) (.invalidCheckRequirement entry.1)]

/-- The violations of the header of a run, which the policy plays no part in but by its digests. -/
def headerViolations : List ValidationViolation :=
  collect [
    report (run.schemaVersion ≠ provenanceSchemaVersion)
      (.unsupportedSchemaVersion run.schemaVersion.toNat provenanceSchemaVersion.toNat),
    match run.target.kind with
    | .ok _ => []
    | .error error => [.invalidTarget (targetErrorCode error)],
    report (okOf run.target.requiredAdapter ≠ some run.manifest.adapter.requirement)
      .adapterBindingMismatch,
    report (targetEnvironmentMatches run.target run.environment = false) .targetEnvironmentMismatch,
    report (policy.validationPlanSha256 ≠ run.manifest.validationPlanSha256 ∨
        hashing.policySha256 policy ≠ run.manifest.validationPolicySha256)
      .validationPlanDigestMismatch,
    report (computeRunContextHash hashing run.toRunHeader ≠ run.runContextSha256)
      .runContextHashMismatch,
    report (run.bounds.maxTimeoutMs = 0) .zeroMaximumTimeout,
    (targetUrlBytes run.target).elim [] fun actual =>
      report (run.bounds.maxUrlBytes.toNat < actual)
        (.targetUrlOutOfBounds actual run.bounds.maxUrlBytes.toNat),
    validateEnvironmentSnapshot run.environment run.bounds]

def validateHeader : List ValidationViolation :=
  headerViolations hashing run policy ++ policyViolations policy run.bounds

end Header

section Records

structure AttemptStart where
  timeoutMs : UInt64
  hasCommand : Bool
  phase : ExecutionPhase
  deriving DecidableEq

def AttemptStarted.kept (start : AttemptStarted) : AttemptStart :=
  ⟨start.timeoutMs, start.command.isSome, start.phase⟩

/-- What the validator keeps of the records it has passed. -/
structure Collected where
  expectedSequence : ℕ
  previousTimestamp : Option UInt64
  previousHash : Option Sha256Digest
  started : BTreeMap AttemptId AttemptStart
  finished : BTreeMap AttemptId (Option ProcessExit)
  artifacts : BTreeMap ArtifactId ArtifactRecord
  checks : BTreeMap CheckId ValidationCheck
  finishedPhases : BTreeSet ExecutionPhase
  succeededPhases : BTreeSet ExecutionPhase
  notApplicablePhases : BTreeSet ExecutionPhase
  unfinishedByPhase : BTreeMap ExecutionPhase ℕ
  lastStartedPhase : Option ExecutionPhase

def initialCollected : Collected where
  expectedSequence := 1
  previousTimestamp := none
  previousHash := none
  started := ∅
  finished := ∅
  artifacts := ∅
  checks := ∅
  finishedPhases := ∅
  succeededPhases := ∅
  notApplicablePhases := ∅
  unfinishedByPhase := ∅
  lastStartedPhase := none

def Collected.start (state : Collected) (start : AttemptStarted) : Collected :=
  { state with
    lastStartedPhase :=
      if ∀ previous ∈ state.lastStartedPhase, previous.ordinal ≤ start.phase.ordinal then
        some start.phase
      else state.lastStartedPhase
    unfinishedByPhase := state.unfinishedByPhase.insert start.phase
      (asU32 (state.unfinishedByPhase.getD start.phase 0 + 1))
    started := state.started.insert start.attemptId start.kept }

/-- The first end of a started attempt ends its phase. -/
def Collected.endPhase (state : Collected) (finish : AttemptFinished) (start : AttemptStart) :
    Collected :=
  { state with
    finishedPhases := state.finishedPhases.insert start.phase
    unfinishedByPhase :=
      match state.unfinishedByPhase[start.phase]? with
      | none => state.unfinishedByPhase
      | some unfinished => state.unfinishedByPhase.insert start.phase (unfinished - 1)
    succeededPhases :=
      if finish.outcome = .succeeded then state.succeededPhases.insert start.phase
      else state.succeededPhases
    notApplicablePhases :=
      if finish.outcome = .notApplicable then state.notApplicablePhases.insert start.phase
      else state.notApplicablePhases }

def Collected.finish (state : Collected) (finish : AttemptFinished) : Collected :=
  let ended :=
    if state.finished.contains finish.attemptId then state
    else state.started[finish.attemptId]?.elim state (state.endPhase finish)
  { ended with finished := state.finished.insert finish.attemptId finish.processExit }

/-- The state after a record, whatever its violations. -/
def Collected.absorb (state : Collected) (record : ProvenanceRecord) : Collected :=
  let state := { state with
    expectedSequence := asU64 (record.sequence.toNat + 1)
    previousTimestamp := some record.observedAtUnixMs
    previousHash := some record.recordSha256 }
  match record.event with
  | .attemptStarted start => state.start start
  | .attemptFinished finish => state.finish finish
  | .artifactRecorded artifact =>
    { state with artifacts := state.artifacts.insert artifact.artifactId artifact }
  | .checkRecorded check => { state with checks := state.checks.insert check.checkId check }

variable (hashing : Hashing) (run : RunProvenance)

def chainViolations (state : Collected) (record : ProvenanceRecord) : List ValidationViolation :=
  collect [
    report (record.sequence.toNat ≠ state.expectedSequence)
      (.nonContiguousSequence record.sequence.toNat state.expectedSequence),
    report (∃ timestamp ∈ state.previousTimestamp, record.observedAtUnixMs < timestamp)
      (.timestampRegressed record.sequence.toNat),
    report (record.previousRecordSha256 ≠ state.previousHash)
      (.previousRecordHashMismatch record.sequence.toNat),
    report (computeRecordHash hashing (run.recordMaterial record) ≠ record.recordSha256)
      (.recordHashMismatch record.sequence.toNat)]

/-- A start of a phase is judged by the last phase started, which a start out of order leaves. -/
def phaseViolations (state : Collected) (start : AttemptStarted) : List ValidationViolation :=
  state.lastStartedPhase.elim [] fun previous =>
    if start.phase.ordinal < previous.ordinal then
      [.phaseOutOfOrder start.attemptId start.phase previous]
    else report (previous.ordinal < start.phase.ordinal ∧
        ∃ unfinished ∈ state.unfinishedByPhase[previous]?, 0 < unfinished)
      (.phaseAdvancedBeforeTerminal start.attemptId previous)

def startViolations (header : RunHeader) (state : Collected) (start : AttemptStarted) :
    List ValidationViolation :=
  collect [
    phaseViolations state start,
    start.parentAttemptId.elim [] fun parent =>
      report (parent = start.attemptId ∨ state.started.contains parent = false)
        (.invalidParentAttempt start.attemptId parent),
    report (state.started.contains start.attemptId = true) (.duplicateAttemptStart start.attemptId),
    report (start.timeoutMs = 0 ∨ header.bounds.maxTimeoutMs < start.timeoutMs)
      (.timeoutOutOfBounds start.attemptId start.timeoutMs.toNat header.bounds.maxTimeoutMs.toNat),
    start.command.elim [] fun command =>
      validateCommand start.attemptId command header.bounds
        (operatingSystemEncoding header.environment.operatingSystem)]

def requireStarted (state : Collected) (attemptId : AttemptId) (sequence : UInt64) :
    List ValidationViolation :=
  report (state.started.contains attemptId = false)
    (.eventBeforeAttemptStart attemptId sequence.toNat)

def finishViolations (state : Collected) (sequence : UInt64) (finish : AttemptFinished) :
    List ValidationViolation :=
  let start := state.started[finish.attemptId]?
  collect [
    requireStarted state finish.attemptId sequence,
    report (state.finished.contains finish.attemptId = true)
      (.duplicateAttemptFinish finish.attemptId),
    report ((∃ kept ∈ start, kept.hasCommand = true) ∧ finish.processExit = none ∧
        finish.outcome ∉ [.policyDenied, .notApplicable])
      (.commandAttemptMissingProcessExit finish.attemptId),
    report ((∃ kept ∈ start, kept.hasCommand = false) ∧ finish.processExit ≠ none)
      (.unexpectedProcessExit finish.attemptId),
    finish.processExit.elim [] fun processExit =>
      report (phaseOutcomeContradictsExit finish.outcome processExit = true)
        (.contradictoryPhaseOutcome finish.attemptId finish.outcome processExit),
    start.elim [] fun kept =>
      report (kept.timeoutMs < finish.elapsedMs)
        (.elapsedTimeOutOfBounds finish.attemptId finish.elapsedMs.toNat kept.timeoutMs.toNat)]

def eventViolations (header : RunHeader) (state : Collected) (record : ProvenanceRecord) :
    List ValidationViolation :=
  match record.event with
  | .attemptStarted start => startViolations header state start
  | .attemptFinished finish => finishViolations state record.sequence finish
  | .artifactRecorded artifact =>
    collect [
      requireStarted state artifact.attemptId record.sequence,
      report (state.artifacts.contains artifact.artifactId = true)
        (.duplicateArtifact artifact.artifactId),
      validateArtifact artifact header.bounds]
  | .checkRecorded check =>
    collect [
      requireStarted state check.attemptId record.sequence,
      report (state.checks.contains check.checkId = true) (.duplicateCheck check.checkId)]

def collectRecord (collected : Collected × List ValidationViolation) (record : ProvenanceRecord) :
    Collected × List ValidationViolation :=
  (collected.1.absorb record,
    collected.2 ++ chainViolations hashing run collected.1 record ++
      eventViolations run.toRunHeader collected.1 record)

def collectRecords : Collected × List ValidationViolation :=
  run.records.foldl (collectRecord hashing run) (initialCollected, [])

end Records

section Totals

variable (run : RunProvenance) (policy : ValidationPolicy) (state : Collected)

/-- The saturating sum of the times the ends of attempts report. -/
def elapsedTotal (records : List ProvenanceRecord) : ℕ :=
  records.foldl (fun total record =>
    match record.event with
    | .attemptFinished finish => saturatingAdd total finish.elapsedMs.toNat
    | _ => total) 0

def evidenceTotal (checks : List ValidationCheck) : ℕ :=
  checks.foldl (fun total check => saturatingAdd total (asU64 check.evidence.length)) 0

def validateExecutionTotals : List ValidationViolation :=
  let bounds := run.bounds
  collect [
    report (bounds.maxRecords.toNat < asU64 run.records.length)
      (.recordCountOutOfBounds (asU64 run.records.length) bounds.maxRecords.toNat),
    report (bounds.maxAttempts.toNat < asU64 state.started.size)
      (.attemptCountOutOfBounds (asU64 state.started.size) bounds.maxAttempts.toNat),
    report (bounds.maxChecks.toNat < asU64 state.checks.size)
      (.checkCountOutOfBounds (asU64 state.checks.size) bounds.maxChecks.toNat),
    (mapValues state.checks).flatMap fun check =>
      report (bounds.maxCheckEvidenceItems.toNat < asU64 check.evidence.length)
        (.checkEvidenceItemsOutOfBounds check.checkId (asU64 check.evidence.length)
          bounds.maxCheckEvidenceItems.toNat),
    report (bounds.maxTotalEvidenceItems.toNat < evidenceTotal (mapValues state.checks))
      (.totalEvidenceItemsOutOfBounds (evidenceTotal (mapValues state.checks))
        bounds.maxTotalEvidenceItems.toNat),
    report (bounds.maxTotalElapsedMs.toNat < elapsedTotal run.records)
      (.totalElapsedTimeOutOfBounds (elapsedTotal run.records) bounds.maxTotalElapsedMs.toNat)]

def validateAttemptCompletion : List ValidationViolation :=
  state.started.keys.flatMap fun attemptId =>
    report (state.finished.contains attemptId = false) (.attemptNotFinished attemptId)

def requirementMet (phase : ExecutionPhase) : PhaseRequirement → Bool
  | .requiredSuccess => state.succeededPhases.contains phase
  | .declaredNotApplicable => state.notApplicablePhases.contains phase

def validatePhaseCoverage : List ValidationViolation :=
  executionPhases.flatMap fun phase =>
    if state.finishedPhases.contains phase = false then [.missingPhaseTerminal phase]
    else policy.phaseRequirements[phase]?.elim [] fun requirement =>
      report (requirementMet state phase requirement = false)
        (.phaseRequirementNotMet phase requirement)

def validateArtifactTotals : List ValidationViolation :=
  let bounds := run.bounds
  let artifacts := mapValues state.artifacts
  collect [
    report (bounds.maxArtifacts.toNat < asU64 state.artifacts.size)
      (.artifactCountOutOfBounds (asU64 state.artifacts.size) bounds.maxArtifacts.toNat),
    report (bounds.maxTotalArtifactBytes.toNat < retainedTotal artifacts)
      (.totalArtifactBytesOutOfBounds (retainedTotal artifacts) bounds.maxTotalArtifactBytes.toNat),
    report (bounds.maxScreenshots.toNat < kindCount .screenshot artifacts)
      (.screenshotCountOutOfBounds (kindCount .screenshot artifacts) bounds.maxScreenshots.toNat),
    report (bounds.maxVideos.toNat < kindCount .video artifacts)
      (.videoCountOutOfBounds (kindCount .video artifacts) bounds.maxVideos.toNat)]

def validateFinishedArtifact (attemptId : AttemptId) (artifactId : ArtifactId)
    (expectedKind : ArtifactKind) : List ValidationViolation :=
  match state.artifacts[artifactId]? with
  | none => [.finishedArtifactMissing attemptId artifactId expectedKind]
  | some artifact =>
    report (artifact.attemptId ≠ attemptId ∨ artifact.kind ≠ expectedKind)
      (.finishedArtifactMismatch attemptId artifactId expectedKind)

def validateFinishedArtifactLinks : List ValidationViolation :=
  run.records.flatMap fun record =>
    match record.event with
    | .attemptFinished finish =>
      collect [
        finish.stdoutArtifactId.elim [] fun id =>
          validateFinishedArtifact state finish.attemptId id .stdoutLog,
        finish.stderrArtifactId.elim [] fun id =>
          validateFinishedArtifact state finish.attemptId id .stderrLog]
    | _ => []

end Totals

section Checks

variable (state : Collected) (policy : ValidationPolicy)

/-- The process exit a finished attempt ended with. -/
def Collected.processExit (attemptId : AttemptId) : Option ProcessExit :=
  state.finished[attemptId]?.join

/-- What one piece of evidence is worth to a check: a violation, or the class it qualifies for. -/
def judgeEvidence (checkId : CheckId) (requirement : CheckRequirement) :
    CheckEvidence → Except ValidationViolation (Option EvidenceClass)
  | .artifact artifactId =>
    match state.artifacts[artifactId]? with
    | none => .error (.missingArtifactEvidence checkId artifactId)
    | some artifact =>
      if requirement.allowedArtifactKinds.contains artifact.kind = false then
        .error (.disallowedArtifactEvidence checkId artifactId artifact.kind)
      else if artifact.truncated = true ∧ requirement.allowTruncatedArtifacts = false then
        .error (.truncatedArtifactEvidenceDisallowed checkId artifactId)
      else .ok artifact.kind.evidenceClass
  | .attemptExit attemptId =>
    match state.processExit attemptId with
    | none => .error (.missingExitEvidence checkId attemptId)
    | some processExit =>
      if requirement.attemptExit.accepts processExit = false then
        .error (.attemptExitEvidenceRequirementNotMet checkId attemptId)
      else .ok (some .primaryMechanical)

/-- The violations of the items a list repeats, at every repetition. -/
def duplicateEvidenceViolations (checkId : CheckId) (evidence : List CheckEvidence) :
    List ValidationViolation :=
  (evidence.mapIdx fun position item =>
    report (item ∈ evidence.take position) (.duplicateCheckEvidence checkId item)).flatten

/-- The evidence of a check that qualifies, each item once. -/
def qualifyingEvidence (check : ValidationCheck) (requirement : CheckRequirement) :
    List CheckEvidence :=
  (check.evidence.filter fun item =>
    (judgeEvidence state check.checkId requirement item).isOk).dedup

/-- The check cites evidence of a class. -/
def hasEvidenceOf (evidenceClass : EvidenceClass) (check : ValidationCheck)
    (requirement : CheckRequirement) : Bool :=
  check.evidence.any fun item =>
    okOf (judgeEvidence state check.checkId requirement item) = some (some evidenceClass)

def evidenceViolations (check : ValidationCheck) (requirement : CheckRequirement) :
    List ValidationViolation :=
  check.evidence.flatMap fun item =>
    match judgeEvidence state check.checkId requirement item with
    | .ok _ => []
    | .error violation => [violation]

def declaredCheckViolations (check : ValidationCheck) (requirement : CheckRequirement) :
    List ValidationViolation :=
  let count := asU32 (qualifyingEvidence state check requirement).length
  collect [
    duplicateEvidenceViolations check.checkId check.evidence,
    report (check.kind ≠ requirement.expectedKind)
      (.checkKindMismatch check.checkId requirement.expectedKind check.kind),
    report (check.evidence.isEmpty = true) (.checkHasNoEvidence check.checkId),
    evidenceViolations state check requirement,
    match check.kind.evidenceClass with
    | .primaryMechanical =>
      report (hasEvidenceOf state .primaryMechanical check requirement = false)
        (.primaryCheckHasNoMechanicalEvidence check.checkId)
    | .vision =>
      report (hasEvidenceOf state .vision check requirement = false)
        (.visualCheckHasNoVisionEvidence check.checkId),
    report (count < requirement.minimumEvidenceItems.toNat)
      (.checkEvidenceCountBelowMinimum check.checkId count requirement.minimumEvidenceItems.toNat),
    report (check.outcome = .failed) (.recordedCheckFailed check.checkId)]

/-- An undeclared check is not looked at further. -/
def validateChecks : List ValidationViolation :=
  (mapValues state.checks).flatMap fun check =>
    match policy.checkRequirements[check.checkId]? with
    | none => [.undeclaredCheck check.checkId]
    | some requirement => declaredCheckViolations state check requirement

/-- `check_satisfies_requirement`. -/
def checkSatisfiesRequirement (check : ValidationCheck) : Bool :=
  match policy.checkRequirements[check.checkId]? with
  | none => false
  | some requirement =>
    let unique := check.evidence.dedup
    if check.kind ≠ requirement.expectedKind ∨
        asU32 unique.length < requirement.minimumEvidenceItems.toNat then false
    else if unique.any fun item => !(judgeEvidence state check.checkId requirement item).isOk then
      false
    else unique.any fun item =>
      okOf (judgeEvidence state check.checkId requirement item) = some (some .primaryMechanical)

/-- The checks that passed on mechanical evidence. -/
def primaryPasses : List ValidationCheck :=
  (mapValues state.checks).filter fun check =>
    check.outcome = .passed && check.kind.evidenceClass = .primaryMechanical &&
      checkSatisfiesRequirement state policy check

def validatePolicy : List ValidationViolation :=
  collect [
    policy.checkRequirements.keys.flatMap fun requiredId =>
      match state.checks[requiredId]? with
      | none => [.missingRequiredCheck requiredId]
      | some check =>
        report (check.outcome ≠ .passed) (.requiredCheckDidNotPass requiredId check.outcome),
    report (asU32 (primaryPasses state policy).length < policy.minimumPrimaryPasses.toNat)
      (.insufficientPrimaryPasses (asU32 (primaryPasses state policy).length)
        policy.minimumPrimaryPasses.toNat)]

end Checks

section Verdicts

variable (hashing : Hashing) (run : RunProvenance) (policy : ValidationPolicy)

/-- `Validator::validate`. -/
def validationViolations : List ValidationViolation :=
  let collected := collectRecords hashing run
  collect [
    validateHeader hashing run policy,
    collected.2,
    validateExecutionTotals run collected.1,
    validateAttemptCompletion collected.1,
    validatePhaseCoverage policy collected.1,
    validateArtifactTotals run collected.1,
    validateFinishedArtifactLinks run collected.1,
    validateChecks collected.1 policy,
    validatePolicy collected.1 policy]

/-- The outcomes of the ends of attempts, in the order of the log. -/
def finishedOutcomes (records : List ProvenanceRecord) : List PhaseOutcome :=
  records.filterMap fun record =>
    match record.event with
    | .attemptFinished finish => some finish.outcome
    | _ => none

def failedOutcome (outcome : PhaseOutcome) : Bool :=
  outcome ∈ [.candidateFailure, .infrastructureError, .timedOut, .policyDenied]

def isRecordedCheckFailed : ValidationViolation → Bool
  | .recordedCheckFailed _ => true
  | _ => false

def isPhaseRequirementNotMet : ValidationViolation → Bool
  | .phaseRequirementNotMet _ _ => true
  | _ => false

def deriveVerdict (violations : List ValidationViolation) : RunVerdict :=
  let outcomes := finishedOutcomes run.records
  if violations.any isStructuralViolation then .failed
  else if outcomes.any failedOutcome ∨ violations.any isRecordedCheckFailed then .failed
  else if outcomes.contains .cancelled then .cancelled
  else if violations.any isPhaseRequirementNotMet then .failed
  else if violations.isEmpty then .completePass
  else .partialPass

/-- `RunProvenance::validate`. -/
def validate : ValidationReport :=
  let violations := validationViolations hashing run policy
  let verdict := deriveVerdict run violations
  { decision := if verdict = .completePass then .accepted else .rejected
    verdict
    violations }

inductive SealError
  | invalidProvenance (report : ValidationReport)
  | missingTerminalRecord (report : ValidationReport)
  deriving DecidableEq

/-- A run bound to the policy it was judged by and the report it got. -/
structure SealedRunProvenance where
  provenance : RunProvenance
  policy : ValidationPolicy
  report : ValidationReport
  terminalSequence : UInt64
  terminalRecordSha256 : Sha256Digest
  reportSha256 : Sha256Digest
  sealedRunSha256 : Sha256Digest

/-- What the seal digests. -/
def sealMaterial (terminal : ProvenanceRecord) (reportSha256 : Sha256Digest) :
    SealHashMaterial where
  schemaVersion := run.schemaVersion
  runId := run.runId
  runContextSha256 := run.runContextSha256
  terminalSequence := terminal.sequence
  terminalRecordSha256 := terminal.recordSha256
  validationPlanSha256 := policy.validationPlanSha256
  validationPolicySha256 := hashing.policySha256 policy
  reportSha256 := reportSha256

/-- `RunProvenance::seal`. -/
def sealRun : Except SealError SealedRunProvenance :=
  let report := validate hashing run policy
  if report.hasStructuralViolations then .error (.invalidProvenance report)
  else match run.records.getLast? with
    | none => .error (.missingTerminalRecord report)
    | some terminal =>
      let reportSha256 := hashing.sha256 (hashing.reportJson report)
      .ok {
        provenance := run
        policy
        report
        terminalSequence := terminal.sequence
        terminalRecordSha256 := terminal.recordSha256
        reportSha256
        sealedRunSha256 :=
          computeSealHash hashing (sealMaterial hashing run policy terminal reportSha256) }

end Verdicts

end BirdCode.Validation
