import BirdCode.Validation.Values

/-! What a validation reports: every violation it found, and the verdict derived from them. -/
namespace BirdCode.Validation

inductive PhaseRequirement
  | requiredSuccess | declaredNotApplicable
  deriving DecidableEq

inductive CommandComponent
  | executable
  | workingDirectory
  | argument (index : ℕ)
  | environmentName (index : ℕ)
  | environmentValue (index : ℕ)
  deriving DecidableEq

inductive EnvironmentMetadataField
  | architecture | osVersion | locale
  deriving DecidableEq

/-- The numbers are those of the source, as naturals. -/
inductive ValidationViolation
  | unsupportedSchemaVersion (actual expected : ℕ)
  | invalidTarget (error : String)
  | adapterBindingMismatch
  | targetEnvironmentMismatch
  | validationPlanDigestMismatch
  | runContextHashMismatch
  | nonContiguousSequence (actual expected : ℕ)
  | timestampRegressed (sequence : ℕ)
  | previousRecordHashMismatch (sequence : ℕ)
  | recordHashMismatch (sequence : ℕ)
  | zeroPolicyPrimaryMinimum
  | missingPhaseRequirement (phase : ExecutionPhase)
  | zeroRequiredSuccessPhases
  | noRequiredChecks
  | invalidCheckRequirement (checkId : CheckId)
  | policyCheckCountOutOfBounds (actual maximum : ℕ)
  | policyEvidenceMinimumOutOfBounds (actual maximum : ℕ)
  | policyPrimaryMinimumImpossible (actual available : ℕ)
  | zeroMaximumTimeout
  | recordCountOutOfBounds (actual maximum : ℕ)
  | attemptCountOutOfBounds (actual maximum : ℕ)
  | checkCountOutOfBounds (actual maximum : ℕ)
  | checkEvidenceItemsOutOfBounds (checkId : CheckId) (actual maximum : ℕ)
  | totalEvidenceItemsOutOfBounds (actual maximum : ℕ)
  | totalElapsedTimeOutOfBounds (actual maximum : ℕ)
  | targetUrlOutOfBounds (actual maximum : ℕ)
  | environmentMetadataEmpty (field : EnvironmentMetadataField)
  | environmentMetadataOutOfBounds (actual maximum : ℕ)
  | environmentValueEncodingMismatch (index : ℕ) (expected actual : NativeEncoding)
  | environmentValueContainsNul (index : ℕ)
  | emptySnapshotEnvironmentName (index : ℕ)
  | snapshotEnvironmentNameContainsEquals (index : ℕ)
  | duplicateSnapshotEnvironmentName (index : ℕ)
  | snapshotEnvironmentEntriesOutOfBounds (actual maximum : ℕ)
  | toolchainEntriesOutOfBounds (actual maximum : ℕ)
  | toolchainVersionEmpty (index : ℕ)
  | duplicateAttemptStart (attemptId : AttemptId)
  | invalidParentAttempt (attemptId parentAttemptId : AttemptId)
  | phaseOutOfOrder (attemptId : AttemptId) (phase previousPhase : ExecutionPhase)
  | phaseAdvancedBeforeTerminal (attemptId : AttemptId) (previousPhase : ExecutionPhase)
  | missingPhaseTerminal (phase : ExecutionPhase)
  | phaseRequirementNotMet (phase : ExecutionPhase) (requirement : PhaseRequirement)
  | duplicateAttemptFinish (attemptId : AttemptId)
  | commandAttemptMissingProcessExit (attemptId : AttemptId)
  | unexpectedProcessExit (attemptId : AttemptId)
  | contradictoryPhaseOutcome (attemptId : AttemptId) (outcome : PhaseOutcome)
      (processExit : ProcessExit)
  | eventBeforeAttemptStart (attemptId : AttemptId) (sequence : ℕ)
  | attemptNotFinished (attemptId : AttemptId)
  | emptyCommandPath (attemptId : AttemptId) (component : CommandComponent)
  | pathOutOfBounds (attemptId : AttemptId) (component : CommandComponent) (actual maximum : ℕ)
  | commandValueContainsNul (attemptId : AttemptId) (component : CommandComponent)
  | commandEncodingMismatch (attemptId : AttemptId) (component : CommandComponent)
      (expected actual : NativeEncoding)
  | duplicateEnvironmentName (attemptId : AttemptId) (index : ℕ)
  | emptyEnvironmentName (attemptId : AttemptId) (index : ℕ)
  | environmentNameContainsEquals (attemptId : AttemptId) (index : ℕ)
  | timeoutOutOfBounds (attemptId : AttemptId) (requested maximum : ℕ)
  | captureOutOfBounds (attemptId : AttemptId) (stream : ArtifactKind) (requested maximum : ℕ)
  | argvItemsOutOfBounds (attemptId : AttemptId) (actual maximum : ℕ)
  | argumentBytesOutOfBounds (attemptId : AttemptId) (actual maximum : ℕ)
  | environmentEntriesOutOfBounds (attemptId : AttemptId) (actual maximum : ℕ)
  | environmentBytesOutOfBounds (attemptId : AttemptId) (actual maximum : ℕ)
  | stdinOutOfBounds (attemptId : AttemptId) (actual maximum : ℕ)
  | elapsedTimeOutOfBounds (attemptId : AttemptId) (actual maximum : ℕ)
  | duplicateArtifact (artifactId : ArtifactId)
  | emptyMediaType (artifactId : ArtifactId)
  | mediaTypeTooLong (artifactId : ArtifactId) (actual : ℕ)
  | storageRefOutOfBounds (artifactId : ArtifactId) (actual maximum : ℕ)
  | invalidArtifactTruncation (artifactId : ArtifactId)
  | artifactOutOfBounds (artifactId : ArtifactId) (actual maximum : ℕ)
  | artifactKindOutOfBounds (artifactId : ArtifactId) (kind : ArtifactKind) (actual maximum : ℕ)
  | artifactCountOutOfBounds (actual maximum : ℕ)
  | totalArtifactBytesOutOfBounds (actual maximum : ℕ)
  | screenshotCountOutOfBounds (actual maximum : ℕ)
  | videoCountOutOfBounds (actual maximum : ℕ)
  | finishedArtifactMissing (attemptId : AttemptId) (artifactId : ArtifactId)
      (expectedKind : ArtifactKind)
  | finishedArtifactMismatch (attemptId : AttemptId) (artifactId : ArtifactId)
      (expectedKind : ArtifactKind)
  | duplicateCheck (checkId : CheckId)
  | undeclaredCheck (checkId : CheckId)
  | checkKindMismatch (checkId : CheckId) (expected actual : CheckKind)
  | checkEvidenceCountBelowMinimum (checkId : CheckId) (actual minimum : ℕ)
  | disallowedArtifactEvidence (checkId : CheckId) (artifactId : ArtifactId) (kind : ArtifactKind)
  | truncatedArtifactEvidenceDisallowed (checkId : CheckId) (artifactId : ArtifactId)
  | attemptExitEvidenceRequirementNotMet (checkId : CheckId) (attemptId : AttemptId)
  | checkHasNoEvidence (checkId : CheckId)
  | duplicateCheckEvidence (checkId : CheckId) (evidence : CheckEvidence)
  | missingArtifactEvidence (checkId : CheckId) (artifactId : ArtifactId)
  | missingExitEvidence (checkId : CheckId) (attemptId : AttemptId)
  | primaryCheckHasNoMechanicalEvidence (checkId : CheckId)
  | visualCheckHasNoVisionEvidence (checkId : CheckId)
  | recordedCheckFailed (checkId : CheckId)
  | missingRequiredCheck (checkId : CheckId)
  | requiredCheckDidNotPass (checkId : CheckId) (outcome : CheckOutcome)
  | insufficientPrimaryPasses (actual required : ℕ)
  deriving DecidableEq

/-- What is not structural is a judgement of the candidate, and does not stop a seal. -/
def isStructuralViolation : ValidationViolation → Bool
  | .recordedCheckFailed _
  | .phaseRequirementNotMet _ _
  | .undeclaredCheck _
  | .checkKindMismatch _ _ _
  | .checkEvidenceCountBelowMinimum _ _ _
  | .disallowedArtifactEvidence _ _ _
  | .truncatedArtifactEvidenceDisallowed _ _
  | .attemptExitEvidenceRequirementNotMet _ _
  | .checkHasNoEvidence _
  | .primaryCheckHasNoMechanicalEvidence _
  | .visualCheckHasNoVisionEvidence _
  | .missingRequiredCheck _
  | .requiredCheckDidNotPass _ _
  | .insufficientPrimaryPasses _ _ => false
  | _ => true

inductive AcceptanceDecision
  | accepted | rejected
  deriving DecidableEq

inductive RunVerdict
  | completePass | partialPass | failed | infrastructureInvalid | cancelled
  deriving DecidableEq

structure ValidationReport where
  decision : AcceptanceDecision
  verdict : RunVerdict
  violations : List ValidationViolation
  deriving DecidableEq

def ValidationReport.isAccepted (report : ValidationReport) : Bool := report.decision = .accepted

def ValidationReport.hasStructuralViolations (report : ValidationReport) : Bool :=
  report.violations.any isStructuralViolation

end BirdCode.Validation
