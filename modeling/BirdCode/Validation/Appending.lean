import BirdCode.Validation.SoundLogs

/-! The appender against the validator. Over the records of a log that the appender has admitted its two
states agree with the validator's, so the validator objects to none of them. -/
namespace BirdCode.Validation

open Std Lib

variable {hashing : Hashing} {run : RunProvenance} {header : RunHeader} {collected : Collected}
  {state after : PrefixState} {totals totals' : ResourceTotals} {record : ProvenanceRecord}
  {start : AttemptStarted} {finish : AttemptFinished} {artifact : ArtifactRecord}
  {check : ValidationCheck}

section Prefixes

/-- The chain scan has seen what the validator has. -/
structure Agrees (collected : Collected) (state : PrefixState) : Prop where
  sequence : collected.expectedSequence = state.expectedSequence.toNat
  hash : collected.previousHash = state.previousHash
  timestamp : collected.previousTimestamp = state.previousTimestamp
  started : ∀ id, state.started.contains id = collected.started.contains id
  finished : ∀ id, state.finished.contains id = collected.finished.contains id
  artifacts : ∀ id : ArtifactId, state.artifacts[id]? =
    collected.artifacts[id]?.map fun artifact => (artifact.attemptId, artifact.kind)
  checks : ∀ id, state.checks.contains id = collected.checks.contains id
  phases : ∀ id : AttemptId, state.attemptPhases[id]? = collected.started[id]?.map AttemptStart.phase
  unfinished : state.unfinishedByPhase = collected.unfinishedByPhase
  last : state.lastStartedPhase = collected.lastStartedPhase

theorem agrees_initial : Agrees initialCollected initialPrefix where
  sequence := rfl
  hash := rfl
  timestamp := rfl
  started _ := by simp [initialPrefix, initialCollected]
  finished _ := by simp [initialPrefix, initialCollected]
  artifacts _ := by simp [initialPrefix, initialCollected]
  checks _ := by simp [initialPrefix, initialCollected]
  phases _ := by simp [initialPrefix, initialCollected]
  unfinished := rfl
  last := rfl

theorem Agrees.artifact_contains (h : Agrees collected state) (id : ArtifactId) :
    state.artifacts.contains id = collected.artifacts.contains id := by
  rw [ExtTreeMap.contains_eq_isSome_getElem?, ExtTreeMap.contains_eq_isSome_getElem?, h.artifacts,
    Option.isSome_map]

theorem Agrees.ofStart (h : Agrees collected state) (hstart : state.start start = some after) :
    phaseViolations collected start = [] ∧
      (∀ parent ∈ start.parentAttemptId,
        ¬(parent = start.attemptId ∨ collected.started.contains parent = false)) ∧
      collected.started.contains start.attemptId = false ∧ Agrees (collected.start start) after := by
  unfold PrefixState.start at hstart
  split at hstart
  · cases hstart
  next hfresh =>
  split at hstart
  · cases hstart
  next hphase =>
  cases hstart
  simp only [not_or, not_exists, not_and, h.started, Bool.not_eq_true] at hfresh
  rw [startsOutOfPhase, h.last, h.unfinished] at hphase
  push Not at hphase
  refine ⟨?_, ?_, hfresh.1, ?_⟩
  · unfold phaseViolations
    cases hlast : collected.lastStartedPhase with
    | none => rfl
    | some previous =>
      obtain ⟨hle, hended⟩ := hphase previous hlast
      rw [Option.elim_some, if_neg (Nat.not_lt.mpr hle), report_eq_nil]
      rintro ⟨hlt, unfinished, hmem, hpos⟩
      exact absurd (hended hlt unfinished hmem) (by omega)
  · intro parent hmem hparent
    rcases hparent with heq | hmissing
    · exact (hfresh.2 parent hmem).1 heq
    · exact (hfresh.2 parent hmem).2 hmissing
  · have hlast : ∀ previous ∈ collected.lastStartedPhase, previous.ordinal ≤ start.phase.ordinal :=
      fun previous hprevious => (hphase previous hprevious).1
    exact {
      sequence := h.sequence
      hash := h.hash
      timestamp := h.timestamp
      started := fun id => by
        simp only [Collected.start, ExtTreeSet.contains_insert, ExtTreeMap.contains_insert, h.started]
      finished := h.finished
      artifacts := h.artifacts
      checks := h.checks
      phases := fun id => by
        simp only [Collected.start, ExtTreeMap.getElem?_insert, h.phases]
        split <;> rfl
      unfinished := by simp only [Collected.start, h.unfinished]
      last := by simp only [Collected.start, if_pos hlast] }

/-- The end of an attempt cites only streams that the log holds as its own. -/
def StreamsRecorded (collected : Collected) (finish : AttemptFinished) : Prop :=
  (∀ id ∈ finish.stdoutArtifactId, ∃ artifact, collected.artifacts[id]? = some artifact ∧
    artifact.attemptId = finish.attemptId ∧ artifact.kind = .stdoutLog) ∧
  ∀ id ∈ finish.stderrArtifactId, ∃ artifact, collected.artifacts[id]? = some artifact ∧
    artifact.attemptId = finish.attemptId ∧ artifact.kind = .stderrLog

theorem Agrees.placed (h : Agrees collected state) {id : ArtifactId} {attemptId : AttemptId}
    {kind : ArtifactKind} (hplaced : state.artifacts[id]? = some (attemptId, kind)) :
    ∃ artifact, collected.artifacts[id]? = some artifact ∧ artifact.attemptId = attemptId ∧
      artifact.kind = kind := by
  rw [h.artifacts, Option.map_eq_some_iff] at hplaced
  obtain ⟨artifact, hfound, heq⟩ := hplaced
  obtain ⟨hattempt, hkind⟩ := Prod.mk.inj heq
  exact ⟨artifact, hfound, hattempt, hkind⟩

theorem Agrees.ofFinish (h : Agrees collected state) (hfinish : state.finish finish = some after) :
    collected.started.contains finish.attemptId = true ∧
      collected.finished.contains finish.attemptId = false ∧ StreamsRecorded collected finish ∧
      Agrees (collected.finish finish) after := by
  unfold PrefixState.finish at hfinish
  split at hfinish
  · cases hfinish
  next hallowed =>
  simp only [not_or, not_exists, not_and, not_not, h.started, h.finished, Bool.not_eq_true,
    Bool.not_eq_false] at hallowed
  obtain ⟨hstarted, hunfinished, hstdout, hstderr⟩ := hallowed
  cases hphase : state.attemptPhases[finish.attemptId]? with
  | none =>
    rw [hphase] at hfinish
    cases hfinish
  | some phase =>
    rw [hphase] at hfinish
    dsimp only at hfinish
    cases hcount : state.unfinishedByPhase[phase]? with
    | none =>
      rw [hcount] at hfinish
      cases hfinish
    | some unfinished =>
      rw [hcount] at hfinish
      cases hfinish
      rw [h.phases, Option.map_eq_some_iff] at hphase
      obtain ⟨kept, hkept, rfl⟩ := hphase
      rw [h.unfinished] at hcount
      have hended : collected.finish finish =
          { collected.endPhase finish kept with
            finished := collected.finished.insert finish.attemptId finish.processExit } := by
        rw [Collected.finish, if_neg (by rw [hunfinished]; exact Bool.false_ne_true), hkept]
        rfl
      refine ⟨hstarted, hunfinished, ⟨?_, ?_⟩, ?_⟩
      · intro id hid
        exact h.placed (hstdout id hid)
      · intro id hid
        exact h.placed (hstderr id hid)
      · rw [hended]
        exact {
          sequence := h.sequence
          hash := h.hash
          timestamp := h.timestamp
          started := h.started
          finished := fun id => by
            simp only [ExtTreeSet.contains_insert, ExtTreeMap.contains_insert, h.finished]
          artifacts := h.artifacts
          checks := h.checks
          phases := h.phases
          unfinished := by simp only [Collected.endPhase, hcount, h.unfinished]
          last := h.last }

theorem Agrees.ofArtifact (h : Agrees collected state)
    (hartifact : state.artifact artifact = some after) :
    collected.started.contains artifact.attemptId = true ∧
      collected.artifacts.contains artifact.artifactId = false ∧
      Agrees { collected with
        artifacts := collected.artifacts.insert artifact.artifactId artifact } after := by
  unfold PrefixState.artifact at hartifact
  split at hartifact
  · cases hartifact
  next hallowed =>
  cases hartifact
  simp only [not_or, h.started, h.artifact_contains, Bool.not_eq_true, Bool.not_eq_false] at hallowed
  refine ⟨hallowed.1, hallowed.2, ?_⟩
  exact {
    sequence := h.sequence
    hash := h.hash
    timestamp := h.timestamp
    started := h.started
    finished := h.finished
    artifacts := fun id => by
      simp only [ExtTreeMap.getElem?_insert, h.artifacts]
      split <;> rfl
    checks := h.checks
    phases := h.phases
    unfinished := h.unfinished
    last := h.last }

/-- The evidence of a check stands in the log, each item once. -/
def EvidenceRecorded (collected : Collected) (check : ValidationCheck) : Prop :=
  check.evidence.Nodup ∧
  (∀ id, .artifact id ∈ check.evidence → collected.artifacts.contains id = true) ∧
  ∀ id, .attemptExit id ∈ check.evidence → collected.finished.contains id = true

theorem Agrees.ofCheck (h : Agrees collected state) (hcheck : state.check check = some after) :
    collected.started.contains check.attemptId = true ∧
      collected.checks.contains check.checkId = false ∧ EvidenceRecorded collected check ∧
      Agrees { collected with checks := collected.checks.insert check.checkId check } after := by
  unfold PrefixState.check at hcheck
  split at hcheck
  · cases hcheck
  next hallowed =>
  split at hcheck
  · cases hcheck
  next hdistinct =>
  split at hcheck
  · cases hcheck
  next hheld =>
  cases hcheck
  simp only [not_or, h.started, h.checks, Bool.not_eq_true, Bool.not_eq_false] at hallowed
  simp only [not_exists, not_and, Bool.not_eq_false] at hheld
  refine ⟨hallowed.1, hallowed.2, ⟨?_, ?_, ?_⟩, ?_⟩
  · rw [not_not] at hdistinct
    rw [← List.dedup_eq_self]
    exact (List.dedup_sublist _).eq_of_length hdistinct
  · intro id hmem
    rw [← h.artifact_contains]
    exact hheld _ hmem
  · intro id hmem
    rw [← h.finished]
    exact hheld _ hmem
  · exact {
      sequence := h.sequence
      hash := h.hash
      timestamp := h.timestamp
      started := h.started
      finished := h.finished
      artifacts := h.artifacts
      checks := fun id => by
        simp only [ExtTreeSet.contains_insert, ExtTreeMap.contains_insert, h.checks]
      phases := h.phases
      unfinished := h.unfinished
      last := h.last }

end Prefixes

section Resources

/-- The resource scan knows the starts that the validator does. -/
def Accounts (collected : Collected) (totals : ResourceTotals) : Prop :=
  ∀ id : AttemptId, totals.starts[id]? =
    collected.started[id]?.map fun kept => (kept.timeoutMs, kept.hasCommand)

theorem accounts_initial : Accounts initialCollected (initialTotals header) := by
  intro id
  simp [initialCollected, initialTotals]

theorem Accounts.absorb (h : Accounts collected totals)
    (haccount : accountRecord header totals record = some totals') :
    Accounts (collected.absorb record) totals' := by
  intro id
  rw [started_absorb]
  unfold accountRecord at haccount
  unfold startOf
  cases hevent : record.event with
  | attemptStarted start =>
    rw [hevent] at haccount
    cases haccount
    simp only [ResourceTotals.start, ExtTreeMap.getElem?_insert, h id]
    split <;> rfl
  | attemptFinished finish =>
    rw [hevent] at haccount
    cases haccount
    exact h id
  | artifactRecorded artifact =>
    rw [hevent] at haccount
    cases haccount
    exact h id
  | checkRecorded check =>
    rw [hevent] at haccount
    simp only [ResourceTotals.check] at haccount
    split at haccount
    · cases haccount
    · cases haccount
      exact h id

/-- Violations are never dropped. -/
theorem violations_of_account (haccount : accountRecord header totals record = some totals')
    (h : totals'.violations = []) : totals.violations = [] := by
  unfold accountRecord at haccount
  cases hevent : record.event with
  | attemptStarted start =>
    rw [hevent] at haccount
    cases haccount
    exact (List.append_eq_nil_iff.mp h).1
  | attemptFinished finish =>
    rw [hevent] at haccount
    cases haccount
    exact (List.append_eq_nil_iff.mp h).1
  | artifactRecorded artifact =>
    rw [hevent] at haccount
    cases haccount
    exact (List.append_eq_nil_iff.mp h).1
  | checkRecorded check =>
    rw [hevent] at haccount
    simp only [ResourceTotals.check] at haccount
    split at haccount
    · cases haccount
    · cases haccount
      exact h

/-- The rules on the end of an attempt, as the resource scan reports them. -/
theorem Accounts.ofFinish (h : Accounts collected totals)
    (hclean : (totals.finish finish).violations = [])
    (hstarted : collected.started.contains finish.attemptId = true)
    (hfinished : collected.finished.contains finish.attemptId = false) (sequence : UInt64) :
    finishViolations collected sequence finish = [] := by
  rw [ExtTreeMap.contains_eq_isSome_getElem?, Option.isSome_iff_exists] at hstarted
  obtain ⟨kept, hkept⟩ := hstarted
  have hstart := h finish.attemptId
  rw [hkept, Option.map_some] at hstart
  simp only [ResourceTotals.finish, List.append_eq_nil_iff, hstart, collect_eq_nil,
    List.forall_mem_cons, report_eq_nil] at hclean
  obtain ⟨-, ⟨helapsed, hmissing, hunexpected, -⟩, hexit, -⟩ := hclean
  simp only [finishViolations, requireStarted, collect_eq_nil, List.forall_mem_cons, report_eq_nil,
    hkept, Option.mem_def, Option.some.injEq, exists_eq_left', Option.elim_some]
  refine ⟨?_, ?_, hmissing, hunexpected, hexit, helapsed, List.forall_mem_nil _⟩
  · rw [ExtTreeMap.contains_eq_isSome_getElem?, hkept]
    exact Bool.noConfusion
  · rw [hfinished]
    exact Bool.false_ne_true

end Resources

section Steps

theorem Agrees.advance (h : Agrees collected state) {expectedSequence : UInt64}
    (hnext : checkedAdd record.sequence 1 = some expectedSequence) :
    Agrees { collected with
        expectedSequence := asU64 (record.sequence.toNat + 1)
        previousTimestamp := some record.observedAtUnixMs
        previousHash := some record.recordSha256 }
      { state with
        expectedSequence
        previousHash := some record.recordSha256
        previousTimestamp := some record.observedAtUnixMs } := by
  have hsucc : expectedSequence.toNat = record.sequence.toNat + 1 := checkedAdd_eq_some hnext
  have hmax := expectedSequence.toNat_lt
  exact {
    sequence := by
      change asU64 (record.sequence.toNat + 1) = expectedSequence.toNat
      unfold asU64
      omega
    hash := rfl
    timestamp := rfl
    started := h.started
    finished := h.finished
    artifacts := h.artifacts
    checks := h.checks
    phases := h.phases
    unfinished := h.unfinished
    last := h.last }

theorem Agrees.chain (h : Agrees collected state) (hchain : ¬breaksChain hashing run state record) :
    chainViolations hashing run collected record = [] := by
  simp only [breaksChain, not_or, not_not] at hchain
  obtain ⟨hsequence, htimestamp, hhash, hdigest⟩ := hchain
  simp only [chainViolations, collect_eq_nil, List.forall_mem_cons, report_eq_nil, not_not]
  refine ⟨?_, ?_, ?_, hdigest, List.forall_mem_nil _⟩
  · rw [hsequence, h.sequence]
  · rw [h.timestamp]
    exact htimestamp
  · rw [hhash, h.hash]

/-- What the appender has checked of a record beyond what the validator reports of it. -/
structure Referenced (bounds : ExecutionBounds) (collected : Collected)
    (record : ProvenanceRecord) : Prop where
  streams : ∀ finish, record.event = .attemptFinished finish → StreamsRecorded collected finish
  evidence : ∀ check, record.event = .checkRecorded check → EvidenceRecorded collected check ∧
    check.evidence.length ≤ bounds.maxCheckEvidenceItems.toNat

/-- A record both scans admit leaves nothing to object to, and the states agree after it. -/
theorem admitted_step (h : Agrees collected state) (haccounts : Accounts collected totals)
    (hadmitted : admitRecord hashing run state record = some after)
    (haccount : accountRecord run.toRunHeader totals record = some totals')
    (hclean : totals'.violations = []) :
    chainViolations hashing run collected record = [] ∧
      eventViolations run.toRunHeader collected record = [] ∧
      Referenced run.bounds collected record ∧ Agrees (collected.absorb record) after := by
  unfold admitRecord at hadmitted
  split at hadmitted
  · cases hadmitted
  next hchain =>
  cases hnext : checkedAdd record.sequence 1 with
  | none =>
    rw [hnext] at hadmitted
    cases hadmitted
  | some expectedSequence =>
    rw [hnext] at hadmitted
    have hadvanced := h.advance hnext
    refine ⟨h.chain hchain, ?_⟩
    unfold accountRecord at haccount
    unfold eventViolations Collected.absorb
    cases hevent : record.event with
    | attemptStarted start =>
      rw [hevent] at hadmitted haccount
      cases haccount
      obtain ⟨hphase, hparent, hfresh, hafter⟩ := hadvanced.ofStart hadmitted
      refine ⟨?_, ⟨fun _ hother => ?_, fun _ hother => ?_⟩, hafter⟩
      · have hrules := (List.append_eq_nil_iff.mp hclean).2
        simp only [collect_eq_nil, List.forall_mem_cons, report_eq_nil] at hrules
        simp only [startViolations, collect_eq_nil, List.forall_mem_cons, report_eq_nil]
        refine ⟨hphase, ?_, ?_, hrules.1, hrules.2.1, List.forall_mem_nil _⟩
        · cases hcase : start.parentAttemptId with
          | none => rfl
          | some parent =>
            rw [Option.elim_some, report_eq_nil]
            exact hparent parent hcase
        · exact Bool.eq_false_iff.mp hfresh
      · rw [hevent] at hother
        cases hother
      · rw [hevent] at hother
        cases hother
    | attemptFinished finish =>
      rw [hevent] at hadmitted haccount
      cases haccount
      obtain ⟨hstarted, hfinished, hstreams, hafter⟩ := hadvanced.ofFinish hadmitted
      refine ⟨haccounts.ofFinish hclean hstarted hfinished _, ⟨?_, fun _ hother => ?_⟩, hafter⟩
      · intro other hother
        rw [hevent] at hother
        cases hother
        exact hstreams
      · rw [hevent] at hother
        cases hother
    | artifactRecorded artifact =>
      rw [hevent] at hadmitted haccount
      cases haccount
      obtain ⟨hstarted, hfresh, hafter⟩ := hadvanced.ofArtifact hadmitted
      refine ⟨?_, ⟨fun _ hother => ?_, fun _ hother => ?_⟩, hafter⟩
      · simp only [requireStarted, collect_eq_nil, List.forall_mem_cons, report_eq_nil]
        refine ⟨(Bool.not_eq_false _).mpr hstarted, Bool.eq_false_iff.mp hfresh,
          (List.append_eq_nil_iff.mp hclean).2, List.forall_mem_nil _⟩
      · rw [hevent] at hother
        cases hother
      · rw [hevent] at hother
        cases hother
    | checkRecorded check =>
      rw [hevent] at hadmitted haccount
      simp only [ResourceTotals.check] at haccount
      split at haccount
      · cases haccount
      next hcount =>
      obtain ⟨hstarted, hfresh, hevidence, hafter⟩ := hadvanced.ofCheck hadmitted
      refine ⟨?_, ⟨fun _ hother => ?_, ?_⟩, hafter⟩
      · simp only [requireStarted, collect_eq_nil, List.forall_mem_cons, report_eq_nil]
        exact ⟨(Bool.not_eq_false _).mpr hstarted, Bool.eq_false_iff.mp hfresh,
          List.forall_mem_nil _⟩
      · rw [hevent] at hother
        cases hother
      · intro other hother
        rw [hevent] at hother
        cases hother
        refine ⟨hevidence, ?_⟩
        have hmax := run.bounds.maxCheckEvidenceItems.toNat_lt
        unfold asU64 at hcount
        change ¬run.bounds.maxCheckEvidenceItems.toNat < _ at hcount
        omega

end Steps

section Logs

/-- A record that the appender admitted after the records before it. -/
def Admitted (hashing : Hashing) (run : RunProvenance) (before : List ProvenanceRecord)
    (record : ProvenanceRecord) : Prop :=
  Unobjectionable hashing run before record ∧
    Referenced run.bounds (absorbAll before) record

theorem foldlM_concat {S A : Type} {f : S → A → Option S} {s t : S} {l : List A} {a : A}
    (h : (l ++ [a]).foldlM f s = some t) : ∃ u, l.foldlM f s = some u ∧ f u a = some t := by
  rw [List.foldlM_append] at h
  obtain ⟨u, hu, ht⟩ := Option.bind_eq_some_iff.mp h
  refine ⟨u, hu, ?_⟩
  simpa using ht

/-- The records of a log that both scans pass are admitted one after the other. -/
theorem admitted_log {records : List ProvenanceRecord}
    (hadmitted : records.foldlM (admitRecord hashing run) initialPrefix = some after)
    (haccount : records.foldlM (accountRecord run.toRunHeader) (initialTotals run.toRunHeader) =
      some totals) (hclean : totals.violations = []) :
    Stepwise (Admitted hashing run) records ∧ Agrees (absorbAll records) after ∧
      Accounts (absorbAll records) totals := by
  induction records using List.reverseRecOn generalizing after totals with
  | nil =>
    cases hadmitted
    cases haccount
    refine ⟨?_, agrees_initial, accounts_initial⟩
    intro before entry rest heq
    simp at heq
  | append_singleton records record ih =>
    obtain ⟨state, hstate, hrecord⟩ := foldlM_concat hadmitted
    obtain ⟨middle, hmiddle, htotals⟩ := foldlM_concat haccount
    obtain ⟨hlog, hagrees, haccounts⟩ := ih hstate hmiddle (violations_of_account htotals hclean)
    obtain ⟨hchain, hevent, hreferenced, hafter⟩ :=
      admitted_step hagrees haccounts hrecord htotals hclean
    rw [absorbAll_concat]
    exact ⟨hlog.append ⟨⟨hchain, hevent⟩, hreferenced⟩, hafter, haccounts.absorb htotals⟩

end Logs

end BirdCode.Validation
