import BirdCode.Validation.Blind

/-! The maps from source to blind identities. They hold every attempt, artifact and check of the log and
every check the policy asks for, and draw a new identity for each. -/
namespace BirdCode.Validation

open Std Lib

variable {source : UuidSource} {records : List ProvenanceRecord} {record : ProvenanceRecord}
  {policy : ValidationPolicy}

section Entries

variable {K : Type} [Ord K] [TransOrd K] [LawfulEqOrd K] {kind : ProvenanceIdKind}
  {random : kind.version = 4} {drawn : ℕ} {map : BTreeMap K (ProvenanceId kind)} {key k : K}

theorem mem_entryOrNew :
    k ∈ (source.entryOrNew kind random drawn map key).2 ↔ k = key ∨ k ∈ map := by
  unfold UuidSource.entryOrNew
  split
  · next hcontains =>
    rw [ExtTreeMap.contains_iff_mem] at hcontains
    constructor
    · exact Or.inr
    · rintro (rfl | hmem)
      · exact hcontains
      · exact hmem
  · rw [ExtTreeMap.mem_insert, Std.compare_eq_iff_eq, eq_comm]

/-- The UUIDs behind the identities of a map. -/
def mapUuids (map : BTreeMap K (ProvenanceId kind)) : List Uuid :=
  map.toList.map fun entry => entry.2.uuid

/-- The calls between two numbers of calls made. -/
def drawnBetween (source : UuidSource) (before after : ℕ) : List Uuid :=
  (List.range' before (after - before)).map source.next

theorem drawnBetween_append {before middle after : ℕ} (h : before ≤ middle) (h' : middle ≤ after) :
    drawnBetween source before middle ++ drawnBetween source middle after =
      drawnBetween source before after := by
  unfold drawnBetween
  rw [← List.map_append]
  congr 1
  have hmiddle : middle = before + (middle - before) := by omega
  have hsplit : after - before = (middle - before) + (after - middle) := by omega
  rw [hsplit, ← List.range'_append_1, ← hmiddle]

omit [LawfulEqOrd K] in
theorem entryOrNew_le :
    drawn ≤ (source.entryOrNew kind random drawn map key).1 ∧
      (source.entryOrNew kind random drawn map key).1 ≤ drawn + 1 := by
  unfold UuidSource.entryOrNew
  split
  · exact ⟨Nat.le_refl _, Nat.le_succ _⟩
  · exact ⟨Nat.le_succ _, Nat.le_refl _⟩

theorem mapUuids_entryOrNew :
    (mapUuids (source.entryOrNew kind random drawn map key).2).Perm
      (mapUuids map ++
        drawnBetween source drawn (source.entryOrNew kind random drawn map key).1) := by
  unfold UuidSource.entryOrNew
  split
  · simp [drawnBetween]
  · next hcontains =>
    rw [ExtTreeMap.contains_iff_mem] at hcontains
    have hdrawn : drawnBetween source drawn (drawn + 1) = [source.next drawn] := by
      simp [drawnBetween]
    rw [hdrawn]
    refine ((toList_insert_perm hcontains).map _).trans ?_
    rw [List.map_cons]
    exact (List.perm_append_singleton _ _).symm

end Entries

section Steps

def BlindMaps.uuids (maps : BlindMaps) : List Uuid :=
  mapUuids maps.attempts ++ mapUuids maps.artifacts ++ mapUuids maps.checks

/-- What some steps add to the maps: the UUIDs of the calls they make, one call each at most. -/
structure Grows (source : UuidSource) (steps : ℕ) (maps after : BlindMaps) : Prop where
  le : maps.drawn ≤ after.drawn
  bounded : after.drawn ≤ maps.drawn + steps
  uuids : after.uuids.Perm (maps.uuids ++ drawnBetween source maps.drawn after.drawn)

theorem Grows.refl (steps : ℕ) (maps : BlindMaps) : Grows source steps maps maps :=
  ⟨Nat.le_refl _, Nat.le_add_right _ _, by simp [drawnBetween]⟩

theorem Grows.trans {steps steps' : ℕ} {after last : BlindMaps} (h : Grows source steps maps after)
    (h' : Grows source steps' after last) : Grows source (steps + steps') maps last := by
  have hbounded := h.bounded
  have hbounded' := h'.bounded
  refine ⟨Nat.le_trans h.le h'.le, by omega, ?_⟩
  refine h'.uuids.trans ((h.uuids.append_right _).trans ?_)
  rw [List.append_assoc, drawnBetween_append h.le h'.le]

theorem Grows.foldl {A : Type} {step : BlindMaps → A → BlindMaps}
    (hstep : ∀ maps a, Grows source 1 maps (step maps a)) (l : List A) (maps : BlindMaps) :
    Grows source l.length maps (l.foldl step maps) := by
  induction l generalizing maps with
  | nil => exact .refl _ _
  | cons a l ih =>
    rw [List.foldl_cons, List.length_cons, Nat.add_comm]
    exact (hstep maps a).trans (ih _)

theorem addAttempt_grows (maps : BlindMaps) (id : AttemptId) :
    Grows source 1 maps (maps.addAttempt source id) := by
  refine ⟨entryOrNew_le.1, entryOrNew_le.2, ?_⟩
  have hentry : (mapUuids (maps.addAttempt source id).attempts).Perm (mapUuids maps.attempts ++
      drawnBetween source maps.drawn (maps.addAttempt source id).drawn) := mapUuids_entryOrNew
  rw [List.perm_iff_count] at hentry ⊢
  intro uuid
  have hcount := hentry uuid
  simp only [BlindMaps.uuids, BlindMaps.addAttempt, List.count_append] at hcount ⊢
  omega

theorem addArtifact_grows (maps : BlindMaps) (id : ArtifactId) :
    Grows source 1 maps (maps.addArtifact source id) := by
  refine ⟨entryOrNew_le.1, entryOrNew_le.2, ?_⟩
  have hentry : (mapUuids (maps.addArtifact source id).artifacts).Perm (mapUuids maps.artifacts ++
      drawnBetween source maps.drawn (maps.addArtifact source id).drawn) := mapUuids_entryOrNew
  rw [List.perm_iff_count] at hentry ⊢
  intro uuid
  have hcount := hentry uuid
  simp only [BlindMaps.uuids, BlindMaps.addArtifact, List.count_append] at hcount ⊢
  omega

theorem addCheck_grows (maps : BlindMaps) (id : CheckId) :
    Grows source 1 maps (maps.addCheck source id) := by
  refine ⟨entryOrNew_le.1, entryOrNew_le.2, ?_⟩
  have hentry : (mapUuids (maps.addCheck source id).checks).Perm (mapUuids maps.checks ++
      drawnBetween source maps.drawn (maps.addCheck source id).drawn) := mapUuids_entryOrNew
  rw [List.perm_iff_count] at hentry ⊢
  intro uuid
  have hcount := hentry uuid
  simp only [BlindMaps.uuids, BlindMaps.addCheck, List.count_append] at hcount ⊢
  omega

theorem identify_grows (maps : BlindMaps) (record : ProvenanceRecord) :
    Grows source 1 maps (maps.identify source record) := by
  unfold BlindMaps.identify
  cases record.event with
  | attemptStarted start => exact addAttempt_grows _ _
  | attemptFinished finish => exact .refl _ _
  | artifactRecorded artifact => exact addArtifact_grows _ _
  | checkRecorded check => exact addCheck_grows _ _

end Steps

section Distinct

/-- The most calls a projection makes. -/
def drawBound (records : List ProvenanceRecord) (policy : ValidationPolicy) : ℕ :=
  2 + (records.length + policy.checkRequirements.size)

/-- The first calls return distinct UUIDs. -/
def UuidSource.DistinctBelow (source : UuidSource) (bound : ℕ) : Prop :=
  ∀ i < bound, ∀ j < bound, source.next i = source.next j → i = j

theorem blindMaps_grows :
    Grows source (records.length + policy.checkRequirements.size) initialMaps
      (blindMaps source records policy) := by
  rw [← ExtTreeMap.length_keys]
  exact (Grows.foldl identify_grows records initialMaps).trans (Grows.foldl addCheck_grows _ _)

/-- No UUID is behind two blind identities, of whatever kind. -/
theorem nodup_uuids (h : source.DistinctBelow (drawBound records policy)) :
    (source.next 0 :: source.next 1 :: (blindMaps source records policy).uuids).Nodup := by
  have hgrows : Grows source (records.length + policy.checkRequirements.size) initialMaps
      (blindMaps source records policy) := blindMaps_grows
  have hle : 2 ≤ (blindMaps source records policy).drawn := hgrows.le
  have hbound : (blindMaps source records policy).drawn ≤ drawBound records policy := hgrows.bounded
  have hall : (source.next 0 :: source.next 1 :: (blindMaps source records policy).uuids).Perm
      (drawnBetween source 0 (blindMaps source records policy).drawn) := by
    rw [← drawnBetween_append (Nat.zero_le 2) hle]
    exact (hgrows.uuids.cons _).cons _
  refine hall.nodup_iff.mpr (List.Nodup.map_on ?_ (List.nodup_range'))
  intro i hi j hj heq
  rw [List.mem_range'_1] at hi hj
  exact h i (by omega) j (by omega) heq

end Distinct

section Keys

theorem mem_identify (source : UuidSource) (maps : BlindMaps) (record : ProvenanceRecord) :
    (∀ id, id ∈ (maps.identify source record).attempts ↔
      (∃ start, startOf record = some start ∧ start.attemptId = id) ∨ id ∈ maps.attempts) ∧
    (∀ id, id ∈ (maps.identify source record).artifacts ↔
      (∃ artifact, artifactOf record = some artifact ∧ artifact.artifactId = id) ∨
        id ∈ maps.artifacts) ∧
    (∀ id, id ∈ (maps.identify source record).checks ↔
      (∃ check, checkOf record = some check ∧ check.checkId = id) ∨ id ∈ maps.checks) := by
  unfold BlindMaps.identify startOf artifactOf checkOf
  cases record.event with
  | attemptStarted start =>
    refine ⟨fun id => ?_, fun id => by simp [BlindMaps.addAttempt], fun id => by simp [BlindMaps.addAttempt]⟩
    simp only [Option.some.injEq, exists_eq_left']
    refine mem_entryOrNew.trans ?_
    rw [eq_comm]
  | attemptFinished finish => simp
  | artifactRecorded artifact =>
    refine ⟨fun id => by simp [BlindMaps.addArtifact], fun id => ?_, fun id => by simp [BlindMaps.addArtifact]⟩
    simp only [Option.some.injEq, exists_eq_left']
    refine mem_entryOrNew.trans ?_
    rw [eq_comm]
  | checkRecorded check =>
    refine ⟨fun id => by simp [BlindMaps.addCheck], fun id => by simp [BlindMaps.addCheck], fun id => ?_⟩
    simp only [Option.some.injEq, exists_eq_left']
    refine mem_entryOrNew.trans ?_
    rw [eq_comm]

theorem mem_foldl_identify (records : List ProvenanceRecord) :
    (∀ id, id ∈ (records.foldl (BlindMaps.identify source) initialMaps).attempts ↔
      id ∈ (starts records).map AttemptStarted.attemptId) ∧
    (∀ id, id ∈ (records.foldl (BlindMaps.identify source) initialMaps).artifacts ↔
      id ∈ (artifacts records).map ArtifactRecord.artifactId) ∧
    (∀ id, id ∈ (records.foldl (BlindMaps.identify source) initialMaps).checks ↔
      id ∈ (checks records).map ValidationCheck.checkId) := by
  induction records using List.reverseRecOn with
  | nil => simp [initialMaps, starts, artifacts, checks]
  | append_singleton records record ih =>
    obtain ⟨hattempts, hartifacts, hchecks⟩ := ih
    rw [List.foldl_append, List.foldl_cons, List.foldl_nil]
    obtain ⟨hattempts', hartifacts', hchecks'⟩ :=
      mem_identify source (records.foldl (BlindMaps.identify source) initialMaps) record
    refine ⟨fun id => ?_, fun id => ?_, fun id => ?_⟩
    · rw [hattempts', hattempts, starts_concat, List.map_append, List.mem_append, or_comm]
      simp
    · rw [hartifacts', hartifacts, artifacts_concat, List.map_append, List.mem_append, or_comm]
      simp
    · rw [hchecks', hchecks, checks_concat, List.map_append, List.mem_append, or_comm]
      simp

theorem foldl_addCheck (keys : List CheckId) (maps : BlindMaps) :
    (keys.foldl (BlindMaps.addCheck source) maps).attempts = maps.attempts ∧
    (keys.foldl (BlindMaps.addCheck source) maps).artifacts = maps.artifacts ∧
    ∀ id, id ∈ (keys.foldl (BlindMaps.addCheck source) maps).checks ↔ id ∈ keys ∨ id ∈ maps.checks := by
  induction keys generalizing maps with
  | nil => simp
  | cons key keys ih =>
    obtain ⟨hattempts, hartifacts, hchecks⟩ := ih (maps.addCheck source key)
    refine ⟨hattempts, hartifacts, fun id => ?_⟩
    have hkey : id ∈ (maps.addCheck source key).checks ↔ id = key ∨ id ∈ maps.checks := mem_entryOrNew
    rw [List.foldl_cons, hchecks, hkey, List.mem_cons]
    tauto

variable (source records policy)

theorem mem_blindAttempts (id : AttemptId) : id ∈ (blindMaps source records policy).attempts ↔
    id ∈ (starts records).map AttemptStarted.attemptId := by
  rw [blindMaps, (foldl_addCheck _ _).1]
  exact (mem_foldl_identify records).1 id

theorem mem_blindArtifacts (id : ArtifactId) : id ∈ (blindMaps source records policy).artifacts ↔
    id ∈ (artifacts records).map ArtifactRecord.artifactId := by
  rw [blindMaps, (foldl_addCheck _ _).2.1]
  exact (mem_foldl_identify records).2.1 id

theorem mem_blindChecks (id : CheckId) : id ∈ (blindMaps source records policy).checks ↔
    id ∈ policy.checkRequirements ∨ id ∈ (checks records).map ValidationCheck.checkId := by
  rw [blindMaps, (foldl_addCheck _ _).2.2, ExtTreeMap.mem_keys, (mem_foldl_identify records).2.2 id]

end Keys

end BirdCode.Validation
