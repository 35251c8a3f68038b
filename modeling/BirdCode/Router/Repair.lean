import BirdCode.Lib.FirstOccurrences
import BirdCode.Router.Invariants

/-! The repair of a router output that cites sections more than once: a patch names one entry for each
of them, and its entries take the place of the duplicated ones. -/
namespace BirdCode.Router

open Std Lib Review

section Patch

structure EvidenceRepairPatch where
  replacements : List RouteEvidence
  deriving DecidableEq

inductive EvidenceRepairPatchViolation
  | replacementCount (expected actual : UInt32)
  | blankBasis (index : UInt32) («section» : String)
  | unexpectedSection (index : UInt32) («section» : String)
  | wrongSectionOrder (index : UInt32) (expected actual : String)
  | missingSection («section» : String)
  | duplicateSection («section» : String) (occurrences : UInt32)
  deriving DecidableEq

def RouterInvariantViolation.duplicatedSection : RouterInvariantViolation → Option String
  | .duplicateEvidenceSection name _ => some name
  | _ => none

def repairableDuplicateViolations (violations : List RouterInvariantViolation) : Bool :=
  !violations.isEmpty && violations.all fun violation => violation.duplicatedSection.isSome

def duplicateSectionsInFirstOccurrenceOrder (candidate : TaskRouterOutput)
    (violations : List RouterInvariantViolation) : List String :=
  let duplicateNames := toSet (violations.filterMap RouterInvariantViolation.duplicatedSection)
  firstOccurrences
    ((candidate.evidence.filter fun evidence => duplicateNames.contains evidence.section).map
      RouteEvidence.section)

def replacementViolations (expectedSections : List String) (replacement : RouteEvidence)
    (index : ℕ) : List EvidenceRepairPatchViolation :=
  report (isBlank replacement.basis) (.blankBasis (wireU32 index) replacement.section) ++
    if replacement.section ∉ expectedSections then
      [.unexpectedSection (wireU32 index) replacement.section]
    else report (expectedSections[index]? ≠ some replacement.section)
      (.wrongSectionOrder (wireU32 index) (expectedSections[index]?.getD "") replacement.section)

def validatePatch (patch : EvidenceRepairPatch) (expectedSections : List String) :
    List EvidenceRepairPatchViolation :=
  let sections := patch.replacements.map RouteEvidence.section
  collect [
    report (patch.replacements.length ≠ expectedSections.length)
      (.replacementCount (wireU32 expectedSections.length) (wireU32 patch.replacements.length)),
    patch.replacements.zipIdx.flatMap fun (replacement, index) =>
      replacementViolations expectedSections replacement index,
    expectedSections.flatMap fun name => report (name ∉ sections) (.missingSection name),
    (toSet sections).toList.flatMap fun name =>
      report (1 < sections.count name) (.duplicateSection name (wireU32 (sections.count name)))]

/-- The entries that the patch leaves, or nothing where it has none for a section to index. -/
def applyReplacements (replacements : BTreeMap String RouteEvidence)
    (duplicates : BTreeSet String) : BTreeSet String → List RouteEvidence →
    Option (List RouteEvidence)
  | _, [] => some []
  | emitted, evidence :: rest =>
    if duplicates.contains evidence.section = false then
      (applyReplacements replacements duplicates emitted rest).map (evidence :: ·)
    else if emitted.contains evidence.section then
      applyReplacements replacements duplicates emitted rest
    else do
      let replacement ← replacements[evidence.section]?
      let rest ← applyReplacements replacements duplicates (emitted.insert evidence.section) rest
      return replacement :: rest

/-- `apply_patch`, which has no output where the source panics. -/
def applyPatch (candidate : TaskRouterOutput) (patch : EvidenceRepairPatch)
    (duplicateSections : List String) : Option TaskRouterOutput :=
  let replacements := toMap (patch.replacements.map fun replacement =>
    (replacement.section, replacement))
  (applyReplacements replacements (toSet duplicateSections) ∅ candidate.evidence).map
    fun evidence => { candidate with evidence := evidence }

end Patch

section Validated

variable {patch : EvidenceRepairPatch} {expectedSections : List String}

/-- A patch without violations has the expected sections in order, each with a basis. -/
theorem sections_of_validatePatch (h : validatePatch patch expectedSections = []) :
    patch.replacements.map RouteEvidence.section = expectedSections ∧
      ∀ replacement ∈ patch.replacements, isBlank replacement.basis = false := by
  simp only [validatePatch, collect_eq_nil, List.forall_mem_cons, report_eq_nil, not_not,
    List.flatMap_eq_nil_iff] at h
  obtain ⟨hlength, heach, _⟩ := h
  have hat : ∀ (index : ℕ) (replacement : RouteEvidence), patch.replacements[index]? = some replacement →
      isBlank replacement.basis = false ∧ expectedSections[index]? = some replacement.section := by
    intro index replacement hindex
    have hnone := heach (replacement, index) (List.mk_mem_zipIdx_iff_getElem?.mpr hindex)
    simp only [replacementViolations, List.append_eq_nil_iff, report_eq_nil,
      Bool.not_eq_true] at hnone
    obtain ⟨hbasis, hplace⟩ := hnone
    split at hplace
    · cases hplace
    · rw [report_eq_nil, not_not] at hplace
      exact ⟨hbasis, hplace⟩
  constructor
  · apply List.ext_getElem?
    intro index
    rw [List.getElem?_map]
    cases hindex : patch.replacements[index]? with
    | some replacement => exact (hat index replacement hindex).2.symm
    | none =>
      rw [List.getElem?_eq_none_iff, hlength] at hindex
      exact (List.getElem?_eq_none_iff.mpr hindex).symm
  · intro replacement hmem
    obtain ⟨index, hindex⟩ := List.mem_iff_getElem?.mp hmem
    exact (hat index replacement hindex).1

end Validated

section Applied

variable {replacements : BTreeMap String RouteEvidence} {duplicates emitted : BTreeSet String}
  {seen : List String} {evidence : List RouteEvidence}

/-- The entry of a duplicated section. -/
def duplicated (duplicates : BTreeSet String) (evidence : RouteEvidence) : Bool :=
  duplicates.contains evidence.section

/-- What has been emitted is what has been passed and is duplicated, and an entry that is not
duplicated is the only one of its section. -/
structure Emits (duplicates emitted : BTreeSet String) (seen : List String)
    (evidence : List RouteEvidence) : Prop where
  emitted : ∀ name ∈ duplicates, name ∈ emitted ↔ name ∈ seen
  single : ∀ entry ∈ evidence, entry.section ∉ duplicates →
    entry.section ∉ seen ∧ (evidence.map RouteEvidence.section).count entry.section = 1

/-- Behind an entry whose section is emitted with it, or is not duplicated. -/
theorem Emits.tail {entry : RouteEvidence} {emitted' : BTreeSet String} {seen' : List String}
    (h : Emits duplicates emitted seen (entry :: evidence))
    (hemitted : ∀ name ∈ duplicates, name ∈ emitted' ↔ name ∈ seen')
    (hseen : ∀ name, name ∈ seen' → name ∈ seen ∨ name = entry.section) :
    Emits duplicates emitted' seen' evidence := by
  refine ⟨hemitted, fun other hother hnot => ?_⟩
  obtain ⟨hnew, hcount⟩ := h.single other (List.mem_cons_of_mem _ hother) hnot
  have hpositive := List.count_pos_iff.mpr (List.mem_map_of_mem (f := RouteEvidence.section) hother)
  rw [List.map_cons, List.count_cons] at hcount
  have hne : other.section ≠ entry.section := by
    intro heq
    rw [if_pos (by simp [heq])] at hcount
    omega
  constructor
  · intro hmem
    exact (hseen _ hmem).elim hnew hne
  · omega

/-- The patch leaves the first entry of every section: the entry itself where its section is cited
once, else the replacement. -/
theorem applyReplacements_spec
    (hmap : ∀ name ∈ duplicates, ∃ replacement, replacements[name]? = some replacement ∧
      replacement.section = name)
    (h : Emits duplicates emitted seen evidence) :
    ∃ repaired, applyReplacements replacements duplicates emitted evidence = some repaired ∧
      repaired.map RouteEvidence.section = unseen seen (evidence.map RouteEvidence.section) ∧
      repaired.filter (fun entry => !duplicated duplicates entry) =
        evidence.filter (fun entry => !duplicated duplicates entry) ∧
      (repaired.filter (duplicated duplicates)).map some =
        (unseen seen ((evidence.filter (duplicated duplicates)).map RouteEvidence.section)).map
          (replacements[·]?) := by
  induction evidence generalizing emitted seen with
  | nil => exact ⟨[], rfl, rfl, rfl, rfl⟩
  | cons entry rest ih =>
    by_cases hduplicate : entry.section ∈ duplicates
    · have hcontains : duplicates.contains entry.section = true :=
        ExtTreeSet.contains_iff_mem.mpr hduplicate
      have hdup : duplicated duplicates entry = true := hcontains
      by_cases hseen : entry.section ∈ seen
      · have hemitted := ExtTreeSet.contains_iff_mem.mpr ((h.emitted _ hduplicate).mpr hseen)
        obtain ⟨repaired, happly, hsections, hkept, hreplaced⟩ := ih
          (h.tail h.emitted fun name hname => .inl hname)
        refine ⟨repaired, ?_, ?_, ?_, ?_⟩
        · rw [applyReplacements, hcontains, hemitted]
          exact happly
        · rw [List.map_cons, unseen, if_pos hseen, hsections]
        · rw [List.filter_cons_of_neg (by simp [hdup]), hkept]
        · rw [List.filter_cons_of_pos hdup, List.map_cons, unseen, if_pos hseen, hreplaced]
      · have hemitted : emitted.contains entry.section = false := by
          rw [← Bool.not_eq_true, ExtTreeSet.contains_iff_mem, h.emitted _ hduplicate]
          exact hseen
        obtain ⟨replacement, hreplacement, hsection⟩ := hmap _ hduplicate
        have hinserted : ∀ name ∈ duplicates, name ∈ emitted.insert entry.section ↔
            name ∈ entry.section :: seen := by
          intro name hname
          rw [ExtTreeSet.mem_insert, Std.compare_eq_iff_eq, h.emitted name hname, List.mem_cons,
            eq_comm]
        obtain ⟨repaired, happly, hsections, hkept, hreplaced⟩ := ih (h.tail hinserted
          fun name hname => (List.mem_cons.mp hname).symm)
        have hdup' : duplicated duplicates replacement = true := by
          rw [duplicated, hsection]
          exact hcontains
        refine ⟨replacement :: repaired, ?_, ?_, ?_, ?_⟩
        · rw [applyReplacements, hcontains, hemitted, hreplacement, happly]
          rfl
        · rw [List.map_cons, List.map_cons, unseen, if_neg hseen, hsections, hsection]
        · rw [List.filter_cons_of_neg (by simp [hdup']), List.filter_cons_of_neg (by simp [hdup]),
            hkept]
        · rw [List.filter_cons_of_pos hdup', List.filter_cons_of_pos hdup, List.map_cons,
            List.map_cons, unseen, if_neg hseen, hreplaced, List.map_cons, hreplacement]
    · have hcontains : duplicates.contains entry.section = false := by
        rw [← Bool.not_eq_true, ExtTreeSet.contains_iff_mem]
        exact hduplicate
      have hdup : duplicated duplicates entry = false := hcontains
      have hseen := (h.single entry List.mem_cons_self hduplicate).1
      have hpassed : ∀ name ∈ duplicates, name ∈ emitted ↔ name ∈ entry.section :: seen := by
        intro name hname
        rw [h.emitted name hname, List.mem_cons]
        constructor
        · exact .inr
        · rintro (rfl | hmem)
          · exact absurd hname hduplicate
          · exact hmem
      obtain ⟨repaired, happly, hsections, hkept, hreplaced⟩ := ih (h.tail hpassed
        fun name hname => (List.mem_cons.mp hname).symm)
      refine ⟨entry :: repaired, ?_, ?_, ?_, ?_⟩
      · rw [applyReplacements, if_pos hcontains, happly]
        rfl
      · rw [List.map_cons, List.map_cons, unseen, if_neg hseen, hsections]
      · rw [List.filter_cons_of_pos (by simp [hdup]), List.filter_cons_of_pos (by simp [hdup]),
          hkept]
      · rw [List.filter_cons_of_neg (by simp [hdup]), List.filter_cons_of_neg (by simp [hdup]),
          hreplaced, unseen_congr]
        intro name hname
        obtain ⟨other, hother, rfl⟩ := List.mem_map.mp hname
        have hmem := ExtTreeSet.contains_iff_mem.mp (List.mem_filter.mp hother).2
        rw [List.mem_cons]
        constructor
        · rintro (heq | hmem')
          · exact absurd (heq ▸ hmem) hduplicate
          · exact hmem'
        · exact .inr

end Applied

end BirdCode.Router
