import BirdCode.Router.Repair

/-! An output whose only fault is that it cites sections more than once is repaired by every patch that
passes its checks, and then has no fault. -/
namespace BirdCode.Router

open Std Lib Review

variable {Value : Type} {output : TaskRouterOutput} {invocation : PromptInvocation Value}
  {version : Version} {patch : EvidenceRepairPatch}

section Violations

variable {violations : List RouterInvariantViolation} {name : String}

/-- No violation of a list reports a duplicated section. -/
def Undoubled (violations : List RouterInvariantViolation) : Prop :=
  ∀ violation ∈ violations, violation.duplicatedSection = none

theorem undoubled_nil : Undoubled [] := by
  intro violation hmem
  cases hmem

theorem undoubled_report {condition : Prop} [Decidable condition]
    {violation : RouterInvariantViolation} (h : violation.duplicatedSection = none) :
    Undoubled (report condition violation) := by
  intro other hmem
  obtain ⟨_, rfl⟩ := mem_report.mp hmem
  exact h

theorem undoubled_append {others : List RouterInvariantViolation} (h : Undoubled violations)
    (hothers : Undoubled others) : Undoubled (violations ++ others) := by
  intro violation hmem
  rcases List.mem_append.mp hmem with hmem | hmem
  · exact h violation hmem
  · exact hothers violation hmem

theorem undoubled_collect {checks : List (List RouterInvariantViolation)}
    (h : ∀ check ∈ checks, Undoubled check) : Undoubled (collect checks) := by
  intro violation hmem
  obtain ⟨check, hcheck, hmem⟩ := List.mem_flatten.mp hmem
  exact h check hcheck violation hmem

theorem undoubled_flatMap {A : Type} {items : List A} {check : A → List RouterInvariantViolation}
    (h : ∀ item, Undoubled (check item)) : Undoubled (items.flatMap check) := by
  intro violation hmem
  obtain ⟨item, _, hmem⟩ := List.mem_flatMap.mp hmem
  exact h item violation hmem

theorem undoubled_routeAxis : Undoubled (routeAxisViolations output) := by
  apply undoubled_collect
  simp only [List.forall_mem_cons]
  exact ⟨undoubled_report rfl, undoubled_report rfl, undoubled_report rfl, undoubled_report rfl,
    by simp⟩

theorem undoubled_evidence (sections : List String) (evidence : List RouteEvidence) :
    Undoubled (evidenceViolations sections evidence) :=
  undoubled_flatMap fun _ => undoubled_append (undoubled_report rfl) (undoubled_report rfl)

theorem undoubled_questions (questions : List String) : Undoubled (questionViolations questions) :=
  undoubled_flatMap fun _ => undoubled_report rfl

theorem undoubled_subtask (task : SuggestedSubtask) (index : ℕ) :
    Undoubled (subtaskViolations output task index) := by
  apply undoubled_collect
  simp only [List.forall_mem_cons]
  exact ⟨undoubled_report rfl, undoubled_report rfl, undoubled_report rfl,
    undoubled_flatMap fun _ => undoubled_report rfl, undoubled_flatMap fun _ => undoubled_report rfl,
    by simp⟩

theorem undoubled_dependencies (tasks : List SuggestedSubtask) :
    Undoubled (dependencyViolations tasks) := by
  refine undoubled_flatMap fun task => undoubled_flatMap fun dependency => ?_
  split
  · intro violation hmem
    obtain rfl := List.mem_singleton.mp hmem
    rfl
  · exact undoubled_report rfl

theorem undoubled_subtasks : Undoubled (subtasksViolations output) := by
  apply undoubled_collect
  simp only [List.forall_mem_cons]
  exact ⟨undoubled_flatMap fun entry => undoubled_subtask entry.1 entry.2,
    undoubled_flatMap fun _ => undoubled_report rfl, undoubled_dependencies _, undoubled_report rfl,
    by simp⟩

theorem undoubled_userCitation (cited : List String) (userSections : List (DataSection Value)) :
    Undoubled (userCitationViolations cited userSections) := by
  unfold userCitationViolations
  split
  · exact undoubled_report rfl
  · intro violation hmem
    obtain rfl := List.mem_singleton.mp hmem
    rfl

/-- Every section that is cited more than once is reported. -/
theorem exists_duplicateEvidence {cited : List String} :
    (∃ occurrences, .duplicateEvidenceSection name occurrences ∈ duplicateEvidenceViolations cited) ↔
      1 < cited.count name := by
  unfold duplicateEvidenceViolations
  simp only [List.mem_flatMap, mem_report, RouterInvariantViolation.duplicateEvidenceSection.injEq]
  constructor
  · rintro ⟨_, ⟨_, _⟩, _, ⟨hcount, _⟩, rfl, _⟩
    exact hcount
  · intro hcount
    have hmem : name ∈ cited := List.count_pos_iff.mp (by omega)
    obtain ⟨before, after, rfl, hfirst⟩ := List.eq_append_cons_of_mem hmem
    refine ⟨_, (name, before.length), ?_, ⟨hcount, ?_⟩, rfl, rfl⟩
    · rw [List.mk_mem_zipIdx_iff_getElem?, List.getElem?_append_right le_rfl, Nat.sub_self]
      rfl
    · rw [List.take_left']
      · exact hfirst
      · rfl

theorem duplicateEvidence_eq_nil {cited : List String} (h : cited.Nodup) :
    duplicateEvidenceViolations cited = [] := by
  unfold duplicateEvidenceViolations
  rw [List.flatMap_eq_nil_iff]
  rintro ⟨name, index⟩ _
  have hcount := List.nodup_iff_count_le_one.mp h name
  rw [report_eq_nil]
  rintro ⟨hmore, _⟩
  omega

end Violations

section Repairable

/-- The output has no fault but sections that are cited more than once. -/
structure OnlyDuplicates (output : TaskRouterOutput) (invocation : PromptInvocation Value)
    (version : Version) : Prop where
  recent : version.isAtLeast 1 1 1 = true
  limit : subtaskLimitViolations output invocation.limits.maxSuggestedSubtasks = []
  axes : routeAxisViolations output = []
  evidence : evidenceViolations (invocation.sections.map DataSection.name) output.evidence = []
  citation : userCitationViolations (output.evidence.map RouteEvidence.section)
    (invocation.sections.filter fun data => data.trust = .user) = []
  questions : questionViolations output.clarificationQuestions = []
  subtasks : subtasksViolations output = []

/-- A part of repairable violations that reports no duplicated section is empty. -/
theorem eq_nil_of_undoubled {part violations : List RouterInvariantViolation}
    (h : repairableDuplicateViolations violations = true) (hpart : part ⊆ violations)
    (hundoubled : Undoubled part) : part = [] := by
  rw [List.eq_nil_iff_forall_not_mem]
  intro violation hmem
  rw [repairableDuplicateViolations, Bool.and_eq_true, List.all_eq_true] at h
  have hsome := h.2 violation (hpart hmem)
  rw [hundoubled violation hmem] at hsome
  cases hsome

theorem onlyDuplicates_of_repairable
    (h : repairableDuplicateViolations (routerInvariantViolations output invocation version) = true) :
    OnlyDuplicates output invocation version := by
  have hpart : ∀ part ∈ [subtaskLimitViolations output invocation.limits.maxSuggestedSubtasks,
      routeAxisViolations output,
      evidenceViolations (invocation.sections.map DataSection.name) output.evidence,
      if version.isAtLeast 1 1 1 then minimalEvidenceViolations output invocation else [],
      questionViolations output.clarificationQuestions, subtasksViolations output],
      part ⊆ routerInvariantViolations output invocation version :=
    fun part hmem violation hviolation => List.mem_flatten.mpr ⟨part, hmem, hviolation⟩
  simp only [List.forall_mem_cons] at hpart
  obtain ⟨hlimit, haxes, hevidence, hminimal, hquestions, hsubtasks, _⟩ := hpart
  have hlimit := eq_nil_of_undoubled h hlimit (undoubled_report rfl)
  have haxes := eq_nil_of_undoubled h haxes undoubled_routeAxis
  have hevidence := eq_nil_of_undoubled h hevidence (undoubled_evidence _ _)
  have hquestions := eq_nil_of_undoubled h hquestions (undoubled_questions _)
  have hsubtasks := eq_nil_of_undoubled h hsubtasks undoubled_subtasks
  have hversion : version.isAtLeast 1 1 1 = true := by
    by_contra hnot
    have hnone : routerInvariantViolations output invocation version = [] := by
      unfold routerInvariantViolations
      dsimp only
      rw [hlimit, haxes, hevidence, hquestions, hsubtasks, if_neg hnot]
      rfl
    rw [hnone] at h
    cases h
  rw [if_pos hversion] at hminimal
  refine ⟨hversion, hlimit, haxes, hevidence, ?_, hquestions, hsubtasks⟩
  exact eq_nil_of_undoubled h (fun _ hmem => hminimal (List.mem_append_right _ hmem))
    (undoubled_userCitation _ _)

theorem OnlyDuplicates.violations (h : OnlyDuplicates output invocation version) :
    routerInvariantViolations output invocation version =
      duplicateEvidenceViolations (output.evidence.map RouteEvidence.section) := by
  unfold routerInvariantViolations minimalEvidenceViolations
  dsimp only
  rw [h.limit, h.axes, h.evidence, h.citation, h.questions, h.subtasks, if_pos h.recent]
  simp [collect]

/-- The sections that the repair is asked for are those that are cited more than once. -/
theorem OnlyDuplicates.sections (h : OnlyDuplicates output invocation version) :
    duplicateSectionsInFirstOccurrenceOrder output
        (routerInvariantViolations output invocation version) =
      firstOccurrences ((output.evidence.filter fun entry =>
        1 < (output.evidence.map RouteEvidence.section).count entry.section).map
          RouteEvidence.section) := by
  unfold duplicateSectionsInFirstOccurrenceOrder
  rw [h.violations]
  dsimp only
  congr 2
  apply List.filter_congr
  intro entry _
  rw [Bool.eq_iff_iff, ExtTreeSet.contains_iff_mem, mem_toSet, List.mem_filterMap,
    decide_eq_true_eq, ← exists_duplicateEvidence]
  constructor
  · rintro ⟨violation, hmem, hname⟩
    cases violation with
    | duplicateEvidenceSection name occurrences =>
      obtain rfl := Option.some.inj hname
      exact ⟨occurrences, hmem⟩
    | _ => cases hname
  · rintro ⟨occurrences, hmem⟩
    exact ⟨_, hmem, rfl⟩

end Repairable

section Repairs

variable {evidence repaired : List RouteEvidence}

/-- The only entry of its section. -/
def citedOnce (evidence : List RouteEvidence) (entry : RouteEvidence) : Bool :=
  (evidence.map RouteEvidence.section).count entry.section ≤ 1

/-- Every section is left with one entry, where it was cited first: its own where it was cited once,
else that of the patch. -/
structure Repairs (evidence : List RouteEvidence) (patch : EvidenceRepairPatch)
    (repaired : List RouteEvidence) : Prop where
  sections : repaired.map RouteEvidence.section =
    firstOccurrences (evidence.map RouteEvidence.section)
  kept : repaired.filter (citedOnce evidence) = evidence.filter (citedOnce evidence)
  replaced : repaired.filter (fun entry => !citedOnce evidence entry) = patch.replacements

/-- The sections that are cited more than once, in the order of their first citations. -/
def repeatedSections (evidence : List RouteEvidence) : List String :=
  firstOccurrences ((evidence.filter fun entry =>
    1 < (evidence.map RouteEvidence.section).count entry.section).map RouteEvidence.section)

theorem mem_repeatedSections {name : String} : name ∈ repeatedSections evidence ↔
    1 < (evidence.map RouteEvidence.section).count name := by
  rw [repeatedSections, mem_firstOccurrences, List.mem_map]
  constructor
  · rintro ⟨entry, hentry, rfl⟩
    exact of_decide_eq_true (List.mem_filter.mp hentry).2
  · intro hcount
    obtain ⟨entry, hentry, rfl⟩ := List.mem_map.mp (List.count_pos_iff.mp (Nat.zero_lt_of_lt hcount))
    exact ⟨entry, List.mem_filter.mpr ⟨hentry, decide_eq_true hcount⟩, rfl⟩

theorem duplicated_repeatedSections :
    duplicated (toSet (repeatedSections evidence)) = fun entry => !citedOnce evidence entry := by
  funext entry
  rw [Bool.eq_iff_iff, duplicated, ExtTreeSet.contains_iff_mem, mem_toSet, mem_repeatedSections,
    citedOnce, Bool.not_eq_true', decide_eq_false_iff_not, Nat.not_le]

theorem repeatedSections_eq : repeatedSections evidence =
    firstOccurrences ((evidence.filter (duplicated (toSet (repeatedSections evidence)))).map
      RouteEvidence.section) := by
  rw [duplicated_repeatedSections]
  unfold repeatedSections
  congr 2
  apply List.filter_congr
  intro entry _
  rw [citedOnce, Bool.eq_iff_iff, Bool.not_eq_true', decide_eq_true_eq, decide_eq_false_iff_not,
    Nat.not_le]

/-- A patch of the repeated sections applies and repairs. -/
theorem repairs_of_sections
    (hsections : patch.replacements.map RouteEvidence.section = repeatedSections output.evidence) :
    ∃ repaired, applyPatch output patch (repeatedSections output.evidence) =
      some { output with evidence := repaired } ∧ Repairs output.evidence patch repaired := by
  have hkeys : (patch.replacements.map fun replacement => (replacement.section, replacement)).map
      Prod.fst = repeatedSections output.evidence := by
    rw [List.map_map, ← hsections]
    rfl
  have hnodup : ((patch.replacements.map fun replacement =>
      (replacement.section, replacement)).map Prod.fst).Nodup := by
    rw [hkeys]
    exact nodup_firstOccurrences
  have hlookup : ∀ replacement ∈ patch.replacements, (toMap (patch.replacements.map fun replacement =>
      (replacement.section, replacement)))[replacement.section]? = some replacement := by
    intro replacement hmem
    exact (toMap_getElem?_eq_some hnodup).mpr (List.mem_map.mpr ⟨replacement, hmem, rfl⟩)
  have hmap : ∀ name ∈ toSet (repeatedSections output.evidence), ∃ replacement,
      (toMap (patch.replacements.map fun replacement =>
        (replacement.section, replacement)))[name]? = some replacement ∧
        replacement.section = name := by
    intro name hname
    rw [mem_toSet, ← hsections, List.mem_map] at hname
    obtain ⟨replacement, hmem, rfl⟩ := hname
    exact ⟨replacement, hlookup replacement hmem, rfl⟩
  have hemits : Emits (toSet (repeatedSections output.evidence)) ∅ [] output.evidence := by
    refine ⟨fun name _ => ?_, fun entry hentry hnot => ⟨List.not_mem_nil, ?_⟩⟩
    · simp
    · have hpositive := List.count_pos_iff.mpr
        (List.mem_map_of_mem (f := RouteEvidence.section) hentry)
      rw [mem_toSet, mem_repeatedSections] at hnot
      omega
  obtain ⟨repaired, happly, hfirsts, hkept, hreplaced⟩ := applyReplacements_spec hmap hemits
  refine ⟨repaired, ?_, hfirsts, ?_, ?_⟩
  · rw [applyPatch, happly]
    rfl
  · simpa only [duplicated_repeatedSections, Bool.not_not] using hkept
  · have hmap : (repaired.filter (duplicated (toSet (repeatedSections output.evidence)))).map some =
        patch.replacements.map some := by
      rw [hreplaced, ← firstOccurrences, ← repeatedSections_eq, ← hsections, List.map_map]
      exact List.map_congr_left hlookup
    have hequal := List.map_injective_iff.mpr (Option.some_injective RouteEvidence) hmap
    rwa [duplicated_repeatedSections] at hequal

theorem Repairs.mem_sections (h : Repairs evidence patch repaired) {name : String} :
    name ∈ repaired.map RouteEvidence.section ↔ name ∈ evidence.map RouteEvidence.section := by
  rw [h.sections, mem_firstOccurrences]

theorem Repairs.mem (h : Repairs evidence patch repaired) {entry : RouteEvidence}
    (hmem : entry ∈ repaired) : entry ∈ evidence ∨ entry ∈ patch.replacements := by
  by_cases honce : citedOnce evidence entry = true
  · left
    have hkept : entry ∈ repaired.filter (citedOnce evidence) := List.mem_filter.mpr ⟨hmem, honce⟩
    rw [h.kept] at hkept
    exact (List.mem_filter.mp hkept).1
  · right
    rw [← h.replaced]
    exact List.mem_filter.mpr ⟨hmem, by simp [honce]⟩

theorem evidenceViolations_eq_nil {sections : List String} :
    evidenceViolations sections evidence = [] ↔ ∀ entry ∈ evidence,
      isBlank entry.section = false ∧ isBlank entry.basis = false ∧ entry.section ∈ sections := by
  have hentry : ∀ (entry : RouteEvidence) (index : ℕ), entry.violations sections index = [] ↔
      isBlank entry.section = false ∧ isBlank entry.basis = false ∧ entry.section ∈ sections := by
    intro entry index
    rw [RouteEvidence.violations, List.append_eq_nil_iff, report_eq_nil, report_eq_nil, not_or,
      Bool.not_eq_true, Bool.not_eq_true, not_not, and_assoc]
  rw [evidenceViolations, List.flatMap_eq_nil_iff]
  constructor
  · intro h entry hmem
    obtain ⟨index, hindex⟩ := List.mem_iff_getElem?.mp hmem
    exact (hentry entry index).mp (h (entry, index) (List.mk_mem_zipIdx_iff_getElem?.mpr hindex))
  · rintro h ⟨entry, index⟩ hmem
    exact (hentry entry index).mpr
      (h entry (List.mem_of_getElem? (List.mk_mem_zipIdx_iff_getElem?.mp hmem)))

/-- The evidence that the patch leaves has no fault of its own. -/
theorem Repairs.faultless {sections : List String} (h : Repairs evidence patch repaired)
    (hevidence : evidenceViolations sections evidence = [])
    (hbasis : ∀ replacement ∈ patch.replacements, isBlank replacement.basis = false) :
    evidenceViolations sections repaired = [] := by
  rw [evidenceViolations_eq_nil] at hevidence ⊢
  intro entry hmem
  obtain ⟨cited, hcited, hsection⟩ :=
    List.mem_map.mp (h.mem_sections.mp (List.mem_map_of_mem (f := RouteEvidence.section) hmem))
  obtain ⟨hnonblank, _, hknown⟩ := hevidence cited hcited
  rw [hsection] at hnonblank hknown
  refine ⟨hnonblank, ?_, hknown⟩
  rcases h.mem hmem with hkept | hreplaced
  · exact (hevidence entry hkept).2.1
  · exact hbasis entry hreplaced

theorem userCitationViolations_congr {cited cited' : List String}
    {userSections : List (DataSection Value)} (h : ∀ name, name ∈ cited' ↔ name ∈ cited)
    (hnone : userCitationViolations cited userSections = []) :
    userCitationViolations cited' userSections = [] := by
  unfold userCitationViolations at hnone ⊢
  split at hnone
  · next user =>
    rw [report_eq_nil, List.count_eq_zero, not_not] at hnone
    rw [report_eq_nil, List.count_eq_zero, not_not, h]
    exact hnone
  · cases hnone

end Repairs

/-- A patch without violations applies, changes nothing but the evidence, keeps every entry of a
section that was cited once, and leaves an output without violations. -/
theorem applyPatch_repairs
    (hrepairable : repairableDuplicateViolations
      (routerInvariantViolations output invocation version) = true)
    (hpatch : validatePatch patch (duplicateSectionsInFirstOccurrenceOrder output
      (routerInvariantViolations output invocation version)) = []) :
    ∃ repaired, applyPatch output patch (duplicateSectionsInFirstOccurrenceOrder output
        (routerInvariantViolations output invocation version)) =
        some { output with evidence := repaired } ∧
      Repairs output.evidence patch repaired ∧
      routerInvariantViolations { output with evidence := repaired } invocation version = [] := by
  have honly := onlyDuplicates_of_repairable hrepairable
  have hduplicates := honly.sections
  rw [← repeatedSections] at hduplicates
  rw [hduplicates] at hpatch ⊢
  obtain ⟨hsections, hbasis⟩ := sections_of_validatePatch hpatch
  obtain ⟨repaired, happly, hrepairs⟩ := repairs_of_sections hsections
  refine ⟨repaired, happly, hrepairs, ?_⟩
  have hrepaired : OnlyDuplicates { output with evidence := repaired } invocation version :=
    { recent := honly.recent
      limit := honly.limit
      axes := honly.axes
      evidence := hrepairs.faultless honly.evidence hbasis
      citation := userCitationViolations_congr (fun _ => hrepairs.mem_sections) honly.citation
      questions := honly.questions
      subtasks := honly.subtasks }
  rw [hrepaired.violations]
  apply duplicateEvidence_eq_nil
  dsimp only
  rw [hrepairs.sections]
  exact nodup_firstOccurrences

/-- An answer that cites the user's message twice. -/
def repeatedAnswer : TaskRouterOutput :=
  { action := .answer
    strategy := .direct
    requiredAccess := .none
    confidence := 0
    evidence := [⟨"user", "asks"⟩, ⟨"history", "says"⟩, ⟨"user", "asks again"⟩]
    clarificationQuestions := []
    suggestedSubtasks := [] }

def repeatedInvocation : PromptInvocation Unit :=
  { sections := [⟨"user", .user, ⟨.user, "message", none, none⟩, ()⟩,
      ⟨"history", .tool, ⟨.tool, "session", none, none⟩, ()⟩]
    limits := ⟨0⟩
    runtimeConstraints := [] }

theorem applyPatch_repairs_sample :
    ∃ repaired, applyPatch repeatedAnswer ⟨[⟨"user", "asks twice"⟩]⟩
        (duplicateSectionsInFirstOccurrenceOrder repeatedAnswer
          (routerInvariantViolations repeatedAnswer repeatedInvocation ⟨1, 1, 3, "", ""⟩)) =
        some { repeatedAnswer with evidence := repaired } ∧
      Repairs repeatedAnswer.evidence ⟨[⟨"user", "asks twice"⟩]⟩ repaired ∧
      routerInvariantViolations { repeatedAnswer with evidence := repaired } repeatedInvocation
        ⟨1, 1, 3, "", ""⟩ = [] :=
  applyPatch_repairs (by decide) (by decide)

end BirdCode.Router
