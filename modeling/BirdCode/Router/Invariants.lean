import BirdCode.Lib.DepthFirst
import BirdCode.Review.Contract

/-! The output of the semantic task router and the invariants that it is checked for in one pass. -/
namespace BirdCode.Router

open Std Lib Review

section Output

inductive RouteAction
  | clarify | answer | inspect | change
  deriving DecidableEq

inductive RouteStrategy
  | direct | delegate
  deriving DecidableEq

inductive RequiredAccess
  | none | readOnly | workspaceWrite
  deriving DecidableEq

/-- The derived order of the variants. -/
def RequiredAccess.rank : RequiredAccess → ℕ
  | .none => 0
  | .readOnly => 1
  | .workspaceWrite => 2

structure RouteEvidence where
  «section» : String
  basis : String
  deriving DecidableEq

structure SuggestedSubtask where
  id : String
  objective : String
  requiredAccess : RequiredAccess
  acceptanceCriteria : List String
  dependsOn : List String
  deriving DecidableEq

structure TaskRouterOutput where
  action : RouteAction
  strategy : RouteStrategy
  requiredAccess : RequiredAccess
  /-- The bits of an `f64`. -/
  confidence : UInt64
  evidence : List RouteEvidence
  clarificationQuestions : List String
  suggestedSubtasks : List SuggestedSubtask
  deriving DecidableEq

inductive RouterInvariantViolation
  | tooManySuggestedSubtasks (maximum actual : UInt32)
  | requiredAccessMismatch (action : RouteAction) (expected actual : RequiredAccess)
  | delegateForUnsupportedAction (action : RouteAction)
  | clarificationQuestionPresenceMismatch (action : RouteAction)
  | suggestedSubtaskPresenceMismatch (strategy : RouteStrategy)
  | blankEvidenceField (index : UInt32)
  | unknownEvidenceSection (index : UInt32) («section» : String)
  | duplicateEvidenceSection («section» : String) (occurrences : UInt32)
  | userSectionCount (actual : UInt32)
  | userEvidenceCitationCount («section» : String) (actual : UInt32)
  | blankClarificationQuestion (index : UInt32)
  | subtaskAccessExceedsRoute (index : UInt32) (id : String)
  | blankSubtaskId (index : UInt32)
  | blankSubtaskObjective (index : UInt32) (id : String)
  | blankAcceptanceCriterion (subtaskIndex criterionIndex : UInt32) (id : String)
  | blankDependency (subtaskIndex dependencyIndex : UInt32) (id : String)
  | duplicateSubtaskId (id : String) (occurrences : UInt32)
  | selfDependency (id : String)
  | unknownDependency (id dependency : String)
  | dependencyCycle
  deriving DecidableEq

end Output

section Version

/-- `semver::Version`. -/
structure Version where
  major : UInt64
  minor : UInt64
  patch : UInt64
  prerelease : String
  build : String
  deriving DecidableEq

/-- `version >= &Version::new(major, minor, patch)`. A prerelease comes before its release, and
whatever build metadata a version has, it does not come before the one without. -/
def Version.isAtLeast (version : Version) (major minor patch : UInt64) : Bool :=
  major < version.major || (major = version.major &&
    (minor < version.minor || (minor = version.minor &&
      (patch < version.patch || (patch = version.patch && version.prerelease.isEmpty)))))

end Version

variable {Value : Type}

section Axes

def expectedAccess : RouteAction → RequiredAccess
  | .clarify | .answer => .none
  | .inspect => .readOnly
  | .change => .workspaceWrite

def routeAxisViolations (output : TaskRouterOutput) : List RouterInvariantViolation :=
  collect [
    report (output.requiredAccess ≠ expectedAccess output.action)
      (.requiredAccessMismatch output.action (expectedAccess output.action) output.requiredAccess),
    report (output.strategy = .delegate ∧ output.action ≠ .inspect ∧ output.action ≠ .change)
      (.delegateForUnsupportedAction output.action),
    report (output.clarificationQuestions.isEmpty = decide (output.action = .clarify))
      (.clarificationQuestionPresenceMismatch output.action),
    report (output.suggestedSubtasks.isEmpty = decide (output.strategy = .delegate))
      (.suggestedSubtaskPresenceMismatch output.strategy)]

end Axes

section Evidence

def RouteEvidence.violations (sections : List String) (evidence : RouteEvidence) (index : ℕ) :
    List RouterInvariantViolation :=
  report (isBlank evidence.section ∨ isBlank evidence.basis) (.blankEvidenceField (wireU32 index)) ++
    report (evidence.section ∉ sections)
      (.unknownEvidenceSection (wireU32 index) evidence.section)

def evidenceViolations (sections : List String) (evidence : List RouteEvidence) :
    List RouterInvariantViolation :=
  evidence.zipIdx.flatMap fun (entry, index) => entry.violations sections index

/-- A section that is cited more than once is reported where it is cited first. -/
def duplicateEvidenceViolations (sections : List String) : List RouterInvariantViolation :=
  sections.zipIdx.flatMap fun (name, index) =>
    report (1 < sections.count name ∧ name ∉ sections.take index)
      (.duplicateEvidenceSection name (wireU32 (sections.count name)))

/-- The user's only section is cited. Its duplicates are left to their own report. -/
def userCitationViolations (cited : List String) (userSections : List (DataSection Value)) :
    List RouterInvariantViolation :=
  match userSections with
  | [user] => report (cited.count user.name = 0)
      (.userEvidenceCitationCount user.name (wireU32 (cited.count user.name)))
  | _ => [.userSectionCount (wireU32 userSections.length)]

/-- `collect_minimal_evidence_violations`. -/
def minimalEvidenceViolations (output : TaskRouterOutput) (invocation : PromptInvocation Value) :
    List RouterInvariantViolation :=
  let cited := output.evidence.map RouteEvidence.section
  duplicateEvidenceViolations cited ++
    userCitationViolations cited (invocation.sections.filter fun data => data.trust = .user)

end Evidence

section Subtasks

def subtaskViolations (output : TaskRouterOutput) (task : SuggestedSubtask) (index : ℕ) :
    List RouterInvariantViolation :=
  collect [
    report (output.requiredAccess.rank < task.requiredAccess.rank)
      (.subtaskAccessExceedsRoute (wireU32 index) task.id),
    report (isBlank task.id) (.blankSubtaskId (wireU32 index)),
    report (isBlank task.objective) (.blankSubtaskObjective (wireU32 index) task.id),
    task.acceptanceCriteria.zipIdx.flatMap fun (criterion, criterionIndex) =>
      report (isBlank criterion)
        (.blankAcceptanceCriterion (wireU32 index) (wireU32 criterionIndex) task.id),
    task.dependsOn.zipIdx.flatMap fun (dependency, dependencyIndex) =>
      report (isBlank dependency)
        (.blankDependency (wireU32 index) (wireU32 dependencyIndex) task.id)]

/-- The first task of each id. -/
def tasksById (tasks : List SuggestedSubtask) : BTreeMap String SuggestedSubtask :=
  tasks.foldl (fun byId task => if byId.contains task.id then byId else byId.insert task.id task) ∅

def duplicateSubtaskViolations (tasks : List SuggestedSubtask) : List RouterInvariantViolation :=
  (toSet (tasks.map SuggestedSubtask.id)).toList.flatMap fun id =>
    report (1 < (tasks.map SuggestedSubtask.id).count id)
      (.duplicateSubtaskId id (wireU32 ((tasks.map SuggestedSubtask.id).count id)))

def dependencyViolations (tasks : List SuggestedSubtask) : List RouterInvariantViolation :=
  tasks.flatMap fun task => task.dependsOn.flatMap fun dependency =>
    if dependency = task.id then [.selfDependency task.id]
    else report ((tasksById tasks).contains dependency = false) (.unknownDependency task.id dependency)

/-- The dependencies of a task that are tasks. -/
def taskDependencies (tasks : BTreeMap String SuggestedSubtask) (id : String) : List String :=
  match tasks[id]? with
  | none => []
  | some task => task.dependsOn.filter tasks.contains

theorem taskDependencies_closed (tasks : BTreeMap String SuggestedSubtask) :
    ∀ id ∈ tasks.keys, ∀ dependency ∈ taskDependencies tasks id, dependency ∈ tasks.keys := by
  intro id _ dependency hdependency
  unfold taskDependencies at hdependency
  split at hdependency
  · cases hdependency
  · exact ExtTreeMap.mem_keys.mpr
      (ExtTreeMap.contains_iff_mem.mp (List.mem_filter.mp hdependency).2)

/-- `dependency_graph_has_cycle`. -/
def taskGraphHasCycle (tasks : BTreeMap String SuggestedSubtask) : Bool :=
  (findCycle (taskDependencies tasks) tasks.keys (taskDependencies_closed tasks)).isSome

def subtasksViolations (output : TaskRouterOutput) : List RouterInvariantViolation :=
  let tasks := output.suggestedSubtasks
  collect [
    tasks.zipIdx.flatMap fun (task, index) => subtaskViolations output task index,
    duplicateSubtaskViolations tasks,
    dependencyViolations tasks,
    report (taskGraphHasCycle (tasksById tasks)) .dependencyCycle]

end Subtasks

def questionViolations (questions : List String) : List RouterInvariantViolation :=
  questions.zipIdx.flatMap fun (question, index) =>
    report (isBlank question) (.blankClarificationQuestion (wireU32 index))

/-- What is found of the limit on subtasks. -/
def subtaskLimitViolations (output : TaskRouterOutput) (maximum : UInt32) :
    List RouterInvariantViolation :=
  report (maximum.toNat < output.suggestedSubtasks.length)
    (.tooManySuggestedSubtasks maximum (wireU32 output.suggestedSubtasks.length))

def routerInvariantViolations (output : TaskRouterOutput) (invocation : PromptInvocation Value)
    (promptVersion : Version) : List RouterInvariantViolation :=
  let sections := invocation.sections.map DataSection.name
  collect [
    subtaskLimitViolations output invocation.limits.maxSuggestedSubtasks,
    routeAxisViolations output,
    evidenceViolations sections output.evidence,
    if promptVersion.isAtLeast 1 1 1 then minimalEvidenceViolations output invocation else [],
    questionViolations output.clarificationQuestions,
    subtasksViolations output]

end BirdCode.Router
