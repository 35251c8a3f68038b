import BirdCode.Store.SnapshotRuns
import BirdCode.Store.ChildRuns

/-! Later events never change an earlier verdict: what was replayed from an admitted log is
replayed alike from every log that appends lead to from it. -/
namespace BirdCode.Store

open Lib (Persists)

variable {documents : PlanningDocuments} {env : Environment} {log log' : EventLog} {run : Run}
  {runId : RunId}

section Continuation

/-- A run whose snapshot no appended event concerns keeps its lifecycle. -/
theorem Continues.lifecycle (h : Continues documents env log log')
    (hothers : ∀ event ∈ log'.events, event ∉ log.events → ¬event.ofSnapshot run.id) :
    Persists (replayRepositorySnapshotLifecycle env log run)
      (replayRepositorySnapshotLifecycle env log' run) := by
  induction h with
  | refl => exact .rfl
  | @append middle log'' event admission hmiddle happly ih =>
    have happended := applyExactEventEnvelope_appended happly
    have hkept : ∀ stored ∈ middle.events, stored ∈ log''.events := by
      intro stored hstored
      rw [happended.events]
      exact List.mem_append_left _ hstored
    have hadded : event ∈ log''.events := by
      rw [happended.events]
      exact List.mem_append_right _ (List.mem_singleton.mpr rfl)
    have hnew : event ∉ log.events := by
      intro hold
      exact happended.fresh event (hmiddle.kept.subset hold) rfl
    refine .trans (ih fun stored hstored => hothers stored (hkept stored hstored)) ?_
    exact happended.lifecycle_other (hothers event hadded hnew)

/-- A child's committed events are replayed alike whatever was committed after them. -/
theorem Continues.childReplay (h : Continues documents env log log')
    (workOrderId : ChildWorkOrderId) :
    Persists ((childEvents log run workOrderId).foldlM (loadChildEvent env log) none)
      ((childEvents log run workOrderId).foldlM (loadChildEvent env log') none) := by
  refine foldlM_loadChildEvent_persists h.kept ?_ none
  intro event hevent
  exact (mem_childEvents.mp hevent).1

end Continuation

/-- For every admitted log and every continuation of it: the replay of an issued child that no
later event concerns is the same, so is the lifecycle of a run's snapshot, and the events that
were committed for a child replay as they did even where later events concern it. -/
theorem replay_unchanged_by_later (documents : PlanningDocuments) (env : Environment)
    (log log' : EventLog) (run : Run) (hadmitted : Admitted documents env log)
    (hcontinues : Continues documents env log log') (hrun : storedRun log run.id = some run) :
    (∀ workOrderId, ∀ issued ∈ childEvents log run workOrderId,
      (∀ event ∈ log'.events, event ∉ log.events → ¬event.ofChild run.id workOrderId) →
      ∃ loaded replay, loaded.replay = some replay ∧
        loadChildReplay env log run.id workOrderId = .ok loaded ∧
        loadChildReplay env log' run.id workOrderId = .ok loaded) ∧
    ((∀ event ∈ log'.events, event ∉ log.events → ¬event.ofSnapshot run.id) →
      (∀ state, replayRepositorySnapshotLifecycle env log run = .ok state →
        replayRepositorySnapshotLifecycle env log' run = .ok state) ∧
      (run.isParallelRecon = true →
        ∃ state, replayRepositorySnapshotLifecycle env log run = .ok state)) ∧
    ∀ workOrderId, ∃ replay,
      (childEvents log run workOrderId).foldlM (loadChildEvent env log) none = .ok replay ∧
      (childEvents log run workOrderId).foldlM (loadChildEvent env log') none = .ok replay := by
  refine ⟨?_, ?_, ?_⟩
  · intro workOrderId issued hissued hothers
    obtain ⟨loaded, hloaded⟩ := hadmitted.loadChildReplay hrun workOrderId
    have hsome := loadChildReplay_isSome hrun hloaded hissued
    obtain ⟨replay, hreplay⟩ := Option.isSome_iff_exists.mp hsome
    have hlater := loadChildReplay_of_others hcontinues.kept hrun hothers loaded hloaded
    exact ⟨loaded, replay, hreplay, hloaded, hlater⟩
  · intro hothers
    refine ⟨fun state hstate => hcontinues.lifecycle hothers state hstate, ?_⟩
    intro hrecon
    exact hadmitted.lifecycle hrun hrecon
  · intro workOrderId
    obtain ⟨loaded, hloaded⟩ := hadmitted.loadChildReplay hrun workOrderId
    obtain ⟨_, hreplay, _⟩ := (loadChildReplay_eq_ok hrun).mp hloaded
    exact ⟨loaded.replay, hreplay, hcontinues.childReplay workOrderId loaded.replay hreplay⟩

theorem sampleLogOf_continues (rows later : List EventEnvelope) :
    Continues documents env (sampleLogOf documents env rows)
      (sampleLogOf documents env (rows ++ later)) := by
  unfold sampleLogOf EventLog.attempts
  rw [List.map_append, List.foldl_append]
  exact Continues.refl.attempts _

/-- The child is issued in the shorter log and started in the longer one. -/
theorem replay_unchanged_by_start :
    let issued := sampleLogOf delegatedDocuments delegatedEnv (delegatedRows.take 14)
    ∃ replay, (childEvents issued plannedRun (sampleId 1)).foldlM
        (loadChildEvent delegatedEnv issued) none = .ok replay ∧
      (childEvents issued plannedRun (sampleId 1)).foldlM
        (loadChildEvent delegatedEnv delegatedLog) none = .ok replay := by
  have hcontinues : Continues delegatedDocuments delegatedEnv
      (sampleLogOf delegatedDocuments delegatedEnv (delegatedRows.take 14)) delegatedLog := by
    have hlog : delegatedLog = sampleLogOf delegatedDocuments delegatedEnv
        (delegatedRows.take 14 ++ delegatedRows.drop 14) := by
      rw [List.take_append_drop]
      rfl
    rw [hlog]
    exact sampleLogOf_continues _ _
  exact (replay_unchanged_by_later delegatedDocuments delegatedEnv _ delegatedLog plannedRun
    (.attempts .empty _) hcontinues (by decide +kernel)).2.2 (sampleId 1)

end BirdCode.Store
