import BirdCode.Store.TerminalRuns

/-! Telemetry of a run that could be completed. A run is completed by the last of its events but
claims, and telemetry is admitted behind that event. -/
namespace BirdCode.Store

variable {documents : PlanningDocuments} {env : Environment} {log log' : EventLog} {run : Run}
  {event : EventEnvelope} {events : List EventEnvelope} {admission : EventAdmission} {runId : RunId}

/-- A change of the run to completed could be appended next. -/
def Completable (documents : PlanningDocuments) (env : Environment) (log : EventLog)
    (runId : RunId) : Prop :=
  ∃ event admission log', event.runId = some runId ∧
    event.payload = .runStateChanged .running .completed ∧
    applyExactEventEnvelope documents env log event admission = .ok log'

/-- Telemetry of a run that was appended one after the other. -/
inductive TelemetryAppended (documents : PlanningDocuments) (env : Environment) (runId : RunId)
    (log : EventLog) : List EventEnvelope → EventLog → Prop
  | nil : TelemetryAppended documents env runId log [] log
  | append {log' log'' : EventLog} {events : List EventEnvelope} {event : EventEnvelope}
      {admission : EventAdmission} (h : TelemetryAppended documents env runId log events log')
      (hown : event.runId = some runId) (htelemetry : event.payload.isTelemetry = true)
      (happly : applyExactEventEnvelope documents env log' event admission = .ok log'') :
      TelemetryAppended documents env runId log (events ++ [event]) log''

section Latest

/-- An event that is no claim is the last of its run but claims. -/
theorem Appended.latestNonClaim (h : Appended documents env log event admission log')
    (hown : event.runId = some runId) (hkind : event.payload.isRunClaimed = false) :
    latestNonClaimEvent log' event.sessionId runId = .ok event := by
  unfold latestNonClaimEvent latest
  rw [expect_eq_ok, h.events, List.filter_append]
  simp [hown, hkind]

/-- The event that completes a run is the last of the run but claims. -/
theorem Appended.completes {change : EventEnvelope}
    (h : Appended documents env log change admission log') (hown : change.runId = some runId)
    (hpayload : change.payload = .runStateChanged .running .completed) :
    ∃ run latest, storedRun log runId = some run ∧ run.spec.sessionId = change.sessionId ∧
      latestNonClaimEvent log change.sessionId runId = .ok latest ∧
      completesRun run latest.payload = true := by
  obtain ⟨owner, hadmitted⟩ := h.stateChanged hpayload
  obtain rfl := Option.some.inj (hadmitted.owner.symm.trans hown)
  have hcause := hadmitted.cause (.inl rfl)
  simp only [validateTerminalCause, bind_eq_ok, ensure_eq_ok, durableRunForEvent_eq_ok] at hcause
  obtain ⟨run, ⟨hstored, hsession⟩, latest, hlatest, _, hcompletes, _⟩ := hcause
  refine ⟨run, latest, hstored, hsession, hlatest, ?_⟩
  rcases hcompletes with ⟨_, hcompletes⟩ | ⟨hfailed, _⟩
  · exact hcompletes
  · cases hfailed

theorem completesRun_of_telemetry {payload : EventPayload} (h : payload.isTelemetry = true) :
    completesRun run payload = false := by
  unfold completesRun
  split <;> first | rfl | cases h

/-- Behind telemetry no change to completed is admitted. -/
theorem Appended.not_completable (h : Appended documents env log event admission log')
    (hown : event.runId = some runId) (htelemetry : event.payload.isTelemetry = true) :
    ¬Completable documents env log' runId := by
  rintro ⟨change, admission', log'', hchange, hpayload, happly⟩
  obtain ⟨run, latest, hstored, hsession, hlatest, hcompletes⟩ :=
    (applyExactEventEnvelope_appended happly).completes hchange hpayload
  have hcreated : event.payload.createdRun = none := by
    cases hp : event.payload <;> simp_all [EventPayload.isTelemetry, EventPayload.createdRun]
  have hkind : event.payload.isRunClaimed = false := by
    cases hp : event.payload <;> simp_all [EventPayload.isTelemetry, EventPayload.isRunClaimed]
  -- Both events are in the session of the stored run, so the telemetry is the latest event found.
  obtain ⟨other, hother, hsame⟩ := h.bound hcreated runId hown
  obtain rfl := Option.some.inj ((storedRun_append h.events hother).symm.trans hstored)
  rw [← hsession, hsame, h.latestNonClaim hown hkind] at hlatest
  obtain rfl := Except.ok.inj hlatest
  rw [completesRun_of_telemetry htelemetry] at hcompletes
  cases hcompletes

end Latest

/-- A run that can be completed can be completed after its telemetry exactly if there is none. -/
theorem completable_after_telemetry (documents : PlanningDocuments) (env : Environment)
    (log log' : EventLog) (runId : RunId) (events : List EventEnvelope)
    (hcompletable : Completable documents env log runId)
    (htelemetry : TelemetryAppended documents env runId log events log') :
    Completable documents env log' runId ↔ events = [] := by
  constructor
  · intro h
    cases htelemetry with
    | nil => rfl
    | append _ hown hkind happly =>
      exact absurd h ((applyExactEventEnvelope_appended happly).not_completable hown hkind)
  · rintro rfl
    generalize hnone : ([] : List EventEnvelope) = none at htelemetry
    cases htelemetry with
    | nil => exact hcompletable
    | append => simp at hnone

section Sample

/-! The final review of a repaired plan is accepted, and the user adds something to the run. -/

def reviewedLog : EventLog :=
  sampleLogOf samplePlanningDocuments (plainEnvironment sampleWires) (sampleRepaired plannedRun)

def laterInput : EventEnvelope := sampleRow 17 1 (some 16) none (.userInput ⟨"[]"⟩)

def inputLog : EventLog :=
  sampleLogOf samplePlanningDocuments (plainEnvironment sampleWires)
    (sampleRepaired plannedRun ++ [laterInput])

theorem sampleLogOf_append (documents : PlanningDocuments) (env : Environment)
    (rows : List EventEnvelope) (row : EventEnvelope) :
    sampleLogOf documents env (rows ++ [row]) =
      (sampleLogOf documents env rows).attempt documents env ⟨row, .publicAppend⟩ := by
  simp [sampleLogOf, EventLog.attempts]

/-- An attempt that changes the log is an append. -/
theorem apply_of_attempt {request : AppendRequest}
    (h : (log.attempt documents env request).events ≠ log.events) :
    applyExactEventEnvelope documents env log request.event request.admission =
      .ok (log.attempt documents env request) := by
  unfold EventLog.attempt at h ⊢
  split
  · next happly => exact happly
  · next happly => simp [happly] at h

theorem apply_sampleRow {documents : PlanningDocuments} {env : Environment}
    {rows : List EventEnvelope} {row : EventEnvelope}
    (hrows : (sampleLogOf documents env rows).events = rows)
    (happended : (sampleLogOf documents env (rows ++ [row])).events = rows ++ [row]) :
    applyExactEventEnvelope documents env (sampleLogOf documents env rows) row .publicAppend =
      .ok (sampleLogOf documents env (rows ++ [row])) := by
  rw [sampleLogOf_append] at happended ⊢
  have hchanged : ((sampleLogOf documents env rows).attempt documents env
      ⟨row, .publicAppend⟩).events ≠ (sampleLogOf documents env rows).events := by
    rw [happended, hrows]
    simp
  exact apply_of_attempt hchanged

theorem reviewedLog_events : reviewedLog.events = sampleRepaired plannedRun := by decide +kernel

theorem inputLog_events : inputLog.events = sampleRepaired plannedRun ++ [laterInput] := by
  decide +kernel

theorem reviewedLog_admitted :
    Admitted samplePlanningDocuments (plainEnvironment sampleWires) reviewedLog :=
  .attempts .empty _

theorem reviewedLog_completable :
    Completable samplePlanningDocuments (plainEnvironment sampleWires) reviewedLog plannedRun.id :=
  ⟨_, _, _, rfl, rfl, apply_sampleRow reviewedLog_events plannedLog_events⟩

theorem inputLog_telemetry :
    TelemetryAppended samplePlanningDocuments (plainEnvironment sampleWires) plannedRun.id
      reviewedLog [laterInput] inputLog :=
  .append .nil rfl rfl (apply_sampleRow reviewedLog_events inputLog_events)

theorem completable_after_input :
    Completable samplePlanningDocuments (plainEnvironment sampleWires) inputLog plannedRun.id ↔
      [laterInput] = [] :=
  completable_after_telemetry _ _ _ _ _ _ reviewedLog_completable inputLog_telemetry

/-- Input of the user withdraws the completion of a run whose plan was accepted. -/
theorem input_blocks_completion : ¬∀ (documents : PlanningDocuments) (env : Environment)
    (log log' : EventLog) (runId : RunId) (events : List EventEnvelope),
    Admitted documents env log → Completable documents env log runId →
    TelemetryAppended documents env runId log events log' →
    Completable documents env log' runId := by
  intro h
  have hcompletable := h _ _ _ _ _ _ reviewedLog_admitted reviewedLog_completable inputLog_telemetry
  exact (applyExactEventEnvelope_appended (apply_sampleRow reviewedLog_events
    inputLog_events)).not_completable rfl rfl hcompletable

end Sample

end BirdCode.Store
