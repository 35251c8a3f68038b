import BirdCode.Store.Fixtures
import BirdCode.Store.RunStates

/-! The token budget of a run: every family of Prepared events counts the reservations of all of
them before it reserves its own, so what a run reserves never exceeds its limit. -/
namespace BirdCode.Store

open Lib (Stepwise)

variable {documents : PlanningDocuments} {env : Environment} {log log' : EventLog} {run : Run}
  {event : EventEnvelope} {admission : EventAdmission} {runId : RunId}
  {reservation : TokenReservation}

section Step

/-- What the append of a reservation finds: its run, room in the budget and a new identity. -/
structure ReservationAdmitted (log : EventLog) (event : EventEnvelope)
    (reservation : TokenReservation) (run : Run) : Prop where
  owner : event.runId = some run.id
  stored : storedRun log run.id = some run
  session : run.spec.sessionId = event.sessionId
  fits : fitsRunLimit log event.sessionId run reservation
  fresh : modelTokenReservationIdentityCount log reservation.id = 0

theorem ReservationAdmitted.intro (howner : event.runId = some runId)
    (hrun : durableRunForEvent log event.sessionId runId = .ok run)
    (hfits : fitsRunLimit log event.sessionId run reservation)
    (hfresh : modelTokenReservationIdentityCount log reservation.id = 0) :
    ReservationAdmitted log event reservation run := by
  obtain ⟨hstored, hsession⟩ := durableRunForEvent_eq_ok.mp hrun
  obtain rfl := storedRun_id hstored
  exact ⟨howner, hstored, hsession, hfits, hfresh⟩

theorem plannerInferencePrepared_reserves {prepared : PlannerInferencePrepared}
    (h : validatePlannerInferencePrepared documents env log event prepared = .ok ()) :
    ∃ run, ReservationAdmitted log event prepared.tokenReservation run := by
  simp only [validatePlannerInferencePrepared, validateInferenceIdentity, bind_eq_ok,
    ensure_eq_ok, plannerRunId_eq_ok] at h
  obtain ⟨runId, howner, _, _, _, _, _, _, _, _, run, hrun, _, _, _, _, _,
    ⟨_, _, _, _, _, hfresh⟩, _, _, _, _, _, _, _, _, _, _, _, _, hfits⟩ := h
  exact ⟨run, .intro howner hrun hfits hfresh⟩

theorem plannerTurnPrepared_reserves {prepared : PlannerTurnPrepared}
    (h : validatePlannerTurnPrepared documents env log event prepared = .ok ()) :
    ∃ run, ReservationAdmitted log event prepared.tokenReservation run := by
  simp only [validatePlannerTurnPrepared, validateTurnModel, bind_eq_ok, ensure_eq_ok,
    plannerRunId_eq_ok] at h
  obtain ⟨runId, howner, _, _, _, _, run, hrun, _, _, _, _, _,
    ⟨_, _, _, _, _, _, _, _, _, _, _, _, _, _, hfresh⟩, _, _, _, _, _, ⟨_, hfits⟩, _⟩ := h
  exact ⟨run, .intro howner hrun hfits hfresh⟩

/-- A child's model call of either version. -/
theorem childModelCall_reserves (hreserves : event.payload.childModelReservation = some reservation)
    (h : validateChildReconnaissanceEvent env log event = .ok ()) :
    ∃ run, ReservationAdmitted log event reservation run := by
  simp only [validateChildReconnaissanceEvent, validateModelReservation, hreserves, bind_eq_ok,
    ensure_eq_ok, plannerRunId_eq_ok] at h
  obtain ⟨runId, howner, _, _, _, _, run, hrun, _, hfits, _, _, _, _, _, hreplay, _⟩ := h
  have hissued : event.payload.issuedWorkOrder = none := by
    cases hp : event.payload <;> simp_all [EventPayload.childModelReservation,
      EventPayload.issuedWorkOrder]
  simp only [validateAgainstReplay, hissued, validateNewChildIdentity, hreserves, Option.all_some,
    bind_eq_ok, ensure_eq_ok, decide_eq_true_eq] at hreplay
  obtain ⟨_, _, _, _, _, _, hfresh, _⟩ := hreplay
  exact ⟨run, .intro howner hrun hfits hfresh⟩

theorem Appended.reserves (h : Appended documents env log event admission log')
    (hreserves : event.payload.modelReservation = some reservation) :
    ∃ run, ReservationAdmitted log event reservation run := by
  have hgeneric := h.generic (by cases hp : event.payload <;>
    simp_all [EventPayload.modelReservation, EventPayload.createdSession])
    (by cases hp : event.payload <;>
      simp_all [EventPayload.modelReservation, EventPayload.createdRun])
  simp only [validateGenericEvent, bind_eq_ok] at hgeneric
  obtain ⟨_, _, _, _, hkind⟩ := hgeneric
  cases hp : event.payload <;>
    simp only [hp, EventPayload.modelReservation, reduceCtorEq, Option.some.injEq]
      at hreserves hkind
  case plannerInferencePrepared prepared =>
    subst hreserves
    exact plannerInferencePrepared_reserves hkind
  case plannerTurnPrepared prepared =>
    subst hreserves
    exact plannerTurnPrepared_reserves hkind
  case childModelInferencePrepared prepared =>
    subst hreserves
    exact childModelCall_reserves (by rw [hp]; rfl) hkind
  case childModelInferencePreparedV2 prepared =>
    subst hreserves
    exact childModelCall_reserves (by rw [hp]; rfl) hkind

end Step

section Budget

/-- The reservation that an event makes of the budget of a run. -/
def reservationOf (runId : RunId) (event : EventEnvelope) : Option TokenReservation :=
  if event.runId = some runId then event.payload.modelReservation else none

/-- Every reservation of a run, in the order of the log. -/
def reservationsOf (log : EventLog) (runId : RunId) : List TokenReservation :=
  log.events.filterMap (reservationOf runId)

/-- What a run reserved. -/
def reservedTokens (reservations : List TokenReservation) : ℕ :=
  (reservations.map fun reservation => reservation.maxOutputTokens.toNat).sum

theorem reservationsOf_eq :
    reservationsOf log runId = (eventsOf log runId).filterMap fun event =>
      event.payload.modelReservation := by
  unfold reservationsOf eventsOf
  rw [List.filterMap_filter]
  refine List.filterMap_congr fun event _ => ?_
  simp [reservationOf]

/-- What admission sums is what the run reserved. -/
theorem Admitted.reserved_eq (h : Admitted documents env log)
    (hrun : storedRun log run.id = some run) :
    allModelReservedOutputTokensForRun log run.spec.sessionId run.id =
      reservedTokens (reservationsOf log run.id) := by
  unfold allModelReservedOutputTokensForRun reservedTokens
  rw [reservationsOf_eq, h.eventsOf_eq hrun]

/-- A reservation among reservations that came before it, under a limit. -/
structure ReservationFits (limit : ℕ) (earlier : List TokenReservation)
    (reservation : TokenReservation) : Prop where
  fits : reservedTokens earlier + reservation.maxOutputTokens.toNat ≤ limit
  fresh : ∀ held ∈ earlier, held.id ≠ reservation.id

/-- Every reservation of a run fitted what the reservations before it had left. -/
theorem Admitted.reservations_fit (h : Admitted documents env log)
    (hrun : storedRun log run.id = some run) {limit : UInt64}
    (hlimit : run.spec.limits.maxOutputTokens = some limit) :
    Stepwise (ReservationFits limit.toNat) (reservationsOf log run.id) := by
  refine (h.stepwise (List.prefix_refl _)).filterMap ?_
  intro before event reservation hafter hreads
  obtain ⟨earlier, later, admission, rfl, hadmitted, happended, hkept⟩ := hafter.append
  unfold reservationOf at hreads
  split at hreads
  case isFalse => cases hreads
  case isTrue hown =>
    obtain ⟨owner, hreserved⟩ := happended.reserves hreads
    obtain ⟨rest, hrest⟩ := happended.kept.trans hkept
    have howner : owner.id = run.id := Option.some.inj (hreserved.owner.symm.trans hown)
    obtain rfl : owner = run := by
      have hstored := storedRun_append hrest.symm hreserved.stored
      rw [howner, hrun] at hstored
      exact (Option.some.inj hstored).symm
    constructor
    · have hfits := (hreserved.fits limit hlimit).2
      rw [← hreserved.session, hadmitted.reserved_eq hreserved.stored] at hfits
      exact hfits
    · intro held hheld hsame
      obtain ⟨stored, hstored, hread⟩ := List.mem_filterMap.mp hheld
      have hnew := not_carries_of_identityCount_eq_zero hreserved.fresh hstored
      unfold reservationOf at hread
      split at hread
      case isFalse => cases hread
      case isTrue => simp [hread, hsame] at hnew

/-- The budget of a run in an admitted log. -/
structure TokenBudget (documents : PlanningDocuments) (env : Environment) (log : EventLog)
    (run : Run) (limit : UInt64) : Prop where
  within : reservedTokens (reservationsOf log run.id) ≤ limit.toNat
  distinct : ((reservationsOf log run.id).map TokenReservation.id).Nodup
  refused : ∀ request error,
    applyExactEventEnvelope documents env log request.event request.admission = .error error →
      log.attempt documents env request = log

/-- A run with a limit never reserves more output tokens than the limit, whatever the families of
its Prepared events and the order they came in. -/
theorem tokenBudget_of_admitted (documents : PlanningDocuments) (env : Environment)
    (log : EventLog) (run : Run) (limit : UInt64) (hadmitted : Admitted documents env log)
    (hrun : storedRun log run.id = some run)
    (hlimit : run.spec.limits.maxOutputTokens = some limit) :
    TokenBudget documents env log run limit := by
  have hfit := hadmitted.reservations_fit hrun hlimit
  constructor
  · exact hfit.sum_le fun earlier reservation h => h.fits
  · exact hfit.nodup fun earlier reservation h => h.fresh
  · intro request error herror
    unfold EventLog.attempt
    rw [herror]

theorem tokenBudget_of_planned : TokenBudget samplePlanningDocuments
    (plainEnvironment sampleWires) plannedLog plannedRun 40 :=
  tokenBudget_of_admitted samplePlanningDocuments (plainEnvironment sampleWires) plannedLog
    plannedRun 40 (.attempts .empty _) plannedLog_stored rfl

end Budget

end BirdCode.Store
