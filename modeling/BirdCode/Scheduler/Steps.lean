import BirdCode.Scheduler.Executor

/-! Everything one step of the executor can do. Each invariant is proved by cases on this
relation, never by unfolding the step function. -/
namespace BirdCode.Scheduler

variable {digest : CanonicalDigest} {graph : ValidatedActorGraph digest} {draw : ℕ → Uuid}
  {s t : SchedulerState}

/-- Steps without a record. -/
inductive Silent (graph : ValidatedActorGraph digest) (s : SchedulerState) :
    Choice → SchedulerState → Prop
  | scan (hc : s.control = .looping) (hclean : s.projection.cleanupUnproven.isEmpty) :
      Silent graph s .run { s with
        control := .blocking (blockedOrders graph s.pending s.projection.failures) false }
  | drain (hc : s.control = .looping) (hunproven : s.projection.cleanupUnproven.isEmpty = false)
      (hactive : s.active ≠ []) : Silent graph s .run { s with control := .awaiting }
  | scanned {madeProgress : Bool} (hc : s.control = .blocking [] madeProgress) :
      Silent graph s .run { s with control := .launching madeProgress }
  | launch {madeProgress : Bool} (hc : s.control = .launching madeProgress) :
      Silent graph s .run { launch graph s with
        control := afterLaunch (launch graph s) (madeProgress || launched graph s ≠ []) }
  | stall (hc : s.control = .awaiting) (hactive : s.active = []) :
      Silent graph s .run { s with
        control := .returned (.error (.schedulerInvariant s.pending.toList)) }
  | timeout {pre post : List WorkOrderFuture} {future : WorkOrderFuture}
      {identity : WorkOrderIdentity} {attemptNumber : ℕ} {attemptId : AttemptId}
      {dispatched : SchedulerEventId} (hc : s.control = .awaiting)
      (hactive : s.active = pre ++ future :: post)
      (hphase : future.phase = .executing identity attemptNumber attemptId dispatched) :
      Silent graph s (.poll pre.length (.worker none)) { s with
        active := pre ++ { future with
          phase := .cleaning identity attemptNumber attemptId dispatched } :: post }

/-- Why a poll ends a work order with a failure. -/
inductive Fails (graph : ValidatedActorGraph digest) (future : WorkOrderFuture)
    (identity : WorkOrderIdentity) (attemptNumber : ℕ) (attemptId : AttemptId)
    (dispatched : SchedulerEventId) : PollEvent → WorkOrderFailure → Prop
  | completion {completion : AgentCompletion} {failure : WorkOrderFailure}
      (hphase : future.phase = .executing identity attemptNumber attemptId dispatched)
      (hjudge : judgeCompletion digest graph.policy.requireReportedTokenUsage future.order
        completion = .failed failure) :
      Fails graph future identity attemptNumber attemptId dispatched
        (.worker (some (.ok completion))) failure
  | worker {cause : AgentFailure} {failure : WorkOrderFailure}
      (hphase : future.phase = .executing identity attemptNumber attemptId dispatched)
      (hjudge : judgeFailure digest future.order attemptNumber cause = .failed failure) :
      Fails graph future identity attemptNumber attemptId dispatched
        (.worker (some (.error cause))) failure
  | cleanup {result : Option (Option CleanupReceipt)}
      (hphase : future.phase = .cleaning identity attemptNumber attemptId dispatched) :
      Fails graph future identity attemptNumber attemptId dispatched (.cleanup result)
        (judgeCleanup future.order result)

/-- Steps that offer a record, with the state after its acknowledgement but for the record. -/
inductive Offer (graph : ValidatedActorGraph digest) (draw : ℕ → Uuid) (s : SchedulerState) :
    Choice → SchedulerRecord → SchedulerState → Prop
  | accept (hc : s.control = .begin) :
      Offer graph draw s .run
        ⟨⟨draw s.drawn⟩, none, .graphAccepted graph.digestSha256 graph.policy.policyVersion
          graph.policy.planInputSnapshotSha256⟩
        { s with
          control := .looping, root := ⟨draw s.drawn⟩, drawn := s.drawn + 1 }
  | block {id : WorkOrderId} {dependencyIds : List WorkOrderId}
      {rest : List (WorkOrderId × List WorkOrderId)} {madeProgress : Bool}
      (hc : s.control = .blocking ((id, dependencyIds) :: rest) madeProgress) :
      Offer graph draw s .run (blockRecord draw s id dependencyIds)
        (block draw s id dependencyIds rest)
  | suspend (hc : s.control = .looping) (hunproven : s.projection.cleanupUnproven.isEmpty = false)
      (hactive : s.active = []) :
      Offer graph draw s .run (suspendRecord draw s) { s with
        control := .returned (.error (.cleanupUnproven s.projection.cleanupUnproven.toList
          ⟨draw s.drawn⟩))
        drawn := s.drawn + 1 }
  | finish (hc : s.control = .finishing) :
      Offer graph draw s .run (finishRecord graph draw s) { s with
        control := .returned (.ok (finishedRun graph draw s)), drawn := s.drawn + 1 }
  | dispatch {pre post : List WorkOrderFuture} {future : WorkOrderFuture} {start : AttemptStart}
      {choice : Choice} (hactive : s.active = pre ++ future :: post)
      (hc : s.control = .awaiting ∧ future.phase = .created ∧ choice = .poll pre.length .first ∨
        s.control = .redispatching pre.length ∧ choice = .run)
      (hstart : attemptStart draw s future = some start) :
      Offer graph draw s choice (dispatchRecord graph draw s future start) { s with
        control := .awaiting
        active := pre ++ { future with
          phase := .executing start.identity start.attemptNumber ⟨draw start.drawn⟩
            ⟨draw (start.drawn + 1)⟩ } :: post
        calls := s.calls ++ [agentDispatch graph draw s future start]
        drawn := start.drawn + 2 }
  | retry {pre post : List WorkOrderFuture} {future : WorkOrderFuture}
      {identity : WorkOrderIdentity} {attemptNumber : ℕ} {attemptId : AttemptId}
      {dispatched : SchedulerEventId} {cause : AgentFailure} {failure : WorkOrderFailure}
      (hc : s.control = .awaiting) (hactive : s.active = pre ++ future :: post)
      (hphase : future.phase = .executing identity attemptNumber attemptId dispatched)
      (hjudge : judgeFailure digest future.order attemptNumber cause = .retry failure) :
      Offer graph draw s (.poll pre.length (.worker (some (.error cause))))
        (failRecord draw s future identity attemptId dispatched failure true) { s with
        control := .redispatching pre.length
        active := pre ++ { future with
          phase := .retrying identity (attemptNumber + 1) attemptId ⟨draw s.drawn⟩ } :: post
        drawn := s.drawn + 1 }
  | fail {pre post : List WorkOrderFuture} {future : WorkOrderFuture}
      {identity : WorkOrderIdentity} {attemptNumber : ℕ} {attemptId : AttemptId}
      {dispatched : SchedulerEventId} {event : PollEvent} {failure : WorkOrderFailure}
      (hc : s.control = .awaiting) (hactive : s.active = pre ++ future :: post)
      (hfails : Fails graph future identity attemptNumber attemptId dispatched event failure) :
      Offer graph draw s (.poll pre.length event)
        (failRecord draw s future identity attemptId dispatched failure false) { s with
        control := .looping
        active := pre ++ post
        projection := applyTerminal s.projection
          (.failed future.order.id failure ⟨draw s.drawn⟩)
        drawn := s.drawn + 1 }
  | handoff {pre post : List WorkOrderFuture} {future : WorkOrderFuture}
      {identity : WorkOrderIdentity} {attemptNumber : ℕ} {attemptId : AttemptId}
      {dispatched : SchedulerEventId} {completion : AgentCompletion}
      (hc : s.control = .awaiting) (hactive : s.active = pre ++ future :: post)
      (hphase : future.phase = .executing identity attemptNumber attemptId dispatched)
      (hjudge : judgeCompletion digest graph.policy.requireReportedTokenUsage future.order
        completion = .handoff completion) :
      Offer graph draw s (.poll pre.length (.worker (some (.ok completion))))
        ⟨⟨draw s.drawn⟩, some dispatched,
          .handoffRetained (retainedHandoff draw s future identity attemptId completion)⟩
        { s with
          control := .looping
          active := pre ++ post
          projection := applyTerminal s.projection
            (.handoff (retainedHandoff draw s future identity attemptId completion))
          drawn := s.drawn + 2 }

/-- One step of the executor. -/
inductive Step (graph : ValidatedActorGraph digest) (draw : ℕ → Uuid) (s : SchedulerState)
    (input : Input) : SchedulerState → Prop
  | silent {choice : Choice} {next : SchedulerState} (h : Silent graph s choice next)
      (hinput : input = ⟨choice, none⟩) : Step graph draw s input next
  | accepted {choice : Choice} {record : SchedulerRecord} {next : SchedulerState}
      (h : Offer graph draw s choice record next) (hinput : input = ⟨choice, none⟩) :
      Step graph draw s input { next with records := s.records ++ [record] }
  | rejected {choice : Choice} {record : SchedulerRecord} {next : SchedulerState}
      {error : SchedulerJournalError} (h : Offer graph draw s choice record next)
      (hinput : input = ⟨choice, some error⟩) :
      Step graph draw s input { s with control := .returned (.error (.journal error)) }

/-- A future found by its index splits the in-flight list. -/
theorem split_of_getElem? {active : List WorkOrderFuture} {index : ℕ} {future : WorkOrderFuture}
    (h : active[index]? = some future) :
    ∃ pre post, active = pre ++ future :: post ∧ pre.length = index ∧
      (∀ other, active.set index other = pre ++ other :: post) ∧
      active.eraseIdx index = pre ++ post := by
  obtain ⟨hlt, hget⟩ := List.getElem?_eq_some_iff.mp h
  refine ⟨active.take index, active.drop (index + 1), ?_, ?_, fun other => ?_, ?_⟩
  · rw [← hget, List.getElem_cons_drop, List.take_append_drop]
  · simp [hlt.le]
  · rw [List.set_eq_take_append_cons_drop, if_pos hlt]
  · rw [List.eraseIdx_eq_take_drop_succ]

theorem judgeCompletion_eq_handoff {require : Bool} {order : WorkOrder}
    {completion accepted : AgentCompletion}
    (h : judgeCompletion digest require order completion = .handoff accepted) :
    accepted = completion ∧ handoffViolations completion = [] ∧
      usageViolation completion.usage order.budget require = none := by
  unfold judgeCompletion at h
  split at h
  · cases h
  · next hviolations =>
    split at h
    · cases h
    · next husage =>
      cases h
      exact ⟨rfl, not_not.mp hviolations, husage⟩

theorem judgeCompletion_ne_retry {require : Bool} {order : WorkOrder}
    {completion : AgentCompletion} {failure : WorkOrderFailure} :
    judgeCompletion digest require order completion ≠ .retry failure := by
  unfold judgeCompletion
  split
  · simp
  · split <;> simp

theorem judgeFailure_ne_handoff {order : WorkOrder} {attemptNumber : ℕ} {cause : AgentFailure}
    {completion : AgentCompletion} :
    judgeFailure digest order attemptNumber cause ≠ .handoff completion := by
  unfold judgeFailure
  split
  · simp
  · split
    · simp
    · split <;> simp

/-- A retry is an in-budget, well-formed, retryable failure with an attempt left. -/
theorem judgeFailure_eq_retry {order : WorkOrder} {attemptNumber : ℕ} {cause : AgentFailure}
    {failure : WorkOrderFailure} :
    judgeFailure digest order attemptNumber cause = .retry failure ↔
      failure = .worker cause ∧ workerFailureViolations cause = [] ∧
        usageViolation cause.usage order.budget false = none ∧ cause.isRetryable = true ∧
        attemptNumber + 1 < order.budget.maxAttempts.toNat := by
  unfold judgeFailure
  split
  · next hviolations => simp [hviolations]
  · next hviolations =>
    rw [not_not] at hviolations
    split
    · next husage => simp [husage]
    · next husage =>
      split
      · next hretry => simp [hviolations, husage, hretry, eq_comm]
      · next hretry =>
        constructor
        · intro h
          cases h
        · rintro ⟨-, -, -, hretryable, hattempt⟩
          exact absurd ⟨hretryable, hattempt⟩ hretry

/-- A first attempt, or the retry of a failed one. -/
inductive Starts (draw : ℕ → Uuid) (s : SchedulerState) (future : WorkOrderFuture) :
    AttemptStart → Prop
  | first (hphase : future.phase = .created) :
      Starts draw s future ⟨⟨⟨draw s.drawn⟩, ⟨draw (s.drawn + 1)⟩⟩, 0, none,
        (firstValue future.dependencyHandoffEventIds).getD s.root, s.drawn + 2⟩
  | retry {identity : WorkOrderIdentity} {attemptNumber : ℕ} {parentAttemptId : AttemptId}
      {causalParent : SchedulerEventId}
      (hphase : future.phase = .retrying identity attemptNumber parentAttemptId causalParent) :
      Starts draw s future ⟨identity, attemptNumber, some parentAttemptId, causalParent, s.drawn⟩

theorem starts_of_attemptStart {future : WorkOrderFuture} {start : AttemptStart}
    (h : attemptStart draw s future = some start) : Starts draw s future start := by
  unfold attemptStart at h
  split at h
  · next hphase =>
    cases h
    exact .first hphase
  · next hphase =>
    cases h
    exact .retry hphase
  · cases h

/-- A future never reports a failed dependency; only the scheduler does. -/
theorem Fails.ne_dependencyFailed {future : WorkOrderFuture} {identity : WorkOrderIdentity}
    {attemptNumber : ℕ} {attemptId : AttemptId} {dispatched : SchedulerEventId} {event : PollEvent}
    {failure : WorkOrderFailure}
    (h : Fails graph future identity attemptNumber attemptId dispatched event failure)
    (dependencyIds : List WorkOrderId) : failure ≠ .dependencyFailed dependencyIds := by
  intro heq
  cases h with
  | completion hphase hjudge =>
    subst heq
    unfold judgeCompletion at hjudge
    split at hjudge
    · cases hjudge
    · split at hjudge <;> cases hjudge
  | worker hphase hjudge =>
    subst heq
    unfold judgeFailure at hjudge
    split at hjudge
    · cases hjudge
    · split at hjudge
      · cases hjudge
      · split at hjudge <;> cases hjudge
  | cleanup hphase =>
    unfold judgeCleanup at heq
    split at heq <;> cases heq

theorem pollEffect_silent {index : ℕ} {future : WorkOrderFuture} {event : PollEvent}
    (hc : s.control = .awaiting) (hfuture : s.active[index]? = some future)
    (h : pollEffect graph draw s index future event = some (.silent t)) :
    Silent graph s (.poll index event) t := by
  obtain ⟨pre, post, hactive, rfl, hset, -⟩ := split_of_getElem? hfuture
  unfold pollEffect at h
  split at h
  · simp [dispatchEffect] at h
  · next completion _ =>
    cases hverdict : judgeCompletion digest graph.policy.requireReportedTokenUsage future.order
      completion <;> simp [verdictEffect, hverdict, handoffEffect, failEffect, retryEffect] at h
  · next identity attemptNumber _ _ cause _ =>
    cases hverdict : judgeFailure digest future.order attemptNumber cause <;>
      simp [verdictEffect, hverdict, handoffEffect, failEffect, retryEffect] at h
  · next hphase =>
    cases h
    rw [hset]
    exact .timeout hc hactive hphase
  · simp [failEffect] at h
  · cases h

theorem pollEffect_offer {index : ℕ} {future : WorkOrderFuture} {event : PollEvent}
    {record : SchedulerRecord} (hc : s.control = .awaiting)
    (hfuture : s.active[index]? = some future)
    (h : pollEffect graph draw s index future event = some (.offer record t)) :
    Offer graph draw s (.poll index event) record t := by
  obtain ⟨pre, post, hactive, rfl, hset, herase⟩ := split_of_getElem? hfuture
  unfold pollEffect at h
  split at h
  · next hphase =>
    simp only [dispatchEffect, hset, Option.map_eq_some_iff] at h
    obtain ⟨start, hstart, heq⟩ := h
    cases heq
    exact .dispatch hactive (.inl ⟨hc, hphase, rfl⟩) hstart
  · next completion hphase =>
    cases hverdict : judgeCompletion digest graph.policy.requireReportedTokenUsage future.order
        completion with
    | handoff accepted =>
      obtain ⟨rfl, -, -⟩ := judgeCompletion_eq_handoff hverdict
      simp only [verdictEffect, hverdict, handoffEffect, settle, herase] at h
      cases h
      exact .handoff hc hactive hphase hverdict
    | failed failure =>
      simp only [verdictEffect, hverdict, failEffect, settle, herase] at h
      cases h
      exact .fail hc hactive (.completion hphase hverdict)
    | retry failure => exact absurd hverdict judgeCompletion_ne_retry
  · next identity attemptNumber attemptId dispatched cause hphase =>
    cases hverdict : judgeFailure digest future.order attemptNumber cause with
    | handoff accepted => exact absurd hverdict judgeFailure_ne_handoff
    | failed failure =>
      simp only [verdictEffect, hverdict, failEffect, settle, herase] at h
      cases h
      exact .fail hc hactive (.worker hphase hverdict)
    | retry failure =>
      simp only [verdictEffect, hverdict, retryEffect, hset] at h
      cases h
      exact .retry hc hactive hphase hverdict
  · cases h
  · next hphase =>
    simp only [failEffect, settle, herase] at h
    cases h
    exact .fail hc hactive (.cleanup hphase)
  · cases h

theorem plan_silent {choice : Choice} (h : plan graph draw s choice = some (.silent t)) :
    Silent graph s choice t := by
  cases choice with
  | run =>
    simp only [plan] at h
    split at h
    · cases h
    · next hc =>
      split at h
      · next hclean =>
        cases h
        exact .scan hc hclean
      · next hunproven =>
        split at h
        · cases h
        · next hactive =>
          cases h
          exact .drain hc (by simpa using hunproven) hactive
    · next hc =>
      cases h
      exact .scanned hc
    · cases h
    · next hc =>
      cases h
      exact .launch hc
    · next hc =>
      split at h
      · next hactive =>
        cases h
        exact .stall hc hactive
      · cases h
    · next index hc =>
      obtain ⟨future, -, h⟩ := Option.bind_eq_some_iff.mp h
      split at h
      · simp [dispatchEffect] at h
      · cases h
    · cases h
    · cases h
  | poll index event =>
    simp only [plan] at h
    split at h
    · next hc =>
      obtain ⟨future, hfuture, h⟩ := Option.bind_eq_some_iff.mp h
      exact pollEffect_silent hc hfuture h
    · cases h

theorem plan_offer {choice : Choice} {record : SchedulerRecord}
    (h : plan graph draw s choice = some (.offer record t)) :
    Offer graph draw s choice record t := by
  cases choice with
  | run =>
    simp only [plan] at h
    split at h
    · next hc =>
      cases h
      exact .accept hc
    · next hc =>
      split at h
      · cases h
      · next hunproven =>
        split at h
        · next hactive =>
          cases h
          exact .suspend hc (by simpa using hunproven) hactive
        · cases h
    · cases h
    · next hc =>
      cases h
      exact .block hc
    · cases h
    · split at h <;> cases h
    · next index hc =>
      obtain ⟨future, hfuture, h⟩ := Option.bind_eq_some_iff.mp h
      obtain ⟨pre, post, hactive, rfl, hset, -⟩ := split_of_getElem? hfuture
      split at h
      · simp only [dispatchEffect, hset, Option.map_eq_some_iff] at h
        obtain ⟨start, hstart, heq⟩ := h
        cases heq
        exact .dispatch hactive (.inr ⟨hc, rfl⟩) hstart
      · cases h
    · next hc =>
      cases h
      exact .finish hc
    · cases h
  | poll index event =>
    simp only [plan] at h
    split at h
    · next hc =>
      obtain ⟨future, hfuture, h⟩ := Option.bind_eq_some_iff.mp h
      exact pollEffect_offer hc hfuture h
    · cases h

theorem step_cases {input : Input} (h : step graph draw s input = some t) :
    Step graph draw s input t := by
  obtain ⟨choice, rejection⟩ := input
  unfold step at h
  split at h
  · next hplan hanswer =>
    cases h
    exact .silent (plan_silent hplan) (congrArg _ hanswer)
  · next hplan hanswer =>
    cases h
    exact .accepted (plan_offer hplan) (congrArg _ hanswer)
  · next hplan hanswer =>
    cases h
    exact .rejected (plan_offer hplan) (congrArg _ hanswer)
  · cases h

end BirdCode.Scheduler
