/-
Purpose: What the retry loop of a dispatch does: which dispatches are counted as
  completed, how often the handler is called, and with what the loop ends.
Main exports: RetryState.WaitUncut, completed_means_success,
  RetryState.Uninterrupted, RetryLoop, retry_loop_spec
-/
import ServiceDaemon.Core.RetryInterceptor

namespace ServiceDaemon

open StepSystem RetryState

/-!
The chain of a dispatch answers `Ok(())` in two cases: the handler succeeded, or
the wait for the next attempt was interrupted.  The observer cannot tell them
apart and counts both as completed.

[SRC core/trigger_runner/interceptors.rs, dispatch.rs]
[SRC docs/guide/resilience.md, docs/guide/triggers.md]
-/

variable {Payload : Type} {cfg : RetryConfig Payload}
  {s next : RetryState Payload} {a : RetryAction}

/-! ### Completed dispatches -/

/-- No retry wait meets a cancelled token: after a failed attempt neither the
service token nor the reload token is cancelled at the check, and none is when
the sleep is interrupted. -/
def RetryState.WaitUncut (s : RetryState Payload) : RetryAction → Prop
  | .checkShutdown | .sleepInterrupted => s.isShutdown = false
  | _ => True

instance (s : RetryState Payload) (a : RetryAction) :
    Decidable (s.WaitUncut a) := by
  unfold RetryState.WaitUncut
  split <;> infer_instance

/-- What the steps of a dispatch keep if no wait is cut short. -/
structure RetryState.Earned (record : TriggerRuntimeRecord)
    (s : RetryState Payload) : Prop where
  called : s.point = .invoking → s.invocations ≠ []
  succeeded : s.result = some .ok → ∃ invocation ∈ s.invocations, invocation.succeeded = true
  counted : ∀ facts ∈ s.facts,
    facts.completedTotal ≠ record.completedTotal ∨ facts.lastSuccessAt ≠ record.lastSuccessAt →
      s.point = .observed .ok

theorem RetryState.noteResult_last (called : s.invocations ≠ []) (result : HandlerResult) :
    ∃ context, (s.noteResult result).invocations =
      s.invocations.dropLast ++ [{ context := context, result := some result }] := by
  refine ⟨(s.invocations.getLast called).context, ?_⟩
  simp [noteResult, List.getLast?_eq_getLast_of_ne_nil called]

theorem TriggerRuntimeRecord.observe_failed (record : TriggerRuntimeRecord)
    (failed : outcome ≠ .ok ()) (now : Instant) :
    (record.observe now outcome).completedTotal = record.completedTotal ∧
      (record.observe now outcome).lastSuccessAt = record.lastSuccessAt := by
  cases outcome with
  | ok => exact absurd rfl failed
  | error failure => exact ⟨rfl, rfl⟩

theorem RetryState.Earned.move (earned : s.Earned record) (unobserved : s.point ≠ .observed .ok)
    (kept : ∀ facts ∈ next.facts, ∃ before ∈ s.facts, facts.completedTotal = before.completedTotal ∧
      facts.lastSuccessAt = before.lastSuccessAt)
    (called : next.point = .invoking → next.invocations ≠ [])
    (succeeded : next.result = some .ok →
      ∃ invocation ∈ next.invocations, invocation.succeeded = true) :
    next.Earned record where
  called := called
  succeeded := succeeded
  counted facts present changed := by
    obtain ⟨before, presentBefore, completed, success⟩ := kept facts present
    rw [completed, success] at changed
    exact absurd (earned.counted before presentBefore changed) unobserved

/-- A move that leaves the counters and the calls alone and does not end in
success. -/
theorem RetryState.Earned.goto {record} (earned : s.Earned record)
    (unobserved : s.point ≠ .observed .ok)
    (facts : next.facts = s.facts) (elsewhere : next.point ≠ .invoking)
    (unsuccessful : next.result ≠ some .ok) : next.Earned record :=
  earned.move unobserved
    (fun record present => ⟨record, facts ▸ present, rfl, rfl⟩)
    (fun invoking => absurd invoking elsewhere)
    (fun success => absurd success unsuccessful)

/-- Calling the handler. -/
theorem RetryState.Earned.invoke {record context} (earned : s.Earned record)
    (unobserved : s.point ≠ .observed .ok) : (s.invoke context).Earned record := by
  refine earned.move unobserved (fun facts present => ⟨facts, present, rfl, rfl⟩) ?_ ?_
  · intro _
    simp [RetryState.invoke]
  · intro success
    cases success

theorem RetryState.result_eq_none_of_ne {s : RetryState Payload}
    (running : s.result = none) : s.point ≠ .observed .ok := by
  intro observed
  simp [result, observed] at running

theorem RetryState.Earned.step {record : TriggerRuntimeRecord} (earned : s.Earned record)
    (uncut : s.WaitUncut a) (h : RetryInterceptor.step cfg s a = some next) :
    next.Earned record := by
  cases RetryMove.of_step h with
  | enters here => exact earned.invoke (by simp [here])
  | retries here below => exact earned.invoke (by simp [here])
  | succeeds here =>
    refine earned.move (by simp [here])
      (fun facts present => ⟨facts, present, rfl, rfl⟩) (by simp) ?_
    intro _
    obtain ⟨context, last⟩ := RetryState.noteResult_last (earned.called here) .ok
    exact ⟨{ context := context, result := some .ok }, by simp [last], rfl⟩
  | records here =>
    refine earned.move (by simp [here]) ?_ (by simp [RetryState.recordFailure])
      (by simp [RetryState.recordFailure, RetryState.result])
    intro facts present
    obtain ⟨before, presentBefore, rfl⟩ := Option.map_eq_some_iff.mp present
    exact ⟨before, presentBefore, rfl, rfl⟩
  | givesUp here signalled =>
    have clear : s.isShutdown = false := uncut
    rw [clear] at signalled
    cases signalled
  | interrupts here signalled =>
    have clear : s.isShutdown = false := uncut
    rw [clear] at signalled
    cases signalled
  | fails here | panics here | goesOn here | sleeps here | wakes here
  | exhausts here =>
    exact earned.goto (by simp [here]) rfl (by simp)
      (by simp [RetryState.result])
  | timesOut running | aborts running =>
    exact earned.goto (RetryState.result_eq_none_of_ne running) rfl (by simp)
      (by simp [RetryState.result])
  | observes here =>
    rename_i result
    have before : s.result = some result := by simp [RetryState.result, here]
    refine ⟨by simp, ?_, ?_⟩
    · intro success
      cases success
      exact earned.succeeded before
    · intro facts present changed
      obtain ⟨earlier, presentBefore, rfl⟩ := Option.map_eq_some_iff.mp present
      by_cases success : result = .ok
      · rw [success]
      · have failed : observeDispatchTask cfg.context result ≠ .ok () :=
          fun ok => success (observeDispatchTask_eq_ok.mp ok)
        obtain ⟨completed, moment⟩ := earlier.observe_failed failed s.now
        rw [completed, moment] at changed
        have observed := earned.counted earlier presentBefore changed
        rw [here] at observed
        cases observed
  | ticks | cancels | requestsReload => exact ⟨earned.called, earned.succeeded, earned.counted⟩

/-- A dispatch is counted as completed, or moves the time of the last success,
only if one of its handler calls succeeded, as long as no retry wait is cut
short. -/
theorem completed_means_success {config : RetryConfig Payload} {now : Instant}
    {record : TriggerRuntimeRecord} {schedule : List RetryAction} {state : RetryState Payload}
    (run : GuardedRun (RetryInterceptor.step config) RetryState.WaitUncut
      (.new config now (some record)) schedule state) :
    ∀ facts ∈ state.facts,
      facts.completedTotal ≠ record.completedTotal ∨ facts.lastSuccessAt ≠ record.lastSuccessAt →
        ∃ invocation ∈ state.invocations, invocation.succeeded = true := by
  have initially :
      (RetryState.new config now (some record)).Earned record := by
    refine ⟨by simp [RetryState.new], by simp [RetryState.new, RetryState.result], ?_⟩
    rintro facts ⟨⟩ changed
    simp at changed
  have earned : state.Earned record :=
    run.invariant initially fun earned uncut stepped => earned.step uncut stepped
  intro facts present changed
  have observed : state.point = .observed .ok :=
    earned.counted facts present changed
  exact earned.succeeded (by simp [RetryState.result, observed])

/-- A dispatch of the trigger `mailer` with a limit on its retries. -/
def mailerDispatch (limit : Option Nat) : RetryConfig Nat :=
  { context :=
      { serviceId := ⟨7⟩
        sourceId := ⟨3⟩
        instanceSeq := 0
        generation := 1
        messageId := 40
        triggerName := "mailer"
        payload := 5
        retryPolicy := { RestartPolicy.default with triggerMaxRetries := limit } }
    timeout := none
    debugDuration := fun duration => toString duration }

/-- The record of a trigger that has dispatched once. -/
def dispatchedOnce : TriggerRuntimeRecord :=
  { dispatchedTotal := 1
    completedTotal := 0
    failedTotal := 0
    lastError := none
    retryTotal := 0
    lastSuccessAt := none
    lastErrorAt := none
    lastRetryError := none }

/-- A failed attempt, its wait, and a successful one. -/
def secondAttemptSucceeds : List RetryAction :=
  [.enterChain, .handlerReturns (.err "refused"), .recordFailure (fromSecs 2),
    .checkShutdown, .beginSleep, .tick (fromSecs 2), .sleepElapsed, .loop,
    .handlerReturns .ok, .observe]

theorem completed_means_success_retry :
    ∃ state : RetryState Nat,
      GuardedRun (RetryInterceptor.step (mailerDispatch none))
        RetryState.WaitUncut
        (.new (mailerDispatch none) 0 (some dispatchedOnce))
        secondAttemptSucceeds state ∧
      state.facts.map (·.completedTotal) = some 1 ∧
      ∀ facts ∈ state.facts,
        facts.completedTotal ≠ dispatchedOnce.completedTotal ∨
            facts.lastSuccessAt ≠ dispatchedOnce.lastSuccessAt →
          ∃ invocation ∈ state.invocations, invocation.succeeded = true :=
  GuardedRun.exists_and (by decide +kernel) fun _ run _ =>
    completed_means_success run

/-- The only attempt fails and the shutdown comes before the check. -/
def shutdownAfterFailure : List RetryAction :=
  [.enterChain, .handlerReturns (.err "refused"), .recordFailure (fromSecs 2),
    .cancel, .checkShutdown, .observe]

/-- The only attempt fails and the reload comes during the sleep. -/
def reloadDuringSleep : List RetryAction :=
  [.enterChain, .handlerReturns (.err "refused"), .recordFailure (fromSecs 2),
    .checkShutdown, .beginSleep, .requestReload, .sleepInterrupted, .observe]

/-- Counted as completed, with every call failed. -/
def CompletedWithoutSuccess (s : RetryState Nat) : Prop :=
  s.facts.map (fun facts => (facts.completedTotal, facts.failedTotal)) = some (1, 0) ∧
    s.facts.bind (·.lastSuccessAt) ≠ none ∧
    s.invocations.map (·.result) = [some (.err "refused")]

instance (s : RetryState Nat) : Decidable (CompletedWithoutSuccess s) :=
  inferInstanceAs (Decidable (_ ∧ _))

/-- The last allowed attempt has failed, its wait is interrupted, and the
dispatch counts as completed. -/
theorem interrupted_counts_completed :
    (∃ state : RetryState Nat, Run (RetryInterceptor.step (mailerDispatch (some 1)))
        (.new (mailerDispatch (some 1)) 0 (some dispatchedOnce))
        shutdownAfterFailure state ∧ CompletedWithoutSuccess state) ∧
      ∃ state : RetryState Nat,
        Run (RetryInterceptor.step (mailerDispatch (some 1)))
          (.new (mailerDispatch (some 1)) 0 (some dispatchedOnce))
          reloadDuringSleep state ∧ CompletedWithoutSuccess state :=
  ⟨Run.exists_of_check (by decide +kernel), Run.exists_of_check (by decide +kernel)⟩

/-! ### The loop without interruption -/

/-- The handler answers with a stream of results, `next_delay` draws a stream of
delays, and no shutdown, reload, timeout, abort or panic comes. -/
def RetryState.Uninterrupted (results : Nat → HandlerResult)
    (draws : Nat → Duration) (s : RetryState Payload) : RetryAction → Prop
  | .handlerReturns res => res = results (s.invocations.length - 1)
  | .recordFailure delay => delay = draws s.waits.length
  | .handlerPanics _ | .timeOut | .abort _ | .cancel | .requestReload => False
  | _ => True

instance (results : Nat → HandlerResult) (draws : Nat → Duration)
    (s : RetryState Payload) :
    (a : RetryAction) → Decidable (s.Uninterrupted results draws a)
  | .handlerReturns res => inferInstanceAs (Decidable (res = _))
  | .recordFailure delay => inferInstanceAs (Decidable (delay = _))
  | .handlerPanics _ | .timeOut | .abort _ | .cancel | .requestReload =>
    inferInstanceAs (Decidable False)
  | .enterChain | .checkShutdown | .beginSleep | .sleepElapsed
  | .sleepInterrupted | .loop | .observe | .tick _ =>
    inferInstanceAs (Decidable True)

/-- The call after `failures` failures is still allowed. -/
def Allowed (limit : Option Nat) (failures : Nat) : Prop :=
  ∀ most ∈ limit, failures < max 1 most

/-- The results of the calls that the loop has not counted as failures yet. -/
def RetryPoint.Consistent (context : DispatchContext Payload) (results : Nat → HandlerResult)
    (failures : Nat) (rest : List (Option HandlerResult)) : RetryPoint → Prop
  | .chain => failures = 0 ∧ rest = []
  | .invoking =>
    rest = [none] ∧ Allowed context.retryPolicy.triggerMaxRetries failures
  | .failed msg =>
    rest = [some (.err msg)] ∧ results failures = .err msg ∧
      Allowed context.retryPolicy.triggerMaxRetries failures
  | .checkShutdown | .beginSleep | .sleeping _ | .loop =>
    rest = [] ∧ 0 < failures ∧ Allowed context.retryPolicy.triggerMaxRetries (failures - 1)
  | .returned res | .observed res =>
    (res = .ok ∧ rest = [some .ok] ∧ results failures = .ok ∧
      Allowed context.retryPolicy.triggerMaxRetries failures) ∨
    ∃ most, context.retryPolicy.triggerMaxRetries = some most ∧
      res = .failed (context.retryExhausted most) ∧ rest = [] ∧
      failures = max 1 most

/-- The call passes on what the dispatch was given. -/
structure TriggerContext.Carries (call : TriggerContext Payload)
    (context : DispatchContext Payload) : Prop where
  serviceId : call.serviceId = context.serviceId
  generation : call.generation = context.generation
  instanceSeq : call.instanceSeq = context.instanceSeq
  messageId : call.message.messageId = context.messageId
  sourceId : call.message.sourceId = context.sourceId
  payload : call.message.payload = context.payload

/-- The state of the loop after `failures` recorded failures. -/
structure RetryLoop (cfg : RetryConfig Payload)
    (results : Nat → HandlerResult) (start : Option TriggerRuntimeRecord)
    (failures : Nat) (s : RetryState Payload) : Prop where
  clear : s.isShutdown = false
  counted : s.backoff.attemptCount = min failures u32Max
  carried : ∀ invocation ∈ s.invocations,
    invocation.context.Carries cfg.context
  failed : ∀ i < failures, results i ≠ .ok
  retries : s.facts.map (·.retryTotal) = start.map fun record => record.retryTotal + .ofNat failures
  answers : ∃ rest,
    s.invocations.map (·.result) = (List.range failures).map (fun i => some (results i)) ++ rest ∧
    s.point.Consistent cfg.context results failures rest

theorem TriggerRuntimeRecord.observe_retryTotal (record : TriggerRuntimeRecord)
    (now : Instant) (outcome : DispatchTaskOutcome) :
    (record.observe now outcome).retryTotal = record.retryTotal := by
  cases outcome <;> rfl

namespace RetryLoop

variable {results : Nat → HandlerResult} {draws : Nat → Duration}
  {start : Option TriggerRuntimeRecord} {failures : Nat}

theorem new {now} :
    RetryLoop cfg results start 0 (.new cfg now start) where
  clear := rfl
  counted := rfl
  carried := by simp [RetryState.new]
  failed := by simp
  retries := by simp [RetryState.new]
  answers := ⟨[], rfl, rfl, rfl⟩

theorem goto (loop : RetryLoop cfg results start failures s)
    (clear : next.isShutdown = s.isShutdown) (backoff : next.backoff = s.backoff)
    (facts : next.facts = s.facts) (invocations : next.invocations = s.invocations)
    (consistent : ∀ rest, s.point.Consistent cfg.context results failures rest →
      next.point.Consistent cfg.context results failures rest) :
    RetryLoop cfg results start failures next where
  clear := clear.trans loop.clear
  counted := backoff ▸ loop.counted
  carried := invocations ▸ loop.carried
  failed := loop.failed
  retries := facts ▸ loop.retries
  answers := by
    obtain ⟨rest, answers, here⟩ := loop.answers
    exact ⟨rest, invocations ▸ answers, consistent rest here⟩

/-- The next call of the handler. -/
theorem invoke {call} (loop : RetryLoop cfg results start failures s)
    (carries : call.Carries cfg.context)
    (idle : ∀ rest, s.point.Consistent cfg.context results failures rest → rest = [])
    (allowed : Allowed cfg.context.retryPolicy.triggerMaxRetries failures) :
    RetryLoop cfg results start failures (s.invoke call) where
  clear := loop.clear
  counted := loop.counted
  carried := by
    intro invocation present
    rcases List.mem_append.mp present with earlier | last
    · exact loop.carried invocation earlier
    · rw [List.mem_singleton.mp last]
      exact carries
  failed := loop.failed
  retries := loop.retries
  answers := by
    obtain ⟨rest, answers, here⟩ := loop.answers
    have none : rest = [] := idle rest here
    subst none
    refine ⟨[.none], ?_, rfl, allowed⟩
    rw [List.append_nil] at answers
    simp [RetryState.invoke, answers]

/-- The first call goes through the chain. -/
theorem enters (loop : RetryLoop cfg results start failures s) (here : s.point = .chain) :
    RetryLoop cfg results start failures
      (s.invoke (cfg.context.firstContext.terminal s.now)) := by
  refine loop.invoke ⟨rfl, rfl, rfl, rfl, rfl, rfl⟩ ?_ ?_
  · intro rest consistent
    rw [here] at consistent
    exact consistent.2
  · obtain ⟨rest, -, first⟩ := loop.answers
    rw [here] at first
    intro most _
    rw [first.1]
    omega

/-- The call that runs returns. -/
theorem returns (loop : RetryLoop cfg results start failures s)
    (here : s.point = .invoking) {res point}
    (consistent : Allowed cfg.context.retryPolicy.triggerMaxRetries failures →
      point.Consistent cfg.context results failures [some res]) :
    RetryLoop cfg results start failures
      { s.noteResult res with point := point } := by
  obtain ⟨rest, answers, running⟩ := loop.answers
  rw [here] at running
  obtain ⟨rfl, allowed⟩ := running
  obtain ⟨earlier, last, split⟩ :
      ∃ earlier last, s.invocations = earlier ++ [last] := by
    have called : s.invocations ≠ [] := by
      intro none
      simp [none] at answers
    exact ⟨_, _, (List.dropLast_append_getLast called).symm⟩
  have answered : earlier.map (·.result) = (List.range failures).map fun i => some (results i) := by
    rw [split, List.map_append] at answers
    exact (List.append_inj' answers rfl).1
  refine
    { clear := loop.clear
      counted := loop.counted
      carried := ?_
      failed := loop.failed
      retries := loop.retries
      answers := ⟨[some res], ?_, consistent allowed⟩ }
  · intro invocation present
    simp only [noteResult, split, List.dropLast_concat,
      List.getLast?_concat, Option.map_some, Option.toList_some,
      List.mem_append, List.mem_singleton] at present
    rcases present with before | rfl
    · exact loop.carried invocation (by simp [split, before])
    · exact loop.carried last (by simp [split])
  · simp [noteResult, split, answered]

/-- `record_retry_failure` counts the failure. -/
theorem records (loop : RetryLoop cfg results start failures s) {msg}
    (here : s.point = .failed msg) (delay : Duration) :
    RetryLoop cfg results start (failures + 1)
      (s.recordFailure msg delay) := by
  obtain ⟨rest, answers, running⟩ := loop.answers
  rw [here] at running
  obtain ⟨rfl, failed, allowed⟩ := running
  refine
    { clear := loop.clear
      counted := ?_
      carried := loop.carried
      failed := ?_
      retries := ?_
      answers := ⟨[], ?_, rfl, Nat.succ_pos _, allowed⟩ }
  · simp only [recordFailure, BackoffController.recordFailure, loop.counted]
    omega
  · intro i below
    rcases Nat.lt_succ_iff_lt_or_eq.mp below with earlier | rfl
    · exact loop.failed i earlier
    · simp [failed]
  · have before := loop.retries
    cases start <;> cases facts : s.facts <;>
      simp_all [recordFailure, TriggerRuntimeRecord.recordRetry, UInt64.add_assoc]
  · simpa [recordFailure, List.range_succ, failed] using answers

/-- The observer writes neither the retries nor the calls. -/
theorem observes (loop : RetryLoop cfg results start failures s) {res}
    (here : s.point = .returned res) :
    RetryLoop cfg results start failures
      { s with
        facts :=
          s.facts.map fun record =>
            record.observe s.now (observeDispatchTask cfg.context res)
        point := .observed res } where
  clear := loop.clear
  counted := loop.counted
  carried := loop.carried
  failed := loop.failed
  retries := by
    rw [← loop.retries, Option.map_map]
    congr 1
    funext record
    exact record.observe_retryTotal _ _
  answers := by
    obtain ⟨rest, answers, ended⟩ := loop.answers
    rw [here] at ended
    exact ⟨rest, answers, ended⟩

/-- The number of the call that runs. -/
theorem length_sub_one (loop : RetryLoop cfg results start failures s)
    (here : s.point = .invoking) : s.invocations.length - 1 = failures := by
  obtain ⟨rest, answers, running⟩ := loop.answers
  rw [here] at running
  obtain ⟨rfl, -⟩ := running
  have lengths := congrArg List.length answers
  simp only [List.length_map, List.length_append, List.length_range,
    List.length_singleton] at lengths
  omega

/-- At the limit the loop has made exactly the allowed calls. -/
theorem exhausts (loop : RetryLoop cfg results start failures s) (here : s.point = .loop) {most}
    (limit : cfg.context.retryPolicy.triggerMaxRetries = some most)
    (reached : most ≤ s.backoff.attemptCount) : failures = max 1 most := by
  obtain ⟨rest, -, running⟩ := loop.answers
  rw [here] at running
  obtain ⟨-, positive, allowed⟩ := running
  have below : failures - 1 < max 1 most := allowed most limit
  rw [loop.counted] at reached
  omega

theorem allows (loop : RetryLoop cfg results start failures s)
    (bounded : ∀ most ∈ cfg.context.retryPolicy.triggerMaxRetries, most ≤ u32Max)
    (below : ∀ most ∈ cfg.context.retryPolicy.triggerMaxRetries, s.backoff.attemptCount < most) :
    Allowed cfg.context.retryPolicy.triggerMaxRetries failures := by
  intro most limit
  have fewer := below most limit
  have representable := bounded most limit
  rw [loop.counted] at fewer
  omega

/-- One step of an uninterrupted loop. -/
theorem step (loop : RetryLoop cfg results start failures s)
    (bounded : ∀ most ∈ cfg.context.retryPolicy.triggerMaxRetries, most ≤ u32Max)
    (uninterrupted : s.Uninterrupted results draws a)
    (h : RetryInterceptor.step cfg s a = some next) :
    ∃ failures, RetryLoop cfg results start failures next := by
  cases RetryMove.of_step h with
  | enters here => exact ⟨failures, loop.enters here⟩
  | retries here below =>
    refine ⟨failures, loop.invoke ⟨rfl, rfl, rfl, rfl, rfl, rfl⟩ ?_ (loop.allows bounded below)⟩
    intro rest consistent
    rw [here] at consistent
    exact consistent.1
  | succeeds here =>
    have answer : .ok = results (s.invocations.length - 1) := uninterrupted
    rw [loop.length_sub_one here] at answer
    exact ⟨failures, loop.returns here fun allowed =>
      .inl ⟨rfl, rfl, answer.symm, allowed⟩⟩
  | fails here =>
    rename_i msg
    have answer : .err msg = results (s.invocations.length - 1) := uninterrupted
    rw [loop.length_sub_one here] at answer
    exact ⟨failures, loop.returns here fun allowed =>
      ⟨rfl, answer.symm, allowed⟩⟩
  | records here => exact ⟨failures + 1, loop.records here _⟩
  | givesUp here signalled =>
    rw [loop.clear] at signalled
    cases signalled
  | interrupts here signalled =>
    rw [loop.clear] at signalled
    cases signalled
  | goesOn here | sleeps here | wakes here =>
    refine ⟨failures, loop.goto rfl rfl rfl rfl fun rest consistent => ?_⟩
    rw [here] at consistent
    exact consistent
  | exhausts here limit reached =>
    refine ⟨failures, loop.goto rfl rfl rfl rfl fun rest consistent => ?_⟩
    rw [here] at consistent
    exact .inr ⟨_, limit, rfl, consistent.1, loop.exhausts here limit reached⟩
  | observes here => exact ⟨failures, loop.observes here⟩
  | ticks => exact ⟨failures, loop.goto rfl rfl rfl rfl fun _ consistent => consistent⟩
  | panics | timesOut | aborts | cancels | requestsReload => exact uninterrupted.elim

theorem of_run {now acts}
    (bounded : ∀ most ∈ cfg.context.retryPolicy.triggerMaxRetries, most ≤ u32Max)
    (run : GuardedRun (RetryInterceptor.step cfg)
      (RetryState.Uninterrupted results draws) (.new cfg now start) acts
      s) :
    ∃ failures, RetryLoop cfg results start failures s := by
  induction run with
  | nil => exact ⟨0, new⟩
  | snoc _ uninterrupted h ih =>
    obtain ⟨failures, loop⟩ := ih
    exact loop.step bounded uninterrupted h

/-! ### The loop goes on -/

/-- At the top of the loop after `failures` failures. -/
structure AtTop (cfg : RetryConfig Payload) (results : Nat → HandlerResult)
    (start : Option TriggerRuntimeRecord) (failures : Nat)
    (s : RetryState Payload) : Prop where
  loop : RetryLoop cfg results start failures s
  here : s.point = .loop

/-- The uninterrupted loop can get from the state to the target. -/
abbrev Leads (cfg : RetryConfig Payload) (results : Nat → HandlerResult)
    (draws : Nat → Duration) (s : RetryState Payload)
    (target : RetryState Payload → Prop) : Prop :=
  Reaches (RetryInterceptor.step cfg) (RetryState.Uninterrupted results draws)
    s target

theorem sleeping_leads (loop : RetryLoop cfg results start failures s)
    (here : s.point = .sleeping deadline) :
    Leads cfg results draws s (AtTop cfg results start failures) := by
  let later : RetryState Payload := { s with now := s.now + deadline }
  have passes : RetryInterceptor.step cfg s (.tick deadline) = some later := rfl
  have wakes : RetryInterceptor.step cfg later .sleepElapsed =
      some { later with point := .loop } := by
    simp [RetryInterceptor.step, later, here]
  refine .cons passes trivial (.cons wakes trivial (.refl ⟨?_, rfl⟩))
  refine loop.goto rfl rfl rfl rfl fun rest consistent => ?_
  rw [here] at consistent
  exact consistent

theorem beginSleep_leads (loop : RetryLoop cfg results start failures s)
    (here : s.point = .beginSleep) :
    Leads cfg results draws s (AtTop cfg results start failures) := by
  have sleeps : RetryInterceptor.step cfg s .beginSleep = some
        { s with
          waits := s.waits ++ [s.backoff.currentDelay]
          point := .sleeping (s.now + s.backoff.currentDelay) } := by
    simp [RetryInterceptor.step, here]
  refine .cons sleeps trivial (sleeping_leads ?_ rfl)
  refine loop.goto rfl rfl rfl rfl fun rest consistent => ?_
  rw [here] at consistent
  exact consistent

theorem checkShutdown_leads (loop : RetryLoop cfg results start failures s)
    (here : s.point = .checkShutdown) :
    Leads cfg results draws s (AtTop cfg results start failures) := by
  have goesOn : RetryInterceptor.step cfg s .checkShutdown =
      some { s with point := .beginSleep } := by
    simp [RetryInterceptor.step, here, loop.clear]
  refine .cons goesOn trivial (beginSleep_leads ?_ rfl)
  refine loop.goto rfl rfl rfl rfl fun rest consistent => ?_
  rw [here] at consistent
  exact consistent

theorem failed_leads (loop : RetryLoop cfg results start failures s)
    {msg} (here : s.point = .failed msg) :
    Leads cfg results draws s
      (AtTop cfg results start (failures + 1)) := by
  have records :
      RetryInterceptor.step cfg s
          (.recordFailure (draws s.waits.length)) =
        some (s.recordFailure msg (draws s.waits.length)) := by
    simp [RetryInterceptor.step, here]
  exact .cons records rfl (checkShutdown_leads (loop.records here _) rfl)

/-- A running call that fails leads to the top of the loop. -/
theorem invoking_leads (loop : RetryLoop cfg results start failures s)
    (here : s.point = .invoking) (fails : results failures ≠ .ok) :
    Leads cfg results draws s
      (AtTop cfg results start (failures + 1)) := by
  obtain ⟨message, answer⟩ : ∃ message, results failures = .err message := by
    cases answer : results failures with
    | ok => exact absurd answer fails
    | err message => exact ⟨message, rfl⟩
  have returns :
      RetryInterceptor.step cfg s (.handlerReturns (.err message)) =
        some { s.noteResult (.err message) with point := .failed message } := by
    simp [RetryInterceptor.step, here]
  have permitted :
      s.Uninterrupted results draws (.handlerReturns (.err message)) := by
    change _ = results _
    rw [loop.length_sub_one here, answer]
  exact .cons returns permitted
    (failed_leads (loop.returns here fun allowed => ⟨rfl, answer, allowed⟩) rfl)

/-- A running call that succeeds ends the dispatch. -/
theorem invoking_succeeds (loop : RetryLoop cfg results start failures s)
    (here : s.point = .invoking) (succeeds : results failures = .ok) :
    Leads cfg results draws s fun final => final.result = some .ok := by
  have returns : RetryInterceptor.step cfg s (.handlerReturns .ok) =
      some { s.noteResult .ok with point := .returned .ok } := by
    simp [RetryInterceptor.step, here]
  have permitted : s.Uninterrupted results draws (.handlerReturns .ok) := by
    change _ = results _
    rw [loop.length_sub_one here, succeeds]
  exact .cons returns permitted (.refl rfl)

/-- Running a call after `failures` failures. -/
structure Calling (cfg : RetryConfig Payload) (results : Nat → HandlerResult)
    (start : Option TriggerRuntimeRecord) (failures : Nat)
    (s : RetryState Payload) : Prop where
  loop : RetryLoop cfg results start failures s
  here : s.point = .invoking

/-- The top of the loop leads to the next call if it is allowed. -/
theorem AtTop.calls (top : AtTop cfg results start failures s)
    (allowed : Allowed cfg.context.retryPolicy.triggerMaxRetries failures) :
    Leads cfg results draws s
      (Calling cfg results start failures) := by
  have h :
      RetryInterceptor.step cfg s .loop = some (s.loop cfg) := by
    simp [RetryInterceptor.step, top.here]
  have moved : RetryMove cfg s .loop (s.loop cfg) := .of_loop top.here
  refine .cons h trivial ?_
  generalize s.loop cfg = next at moved
  cases moved with
  | @exhausts most _ limit reached =>
    have below : failures < max 1 most := allowed most limit
    have count : failures = max 1 most := top.loop.exhausts top.here limit reached
    omega
  | retries _ below =>
    refine .refl ⟨top.loop.invoke ⟨rfl, rfl, rfl, rfl, rfl, rfl⟩ ?_ allowed, rfl⟩
    intro rest consistent
    rw [top.here] at consistent
    exact consistent.1

/-- The top of the loop gives up at the limit. -/
theorem AtTop.exhausted (top : AtTop cfg results start failures s)
    (bounded : ∀ most ∈ cfg.context.retryPolicy.triggerMaxRetries, most ≤ u32Max)
    (limit : cfg.context.retryPolicy.triggerMaxRetries = some most) (used : failures = max 1 most) :
    Leads cfg results draws s fun final =>
      final.result = some (.failed (cfg.context.retryExhausted most)) := by
  have representable : most ≤ u32Max := bounded most limit
  have reached : most ≤ s.backoff.attemptCount := by
    rw [top.loop.counted]
    omega
  have h : RetryInterceptor.step cfg s .loop = some
        { s with point := .returned (.failed (cfg.context.retryExhausted most)) } := by
    simp [RetryInterceptor.step, top.here, RetryState.loop, limit, reached]
  exact .cons h trivial (.refl rfl)

/-- Every state of the loop that has not ended leads to the top of the loop or,
if the call that comes next or runs succeeds, to that call. -/
theorem leads (loop : RetryLoop cfg results start failures s)
    (running : s.result = none) (draws : Nat → Duration) :
    (∃ more, failures ≤ more ∧ Leads cfg results draws s (AtTop cfg results start more)) ∨
    results failures = .ok ∧ Leads cfg results draws s
        (Calling cfg results start failures) := by
  cases here : s.point with
  | chain =>
    have enters : RetryInterceptor.step cfg s .enterChain = some
          (s.invoke (cfg.context.firstContext.terminal s.now)) := by
      simp [RetryInterceptor.step, here]
    have calling := loop.enters here
    by_cases succeeds : results failures = .ok
    · exact .inr ⟨succeeds, .cons enters trivial (.refl ⟨calling, rfl⟩)⟩
    · exact .inl ⟨failures + 1, Nat.le_succ _,
        .cons enters trivial (calling.invoking_leads rfl succeeds)⟩
  | invoking =>
    by_cases succeeds : results failures = .ok
    · exact .inr ⟨succeeds, .refl ⟨loop, here⟩⟩
    · exact .inl ⟨failures + 1, Nat.le_succ _, loop.invoking_leads here succeeds⟩
  | failed msg => exact .inl ⟨failures + 1, Nat.le_succ _, loop.failed_leads here⟩
  | checkShutdown => exact .inl ⟨failures, le_rfl, loop.checkShutdown_leads here⟩
  | beginSleep => exact .inl ⟨failures, le_rfl, loop.beginSleep_leads here⟩
  | sleeping deadline => exact .inl ⟨failures, le_rfl, loop.sleeping_leads here⟩
  | loop => exact .inl ⟨failures, le_rfl, .refl ⟨loop, here⟩⟩
  | returned res => simp [result, here] at running
  | observed res => simp [result, here] at running

/-- As long as the calls fail and are allowed, the loop goes on. -/
theorem AtTop.fails (top : AtTop cfg results start failures s) {goal} (ahead : failures ≤ goal)
    (failing : ∀ i < goal, results i ≠ .ok)
    (allowed : ∀ i < goal, Allowed cfg.context.retryPolicy.triggerMaxRetries i) :
    Leads cfg results draws s (AtTop cfg results start goal) := by
  induction ahead with
  | refl => exact .refl top
  | @step goal _ ih =>
    have before : Leads cfg results draws s
        (AtTop cfg results start goal) :=
      ih
        (fun i below => failing i (Nat.lt_succ_of_lt below))
        (fun i below => allowed i (Nat.lt_succ_of_lt below))
    refine before.trans fun atGoal => ?_
    refine (atGoal.calls (allowed goal (Nat.lt_succ_self goal))).trans ?_
    intro final calling
    exact calling.loop.invoking_leads calling.here (failing goal (Nat.lt_succ_self goal))

end RetryLoop

/-! ### The specification -/

/-- The first success comes at the call after `failures` failures, which the
limit allows. -/
structure SucceedsAfter (limit : Option Nat) (results : Nat → HandlerResult)
    (failures : Nat) : Prop where
  succeeds : results failures = .ok
  fails : ∀ i < failures, results i ≠ .ok
  allowed : Allowed limit failures

/-- What an uninterrupted dispatch does with a stream of results. -/
structure RetrySpec (cfg : RetryConfig Payload)
    (results : Nat → HandlerResult) (draws : Nat → Duration)
    (start : Option TriggerRuntimeRecord) (s : RetryState Payload) :
    Prop where
  /-- Every call receives what the dispatch was given. -/
  carried : ∀ invocation ∈ s.invocations,
    invocation.context.Carries cfg.context
  /-- The calls are answered by the stream. -/
  answered : ∀ i invocation, s.invocations[i]? = some invocation →
    ∀ res ∈ invocation.result, res = results i
  /-- There is no call after a success. -/
  stops : ∀ i, results i = .ok → s.invocations.length ≤ i + 1
  /-- There is no call beyond the limit. -/
  limited : ∀ most ∈ cfg.context.retryPolicy.triggerMaxRetries,
    s.invocations.length ≤ max 1 most
  /-- The dispatch ends with the first success, or after the allowed failures. -/
  ended : ∀ res, s.result = some res → (∃ failures, res = .ok ∧
      SucceedsAfter cfg.context.retryPolicy.triggerMaxRetries results failures ∧
      s.invocations.length = failures + 1) ∨
    ∃ most, cfg.context.retryPolicy.triggerMaxRetries = some most ∧
      res = .failed (cfg.context.retryExhausted most) ∧
      (∀ i < max 1 most, results i ≠ .ok) ∧
      s.invocations.length = max 1 most
  /-- The recorded retries are the failed calls. -/
  retries : s.result ≠ none → ∀ record ∈ start, ∀ facts ∈ s.facts,
    facts.retryTotal = record.retryTotal + .ofNat (s.invocations.countP (·.failed))
  /-- If a call succeeds in time, the dispatch ends with success. -/
  succeeds : ∀ failures,
    SucceedsAfter cfg.context.retryPolicy.triggerMaxRetries results failures →
      RetryLoop.Leads cfg results draws s fun final =>
        final.result = some .ok
  /-- If every allowed call fails, the dispatch ends with the exhaustion. -/
  exhausts : ∀ most,
    cfg.context.retryPolicy.triggerMaxRetries = some most → (∀ i < max 1 most, results i ≠ .ok) →
      RetryLoop.Leads cfg results draws s fun final =>
        final.result = some (.failed (cfg.context.retryExhausted most))
  /-- Without a limit and without a success the calls never end. -/
  persists : cfg.context.retryPolicy.triggerMaxRetries = none → (∀ i, results i ≠ .ok) → ∀ calls,
      RetryLoop.Leads cfg results draws s fun final =>
        calls ≤ final.invocations.length

section Specification

variable {results : Nat → HandlerResult} {draws : Nat → Duration}
  {start : Option TriggerRuntimeRecord} {failures : Nat}

theorem Allowed.of_le (allowed : Allowed limit more) (le : fewer ≤ more) : Allowed limit fewer :=
  fun most present => lt_of_le_of_lt le (allowed most present)

namespace RetryLoop

theorem le_of_succeeds (loop : RetryLoop cfg results start failures s)
    {index} (succeeds : results index = .ok) : failures ≤ index := by
  by_contra later
  exact loop.failed index (not_le.mp later) succeeds

theorem leads_succeeds (loop : RetryLoop cfg results start failures s) (running : s.result = none)
    (succeeds : SucceedsAfter cfg.context.retryPolicy.triggerMaxRetries results count) :
    Leads cfg results draws s fun final => final.result = some .ok := by
  rcases loop.leads running draws with ⟨more, -, top⟩ | ⟨now, calling⟩
  · refine top.trans fun atTop => ?_
    refine (atTop.fails (atTop.loop.le_of_succeeds succeeds.succeeds)
      succeeds.fails fun i below => succeeds.allowed.of_le below.le).trans ?_
    intro last atLast
    refine (atLast.calls succeeds.allowed).trans fun calling => ?_
    exact calling.loop.invoking_succeeds calling.here succeeds.succeeds
  · exact calling.trans fun calling =>
      calling.loop.invoking_succeeds calling.here now

theorem leads_exhausts (loop : RetryLoop cfg results start failures s)
    (bounded : ∀ most ∈ cfg.context.retryPolicy.triggerMaxRetries, most ≤ u32Max)
    (running : s.result = none) (limit : cfg.context.retryPolicy.triggerMaxRetries = some most)
    (failing : ∀ index < max 1 most, results index ≠ .ok) :
    Leads cfg results draws s fun final =>
      final.result = some (.failed (cfg.context.retryExhausted most)) := by
  have allowed : ∀ index < max 1 most,
      Allowed cfg.context.retryPolicy.triggerMaxRetries index := by
    intro index below other present
    rw [limit] at present
    cases present
    exact below
  rcases loop.leads running draws with ⟨more, -, top⟩ | ⟨succeeds, calling⟩
  · refine top.trans fun atTop => ?_
    have ahead : more ≤ max 1 most := by
      obtain ⟨rest, -, consistent⟩ := atTop.loop.answers
      rw [atTop.here] at consistent
      have below : more - 1 < max 1 most := consistent.2.2 most limit
      omega
    exact (atTop.fails ahead failing allowed).trans fun atLimit =>
      atLimit.exhausted bounded limit rfl
  · refine calling.trans fun calling => ?_
    obtain ⟨rest, -, consistent⟩ := calling.loop.answers
    rw [calling.here] at consistent
    exact absurd succeeds (failing failures (consistent.2 most limit))

theorem AtTop.length (top : AtTop cfg results start failures s) :
    s.invocations.length = failures := by
  obtain ⟨rest, answers, consistent⟩ := top.loop.answers
  rw [top.here] at consistent
  obtain ⟨rfl, -⟩ := consistent
  simpa using congrArg List.length answers

theorem leads_persists (loop : RetryLoop cfg results start failures s) (running : s.result = none)
    (unlimited : cfg.context.retryPolicy.triggerMaxRetries = none) (never : ∀ i, results i ≠ .ok)
    (calls : Nat) :
    Leads cfg results draws s fun final =>
      calls ≤ final.invocations.length := by
  rcases loop.leads running draws with ⟨more, -, top⟩ | ⟨succeeds, -⟩
  · refine top.trans fun atTop => ?_
    refine (atTop.fails (Nat.le_add_right more calls) (fun i _ => never i) ?_).trans ?_
    · intro i _ most present
      rw [unlimited] at present
      cases present
    · intro final atEnd
      refine .refl ?_
      rw [atEnd.length]
      exact Nat.le_add_left calls more
  · exact absurd succeeds (never failures)

/-- The result of a dispatch that has ended. -/
theorem ended (loop : RetryLoop cfg results start failures s) {res}
    (returned : s.result = some res) :
    ∃ rest,
      s.invocations.map (·.result) = (List.range failures).map (fun i => some (results i)) ++ rest ∧
      ((res = .ok ∧ rest = [some .ok] ∧ results failures = .ok ∧
        Allowed cfg.context.retryPolicy.triggerMaxRetries failures) ∨
      ∃ most, cfg.context.retryPolicy.triggerMaxRetries = some most ∧
        res = .failed (cfg.context.retryExhausted most) ∧ rest = [] ∧
        failures = max 1 most) := by
  obtain ⟨rest, answers, consistent⟩ := loop.answers
  refine ⟨rest, answers, ?_⟩
  cases here : s.point with
  | returned other | observed other =>
    simp only [result, here, Option.some.injEq] at returned
    subst returned
    rw [here] at consistent
    exact consistent
  | _ => simp [result, here] at returned

/-- What is not counted yet is at most one allowed call, and an answer to it is
the next of the stream. -/
theorem rest_cases {point : RetryPoint} {rest : List (Option HandlerResult)}
    (consistent : point.Consistent cfg.context results failures rest) :
    (rest = [] ∧ ∀ most ∈ cfg.context.retryPolicy.triggerMaxRetries, failures ≤ max 1 most) ∨
    Allowed cfg.context.retryPolicy.triggerMaxRetries failures ∧
      (rest = [none] ∨ rest = [some (results failures)]) := by
  cases point with
  | chain =>
    obtain ⟨rfl, rfl⟩ := consistent
    exact .inl ⟨rfl, fun most _ => Nat.zero_le _⟩
  | invoking => exact .inr ⟨consistent.2, .inl consistent.1⟩
  | failed msg =>
    obtain ⟨rfl, answer, allowed⟩ := consistent
    exact .inr ⟨allowed, .inr (by rw [answer])⟩
  | checkShutdown | beginSleep | sleeping _ | loop =>
    obtain ⟨rfl, -, allowed⟩ := consistent
    refine .inl ⟨rfl, fun most limit => ?_⟩
    have below := allowed most limit
    omega
  | returned res | observed res =>
    rcases consistent with ⟨-, rfl, answer, allowed⟩ | ⟨most, limit, -, rfl, used⟩
    · exact .inr ⟨allowed, .inr (by rw [answer])⟩
    · refine .inl ⟨rfl, fun other present => ?_⟩
      rw [limit] at present
      cases present
      exact used.le

theorem answered (loop : RetryLoop cfg results start failures s) {index : Nat}
    {invocation : Invocation Payload} (call : s.invocations[index]? = some invocation) :
    ∀ res ∈ invocation.result, res = results index := by
  intro res returned
  obtain ⟨rest, answers, consistent⟩ := loop.answers
  have answer : (s.invocations.map (·.result))[index]? = some (some res) := by
    rw [List.getElem?_map, call, Option.map_some]
    exact congrArg some returned
  rw [answers] at answer
  rcases Nat.lt_or_ge index failures with counted | later
  · rw [List.getElem?_append_left (by simpa using counted)] at answer
    simpa [counted] using answer.symm
  · rw [List.getElem?_append_right (by simpa using later)] at answer
    rcases rest_cases consistent with ⟨rfl, -⟩ | ⟨-, rfl | rfl⟩
    · simp at answer
    · simp [List.getElem?_singleton] at answer
    · simp only [List.length_map, List.length_range, List.getElem?_singleton] at answer
      split at answer
      · have same : index = failures := by omega
        cases answer
        rw [same]
      · cases answer

theorem length_le (loop : RetryLoop cfg results start failures s) :
    s.invocations.length ≤ failures + 1 ∧ ∀ most ∈ cfg.context.retryPolicy.triggerMaxRetries,
        s.invocations.length ≤ max 1 most := by
  obtain ⟨rest, answers, consistent⟩ := loop.answers
  have length : s.invocations.length = failures + rest.length := by
    simpa using congrArg List.length answers
  rw [length]
  rcases rest_cases consistent with ⟨rfl, within⟩ | ⟨allowed, rfl | rfl⟩
  · exact ⟨Nat.le_succ failures, within⟩
  · exact ⟨le_rfl, fun most limit => allowed most limit⟩
  · exact ⟨le_rfl, fun most limit => allowed most limit⟩

/-- The failed calls of a dispatch that has ended are the counted ones. -/
theorem countP_failed (loop : RetryLoop cfg results start failures s) (returned : s.result ≠ none) :
    s.invocations.countP (·.failed) = failures := by
  obtain ⟨res, returned⟩ := Option.ne_none_iff_exists'.mp returned
  obtain ⟨rest, answers, outcome⟩ := loop.ended returned
  have uncounted : rest.countP (fun answer => answer.any (· != .ok)) = 0 := by
    rcases outcome with ⟨-, rfl, -⟩ | ⟨most, -, -, rfl, -⟩ <;> rfl
  have counted :
      ((List.range failures).map fun i => some (results i)).countP
        (fun answer => answer.any (· != .ok)) = failures := by
    rw [List.countP_eq_length.mpr, List.length_map, List.length_range]
    intro answer present
    obtain ⟨i, below, rfl⟩ := List.mem_map.mp present
    simpa using loop.failed i (List.mem_range.mp below)
  calc s.invocations.countP (·.failed)
      = (s.invocations.map (·.result)).countP
          (fun answer => answer.any (· != .ok)) := by
        rw [List.countP_map]
        rfl
    _ = failures := by
        rw [answers, List.countP_append, counted, uncounted, Nat.add_zero]

/-- A dispatch whose stream has a success in time ends with it, or has done so. -/
theorem reaches_ok (loop : RetryLoop cfg results start failures s) {count}
    (succeeds : SucceedsAfter cfg.context.retryPolicy.triggerMaxRetries results count) :
    Leads cfg results draws s fun final => final.result = some .ok := by
  cases returned : s.result with
  | none => exact loop.leads_succeeds returned succeeds
  | some res =>
    obtain ⟨rest, -, outcome⟩ := loop.ended returned
    rcases outcome with ⟨rfl, -⟩ | ⟨most, limit, -, -, used⟩
    · exact .refl returned
    · have before := loop.le_of_succeeds succeeds.succeeds
      have within := succeeds.allowed most limit
      omega

/-- A dispatch whose allowed calls all fail is exhausted in the end. -/
theorem reaches_exhausted (loop : RetryLoop cfg results start failures s)
    (bounded : ∀ most ∈ cfg.context.retryPolicy.triggerMaxRetries, most ≤ u32Max) {most}
    (limit : cfg.context.retryPolicy.triggerMaxRetries = some most)
    (failing : ∀ i < max 1 most, results i ≠ .ok) :
    Leads cfg results draws s fun final =>
      final.result = some (.failed (cfg.context.retryExhausted most)) := by
  cases returned : s.result with
  | none => exact loop.leads_exhausts bounded returned limit failing
  | some res =>
    obtain ⟨rest, -, outcome⟩ := loop.ended returned
    rcases outcome with ⟨-, -, succeeds, allowed⟩ | ⟨other, same, rfl, -⟩
    · exact absurd succeeds (failing failures (allowed most limit))
    · rw [limit] at same
      cases same
      exact .refl returned

/-- Without a limit and without a success there is always another call. -/
theorem reaches_calls (loop : RetryLoop cfg results start failures s)
    (unlimited : cfg.context.retryPolicy.triggerMaxRetries = none)
    (never : ∀ i, results i ≠ .ok) (calls : Nat) :
    Leads cfg results draws s fun final =>
      calls ≤ final.invocations.length := by
  cases returned : s.result with
  | none => exact loop.leads_persists returned unlimited never calls
  | some res =>
    obtain ⟨rest, -, outcome⟩ := loop.ended returned
    rcases outcome with ⟨-, -, succeeds, -⟩ | ⟨most, limit, -⟩
    · exact absurd succeeds (never failures)
    · rw [unlimited] at limit
      cases limit

end RetryLoop

end Specification

/-- The retry loop of a dispatch, for every limit that a `u32` holds, every
stream of handler results and every stream of drawn delays, in every state of an
uninterrupted run. -/
theorem retry_loop_spec {config : RetryConfig Payload} {results : Nat → HandlerResult}
    {draws : Nat → Duration} {start : Option TriggerRuntimeRecord} {now : Instant}
    {schedule : List RetryAction} {state : RetryState Payload}
    (bounded : ∀ most ∈ config.context.retryPolicy.triggerMaxRetries, most ≤ u32Max)
    (run : GuardedRun (RetryInterceptor.step config)
      (RetryState.Uninterrupted results draws) (.new config now start) schedule
      state) :
    RetrySpec config results draws start state := by
  obtain ⟨failures, loop⟩ := RetryLoop.of_run bounded run
  refine
    { carried := loop.carried
      answered := fun index invocation call => loop.answered call
      stops := ?_
      limited := loop.length_le.2
      ended := ?_
      retries := ?_
      succeeds := fun count succeeds => loop.reaches_ok succeeds
      exhausts := fun most limit failing =>
        loop.reaches_exhausted bounded limit failing
      persists := loop.reaches_calls }
  · intro index succeeds
    exact loop.length_le.1.trans
      (Nat.succ_le_succ (loop.le_of_succeeds succeeds))
  · intro result returned
    obtain ⟨rest, answers, outcome⟩ := loop.ended returned
    have length : state.invocations.length = failures + rest.length := by
      simpa using congrArg List.length answers
    rcases outcome with ⟨rfl, rfl, succeeds, allowed⟩ | ⟨most, limit, rfl, rfl, used⟩
    · exact .inl ⟨failures, rfl, ⟨succeeds, loop.failed, allowed⟩, length⟩
    · exact .inr ⟨most, limit, rfl, used ▸ loop.failed, length.trans used⟩
  · intro returned record recorded facts present
    have total := loop.retries
    rw [Option.mem_def.mp recorded, Option.mem_def.mp present] at total
    rw [loop.countP_failed returned]
    exact Option.some.inj total

/-- A handler that fails once. -/
def failsOnce (i : Nat) : HandlerResult :=
  if i = 0 then .err "refused" else .ok

theorem retry_loop_spec_retry :
    ∃ state : RetryState Nat,
      (∀ most ∈ (mailerDispatch (some 3)).context.retryPolicy.triggerMaxRetries, most ≤ u32Max) ∧
      GuardedRun (RetryInterceptor.step (mailerDispatch (some 3)))
        (RetryState.Uninterrupted failsOnce fun _ => fromSecs 2)
        (.new (mailerDispatch (some 3)) 0 (some dispatchedOnce))
        secondAttemptSucceeds state ∧
      state.result = some .ok ∧
      RetrySpec (mailerDispatch (some 3)) failsOnce (fun _ => fromSecs 2)
        (some dispatchedOnce) state := by
  have bounded :
      ∀ most ∈ (mailerDispatch (some 3)).context.retryPolicy.triggerMaxRetries,
        most ≤ u32Max := by
    rintro most ⟨⟩
    decide
  obtain ⟨state, run, outcome⟩ :
      ∃ state : RetryState Nat,
        GuardedRun (RetryInterceptor.step (mailerDispatch (some 3)))
          (RetryState.Uninterrupted failsOnce fun _ => fromSecs 2)
          (.new (mailerDispatch (some 3)) 0 (some dispatchedOnce))
          secondAttemptSucceeds state ∧
        state.result = some .ok :=
    GuardedRun.exists_of_check (by decide +kernel)
  exact ⟨state, bounded, run, outcome, retry_loop_spec bounded run⟩

end ServiceDaemon
