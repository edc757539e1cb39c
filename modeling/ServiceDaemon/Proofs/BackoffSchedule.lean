/-
Purpose: The delays that the three users of the backoff controller wait: the
  supervisor, the initialisation of a provider, and the retry interceptor.
Main exports: supervisor_delay, provider_waits, retry_waits, one_schedule_iff
-/
import ServiceDaemon.Core.ProviderInit
import ServiceDaemon.Core.RetryInterceptor
import ServiceDaemon.Core.Supervisor

namespace ServiceDaemon

open StepSystem

/-!
The supervisor and the initialisation of a provider sleep for the current delay
and then call `record_failure`.  The retry interceptor calls `record_failure`
first and sleeps for the delay after it, so its waits are one step ahead.

`N` stands for `next_delay`, as a fixed function on durations.

[SRC runner/supervisor.rs, core/provider_init.rs]
[SRC core/trigger_runner/interceptors.rs, models/policy.rs]
[SRC docs/guide/resilience.md]
-/

section Supervisor

variable {N : Duration → Duration} {cfg : SupervisorConfig}
  {s next : SupervisorState} {a : SupervisorAction}

/-- Nothing resets the backoff and the storm guard does not extend a wait. -/
def SupervisorState.PlainBackoff (N : Duration → Duration)
    (s : SupervisorState) : SupervisorAction → Prop
  | .sleepElapsed next => next = N s.backoff.currentDelay
  | .reloadDuringDelay => False
  | .advance =>
    match s.point with
    | .restartNow => False
    | .resetBackoff _ =>
      ∀ start ∈ s.generationStart,
        s.now - start < s.backoff.policy.resetAfter
    | .restart (.withBackoff _) =>
      (s.restartStorm.recordFailure s.now s.backoff.currentDelay).2.rateLimited = false
    | _ => True
  | _ => True

instance (s : SupervisorState) (a : SupervisorAction) :
    Decidable (s.PlainBackoff N a) := by
  unfold SupervisorState.PlainBackoff
  split
  · infer_instance
  · infer_instance
  · split <;> infer_instance
  · infer_instance

/-- The current delay after the waits so far. -/
structure SupervisorState.OnSchedule (N : Duration → Duration)
    (initial : Duration) (s : SupervisorState) : Prop where
  current : s.point ≠ .terminated → s.backoff.currentDelay = N^[s.waits.length] initial
  delay : ∀ delay, s.point = .beginWait delay → delay = s.backoff.currentDelay

namespace SupervisorState.OnSchedule

variable {initial : Duration}

theorem keep (onSchedule : s.OnSchedule N initial) (alive : s.point ≠ .terminated)
    (backoff : next.backoff = s.backoff) (waits : next.waits = s.waits)
    (elsewhere : ∀ delay, next.point ≠ .beginWait delay) :
    next.OnSchedule N initial where
  current _ := by rw [backoff, waits, onSchedule.current alive]
  delay delay here := absurd here (elsewhere delay)

theorem of_terminated (ended : next.point = .terminated) :
    next.OnSchedule N initial where
  current alive := absurd ended alive
  delay delay here := by
    rw [ended] at here
    cases here

theorem same (onSchedule : s.OnSchedule N initial)
    (point : next.point = s.point) (backoff : next.backoff = s.backoff)
    (waits : next.waits = s.waits) : next.OnSchedule N initial where
  current alive := by
    rw [point] at alive
    rw [backoff, waits, onSchedule.current alive]
  delay delay here := by
    rw [point] at here
    rw [backoff, onSchedule.delay delay here]

theorem delays (onSchedule : s.OnSchedule N initial) (here : s.point = .restart (.withBackoff kind))
    (plain : (s.restartStorm.recordFailure s.now s.backoff.currentDelay).2.rateLimited = false) :
    (s.restart (.withBackoff kind)).OnSchedule N initial where
  current _ := onSchedule.current (by simp [here])
  delay delay begins := by
    cases begins
    have extended := of_decide_eq_false plain
    exact le_antisymm (not_lt.mp extended) (le_max_left _ _)

theorem step (onSchedule : s.OnSchedule N initial) (plain : s.PlainBackoff N a)
    (h : Supervisor.step cfg s a = some next) : next.OnSchedule N initial := by
  cases SupervisorMove.of_step h with
  | performs pending => exact onSchedule.same (by simp) (by simp) (by simp)
  | stops idle here | checksCancelled idle here | stopsWait idle here => exact .of_terminated rfl
  | starts idle here | entersWithout idle here | enters idle here
  | checksWithout idle here | checks idle here | skipsReset idle here
  | decides idle here | waits idle here | runs here | runsReloading here
  | takesResult idle here | takesReloadResult idle here
  | takesDependency idle here | takesReload idle here =>
    exact onSchedule.keep (by simp [here]) rfl rfl
      fun delay begins => by cases begins
  | prepares idle here =>
    refine onSchedule.keep (by simp [here]) rfl rfl fun delay => ?_
    unfold SupervisorState.prepare
    simp only
    split <;> simp
  | classifies idle here =>
    refine onSchedule.keep (by simp [here]) rfl rfl fun delay => ?_
    unfold SupervisorState.classify
    simp only
    split <;> simp
  | @resets kind start idle here started =>
    have early : s.now - start < s.backoff.policy.resetAfter := by
      simp only [SupervisorState.PlainBackoff, here] at plain
      exact plain start started
    refine onSchedule.keep (by simp [here]) ?_ rfl
      fun delay begins => by cases begins
    simp [BackoffController.maybeReset, not_le.mpr early]
  | delays idle here =>
    simp only [SupervisorState.PlainBackoff, here] at plain
    exact onSchedule.delays here plain
  | restartsNow idle here => simp only [SupervisorState.PlainBackoff, here] at plain
  | @elapses delay deadline changed idle here reached =>
    have drawn : delay = N s.backoff.currentDelay := plain
    refine ⟨fun _ => ?_, fun delay begins => by cases begins⟩
    calc delay = N (N^[s.waits.length] initial) := by
          rw [drawn, onSchedule.current (by simp [here])]
      _ = N^[s.waits.length + 1] initial :=
          (Function.iterate_succ_apply' N s.waits.length initial).symm
      _ = _ := by simp [SupervisorState.noteWait]
  | reloadsWait idle here _ => exact plain.elim
  | ticks | cancels | cancelsDaemon | triggersReload | writesStatus
  | recordsStatus => exact onSchedule.same rfl rfl rfl
  | changes _ =>
    refine ⟨fun alive => onSchedule.current ?_, fun delay begins => ?_⟩
    · intro ended
      exact alive (by simp [SupervisorPoint.noteChange, ended])
    · exact onSchedule.delay delay (SupervisorPoint.of_noteChange begins (by simp))

end SupervisorState.OnSchedule

/-- The supervisor: the wait after `k` ended waits is `N` applied `k` times. -/
theorem supervisor_delay
    (run : GuardedRun (Supervisor.step cfg) (SupervisorState.PlainBackoff N)
      (.new cfg start plane) acts s) (begins : s.point = .beginWait delay) :
    delay = N^[s.waits.length] cfg.policy.initialDelay := by
  have initially : (SupervisorState.new cfg start plane).OnSchedule N
      cfg.policy.initialDelay :=
    ⟨fun _ => rfl, fun delay begins => by cases begins⟩
  have onSchedule : s.OnSchedule N cfg.policy.initialDelay :=
    run.invariant initially fun onSchedule plain h =>
      onSchedule.step plain h
  rw [onSchedule.delay delay begins]
  exact onSchedule.current (by simp [begins])

end Supervisor

/-! ### Provider initialisation -/

/-- The waits are the iterates of `N`, from the `offset`-th on. -/
def Iterates (N : Duration → Duration) (initial : Duration) (offset : Nat)
    (waits : List Duration) : Prop :=
  ∀ i delay, waits[i]? = some delay → delay = N^[i + offset] initial

theorem Iterates.nil : Iterates N initial offset [] :=
  fun i delay none => by simp at none

theorem Iterates.snoc (iterates : Iterates N initial offset waits)
    (last : delay = N^[waits.length + offset] initial) :
    Iterates N initial offset (waits ++ [delay]) := by
  intro i other present
  rcases Nat.lt_or_ge i waits.length with before | after
  · rw [List.getElem?_append_left before] at present
    exact iterates i other present
  · rw [List.getElem?_append_right after, List.getElem?_singleton] at present
    split at present
    · have same : i = waits.length := by omega
      cases present
      rw [same, last]
    · cases present

section Provider

variable {Value : Type} {N : Duration → Duration} {cfg : ProviderInitConfig}
  {s next : ProviderInitState Value} {a : ProviderInitAction Value}

/-- `next_delay` is `N`, and no wait is cut at the deadline. -/
def ProviderInitState.PlainBackoff (N : Duration → Duration)
    (cfg : ProviderInitConfig) (s : ProviderInitState Value) :
    ProviderInitAction Value → Prop
  | .waitElapsed next => next = N s.backoff.currentDelay
  | .checkDeadline =>
    s.now + s.backoff.currentDelay ≤ s.deadline cfg
  | _ => True

instance (s : ProviderInitState Value) (a : ProviderInitAction Value) :
    Decidable (s.PlainBackoff N cfg a) := by
  unfold ProviderInitState.PlainBackoff
  split <;> infer_instance

/-- The waits so far, and the current delay: it belongs to the wait that goes on,
or to the next one. -/
def ProviderInitPoint.Delay (N : Duration → Duration) (initial cur : Duration)
    (waits : Nat) : ProviderInitPoint Value → Prop
  | .loop | .attempting | .retryable _ => cur = N^[waits] initial
  | .waiting _ => N cur = N^[waits] initial
  | .initialised _ | .failed _ | .panicked => True

structure ProviderInitState.OnSchedule (N : Duration → Duration)
    (initial : Duration) (s : ProviderInitState Value) : Prop where
  waits : Iterates N initial 0 (s.waits.map (·.2))
  current : s.point.Delay N initial s.backoff.currentDelay
    s.waits.length

namespace ProviderInitState.OnSchedule

variable {initial : Duration}

theorem goto (onSchedule : s.OnSchedule N initial) (waits : next.waits = s.waits)
    (delay : next.point.Delay N initial s.backoff.currentDelay s.waits.length)
    (backoff : next.backoff = s.backoff) : next.OnSchedule N initial where
  waits := waits ▸ onSchedule.waits
  current := by
    rw [backoff, waits]
    exact delay

theorem sleepFor_eq (uncut : s.now + s.backoff.currentDelay ≤ s.deadline cfg) :
    s.sleepFor cfg = s.backoff.currentDelay :=
  min_eq_left (Nat.le_sub_of_add_le' uncut)

theorem step (onSchedule : s.OnSchedule N initial) (plain : s.PlainBackoff N cfg a)
    (h : ProviderInit.step cfg s a = some next) : next.OnSchedule N initial := by
  have current := onSchedule.current
  cases ProviderInitMove.of_step h with
  | attempts here =>
    rw [here] at current
    exact onSchedule.goto rfl current rfl
  | @fails error here =>
    rw [here] at current
    cases error with
    | fatal msg => exact onSchedule.goto rfl trivial rfl
    | retryable msg => exact onSchedule.goto rfl current rfl
  | waits here early =>
    rw [here] at current
    have delay : s.sleepFor cfg = N^[s.waits.length] initial := (sleepFor_eq plain).trans current
    refine ⟨?_, ?_⟩
    · rw [List.map_append]
      exact onSchedule.waits.snoc (by rw [List.length_map]; exact delay)
    · change N s.backoff.currentDelay = _
      rw [show s.backoff.currentDelay = _ from current, List.length_append,
        List.length_singleton, Function.iterate_succ_apply']
  | @wakes wakeAt delay here reached =>
    rw [here] at current
    have drawn : delay = N s.backoff.currentDelay := plain
    exact ⟨onSchedule.waits, drawn.trans current⟩
  | ticks | cancels => exact ⟨onSchedule.waits, current⟩
  | _ => exact onSchedule.goto rfl trivial rfl

end ProviderInitState.OnSchedule

/-- The initialisation of a provider: the wait of index `k` is `N` applied `k`
times. -/
theorem provider_waits
    (run : GuardedRun (ProviderInit.step cfg)
      (ProviderInitState.PlainBackoff N cfg) (.new cfg start) acts
      s) :
    Iterates N cfg.policy.initialDelay 0 (s.waits.map (·.2)) := by
  have initially :
      (ProviderInitState.new cfg start : ProviderInitState Value).OnSchedule N
        cfg.policy.initialDelay :=
    ⟨.nil, rfl⟩
  exact (run.invariant initially fun onSchedule plain h =>
    onSchedule.step plain h).waits

end Provider

/-! ### The retry interceptor -/

section Retry

variable {Payload : Type} {N : Duration → Duration} {cfg : RetryConfig Payload}
  {s next : RetryState Payload} {a : RetryAction}

/-- `next_delay` is `N`. -/
def RetryState.PlainBackoff (N : Duration → Duration) (s : RetryState Payload) : RetryAction → Prop
  | .recordFailure next => next = N s.backoff.currentDelay
  | _ => True

instance (s : RetryState Payload) (a : RetryAction) :
    Decidable (s.PlainBackoff N a) := by
  unfold RetryState.PlainBackoff
  split <;> infer_instance

/-- The current delay is advanced before the wait it is for. -/
def RetryPoint.Delay (N : Duration → Duration) (initial cur : Duration)
    (waits : Nat) : RetryPoint → Prop
  | .chain | .invoking | .failed _ | .sleeping _ | .loop =>
    cur = N^[waits] initial
  | .checkShutdown | .beginSleep => cur = N^[waits + 1] initial
  | .returned _ | .observed _ => True

structure RetryState.OnSchedule (N : Duration → Duration) (initial : Duration)
    (s : RetryState Payload) : Prop where
  waits : Iterates N initial 1 s.waits
  current : s.point.Delay N initial s.backoff.currentDelay
    s.waits.length

namespace RetryState.OnSchedule

variable {initial : Duration}

theorem goto (onSchedule : s.OnSchedule N initial) (waits : next.waits = s.waits)
    (delay : next.point.Delay N initial s.backoff.currentDelay s.waits.length)
    (backoff : next.backoff = s.backoff) : next.OnSchedule N initial where
  waits := waits ▸ onSchedule.waits
  current := by
    rw [backoff, waits]
    exact delay

theorem step (onSchedule : s.OnSchedule N initial) (plain : s.PlainBackoff N a)
    (h : RetryInterceptor.step cfg s a = some next) : next.OnSchedule N initial := by
  have current := onSchedule.current
  cases RetryMove.of_step h with
  | enters here | retries here | fails here | wakes here | goesOn here =>
    rw [here] at current
    exact onSchedule.goto rfl current rfl
  | @records msg delay here =>
    rw [here] at current
    have drawn : delay = N s.backoff.currentDelay := plain
    refine ⟨onSchedule.waits, ?_⟩
    change delay = N^[s.waits.length + 1] initial
    rw [drawn, show s.backoff.currentDelay = _ from current, Function.iterate_succ_apply']
  | sleeps here =>
    rw [here] at current
    refine ⟨onSchedule.waits.snoc current, ?_⟩
    change s.backoff.currentDelay = _
    rw [List.length_append, List.length_singleton]
    exact current
  | ticks | cancels | requestsReload => exact ⟨onSchedule.waits, current⟩
  | _ => exact onSchedule.goto rfl trivial rfl

end RetryState.OnSchedule

/-- The retry interceptor: the wait of index `k` is `N` applied `k + 1` times. -/
theorem retry_waits
    (run : GuardedRun (RetryInterceptor.step cfg) (RetryState.PlainBackoff N)
      (.new cfg start facts) acts s) :
    Iterates N cfg.context.retryPolicy.initialDelay 1 s.waits := by
  have initially : (RetryState.new cfg start facts).OnSchedule N
      cfg.context.retryPolicy.initialDelay :=
    ⟨.nil, rfl⟩
  exact (run.invariant initially fun onSchedule plain h =>
    onSchedule.step plain h).waits

end Retry

/-! ### One schedule -/

/-- In every user of the controller the `k`-th consecutive wait is `N` applied
`k - 1` times to the initial delay of the policy; waits are counted from zero
here. -/
structure OneSchedule (pol : RestartPolicy) (N : Duration → Duration) :
    Prop where
  supervisor : ∀ {cfg : SupervisorConfig} {start plane acts s delay},
    cfg.policy = pol →
    GuardedRun (Supervisor.step cfg) (SupervisorState.PlainBackoff N)
      (.new cfg start plane) acts s →
    s.point = .beginWait delay →
    delay = N^[s.waits.length] pol.initialDelay
  provider : ∀ {Value : Type} {cfg : ProviderInitConfig} {start acts}
    {s : ProviderInitState Value},
    cfg.policy = pol →
    GuardedRun (ProviderInit.step cfg)
      (ProviderInitState.PlainBackoff N cfg) (.new cfg start) acts
      s →
    ∀ i began delay, s.waits[i]? = some (began, delay) → delay = N^[i] pol.initialDelay
  retry : ∀ {Payload : Type} {cfg : RetryConfig Payload}
    {start facts acts} {s : RetryState Payload},
    cfg.context.retryPolicy = pol →
    GuardedRun (RetryInterceptor.step cfg) (RetryState.PlainBackoff N)
      (.new cfg start facts) acts s →
    ∀ i delay, s.waits[i]? = some delay → delay = N^[i] pol.initialDelay

/-- A dispatch without a payload under a policy. -/
def dispatchUnder (pol : RestartPolicy) : RetryConfig Unit :=
  { context :=
      { serviceId := ⟨1⟩
        sourceId := ⟨1⟩
        instanceSeq := 0
        generation := 1
        messageId := 0
        triggerName := "trigger"
        payload := ()
        retryPolicy := pol }
    timeout := none
    debugDuration := fun duration => toString duration }

/-- The first attempt of a dispatch and the begin of its wait. -/
def firstRetryWait (delay : Duration) : List RetryAction :=
  [.enterChain, .handlerReturns (.err "refused"), .recordFailure delay, .checkShutdown, .beginSleep]

theorem first_retry_wait (pol : RestartPolicy) (N : Duration → Duration) :
    ∃ s : RetryState Unit,
      GuardedRun (RetryInterceptor.step (dispatchUnder pol))
        (RetryState.PlainBackoff N) (.new (dispatchUnder pol) 0 none)
        (firstRetryWait (N pol.initialDelay)) s ∧
      s.waits = [N pol.initialDelay] := by
  refine ⟨_, .cons trivial rfl (.cons trivial rfl (.cons rfl rfl
    (.cons trivial rfl (.cons trivial rfl .nil)))), ?_⟩
  rfl

/-- The three users share one schedule exactly when advancing the initial delay
does not change it. -/
theorem one_schedule_iff (policy : RestartPolicy) (N : Duration → Duration) :
    OneSchedule policy N ↔ N policy.initialDelay = policy.initialDelay := by
  constructor
  · intro schedule
    obtain ⟨state, run, waits⟩ := first_retry_wait policy N
    have first : state.waits[0]? = some (N policy.initialDelay) := by
      rw [waits]
      rfl
    exact schedule.retry rfl run 0 _ first
  · intro fixed
    refine ⟨?_, ?_, ?_⟩
    · rintro config start plane schedule state delay rfl run begins
      exact supervisor_delay run begins
    · rintro Value config start schedule state rfl run index began delay present
      apply provider_waits run
      rw [List.getElem?_map, present]
      rfl
    · rintro Payload config start facts schedule state rfl run index delay present
      rw [retry_waits run index delay present, Function.iterate_fixed fixed,
        Function.iterate_fixed fixed]

/-- A constant backoff is one schedule. -/
theorem one_schedule_constant :
    OneSchedule .default id ∧ id RestartPolicy.default.initialDelay =
        RestartPolicy.default.initialDelay :=
  ⟨(one_schedule_iff .default id).mpr rfl, rfl⟩

/-- A service under the default policy. -/
def plainService : SupervisorConfig :=
  { name := "service"
    scheduling := .standard
    highPriority := false
    watched := false
    policy := .default }

/-- A generation that fails, up to the begin of its restart wait. -/
def firstRestartWait : List SupervisorAction :=
  List.flatten
    [[.advance, .advance, .perform, .perform, .perform, .advance],
      [.generation (.bodyEnds (.failed (.msg "connection lost")))],
      [.takeResult, .advance, .advance, .perform, .perform, .perform, .perform],
      [.advance, .advance]]

/-- A provider under the default policy. -/
def plainProvider : ProviderInitConfig :=
  { provider := "database"
    policy := .default
    fatalSource := .userProviderFatal
    retryableTimeoutSource := .userProviderRetryableTimeout }

/-- An attempt that fails, up to its wait. -/
def firstProviderWait : List (ProviderInitAction Unit) :=
  [.loop, .attemptFails (.retryable "refused"), .checkDeadline]

/-- Under the default policy with doubling, the first waits of the supervisor and
of a provider are one second, the first wait of a dispatch is two. -/
theorem first_waits_differ :
    (∃ state, GuardedRun (Supervisor.step plainService)
        (SupervisorState.PlainBackoff fun delay => 2 * delay)
        (.new plainService 0 none) firstRestartWait state ∧
      state.point = .beginWait (fromSecs 1) ∧ state.waits = []) ∧
    (∃ state : ProviderInitState Unit, GuardedRun (ProviderInit.step plainProvider)
        (ProviderInitState.PlainBackoff (fun delay => 2 * delay) plainProvider)
        (.new plainProvider 0) firstProviderWait state ∧
      state.waits = [(0, fromSecs 1)]) ∧
    ∃ state : RetryState Unit,
      GuardedRun (RetryInterceptor.step (dispatchUnder .default))
        (RetryState.PlainBackoff fun delay => 2 * delay)
        (.new (dispatchUnder .default) 0 none) (firstRetryWait (fromSecs 2))
        state ∧
      state.waits = [fromSecs 2] :=
  ⟨GuardedRun.exists_of_check (by decide +kernel), GuardedRun.exists_of_check (by decide +kernel),
    GuardedRun.exists_of_check (by decide +kernel)⟩

end ServiceDaemon
