/-
Purpose: When the lazy entry points of a provider behave as its eager
  initialisation does.  The lazy ones ignore the policy of the daemon.
Main exports: delayAfter, cutTotal, InitTrace.Paced, lazy_follows_policy_iff
-/
import ServiceDaemon.Core.ProviderEntry
import ServiceDaemon.Proofs.InitSpecification

namespace ServiceDaemon

open AsyncLib StepSystem ProviderInitState InitTrace

/-!
Two policies are told apart by the timeout that is reported, or by a wait.  The
wait after `k` others lasts for the `k`-th delay of the backoff, cut at the
deadline; it can only be seen as far as the delays before it leave time.

`N` stands for `next_delay`, a fixed function of the policy and the current
delay.

[SRC service-daemon-macro/src/provider/impls.rs, core/provider_init.rs]
[SRC models/policy.rs]
-/

/-- The delay after `count` others. -/
def delayAfter (N : RestartPolicy → Duration → Duration)
    (policy : RestartPolicy) (count : Nat) : Duration :=
  (N policy)^[count] policy.initialDelay

/-- How long the first `count` delays are together. -/
def delayTotal (N : RestartPolicy → Duration → Duration) (policy : RestartPolicy) : Nat → Duration
  | 0 => 0
  | count + 1 => delayTotal N policy count + delayAfter N policy count

/-- The same, cut at the timeout. -/
def cutTotal (N : RestartPolicy → Duration → Duration)
    (policy : RestartPolicy) (count : Nat) : Duration :=
  min (delayTotal N policy count) policy.providerInitTimeout

theorem delayAfter_succ (N : RestartPolicy → Duration → Duration)
    (policy : RestartPolicy) (count : Nat) :
    delayAfter N policy (count + 1) = N policy (delayAfter N policy count) :=
  Function.iterate_succ_apply' (N policy) count policy.initialDelay

/-! ### Arithmetic of cut waits -/

theorem cut_wait_le {start total delay timeout now : Nat}
    (paced : start + min total timeout ≤ now) :
    start + min (total + delay) timeout ≤ now + min delay (start + timeout - now) := by
  omega

/-- If the cut totals agree before and after a delay, the waits are the
same. -/
theorem cut_wait_eq {start total other delay changed timeout now : Nat}
    (paced : start + min total timeout ≤ now) (before : min total timeout = min other timeout)
    (after : min (total + delay) timeout = min (other + changed) timeout) :
    min delay (start + timeout - now) = min changed (start + timeout - now) := by
  omega

theorem total_eq_of_cut {total other timeout : Nat} (early : total < timeout)
    (before : min total timeout = min other timeout) : total = other := by
  omega

theorem cut_total_late {total other delay changed timeout : Nat}
    (late : timeout ≤ total) (before : min total timeout = min other timeout) :
    min (total + delay) timeout = min (other + changed) timeout := by
  omega

theorem cut_total_eq {total delay changed timeout : Nat} (early : total < timeout)
    (waits : min delay (timeout - total) = min changed (timeout - total)) :
    min (total + delay) timeout = min (total + changed) timeout := by
  omega

variable {Value : Type} {N : RestartPolicy → Duration → Duration}
  {provider : FallibleProvider} {policy other : RestartPolicy}
  {stream : AttemptStream Value} {now : Instant}

/-! ### The pace of an initialisation -/

/-- Where the initialisation stands in its backoff: which delay is next, and
how much time has passed at least. -/
def InitTrace.InPace (N : RestartPolicy → Duration → Duration)
    (policy : RestartPolicy) (t : InitTrace Value) : Prop :=
  match t.init.point with
  | .loop | .attempting | .retryable _ =>
    t.init.backoff.currentDelay = delayAfter N policy t.init.waits.length ∧
      t.init.start + cutTotal N policy t.init.waits.length ≤ t.init.now
  | .waiting wakeAt =>
    ∃ count, t.init.waits.length = count + 1 ∧
      t.init.backoff.currentDelay = delayAfter N policy count ∧
      t.init.start + cutTotal N policy (count + 1) ≤ wakeAt
  | .initialised _ | .failed _ | .panicked => True

/-- What holds along an initialisation that is not cancelled. -/
structure InitTrace.Paced (N : RestartPolicy → Duration → Duration)
    (provider : FallibleProvider) (policy : RestartPolicy) (now : Instant)
    (t : InitTrace Value) : Prop where
  began : t.init.start = now
  uncancelled : t.init.cancelled = false
  governed : t.init.backoff.policy = policy
  waited : ∀ (i : Nat) (begun : Instant) (length : Duration),
    t.init.waits[i]? = some (begun, length) → length = min (delayAfter N policy i)
          (now + policy.providerInitTimeout - begun)
  inPace : t.InPace N policy

namespace InitTrace.Paced

variable {t next : InitTrace Value} {action : ProviderInitAction Value}

theorem initially : Paced N provider policy now
    (.begin (.new (provider.config policy) now) : InitTrace Value) where
  began := rfl
  uncancelled := rfl
  governed := rfl
  waited index begun length waited := by cases waited
  inPace := by
    refine ⟨rfl, ?_⟩
    simp [cutTotal, delayTotal, begin, new]

theorem moves (paced : t.Paced N provider policy now) (began : next.init.start = t.init.start)
    (uncancelled : next.init.cancelled = t.init.cancelled)
    (governed : next.init.backoff.policy = t.init.backoff.policy)
    (waits : next.init.waits = t.init.waits) (inPace : next.InPace N policy) :
    next.Paced N provider policy now where
  began := began.trans paced.began
  uncancelled := uncancelled.trans paced.uncancelled
  governed := governed.trans paced.governed
  waited := waits ▸ paced.waited
  inPace := inPace

theorem step (paced : t.Paced N provider policy now) (permitted : stream.Permits N t action)
    (h : t.step (provider.config policy) action = some next) :
    next.Paced N provider policy now := by
  obtain ⟨init, move, rfl⟩ := move_of_step h
  have inPace := paced.inPace
  cases move with
  | attempts here early =>
    simp only [InPace, here] at inPace
    exact paced.moves rfl rfl rfl rfl inPace
  | @fails error here =>
    simp only [InPace, here] at inPace
    cases error with
    | fatal msg => exact paced.moves rfl rfl rfl rfl trivial
    | retryable msg => exact paced.moves rfl rfl rfl rfl inPace
  | cancelsAttempt here cancelled | cancelsWait here cancelled =>
    rw [paced.uncancelled] at cancelled
    cases cancelled
  | @waits msg here early =>
    simp only [InPace, here] at inPace
    obtain ⟨delay, passed⟩ := inPace
    have length : t.init.sleepFor (provider.config policy) =
        min (delayAfter N policy t.init.waits.length)
          (now + policy.providerInitTimeout - t.init.now) := by
      rw [sleepFor, deadline, delay, paced.began]
      rfl
    refine ⟨paced.began, paced.uncancelled, paced.governed, ?_,
      t.init.waits.length, List.length_append, delay, ?_⟩
    · intro i begun lasts waited
      rcases Threads.concat_cases waited with old | ⟨rfl, new⟩
      · exact paced.waited i begun lasts old
      · cases new
        exact length
    · rw [length, ← paced.began]
      exact cut_wait_le passed
  | @wakes wakeAt delay here reached =>
    simp only [InPace, here] at inPace
    obtain ⟨count, counted, cur, passed⟩ := inPace
    have drawn : delay = N policy (delayAfter N policy count) := by
      rw [← cur, ← paced.governed]
      exact permitted
    refine paced.moves rfl rfl rfl rfl ⟨?_, ?_⟩
    · show delay = delayAfter N policy t.init.waits.length
      rw [counted, delayAfter_succ, drawn]
    · show t.init.start + cutTotal N policy t.init.waits.length ≤ _
      rw [counted]
      exact passed.trans reached
  | @ticks elapsed =>
    have later : t.init.now ≤ t.init.now + elapsed := Nat.le_add_right _ _
    refine paced.moves rfl rfl rfl rfl ?_
    cases point : t.init.point with
    | loop | attempting | retryable _ =>
      simp only [InPace, point, note] at inPace ⊢
      exact ⟨inPace.1, inPace.2.trans later⟩
    | waiting wakeAt =>
      simp only [InPace, point, note] at inPace ⊢
      exact inPace
    | initialised _ | failed _ | panicked => simp only [InPace, note]
  | cancels =>
    obtain ⟨time, given, -⟩ := permitted
    cases given
  | _ => exact paced.moves rfl rfl rfl rfl trivial

theorem reaches {acts}
    (run : GuardedRun (InitTrace.step (provider.config policy))
      (stream.Permits N) (.begin (.new (provider.config policy) now)) acts
      t) :
    t.Paced N provider policy now :=
  run.invariant initially fun paced permitted h =>
    paced.step permitted h

end InitTrace.Paced

/-! ### Policies that cannot be told apart -/

/-- The two policies have the same timeout, and the same delays as far as the
timeout lets them be seen. -/
structure AgreeInTime (N : RestartPolicy → Duration → Duration)
    (policy other : RestartPolicy) : Prop where
  timeout : policy.providerInitTimeout = other.providerInitTimeout
  delays : ∀ count, cutTotal N policy count = cutTotal N other count

theorem AgreeInTime.symm (agree : AgreeInTime N policy other) :
    AgreeInTime N other policy where
  timeout := agree.timeout.symm
  delays count := (agree.delays count).symm

/-- The same state, with another backoff. -/
def ProviderInitState.withBackoff (s : ProviderInitState Value)
    (backoff : BackoffController) : ProviderInitState Value :=
  { s with backoff := backoff }

def InitTrace.withBackoff (t : InitTrace Value) (backoff : BackoffController) : InitTrace Value :=
  { t with init := t.init.withBackoff backoff }

theorem InitTrace.note_withBackoff (t : InitTrace Value) (init : ProviderInitState Value)
    (before after : BackoffController) (action : ProviderInitAction Value) :
    (t.withBackoff before).note (init.withBackoff after) action =
      (t.note init action).withBackoff after := by
  cases action with
  | loop =>
    simp only [note, ProviderInitState.withBackoff]
    split <;> rfl
  | _ => rfl

/-- Neither does what the stream permits, except for the delay that is drawn. -/
theorem AttemptStream.permits_withBackoff {t backoff action} (permitted : stream.Permits N t action)
    (stays : ∀ delay, action ≠ .waitElapsed delay) :
    stream.Permits N (t.withBackoff backoff) action := by
  cases action with
  | waitElapsed delay => exact absurd rfl (stays delay)
  | _ => exact permitted

section WithBackoff

variable (s : ProviderInitState Value) (backoff : BackoffController)

@[simp] theorem ProviderInitState.withBackoff_point :
    (s.withBackoff backoff).point = s.point := rfl

@[simp] theorem ProviderInitState.withBackoff_now :
    (s.withBackoff backoff).now = s.now := rfl

@[simp] theorem ProviderInitState.withBackoff_cancelled :
    (s.withBackoff backoff).cancelled = s.cancelled := rfl

variable (provider)
  (timeout : policy.providerInitTimeout = other.providerInitTimeout)

include timeout

theorem ProviderInitState.deadline_withBackoff :
    (s.withBackoff backoff).deadline (provider.config other) =
      s.deadline (provider.config policy) := by
  simp only [deadline, FallibleProvider.config, timeout]
  rfl

theorem ProviderInitState.timeoutFailure_withBackoff (message : String)
    (source : ProviderInitSourceKind) :
    (s.withBackoff backoff).timeoutFailure (provider.config other) message
        source =
      s.timeoutFailure (provider.config policy) message source := by
  simp only [timeoutFailure, FallibleProvider.config, timeout]
  rfl

theorem ProviderInitState.timeOut_withBackoff :
    (s.withBackoff backoff).timeOut (provider.config other) =
      (s.timeOut (provider.config policy)).withBackoff backoff := by
  simp only [timeOut, timeoutFailure_withBackoff provider s backoff timeout]
  rfl

end WithBackoff

/-- A step that draws no delay, under the other policy: it is the same, as long
as a wait it begins has the same length. -/
theorem ProviderInitMove.withBackoff {s after : ProviderInitState Value}
    {action : ProviderInitAction Value} {backoff : BackoffController}
    (timeout : policy.providerInitTimeout = other.providerInitTimeout)
    (move : ProviderInitMove (provider.config policy) s action after)
    (stays : ∀ delay, action ≠ .waitElapsed delay)
    (sleeps : ∀ message, s.point = .retryable message →
      (s.withBackoff backoff).sleepFor (provider.config other) =
        s.sleepFor (provider.config policy)) :
    ProviderInit.step (provider.config other) (s.withBackoff backoff)
        action =
      some (after.withBackoff backoff) := by
  have deadline := s.deadline_withBackoff provider backoff timeout
  cases move with
  | expires here late | timesOut here late =>
    simp [ProviderInit.step, here, deadline, late, s.timeOut_withBackoff provider backoff timeout]
  | attempts here early =>
    simp only [ProviderInit.step, withBackoff_point, withBackoff_now, here, deadline,
      Nat.not_le.mpr early, if_false]
    rfl
  | succeeds here | panics here =>
    simp only [ProviderInit.step, withBackoff_point, here]
    rfl
  | @fails error here =>
    simp only [ProviderInit.step, withBackoff_point, here]
    cases error <;> rfl
  | cancelsAttempt here cancelled | cancelsWait here cancelled =>
    simp only [ProviderInit.step, withBackoff_point, withBackoff_cancelled, here, cancelled,
      if_true]
    rfl
  | givesUp here late =>
    simp only [ProviderInit.step, checkDeadline, withBackoff_point, withBackoff_now,
      here, deadline, late, if_true,
      s.timeoutFailure_withBackoff provider backoff timeout]
    rfl
  | @waits message here early =>
    simp only [ProviderInit.step, checkDeadline, withBackoff_point, withBackoff_now,
      here, deadline, Nat.not_le.mpr early, if_false, sleeps message here]
    rfl
  | @wakes wakeAt delay here reached => exact absurd rfl (stays delay)
  | ticks | cancels => rfl

/-- Initialisations at the same place wait for equally long. -/
theorem sleepFor_withBackoff (agree : AgreeInTime N policy other) {t : InitTrace Value}
    {backoff : BackoffController} {msg : String} (paced : t.Paced N provider policy now)
    (twin : (t.withBackoff backoff).Paced N provider other now)
    (here : t.init.point = .retryable msg) :
    (t.init.withBackoff backoff).sleepFor (provider.config other) =
      t.init.sleepFor (provider.config policy) := by
  have inPace := paced.inPace
  have twinPace := twin.inPace
  simp only [InitTrace.InPace, here] at inPace
  simp only [InitTrace.InPace, InitTrace.withBackoff, withBackoff_point, here] at twinPace
  obtain ⟨delay, passed⟩ := inPace
  obtain ⟨changed, -⟩ := twinPace
  have before := agree.delays t.init.waits.length
  have after := agree.delays (t.init.waits.length + 1)
  simp only [cutTotal, ← agree.timeout] at before after passed
  rw [sleepFor, sleepFor, changed, delay,
    t.init.deadline_withBackoff provider backoff agree.timeout]
  exact (cut_wait_eq passed before after).symm

/-- A run under one policy is, up to the backoff, a run under the other. -/
theorem run_withBackoff (agree : AgreeInTime N policy other)
    {acts : List (ProviderInitAction Value)} {t : InitTrace Value}
    (run : GuardedRun (InitTrace.step (provider.config policy))
      (stream.Permits N) (.begin (.new (provider.config policy) now)) acts
      t) :
    ∃ (acts : List (ProviderInitAction Value))
      (backoff : BackoffController),
      GuardedRun (InitTrace.step (provider.config other)) (stream.Permits N)
        (.begin (.new (provider.config other) now)) acts
        (t.withBackoff backoff) := by
  induction run with
  | nil => exact ⟨[], .new other, .nil⟩
  | @snoc acts t next action earlier permitted h
      ih =>
    obtain ⟨twin, backoff, run⟩ := ih
    have paced := InitTrace.Paced.reaches earlier
    have twinPaced := InitTrace.Paced.reaches run
    obtain ⟨init, move, rfl⟩ := InitTrace.move_of_step h
    by_cases draws : ∃ delay, action = .waitElapsed delay
    · obtain ⟨delay, rfl⟩ := draws
      cases move with
      | wakes here reached =>
        -- each policy draws a delay of its own
        let drawn := N backoff.policy backoff.currentDelay
        have draws : stream.Permits N (t.withBackoff backoff) (.waitElapsed drawn) := rfl
        refine ⟨twin ++ [.waitElapsed drawn], backoff.recordFailure drawn, run.snoc draws ?_⟩
        simp only [InitTrace.step, InitTrace.withBackoff, ProviderInit.step, withBackoff_point,
          withBackoff_now, here, reached, if_true]
        rfl
    · have stays : ∀ delay, action ≠ .waitElapsed delay := by
        intro delay drawn
        exact draws ⟨delay, drawn⟩
      have same := move.withBackoff agree.timeout stays fun msg here =>
        sleepFor_withBackoff agree paced twinPaced here
      refine ⟨twin ++ [action], backoff, run.snoc
        (AttemptStream.permits_withBackoff permitted stays) ?_⟩
      rw [← InitTrace.note_withBackoff, InitTrace.step]
      exact Option.map_eq_some_iff.mpr ⟨_, same, rfl⟩

theorem initialises_of_agree (agree : AgreeInTime N policy other)
    (initialises : Initialises N provider policy stream now observation) :
    Initialises N provider other stream now observation := by
  obtain ⟨acts, t, res, run, closed, rfl⟩ := initialises
  obtain ⟨twin, backoff, twinRun⟩ := run_withBackoff agree run
  exact ⟨twin, t.withBackoff backoff, res, twinRun, closed, rfl⟩

/-! ### Policies that can be told apart -/

/-- A provider whose every attempt is refused at once. -/
def refusing : AttemptStream Value :=
  { attempt := fun _ => .answers 0 (.error (.retryable "refused")), panic := fun _ => none }

/-- A refused attempt and the wait after it, as fast as possible. -/
theorem refused_round (here : t.init.point = .loop)
    (early : t.init.now < t.init.deadline (provider.config policy)) :
    ∃ (acts : List (ProviderInitAction Value)) (next : InitTrace Value),
      GuardedRun (step (provider.config policy)) (refusing.Permits N)
          t acts next ∧
        next.init.point = .loop ∧ next.init.start = t.init.start ∧
        next.init.now = t.init.now + t.init.sleepFor (provider.config policy) ∧
        next.init.waits =
          t.init.waits ++ [(t.init.now, t.init.sleepFor (provider.config policy))] := by
  let config := provider.config policy
  let sleep := t.init.sleepFor config
  let first : InitTrace Value :=
    { t with init := { t.init with point := .attempting }, starts := t.starts ++ [t.init.now] }
  let second : InitTrace Value :=
    { first with
      init := first.init.noteError config (.retryable "refused")
      answers := first.answers ++ [.error (.retryable "refused")] }
  let third : InitTrace Value :=
    { second with
      init :=
        { second.init with
          lastRetryDelay := some sleep
          waits := t.init.waits ++ [(t.init.now, sleep)]
          point := .waiting (t.init.now + sleep) } }
  let fourth : InitTrace Value :=
    { third with init := { third.init with now := t.init.now + sleep } }
  let drawn := N t.init.backoff.policy t.init.backoff.currentDelay
  let last : InitTrace Value :=
    { fourth with
      init :=
        { fourth.init with backoff := t.init.backoff.recordFailure drawn, point := .loop } }
  have starts : t.step config .loop = some first := by
    simp [step, ProviderInit.step, here, Nat.not_le.mpr early, config, note, first]
  have refused : (refusing : AttemptStream Value).Permits N first
      (.attemptFails (.retryable "refused")) := by
    refine ⟨t.init.now, ?_, rfl, Nat.le_refl _⟩
    simp [first]
  have fails : first.step config (.attemptFails (.retryable "refused")) = some second := rfl
  have waits : second.step config .checkDeadline = some third := by
    have moves : ProviderInit.step config second.init .checkDeadline =
        some third.init := congrArg some (if_neg (Nat.not_le.mpr early))
    rw [step, moves]
    rfl
  have ticks : third.step config (.tick sleep) = some fourth := rfl
  have wakes : fourth.step config (.waitElapsed drawn) = some last := by
    have moves : ProviderInit.step config fourth.init (.waitElapsed drawn) =
        some last.init := if_pos (Nat.le_refl _)
    rw [step, moves]
    rfl
  refine ⟨[.loop, .attemptFails (.retryable "refused"), .checkDeadline,
    .tick sleep, .waitElapsed drawn], last, ?_, rfl, rfl, rfl, rfl⟩
  exact .cons trivial starts <| .cons refused fails <| .cons trivial waits <|
    .cons trivial ticks <| .cons rfl wakes .nil

theorem InitTrace.step_expires {cfg : ProviderInitConfig} {t : InitTrace Value}
    (here : t.init.point = .loop) (late : t.init.deadline cfg ≤ t.init.now) :
    t.step cfg .loop = some { t with init := t.init.timeOut cfg } := by
  simp [step, ProviderInit.step, here, late, note, timeOut]

/-- From the top of the loop, the initialisation can be left alone until it
times out. -/
theorem times_out (N : RestartPolicy → Duration → Duration) (provider : FallibleProvider)
    (policy : RestartPolicy) (stream : AttemptStream Value) {t : InitTrace Value}
    (here : t.init.point = .loop) (started : t.init.start ≤ t.init.now) :
    ∃ (acts : List (ProviderInitAction Value)) (last : InitTrace Value)
      (failure : ProviderInitFailure) (message : String),
      GuardedRun (step (provider.config policy)) (stream.Permits N)
          t acts last ∧
        last.init.waits = t.init.waits ∧ last.init.point = .failed failure ∧
        failure.error = .timeout provider.provider policy.providerInitTimeout message := by
  let later : InitTrace Value :=
    { t with init := { t.init with now := t.init.now + policy.providerInitTimeout } }
  have ticks :
      t.step (provider.config policy) (.tick policy.providerInitTimeout) = some later := rfl
  have late : later.init.deadline (provider.config policy) ≤ later.init.now :=
    Nat.add_le_add_right started _
  have expires : later.step (provider.config policy) .loop = some
        { later with init := later.init.timeOut (provider.config policy) } :=
    step_expires here late
  exact ⟨[.tick policy.providerInitTimeout, .loop], _, _, _,
    .cons trivial ticks (.cons trivial expires .nil), rfl, rfl, rfl⟩

theorem InitTrace.Paced.early_of_time {t : InitTrace Value} {total : Duration}
    (paced : t.Paced N provider policy now) (time : t.init.now = now + total)
    (early : total < policy.providerInitTimeout) :
    t.init.now < t.init.deadline (provider.config policy) := by
  rw [deadline, paced.began, time]
  exact Nat.add_lt_add_left early now

/-- The wait that begins as early as it can. -/
theorem InitTrace.Paced.sleepFor_eq {t : InitTrace Value} {count : Nat}
    (paced : t.Paced N provider policy now) (here : t.init.point = .loop)
    (counted : t.init.waits.length = count) (time : t.init.now = now + delayTotal N policy count) :
    t.init.sleepFor (provider.config policy) = min (delayAfter N policy count)
        (policy.providerInitTimeout - delayTotal N policy count) := by
  have inPace := paced.inPace
  simp only [InPace, here, counted] at inPace
  have remaining : t.init.deadline (provider.config policy) -
      t.init.now = policy.providerInitTimeout - delayTotal N policy count := by
    rw [deadline, paced.began, time]
    exact Nat.add_sub_add_left _ _ _
  rw [sleepFor, inPace.1, remaining]

/-- As fast as possible, the loop comes back to its top after each delay. -/
theorem reaches_round (Value : Type) (N : RestartPolicy → Duration → Duration)
    (provider : FallibleProvider) (policy : RestartPolicy) (now : Instant)
    {count : Nat} (early : delayTotal N policy count < policy.providerInitTimeout) :
    ∃ (acts : List (ProviderInitAction Value)) (t : InitTrace Value),
      GuardedRun (InitTrace.step (provider.config policy)) (refusing.Permits N)
          (.begin (.new (provider.config policy) now)) acts t ∧
        t.init.point = .loop ∧ t.init.waits.length = count ∧
        t.init.now = now + delayTotal N policy count := by
  induction count with
  | zero => exact ⟨[], _, .nil, rfl, rfl, rfl⟩
  | succ count ih =>
    have earlier : delayTotal N policy count < policy.providerInitTimeout :=
      Nat.lt_of_le_of_lt (Nat.le_add_right _ _) early
    obtain ⟨acts, t, run, here, counted, time⟩ := ih earlier
    have paced := InitTrace.Paced.reaches run
    obtain ⟨more, next, round, again, -, later, waits⟩ :=
      refused_round here (paced.early_of_time time earlier)
    refine ⟨acts ++ more, next, run.append round, again, ?_, ?_⟩
    · rw [waits, List.length_append, counted]
      rfl
    · have uncut :
          delayAfter N policy count ≤ policy.providerInitTimeout - delayTotal N policy count :=
        Nat.le_sub_of_add_le' early.le
      rw [later, paced.sleepFor_eq here counted time, time, Nat.min_eq_left uncut]
      exact Nat.add_assoc _ _ _

/-- A wait that both policies must have, if they cannot be told apart. -/
theorem shows_wait (Value : Type) (N : RestartPolicy → Duration → Duration)
    (provider : FallibleProvider) (policy : RestartPolicy) (now : Instant)
    {count : Nat} (early : delayTotal N policy count < policy.providerInitTimeout) :
    ∃ observation : InitObservation Value,
      Initialises N provider policy refusing now observation ∧
        observation.waits[count]? = some (now + delayTotal N policy count,
          min (delayAfter N policy count)
            (policy.providerInitTimeout - delayTotal N policy count)) := by
  obtain ⟨acts, t, run, here, counted, time⟩ := reaches_round Value N provider policy now early
  have paced := InitTrace.Paced.reaches run
  obtain ⟨more, next, round, again, start, later, waits⟩ :=
    refused_round here (paced.early_of_time time early)
  have started : next.init.start ≤ next.init.now := by
    rw [start, later, paced.began, time, Nat.add_assoc]
    exact Nat.le_add_right _ _
  obtain ⟨rest, last, failure, msg, ends, kept, failed, -⟩ :=
    times_out N provider policy refusing again started
  refine ⟨_, ⟨_, last, .error failure.error, (run.append round).append ends, ?_, rfl⟩, ?_⟩
  · rw [closureResult, failed]
  · show last.init.waits[count]? = _
    rw [kept, waits, ← counted, List.getElem?_concat_length, counted, time,
      paced.sleepFor_eq here counted time]

/-- So must both have this timeout. -/
theorem shows_timeout (Value : Type) (N : RestartPolicy → Duration → Duration)
    (provider : FallibleProvider) (policy : RestartPolicy) (now : Instant) :
    ∃ (observation : InitObservation Value) (msg : String),
      Initialises N provider policy refusing now observation ∧ observation.result = .error
            (.timeout provider.provider policy.providerInitTimeout msg) := by
  let initial : InitTrace Value := .begin (.new (provider.config policy) now)
  have here : initial.init.point = .loop := rfl
  obtain ⟨acts, last, failure, msg, run, -, failed, timedOut⟩ :=
    times_out N provider policy refusing here le_rfl
  refine ⟨_, msg, ⟨acts, last, .error failure.error, run, ?_, rfl⟩, ?_⟩
  · rw [closureResult, failed]
  · rw [timedOut]
    rfl

/-- An attempt that is refused does not panic. -/
theorem refusing_permits {t : InitTrace Value} {action : ProviderInitAction Value}
    (permitted : refusing.Permits N t action) : refusing.environment.Permits t action := by
  cases action with
  | attemptPanics =>
    obtain ⟨start, -, panic, panics, -⟩ := permitted
    cases panics
  | waitElapsed delay => trivial
  | attemptTimesOut => exact permitted.1
  | _ => exact permitted

/-- A timeout reports the timeout of the policy. -/
theorem timeout_of_initialises {observation : InitObservation Value} {name msg : String}
    {timeout : Duration} (initialises : Initialises N provider policy refusing now observation)
    (timedOut : observation.result = .error (.timeout name timeout msg)) :
    timeout = policy.providerInitTimeout := by
  obtain ⟨acts, t, res, run, closed, rfl⟩ := initialises
  have accounted := InitTrace.Accounted.reaches
    (run.mono fun _ _ permitted => refusing_permits permitted)
  have stands := accounted.stands
  cases res with
  | ok value => cases timedOut
  | error error =>
    cases timedOut
    cases point : t.init.point with
    | failed failure =>
      simp only [closureResult, point, Option.some.injEq, Except.error.injEq] at closed
      simp only [InitTrace.Stands, point] at stands
      rcases stands with ⟨-, text, -, -, rfl⟩ | ⟨-, -, -, rfl⟩ | ⟨messages, -, -, report, -⟩
      · cases closed
      · cases closed
      · cases report.error.symm.trans closed
        rfl
    | panicked => simp only [InitTrace.Stands, point] at stands
    | _ => simp [closureResult, point] at closed

/-- Policies that a provider with refused attempts does not tell apart agree in
time. -/
theorem agree_of_initialises
    (same : ∀ observation : InitObservation Value,
      Initialises N provider policy refusing now observation →
        Initialises N provider other refusing now observation) :
    AgreeInTime N policy other := by
  have timeout : policy.providerInitTimeout = other.providerInitTimeout := by
    obtain ⟨observation, msg, shown, timedOut⟩ := shows_timeout Value N provider policy now
    exact timeout_of_initialises (same observation shown) timedOut
  refine ⟨timeout, ?_⟩
  intro count
  induction count with
  | zero => simp [cutTotal, delayTotal]
  | succ count ih =>
    simp only [cutTotal, ← timeout] at ih ⊢
    rcases Nat.lt_or_ge (delayTotal N policy count) policy.providerInitTimeout with early | late
    · obtain ⟨observation, shown, waited⟩ := shows_wait Value N provider policy now early
      obtain ⟨acts, t, res, run, -, rfl⟩ := same observation shown
      have length := (InitTrace.Paced.reaches run).waited _ _ _ waited
      rw [← timeout, Nat.add_sub_add_left] at length
      rw [delayTotal, delayTotal, ← total_eq_of_cut early ih]
      exact cut_total_eq early length
    · rw [delayTotal, delayTotal]
      exact cut_total_late late ih

/-! ### Lazy and eager initialisation -/

/-- The lazy entry points of every provider behave as its eager initialisation
does, for every stream of attempts, exactly when the policy of the daemon agrees
in time with the default policy. -/
theorem lazy_follows_policy_iff (Value : Type) (N : RestartPolicy → Duration → Duration)
    (provider : FallibleProvider) (policy : RestartPolicy) (now : Instant) :
    (∀ (entry : ProviderEntryPoint) (stream : AttemptStream Value)
        (observation : InitObservation Value), entry.isLazy = true →
        (Resolves N provider entry policy stream now observation ↔
          Resolves N provider .init policy stream now observation)) ↔
      AgreeInTime N policy .default := by
  constructor
  · intro alike
    apply agree_of_initialises
    intro observation eager
    have lazily := (alike .resolve refusing observation rfl).mpr
      (resolves_iff_initialises.mpr eager)
    exact resolves_iff_initialises.mp lazily
  · intro agree entry stream observation isLazy
    have policyOf : entry.policy policy = .default := by
      cases entry with
      | init => cases isLazy
      | _ => rfl
    rw [resolves_iff_initialises, resolves_iff_initialises, policyOf]
    constructor
    · exact initialises_of_agree agree.symm
    · exact initialises_of_agree agree

/-- A policy that gives providers a minute. -/
def patientPolicy : RestartPolicy :=
  { RestartPolicy.default with providerInitTimeout := fromSecs 60 }

/-- A provider function that can fail. -/
def connect : FallibleProvider :=
  { typeName := "Database"
    provider := "connect"
    fatalSource := .userProviderFatal
    retryableTimeoutSource := .userProviderRetryableTimeout }

/-- Doubling up to the maximum, without jitter. -/
def doubling (policy : RestartPolicy) (delay : Duration) : Duration :=
  min (2 * delay) policy.maxDelay

/-- In a daemon with that policy, a provider that refuses every attempt has a
minute if it is initialised at startup.  Resolved from a service, it times out
after the five seconds of the default policy. -/
theorem lazy_ignores_policy :
    ∃ (eager lazily : InitObservation Nat) (one two : String),
      Resolves doubling connect .init patientPolicy refusing 0 eager ∧
        eager.result = .error (.timeout "connect" (fromSecs 60) one) ∧
        Resolves doubling connect .resolve patientPolicy refusing 0 lazily ∧
        lazily.result = .error (.timeout "connect" (fromSecs 5) two) ∧
        ¬ Resolves doubling connect .resolve patientPolicy refusing 0 eager := by
  obtain ⟨eager, one, atStartup, minute⟩ :=
    shows_timeout Nat doubling connect patientPolicy 0
  obtain ⟨lazily, two, inService, seconds⟩ :=
    shows_timeout Nat doubling connect .default 0
  refine ⟨eager, lazily, one, two, resolves_iff_initialises.mpr atStartup,
    minute, resolves_iff_initialises.mpr inService, seconds, ?_⟩
  intro resolves
  have same := timeout_of_initialises (resolves_iff_initialises.mp resolves)
    minute
  exact absurd same (by decide)

end ServiceDaemon
