/-
Purpose: The initialisation of a fallible provider against any sequence of
  attempt outcomes and any time of cancellation: when attempts start, how long
  waits are, which result comes out, and what a timeout reports.
Main exports: InitTrace.AnsweredBy, InitTrace.Accounted, own_steps_le,
  InitTrace.Specified, provider_init_specified
-/
import ServiceDaemon.Core.BoundedClock
import ServiceDaemon.Lib.Threads

namespace ServiceDaemon

open AsyncLib StepSystem InitTrace

/-!
The specification is about every run of the loop in every environment.

[SRC core/provider_init.rs]
[SRC docs/guide/resilience.md]
-/

variable {Value : Type}

theorem InitEnvironment.Cancels.mono {environment : InitEnvironment Value} {now later : Instant}
    (cancels : environment.Cancels now) (le : now ≤ later) : environment.Cancels later := by
  obtain ⟨time, given, reached⟩ := cancels
  exact ⟨time, given, Nat.le_trans reached le⟩

/-! ### The answers of the environment -/

/-- The attempt with this number was started, and has this result by `time`. -/
def InitTrace.AnsweredBy (environment : InitEnvironment Value) (t : InitTrace Value) (i : Nat)
    (res : Except ProviderError Value) (time : Instant) : Prop :=
  ∃ start after, t.starts[i]? = some start ∧
    environment.attempt i = .answers after res ∧ start + after ≤ time

/-- All attempts before this one ended with a retryable error. -/
def InitTrace.RetryableBefore (environment : InitEnvironment Value)
    (t : InitTrace Value) (i : Nat) : Prop :=
  ∀ earlier < i, ∃ msg,
    t.AnsweredBy environment earlier (.error (.retryable msg)) t.init.now

namespace InitTrace.AnsweredBy

variable {environment : InitEnvironment Value} {t next : InitTrace Value}
  {i : Nat} {res other : Except ProviderError Value} {time later : Instant}

theorem mono (answered : t.AnsweredBy environment i res time)
    (starts : t.starts <+: next.starts) (le : time ≤ later) :
    next.AnsweredBy environment i res later := by
  obtain ⟨start, after, started, outcome, ready⟩ := answered
  refine ⟨start, after, ?_, outcome, ready.trans le⟩
  obtain ⟨more, grown⟩ := starts
  rw [← grown]
  obtain ⟨bound, -⟩ := List.getElem?_eq_some_iff.mp started
  rw [List.getElem?_append_left bound]
  exact started

theorem unique (one : t.AnsweredBy environment i res time)
    (two : t.AnsweredBy environment i other later) : res = other := by
  obtain ⟨-, after, -, outcome, -⟩ := one
  obtain ⟨-, later, -, same, -⟩ := two
  rw [outcome] at same
  cases same
  rfl

theorem started (answered : t.AnsweredBy environment i res time) :
    i < t.starts.length := by
  obtain ⟨start, -, started, -⟩ := answered
  exact (List.getElem?_eq_some_iff.mp started).1

theorem of_ready (ready : environment.Ready t res) :
    t.AnsweredBy environment (t.starts.length - 1) res t.init.now := by
  obtain ⟨start, last, ready⟩ := ready
  rw [List.getLast?_eq_getElem?] at last
  cases outcome : environment.attempt (t.starts.length - 1) with
  | answers after answer =>
    rw [outcome] at ready
    obtain ⟨rfl, ready⟩ := ready
    exact ⟨start, after, last, outcome, ready⟩
  | never =>
    rw [outcome] at ready
    exact ready.elim

/-- An attempt that is pending has no result by any time until now. -/
theorem not_of_pending (pending : environment.Pending t) (le : time ≤ t.init.now) :
    ¬ t.AnsweredBy environment (t.starts.length - 1) res time := by
  rintro ⟨start, after, started, outcome, ready⟩
  obtain ⟨running, last, pending⟩ := pending
  rw [List.getLast?_eq_getElem?] at last
  cases started.symm.trans last
  rw [outcome] at pending
  exact Nat.not_le.mpr pending (ready.trans le)

end InitTrace.AnsweredBy

theorem initial_of_returned {cfg : ProviderInitConfig}
    {start : ClockInstant} {initial : ProviderInitState Value}
    (representable : initFallibleWithSource cfg start = .returned initial) :
    initial = .new cfg start.nanos := by
  unfold initFallibleWithSource at representable
  split at representable <;> cases representable
  rfl

/-! ### The bookkeeping of retryable errors -/

/-- Attempts that all ended with a retryable error. -/
def retryables (messages : List String) : List (Except ProviderError Value) :=
  messages.map fun msg => .error (.retryable msg)

theorem length_retryables (messages : List String) :
    (retryables messages : List (Except ProviderError Value)).length = messages.length :=
  List.length_map _

theorem retryables_concat (messages : List String) (msg : String) :
    retryables (messages ++ [msg]) = retryables messages ++
        [(.error (.retryable msg) : Except ProviderError Value)] :=
  List.map_append

/-- The last four of the messages. -/
def recentErrors (messages : List String) : List String :=
  messages.drop (messages.length - providerInitRecentErrorLimit)

theorem recentErrors_concat (messages : List String) (msg : String) :
    pushRecentRetryableError (recentErrors messages) msg = recentErrors (messages ++ [msg]) := by
  unfold pushRecentRetryableError recentErrors providerInitRecentErrorLimit
  rw [List.length_drop, List.length_append, List.length_singleton]
  split
  · rename_i full
    have more : messages.length + 1 - 4 = messages.length - 4 + 1 := by omega
    rw [List.tail_drop, more, List.drop_append_of_le_length (by omega)]
  · rename_i room
    have none : messages.length - 4 = 0 := by omega
    have still : messages.length + 1 - 4 = 0 := by omega
    rw [none, still]
    rfl

/-- The running variables of the loop after these retryable errors. -/
structure ProviderInitState.Notes (s : ProviderInitState Value)
    (messages : List String) : Prop where
  attempts : s.retryAttempts = min messages.length u32Max
  last : s.lastRetryableError = messages.getLast?
  recent : s.recentRetryableErrors = recentErrors messages

/-- A timeout after these retryable errors. -/
def TimeoutReport (cfg : ProviderInitConfig) (messages : List String)
    (failure : ProviderInitFailure) : Prop :=
  ∃ diagnostics : ProviderInitRetryDiagnostics,
    failure =
        { source :=
            if messages = [] then .timeout else cfg.retryableTimeoutSource
          error :=
            .timeout cfg.provider cfg.policy.providerInitTimeout
              (messages.getLast?.getD
                "provider initialization attempt did not complete before timeout")
          retryDiagnostics := some diagnostics } ∧
      diagnostics.attempts = min messages.length u32Max ∧
      diagnostics.recentErrors = recentErrors messages

theorem TimeoutReport.error {cfg messages failure} (report : TimeoutReport cfg messages failure) :
    failure.error = .timeout cfg.provider cfg.policy.providerInitTimeout
        (messages.getLast?.getD
          "provider initialization attempt did not complete before timeout") := by
  obtain ⟨diagnostics, rfl, -⟩ := report
  rfl

namespace ProviderInitState.Notes

variable {cfg : ProviderInitConfig} {s : ProviderInitState Value}
  {messages : List String}

theorem retryable (cfg : ProviderInitConfig) (notes : s.Notes messages) (msg : String) :
    (s.noteError cfg (.retryable msg)).Notes
      (messages ++ [msg]) where
  attempts := by
    have before := notes.attempts
    simp only [noteError, List.length_append, List.length_singleton]
    omega
  last := by simp [noteError]
  recent := by
    simp only [noteError, notes.recent]
    exact recentErrors_concat messages msg

theorem report_timeOut (notes : s.Notes messages) :
    TimeoutReport cfg messages
      (s.timeoutFailure cfg (s.lastRetryableError.getD
          "provider initialization attempt did not complete before timeout")
        (s.timeoutSource cfg)) := by
  refine ⟨{ attempts := s.retryAttempts
            elapsed := s.now - s.start
            lastDelay := s.lastRetryDelay
            recentErrors := s.recentRetryableErrors },
    ?_, notes.attempts, notes.recent⟩
  unfold timeoutFailure timeoutSource
  rw [notes.last]
  cases messages with
  | nil => rfl
  | cons first rest => simp [List.getLast?_cons]

theorem report_retryable (notes : s.Notes messages) (last : messages.getLast? = some msg) :
    TimeoutReport cfg messages
      (s.timeoutFailure cfg msg cfg.retryableTimeoutSource) := by
  refine ⟨{ attempts := s.retryAttempts
            elapsed := s.now - s.start
            lastDelay := s.lastRetryDelay
            recentErrors := s.recentRetryableErrors },
    ?_, notes.attempts, notes.recent⟩
  have some : messages ≠ [] := by
    rintro rfl
    cases last
  unfold timeoutFailure
  rw [last, if_neg some]
  rfl

end ProviderInitState.Notes

/-- A wait ends at the deadline or before. -/
theorem ProviderInitState.wakes_by_deadline (config : ProviderInitConfig)
    (s : ProviderInitState Value) (early : s.now < s.deadline config) :
    s.now + s.sleepFor config ≤ s.deadline config := by
  have cut : s.sleepFor config ≤ s.deadline config - s.now := Nat.min_le_right _ _
  calc s.now + s.sleepFor config
      ≤ s.now + (s.deadline config - s.now) := Nat.add_le_add_left cut _
    _ = s.deadline config := Nat.add_sub_cancel' early.le

/-! ### What a run keeps -/

/-- Where the initialisation stands after these answers. -/
def InitTrace.Stands (cfg : ProviderInitConfig)
    (environment : InitEnvironment Value) (t : InitTrace Value) : Prop :=
  match t.init.point with
  | .loop =>
    ∃ messages, t.answers = retryables messages ∧
      t.init.Notes messages ∧ t.starts.length = messages.length
  | .attempting =>
    ∃ messages, t.answers = retryables messages ∧
      t.init.Notes messages ∧ t.starts.length = messages.length + 1
  | .retryable msg =>
    ∃ messages, t.answers = retryables messages ∧
      t.init.Notes messages ∧ t.starts.length = messages.length ∧
      messages.getLast? = some msg
  | .waiting wakeAt =>
    ∃ messages, t.answers = retryables messages ∧
      t.init.Notes messages ∧ t.starts.length = messages.length ∧
      messages ≠ [] ∧
      ∃ wait ∈ t.init.waits.getLast?, wakeAt = wait.1 + wait.2
  | .initialised value =>
    ∃ messages, t.answers = retryables messages ++ [.ok value] ∧
      t.starts.length = messages.length + 1
  | .failed failure =>
    (∃ messages msg, t.answers = retryables messages ++ [.error (.fatal msg)] ∧
          t.starts.length = messages.length + 1 ∧
          failure = .fatal cfg.provider msg cfg.fatalSource) ∨
      (∃ messages, t.answers = retryables messages ∧ environment.Cancels t.init.now ∧
          failure = .cancelled cfg.provider) ∨
      ∃ messages, t.answers = retryables messages ∧ t.init.deadline cfg ≤ t.init.now ∧
        TimeoutReport cfg messages failure ∧
        ∀ i ≥ messages.length, ∀ res,
          ¬ t.AnsweredBy environment i res (t.init.deadline cfg)
  | .panicked => False

/-- The invariant of an initialisation that began at `start`. -/
structure InitTrace.Accounted (cfg : ProviderInitConfig)
    (environment : InitEnvironment Value) (start : Instant)
    (t : InitTrace Value) : Prop where
  began : t.init.start = start
  early : ∀ time ∈ t.starts,
    time < start + cfg.policy.providerInitTimeout
  bounded : ∀ wait ∈ t.init.waits,
    wait.1 + wait.2 ≤ start + cfg.policy.providerInitTimeout
  answered : ∀ (i : Nat) (res : Except ProviderError Value),
    t.answers[i]? = some res → t.AnsweredBy environment i res t.init.now
  cancels : t.init.cancelled = true → environment.Cancels t.init.now
  stands : t.Stands cfg environment

namespace InitTrace.Accounted

variable {cfg : ProviderInitConfig} {environment : InitEnvironment Value}
  {start : Instant} {t next : InitTrace Value} {a : ProviderInitAction Value}

theorem initially : Accounted cfg environment start
    (.begin (.new cfg start)) where
  began := rfl
  early time started := absurd started List.not_mem_nil
  bounded wait waited := absurd waited List.not_mem_nil
  answered index result answer := by cases answer
  cancels cancelled := by cases cancelled
  stands := ⟨[], rfl, ⟨rfl, rfl, rfl⟩, rfl⟩

theorem moves (accounted : t.Accounted cfg environment start) (starts : next.starts = t.starts)
    (answers : next.answers = t.answers) (waits : next.init.waits = t.init.waits)
    (began : next.init.start = t.init.start) (later : t.init.now ≤ next.init.now)
    (cancels : next.init.cancelled = true → environment.Cancels next.init.now)
    (stands : next.Stands cfg environment) :
    next.Accounted cfg environment start where
  began := began.trans accounted.began
  early := starts ▸ accounted.early
  bounded := waits ▸ accounted.bounded
  answered i res answer := by
    rw [answers] at answer
    exact (accounted.answered i res answer).mono (starts ▸ List.prefix_rfl) later
  cancels := cancels
  stands := stands

/-- The answer of the running attempt is taken. -/
theorem answers (accounted : t.Accounted cfg environment start) (here : t.init.point = .attempting)
    {res : Except ProviderError Value} (ready : environment.Ready t res)
    (starts : next.starts = t.starts) (answers : next.answers = t.answers ++ [res])
    (waits : next.init.waits = t.init.waits) (began : next.init.start = t.init.start)
    (later : t.init.now ≤ next.init.now)
    (cancels : next.init.cancelled = true → environment.Cancels next.init.now)
    (stands : next.Stands cfg environment) :
    next.Accounted cfg environment start where
  began := began.trans accounted.began
  early := starts ▸ accounted.early
  bounded := waits ▸ accounted.bounded
  answered index other answer := by
    have attempting := accounted.stands
    simp only [Stands, here] at attempting
    obtain ⟨messages, taken, -, started⟩ := attempting
    have length : t.answers.length = messages.length := by
      rw [taken, length_retryables]
    have before : t.AnsweredBy environment index other t.init.now := by
      rw [answers] at answer
      rcases Threads.concat_cases answer with old | ⟨rfl, rfl⟩
      · exact accounted.answered index other old
      · have answered := AnsweredBy.of_ready ready
        rwa [started, Nat.add_sub_cancel, ← length] at answered
    exact before.mono (starts ▸ List.prefix_rfl) later
  cancels := cancels
  stands := stands

/-- Time passes and the token may be cancelled: a deadline or a cancellation
that has passed stays passed. -/
theorem stands_later (stands : t.Stands cfg environment)
    {now : Instant} {cancelled : Bool} (later : t.init.now ≤ now) :
    Stands cfg environment
      { t with init := { t.init with now := now, cancelled := cancelled } } := by
  cases point : t.init.point with
  | loop | attempting | retryable _ | waiting _ =>
    simp only [Stands, point] at stands ⊢
    obtain ⟨messages, taken, notes, rest⟩ := stands
    exact ⟨messages, taken, ⟨notes.attempts, notes.last, notes.recent⟩, rest⟩
  | initialised value =>
    simp only [Stands, point] at stands ⊢
    exact stands
  | failed failure =>
    simp only [Stands, point] at stands ⊢
    rcases stands with fatal | ⟨messages, taken, cancels, given⟩ | ⟨messages, taken, late, report⟩
    · exact .inl fatal
    · exact .inr (.inl ⟨messages, taken, cancels.mono later, given⟩)
    · exact .inr (.inr ⟨messages, taken, late.trans later, report⟩)
  | panicked => simp only [Stands, point] at stands

/-- Nothing is missed where every attempt that was started has answered. -/
theorem none_missed {messages : List String} (started : t.starts.length = messages.length) :
    ∀ i ≥ messages.length, ∀ res : Except ProviderError Value,
      ¬ t.AnsweredBy environment i res (t.init.deadline cfg) := by
  intro i beyond res answered
  have bound := answered.started
  omega

theorem step (accounted : t.Accounted cfg environment start)
    (permitted : environment.Permits t a) (h : t.step cfg a = some next) :
    next.Accounted cfg environment start := by
  obtain ⟨init, move, rfl⟩ := move_of_step h
  have stands := accounted.stands
  cases move with
  | expires here late =>
    simp only [Stands, here] at stands
    obtain ⟨messages, taken, notes, started⟩ := stands
    refine accounted.moves rfl rfl rfl rfl le_rfl accounted.cancels ?_
    exact .inr (.inr ⟨messages, taken, late, notes.report_timeOut, none_missed started⟩)
  | timesOut here late =>
    simp only [Stands, here] at stands
    obtain ⟨messages, taken, notes, started⟩ := stands
    refine accounted.moves rfl rfl rfl rfl le_rfl accounted.cancels ?_
    refine .inr (.inr ⟨messages, taken, late, notes.report_timeOut, ?_⟩)
    -- The attempt that is running is the last one, and it is pending.
    intro i beyond res answered
    have bound : i < t.starts.length := answered.started
    have running : i = t.starts.length - 1 := by omega
    subst running
    exact AnsweredBy.not_of_pending permitted late answered
  | attempts here early =>
    simp only [Stands, here] at stands
    obtain ⟨messages, taken, notes, started⟩ := stands
    refine ⟨accounted.began, ?_, accounted.bounded, ?_, accounted.cancels,
      messages, taken, ⟨notes.attempts, notes.last, notes.recent⟩, ?_⟩
    · intro time mem
      rcases List.mem_append.mp mem with old | new
      · exact accounted.early time old
      · cases List.mem_singleton.mp new
        rw [← accounted.began]
        exact early
    · intro i res answer
      exact (accounted.answered i res answer).mono (List.prefix_append _ _) le_rfl
    · simpa [note] using started
  | @succeeds value here =>
    simp only [Stands, here] at stands
    obtain ⟨messages, taken, notes, started⟩ := stands
    refine accounted.answers here permitted rfl rfl rfl rfl le_rfl accounted.cancels ?_
    have extended : t.answers ++ [.ok value] = retryables messages ++ [.ok value] := by
      rw [taken]
    exact ⟨messages, extended, started⟩
  | @fails error here =>
    simp only [Stands, here] at stands
    obtain ⟨messages, taken, notes, started⟩ := stands
    cases error with
    | fatal msg =>
      refine accounted.answers here permitted rfl rfl rfl rfl le_rfl accounted.cancels ?_
      have extended : t.answers ++ [.error (.fatal msg)] =
          retryables messages ++ [.error (.fatal msg)] := by
        rw [taken]
      exact .inl ⟨messages, msg, extended, started, rfl⟩
    | retryable msg =>
      refine accounted.answers here permitted rfl rfl rfl rfl le_rfl accounted.cancels ?_
      have noted := notes.retryable cfg msg
      refine ⟨messages ++ [msg], ?_, noted, ?_, ?_⟩
      · rw [retryables_concat, ← taken]
        rfl
      · rw [List.length_append, List.length_singleton]
        exact started
      · exact List.getLast?_concat
  | panics here => exact permitted.elim
  | cancelsAttempt here cancelled =>
    simp only [Stands, here] at stands
    obtain ⟨messages, taken, -, -⟩ := stands
    refine accounted.moves rfl rfl rfl rfl le_rfl accounted.cancels ?_
    exact .inr (.inl ⟨messages, taken, accounted.cancels cancelled, rfl⟩)
  | givesUp here late =>
    simp only [Stands, here] at stands
    obtain ⟨messages, taken, notes, started, last⟩ := stands
    refine accounted.moves rfl rfl rfl rfl le_rfl accounted.cancels ?_
    exact .inr (.inr ⟨messages, taken, late, notes.report_retryable last, none_missed started⟩)
  | @waits msg here early =>
    simp only [Stands, here] at stands
    obtain ⟨messages, taken, notes, started, last⟩ := stands
    have nonempty : messages ≠ [] := by
      rintro rfl
      cases last
    refine ⟨accounted.began, accounted.early, ?_, accounted.answered,
      accounted.cancels, messages, taken,
      ⟨notes.attempts, notes.last, notes.recent⟩, started, nonempty, _,
      List.getLast?_concat, rfl⟩
    intro wait mem
    rcases List.mem_append.mp mem with old | new
    · exact accounted.bounded wait old
    · cases List.mem_singleton.mp new
      rw [← accounted.began]
      exact t.init.wakes_by_deadline cfg early
  | wakes here reached =>
    simp only [Stands, here] at stands
    obtain ⟨messages, taken, notes, started, -⟩ := stands
    refine accounted.moves rfl rfl rfl rfl le_rfl accounted.cancels ?_
    exact ⟨messages, taken, ⟨notes.attempts, notes.last, notes.recent⟩, started⟩
  | cancelsWait here cancelled =>
    simp only [Stands, here] at stands
    obtain ⟨messages, taken, -⟩ := stands
    refine accounted.moves rfl rfl rfl rfl le_rfl accounted.cancels ?_
    exact .inr (.inl ⟨messages, taken, accounted.cancels cancelled, rfl⟩)
  | @ticks elapsed =>
    have later : t.init.now ≤ t.init.now + elapsed := Nat.le_add_right _ _
    exact accounted.moves rfl rfl rfl rfl later
      (fun set => (accounted.cancels set).mono later)
      (stands_later stands later)
  | cancels =>
    exact accounted.moves rfl rfl rfl rfl le_rfl (fun _ => permitted) (stands_later stands le_rfl)

theorem reaches
    (run : GuardedRun (InitTrace.step cfg) environment.Permits
      (.begin (.new cfg start)) schedule t) :
    t.Accounted cfg environment start :=
  run.invariant initially fun accounted permitted h =>
    accounted.step permitted h

end InitTrace.Accounted

/-! ### The result -/

/-- The initialisation has returned. -/
def ProviderInitPoint.returned : ProviderInitPoint Value → Bool
  | .initialised _ | .failed _ | .panicked => true
  | _ => false

section Result

variable {cfg : ProviderInitConfig} {environment : InitEnvironment Value}
  {start : Instant} {t : InitTrace Value}

theorem last_of_taken {messages : List String} {last result : Except ProviderError Value} {i : Nat}
    (final : ∀ msg, result ≠ .error (.retryable msg))
    (answer : (retryables messages ++ [last])[i]? = some result) :
    last = result := by
  rcases Threads.concat_cases answer with old | ⟨-, rfl⟩
  · obtain ⟨msg, -, rfl⟩ := List.mem_map.mp (List.mem_of_getElem? old)
    exact absurd rfl (final msg)
  · rfl

theorem retryable_of_taken {messages : List String} {res : Except ProviderError Value} {i : Nat}
    (answer : (retryables messages)[i]? = some res) :
    ∃ msg, res = .error (.retryable msg) ∧ messages[i]? = some msg := by
  rw [retryables, List.getElem?_map, Option.map_eq_some_iff] at answer
  obtain ⟨msg, here, rfl⟩ := answer
  exact ⟨msg, rfl, here⟩

namespace InitTrace.Accounted

/-- After retryable errors, the last answer is the one of its attempt, and the
attempts before it ended with retryable errors. -/
theorem concluded (accounted : t.Accounted cfg environment start) {messages : List String}
    {res : Except ProviderError Value} (taken : t.answers = retryables messages ++ [res]) :
    ∃ i, t.AnsweredBy environment i res t.init.now ∧ t.RetryableBefore environment i := by
  refine ⟨messages.length, ?_, ?_⟩
  · apply accounted.answered
    rw [taken, ← length_retryables]
    exact List.getElem?_concat_length
  · intro earlier before
    have bound : earlier < (retryables messages : List (Except ProviderError Value)).length := by
      rwa [length_retryables]
    have here := List.getElem?_eq_getElem bound
    obtain ⟨msg, retryable, -⟩ := retryable_of_taken here
    refine ⟨msg, accounted.answered earlier _ ?_⟩
    rw [taken, List.getElem?_append_left bound, here, retryable]

/-- What was taken from an attempt is its answer. -/
theorem taken_eq (accounted : t.Accounted cfg environment start) {i : Nat}
    {res : Except ProviderError Value} {time : Instant} (taken : i < t.answers.length)
    (answered : t.AnsweredBy environment i res time) :
    t.answers[i]? = some res := by
  have here := List.getElem?_eq_getElem taken
  rw [here, (accounted.answered i _ here).unique answered]

/-- An initialisation that has returned, and was not cancelled, has taken every
answer that there was by the deadline. -/
theorem takes (accounted : t.Accounted cfg environment start)
    (returned : t.init.point.returned = true) (uncancelled : ¬ environment.Cancels t.init.now)
    {i : Nat} {res : Except ProviderError Value}
    (answered : t.AnsweredBy environment i res (start + cfg.policy.providerInitTimeout)) :
    t.answers[i]? = some res := by
  have bound := answered.started
  refine accounted.taken_eq ?_ answered
  have stands := accounted.stands
  cases point : t.init.point with
  | initialised value =>
    simp only [Stands, point] at stands
    obtain ⟨messages, taken, started⟩ := stands
    rw [taken, List.length_append, length_retryables, List.length_singleton, ← started]
    exact bound
  | failed failure =>
    simp only [Stands, point] at stands
    rcases stands with ⟨messages, msg, taken, started, -⟩ | ⟨-, -, cancels, -⟩ |
      ⟨messages, taken, -, -, missed⟩
    · rw [taken, List.length_append, length_retryables, List.length_singleton, ← started]
      exact bound
    · exact absurd cancels uncancelled
    · rw [taken, length_retryables]
      by_contra beyond
      rw [← accounted.began] at answered
      exact missed i (Nat.not_lt.mp beyond) res answered
  | panicked => simp only [Stands, point] at stands
  | loop | attempting | retryable _ | waiting _ =>
    rw [point] at returned
    cases returned

/-- An answer that is not retryable, once taken, decides where the
initialisation stands. -/
theorem decided (accounted : t.Accounted cfg environment start) {i : Nat}
    {result : Except ProviderError Value} (here : t.answers[i]? = some result)
    (final : ∀ msg, result ≠ .error (.retryable msg)) :
    (∃ value, result = .ok value ∧ t.init.point = .initialised value) ∨
      ∃ msg, result = .error (.fatal msg) ∧ t.init.point =
          .failed (.fatal cfg.provider msg cfg.fatalSource) := by
  have undecided : ∀ messages, t.answers ≠ retryables messages := by
    intro messages taken
    rw [taken] at here
    obtain ⟨msg, retryable, -⟩ := retryable_of_taken here
    exact final msg retryable
  have stands := accounted.stands
  cases point : t.init.point with
  | loop | attempting | retryable _ | waiting _ =>
    simp only [Stands, point] at stands
    obtain ⟨messages, taken, -⟩ := stands
    exact absurd taken (undecided messages)
  | initialised value =>
    simp only [Stands, point] at stands
    obtain ⟨messages, taken, -⟩ := stands
    rw [taken] at here
    exact .inl ⟨value, (last_of_taken final here).symm, rfl⟩
  | failed failure =>
    simp only [Stands, point] at stands
    rcases stands with ⟨messages, msg, taken, -, rfl⟩ | ⟨messages, taken, -⟩ | ⟨messages, taken, -⟩
    · rw [taken] at here
      exact .inr ⟨msg, (last_of_taken final here).symm, rfl⟩
    · exact absurd taken (undecided messages)
    · exact absurd taken (undecided messages)
  | panicked => simp only [Stands, point] at stands

theorem succeeds (accounted : t.Accounted cfg environment start) {value : Value}
    (point : t.init.point = .initialised value) :
    ∃ i, t.AnsweredBy environment i (.ok value) t.init.now ∧ t.RetryableBefore environment i := by
  have stands := accounted.stands
  simp only [Stands, point] at stands
  obtain ⟨messages, taken, -⟩ := stands
  exact accounted.concluded taken

theorem fails (accounted : t.Accounted cfg environment start) {msg : String}
    (point : t.init.point = .failed (.fatal cfg.provider msg cfg.fatalSource)) :
    ∃ i, t.AnsweredBy environment i (.error (.fatal msg)) t.init.now ∧
      t.RetryableBefore environment i := by
  have stands := accounted.stands
  simp only [Stands, point] at stands
  rcases stands with ⟨messages, other, taken, -, same⟩ | ⟨-, -, -, cancelled⟩ |
    ⟨messages, -, -, report, -⟩
  · cases same
    exact accounted.concluded taken
  · cases congrArg ProviderInitFailure.error cancelled
  · cases report.error

theorem cancelled_only (accounted : t.Accounted cfg environment start)
    (point : t.init.point = .failed (.cancelled cfg.provider)) :
    environment.Cancels t.init.now := by
  have stands := accounted.stands
  simp only [Stands, point] at stands
  rcases stands with ⟨-, msg, -, -, fatal⟩ | ⟨-, -, cancels, -⟩ | ⟨messages, -, -, report, -⟩
  · cases congrArg ProviderInitFailure.error fatal
  · exact cancels
  · cases report.error

/-- The messages of a timeout are the retryable answers that were taken, and
there was no other answer by the deadline. -/
theorem timeout_otherwise (accounted : t.Accounted cfg environment start)
    {failure} (point : t.init.point = .failed failure)
    (notFatal : ∀ msg, failure ≠ .fatal cfg.provider msg cfg.fatalSource)
    (notCancelled : failure ≠ .cancelled cfg.provider) :
    start + cfg.policy.providerInitTimeout ≤ t.init.now ∧
      ∃ messages, TimeoutReport cfg messages failure ∧ t.answers = retryables messages ∧
        ∀ i res, t.AnsweredBy environment i res
            (start + cfg.policy.providerInitTimeout) →
          t.answers[i]? = some res := by
  have stands := accounted.stands
  simp only [Stands, point] at stands
  rcases stands with ⟨-, msg, -, -, fatal⟩ | ⟨-, -, -, cancelled⟩ |
    ⟨messages, taken, late, report, missed⟩
  · exact absurd fatal (notFatal msg)
  · exact absurd cancelled notCancelled
  · rw [ProviderInitState.deadline, accounted.began] at late missed
    refine ⟨late, messages, report, taken, ?_⟩
    intro i res answered
    refine accounted.taken_eq ?_ answered
    rw [taken, length_retryables]
    by_contra beyond
    exact missed i (Nat.not_lt.mp beyond) res answered

theorem never_panicked (accounted : t.Accounted cfg environment start) :
    t.init.point ≠ .panicked := by
  intro point
  have stands := accounted.stands
  simp only [Stands, point] at stands

end InitTrace.Accounted

end Result

/-! ### The initialisation returns -/

/-- The steps of the initialisation, as opposed to those of the clock and the
token. -/
def ProviderInitAction.isOwn : ProviderInitAction Value → Bool
  | .tick _ | .cancel => false
  | _ => true

/-- The initialisation has nothing to do: its attempt is pending, or the wait
after a retryable error goes on, and the token is not cancelled. -/
def InitTrace.Blocked (cfg : ProviderInitConfig)
    (environment : InitEnvironment Value) (t : InitTrace Value) : Prop :=
  t.init.cancelled = false ∧ (environment.Pending t ∧ t.init.now < t.init.deadline cfg ∨
      (∃ wait ∈ t.init.waits.getLast?, t.init.now < wait.1 + wait.2) ∧
        ∃ msg, t.AnsweredBy environment (t.starts.length - 1) (.error (.retryable msg)) t.init.now)

/-- The initialisation can take a step of its own. -/
def InitTrace.Enabled (cfg : ProviderInitConfig)
    (environment : InitEnvironment Value) (t : InitTrace Value) : Prop :=
  ∃ action : ProviderInitAction Value, action.isOwn = true ∧
    environment.Permits t action ∧ (t.step cfg action).isSome = true

/-- How many of its own steps the initialisation can still take once the
deadline has passed. -/
def ProviderInitPoint.stepsLeft : ProviderInitPoint Value → Nat
  | .loop | .retryable _ => 1
  | .attempting | .waiting _ => 2
  | _ => 0

theorem ProviderInitPoint.stepsLeft_le (point : ProviderInitPoint Value) : point.stepsLeft ≤ 2 := by
  cases point <;> simp [stepsLeft]

section Returns

variable {cfg : ProviderInitConfig} {environment : InitEnvironment Value}
  {start : Instant} {t : InitTrace Value}

/-- Once the deadline has passed, every step of the initialisation brings it
nearer to its result. -/
theorem ProviderInitMove.uses_step {s after : ProviderInitState Value}
    {a : ProviderInitAction Value} (move : ProviderInitMove cfg s a after)
    (late : s.deadline cfg ≤ s.now) :
    after.deadline cfg ≤ after.now ∧ after.point.stepsLeft + [a].countP ProviderInitAction.isOwn ≤
        s.point.stepsLeft := by
  cases move with
  | attempts here early | waits here early => exact absurd late (Nat.not_le.mpr early)
  | @fails error here =>
    cases error with
    | fatal msg | retryable msg =>
      refine ⟨late, ?_⟩
      simp [here, ProviderInitState.noteError, ProviderInitPoint.stepsLeft,
        ProviderInitAction.isOwn]
  | expires here _ | succeeds here | panics here | timesOut here _
  | cancelsAttempt here _ | givesUp here _ | wakes here _
  | cancelsWait here _ =>
    refine ⟨late, ?_⟩
    simp [here, ProviderInitState.timeOut, ProviderInitPoint.stepsLeft, ProviderInitAction.isOwn]
  | ticks => exact ⟨late.trans (Nat.le_add_right _ _), Nat.le_refl _⟩
  | cancels => exact ⟨late, Nat.le_refl _⟩

theorem InitTrace.note_init (t : InitTrace Value)
    (init : ProviderInitState Value) (a : ProviderInitAction Value) :
    (t.note init a).init = init := by
  cases a with
  | loop =>
    simp only [note]
    split <;> rfl
  | _ => rfl

/-- So a run that starts after the deadline has few steps of its own. -/
theorem own_steps_le {acts : List (ProviderInitAction Value)}
    {later : InitTrace Value} (late : t.init.deadline cfg ≤ t.init.now)
    (run : GuardedRun (step cfg) environment.Permits t acts later) :
    later.init.deadline cfg ≤ later.init.now ∧ later.init.point.stepsLeft +
          acts.countP ProviderInitAction.isOwn ≤
        t.init.point.stepsLeft := by
  induction run with
  | nil => exact ⟨late, Nat.le_refl _⟩
  | snoc _ _ h ih =>
    obtain ⟨init, move, rfl⟩ := move_of_step h
    obtain ⟨stillLate, left⟩ := ih
    obtain ⟨later, used⟩ := move.uses_step stillLate
    rw [note_init, List.countP_append]
    exact ⟨later, by omega⟩

/-- The running attempt has an answer or is pending. -/
theorem ready_or_pending (environment : InitEnvironment Value) (started : t.starts ≠ []) :
    (∃ res, environment.Ready t res) ∨ environment.Pending t := by
  have last := List.getLast?_eq_some_getLast started
  cases outcome : environment.attempt (t.starts.length - 1) with
  | answers after res =>
    rcases Nat.lt_or_ge t.init.now (t.starts.getLast started + after) with
      pending | ready
    · exact .inr ⟨_, last, by rw [outcome]; exact pending⟩
    · exact .inl ⟨res, _, last, by rw [outcome]; exact ⟨rfl, ready⟩⟩
  | never => exact .inr ⟨_, last, by rw [outcome]; trivial⟩

theorem blocked_or_enabled_attempting (accounted : t.Accounted cfg environment start)
    (point : t.init.point = .attempting) :
    t.Blocked cfg environment ∨ t.Enabled cfg environment := by
  have stands := accounted.stands
  simp only [InitTrace.Stands, point] at stands
  obtain ⟨messages, -, -, started⟩ := stands
  have running : t.starts ≠ [] := by
    rintro none
    rw [none] at started
    cases started
  cases cancelled : t.init.cancelled with
  | true =>
    refine .inr ⟨.attemptCancelled, rfl, trivial, ?_⟩
    simp [step, ProviderInit.step, point, cancelled]
  | false =>
    rcases ready_or_pending environment running with ⟨res, ready⟩ | pending
    · cases res with
      | ok value =>
        refine .inr ⟨.attemptSucceeds value, rfl, ready, ?_⟩
        simp [step, ProviderInit.step, point]
      | error error =>
        refine .inr ⟨.attemptFails error, rfl, ready, ?_⟩
        simp [step, ProviderInit.step, point]
    · rcases Nat.lt_or_ge t.init.now (t.init.deadline cfg) with early | late
      · exact .inl ⟨cancelled, .inl ⟨pending, early⟩⟩
      · refine .inr ⟨.attemptTimesOut, rfl, pending, ?_⟩
        simp [step, ProviderInit.step, point, late]

theorem blocked_or_enabled_waiting (accounted : t.Accounted cfg environment start)
    {wakeAt : Instant} (point : t.init.point = .waiting wakeAt) :
    t.Blocked cfg environment ∨ t.Enabled cfg environment := by
  have stands := accounted.stands
  simp only [InitTrace.Stands, point] at stands
  obtain ⟨messages, taken, -, started, nonempty, wait, last, rfl⟩ := stands
  cases cancelled : t.init.cancelled with
  | true =>
    refine .inr ⟨.waitCancelled, rfl, trivial, ?_⟩
    simp [step, ProviderInit.step, point, cancelled]
  | false =>
    rcases Nat.lt_or_ge t.init.now (wait.1 + wait.2) with early | ended
    · have answered : t.answers[t.starts.length - 1]? =
          some (.error (.retryable (messages.getLast nonempty))) := by
        rw [taken, started, retryables, List.getElem?_map,
          ← List.getLast?_eq_getElem?, List.getLast?_eq_some_getLast nonempty]
        rfl
      exact .inl ⟨cancelled, .inr ⟨⟨wait, last, early⟩, _, accounted.answered _ _ answered⟩⟩
    · refine .inr ⟨.waitElapsed 0, rfl, trivial, ?_⟩
      simp [step, ProviderInit.step, point, ended]

/-- An initialisation that has not returned waits for something, or it can take
a step. -/
theorem blocked_or_enabled (accounted : t.Accounted cfg environment start)
    (unreturned : t.init.point.returned = false) :
    t.Blocked cfg environment ∨ t.Enabled cfg environment := by
  cases point : t.init.point with
  | loop =>
    refine .inr ⟨.loop, rfl, trivial, ?_⟩
    simp only [step, ProviderInit.step, point]
    split <;> rfl
  | retryable msg =>
    refine .inr ⟨.checkDeadline, rfl, trivial, ?_⟩
    simp [step, ProviderInit.step, point]
  | attempting => exact blocked_or_enabled_attempting accounted point
  | waiting wakeAt => exact blocked_or_enabled_waiting accounted point
  | initialised _ | failed _ | panicked =>
    rw [point] at unreturned
    cases unreturned

/-- After the deadline nothing is left to wait for. -/
theorem not_blocked_of_late (accounted : t.Accounted cfg environment start)
    (late : start + cfg.policy.providerInitTimeout ≤ t.init.now) :
    ¬ t.Blocked cfg environment := by
  rintro ⟨-, ⟨-, early⟩ | ⟨⟨wait, last, early⟩, -⟩⟩
  · rw [ProviderInitState.deadline, accounted.began] at early
    exact Nat.not_le.mpr early late
  · have ends := accounted.bounded wait (List.mem_of_getLast? last)
    exact Nat.not_le.mpr early (ends.trans late)

end Returns

/-! ### The specification -/

/-- What an initialisation does that began at `start` and met this
environment. -/
structure InitTrace.Specified (cfg : ProviderInitConfig)
    (environment : InitEnvironment Value) (start : Instant)
    (t : InitTrace Value) : Prop where
  attempts : ∀ time ∈ t.starts,
    time < start + cfg.policy.providerInitTimeout
  /-- a wait ends at the deadline or before -/
  waits : ∀ wait ∈ t.init.waits,
    wait.1 + wait.2 ≤ start + cfg.policy.providerInitTimeout
  succeeds : ∀ value, t.init.point = .initialised value →
    ∃ i, t.AnsweredBy environment i (.ok value) t.init.now ∧ t.RetryableBefore environment i
  fails : ∀ msg,
    t.init.point = .failed (.fatal cfg.provider msg cfg.fatalSource) →
      ∃ i, t.AnsweredBy environment i (.error (.fatal msg)) t.init.now ∧
        t.RetryableBefore environment i
  /-- without a cancellation, an answer by the deadline wins -/
  takes : t.init.point.returned = true → ¬ environment.Cancels t.init.now → ∀ i,
      (∀ value, t.AnsweredBy environment i (.ok value) (start + cfg.policy.providerInitTimeout) →
        t.init.point = .initialised value) ∧
      ∀ msg, t.AnsweredBy environment i (.error (.fatal msg))
          (start + cfg.policy.providerInitTimeout) →
        t.init.point = .failed (.fatal cfg.provider msg cfg.fatalSource)
  cancelled : t.init.point = .failed (.cancelled cfg.provider) → environment.Cancels t.init.now
  /-- any other result is a timeout: all answers by the deadline are retryable
  and among its messages -/
  timesOut : ∀ failure, t.init.point = .failed failure → (∀ msg,
      failure ≠ .fatal cfg.provider msg cfg.fatalSource) →
    failure ≠ .cancelled cfg.provider → start + cfg.policy.providerInitTimeout ≤ t.init.now ∧
        ∃ messages, TimeoutReport cfg messages failure ∧ (∀ i msg, messages[i]? = some msg →
            t.AnsweredBy environment i (.error (.retryable msg)) t.init.now) ∧
          ∀ i res, t.AnsweredBy environment i res
              (start + cfg.policy.providerInitTimeout) →
            ∃ msg, res = .error (.retryable msg) ∧ messages[i]? = some msg
  noPanic : t.init.point ≠ .panicked
  /-- until it returns, it waits for something or can take a step -/
  responds : t.init.point.returned = false → t.Blocked cfg environment ∨ t.Enabled cfg environment
  /-- after the deadline it returns, with at most two more steps -/
  returns : start + cfg.policy.providerInitTimeout ≤ t.init.now →
    (t.init.point.returned = false → t.Enabled cfg environment) ∧
      ∀ (schedule : List (ProviderInitAction Value)) (later : InitTrace Value),
        GuardedRun (InitTrace.step cfg) environment.Permits t schedule
            later →
          schedule.countP ProviderInitAction.isOwn ≤ 2

theorem InitTrace.Accounted.specified {cfg : ProviderInitConfig}
    {environment : InitEnvironment Value} {start : Instant}
    {t : InitTrace Value} (accounted : t.Accounted cfg environment start) :
    t.Specified cfg environment start where
  attempts := accounted.early
  waits := accounted.bounded
  succeeds _ point := accounted.succeeds point
  fails _ point := accounted.fails point
  takes returned uncancelled i := by
    refine ⟨?_, ?_⟩
    · intro value answered
      have taken := accounted.takes returned uncancelled answered
      rcases accounted.decided taken nofun with
        ⟨other, same, point⟩ | ⟨msg, other, -⟩
      · cases same
        exact point
      · cases other
    · intro msg answered
      have taken := accounted.takes returned uncancelled answered
      rcases accounted.decided taken nofun with
        ⟨value, other, -⟩ | ⟨other, same, point⟩
      · cases other
      · cases same
        exact point
  cancelled := accounted.cancelled_only
  timesOut failure point notFatal notCancelled := by
    obtain ⟨late, messages, report, taken, complete⟩ :=
      accounted.timeout_otherwise point notFatal notCancelled
    refine ⟨late, messages, report, ?_, ?_⟩
    · intro i msg mem
      apply accounted.answered
      rw [taken, retryables, List.getElem?_map, mem]
      rfl
    · intro i res answered
      have here := complete i res answered
      rw [taken] at here
      exact retryable_of_taken here
  noPanic := accounted.never_panicked
  responds := blocked_or_enabled accounted
  returns late := by
    refine ⟨?_, ?_⟩
    · intro unreturned
      exact (blocked_or_enabled accounted unreturned).resolve_left
        (not_blocked_of_late accounted late)
    · intro schedule later run
      rw [← accounted.began] at late
      have used := (own_steps_le late run).2
      have most := t.init.point.stepsLeft_le
      omega

/-- The initialisation of a fallible provider, for every policy whose deadline
the clock can represent, every sequence of attempt outcomes with any durations,
every time of cancellation, and every order in which the scheduler notices
them. -/
theorem provider_init_specified {config : ProviderInitConfig} {environment : InitEnvironment Value}
    {start : ClockInstant} {initial : ProviderInitState Value}
    {schedule : List (ProviderInitAction Value)} {trace : InitTrace Value}
    (representable : initFallibleWithSource config start = .returned initial)
    (run : GuardedRun (InitTrace.step config) environment.Permits (.begin initial) schedule trace) :
    trace.Specified config environment start.nanos := by
  rw [initial_of_returned representable] at run
  exact (InitTrace.Accounted.reaches run).specified

/-- A provider whose every attempt is refused at once, in a program that is not
cancelled. -/
def refusedConnections : InitEnvironment Nat where
  attempt index :=
    .answers 0 (.error (.retryable ("refused " ++ toString index)))
  cancelledAt := none

/-- The initialisation of that provider, with a minute for it. -/
def socketInit : ProviderInitConfig :=
  { provider := "Socket"
    policy := { RestartPolicy.default with providerInitTimeout := fromSecs 60 }
    fatalSource := .userProviderFatal
    retryableTimeoutSource := .userProviderRetryableTimeout }

/-- A refused attempt, the wait after it, and the doubled delay. -/
def refusedAttempt (i seconds : Nat) : List (ProviderInitAction Nat) :=
  [.loop, .attemptFails (.retryable ("refused " ++ toString i)),
    .checkDeadline, .tick (fromSecs seconds),
    .waitElapsed (fromSecs (2 * seconds))]

/-- The failure after six refused attempts, of which the last wait was cut at
the deadline: it reports the last four errors. -/
def sixRefused : ProviderInitFailure :=
  { source := .userProviderRetryableTimeout
    error := .timeout "Socket" (fromSecs 60) "refused 5"
    retryDiagnostics :=
      some
        { attempts := 6
          elapsed := fromSecs 60
          lastDelay := some (fromSecs 29)
          recentErrors :=
            ["refused 2", "refused 3", "refused 4", "refused 5"] } }

/-- The second attempt of that provider is accepted after a second. -/
def secondAccepted : InitEnvironment Nat where
  attempt index :=
    if index = 1 then .answers (fromSecs 1) (.ok 7)
    else refusedConnections.attempt index
  cancelledAt := none

theorem provider_init_specified_refused_or_accepted :
    (∃ trace : InitTrace Nat, GuardedRun (InitTrace.step socketInit) refusedConnections.Permits
          (.begin (.new socketInit 0))
          (List.flatten [refusedAttempt 0 1, refusedAttempt 1 2, refusedAttempt 2 4,
              refusedAttempt 3 8, refusedAttempt 4 16, refusedAttempt 5 29,
              [.loop]])
          trace ∧
        trace.init.point = .failed sixRefused ∧
        trace.Specified socketInit refusedConnections 0) ∧
      ∃ trace : InitTrace Nat,
        GuardedRun (InitTrace.step socketInit) secondAccepted.Permits
            (.begin (.new socketInit 0))
            (refusedAttempt 0 1 ++ [.loop, .tick (fromSecs 1), .attemptSucceeds 7])
            trace ∧
          trace.init.point = .initialised 7 ∧
          trace.Specified socketInit secondAccepted 0 := by
  have representable :
      initFallibleWithSource socketInit ⟨0, Nat.zero_le _⟩ =
        .returned (ProviderInitState.new socketInit 0 : ProviderInitState Nat) :=
    rfl
  refine ⟨?_, ?_⟩
  · exact GuardedRun.exists_and (by decide +kernel) fun _ run _ =>
      provider_init_specified representable run
  · exact GuardedRun.exists_and (by decide +kernel) fun _ run _ =>
      provider_init_specified representable run

end ServiceDaemon
