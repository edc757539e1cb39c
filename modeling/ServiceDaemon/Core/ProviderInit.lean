/-
Purpose: The initialisation of a fallible provider: attempts with a deadline,
  backoff waits between them, and the failures it reports.
Main exports: ProviderError, ProviderInitFailure, ProviderInitConfig
-/
import ServiceDaemon.Models.Lifecycle
import ServiceDaemon.Lib.StepSystem

namespace ServiceDaemon

/-!
`init_fallible_with_source` runs attempts until one succeeds or fails fatally,
until its deadline, or until its token is cancelled.  What an attempt returns,
the clock and the token belong to the environment.  A `select!` with two ready
branches takes either of them.

[SRC core/provider_init.rs]
[SRC models/provider_error.rs, models/error.rs]
-/

inductive ProviderError where
  | fatal (message : String)
  | retryable (message : String)
deriving Repr, DecidableEq

inductive ProviderInitSourceKind where
  | userProviderFatal
  | userProviderRetryableTimeout
  | environmentMissing
  | environmentParse
  | dependencyProvider
  | panic
  | cancelled
  | timeout
  | frameworkGraphValidation
  | frameworkEagerInit
  | systemIoFatal
  | systemIoRetryable
  | unknown
deriving Repr, DecidableEq

inductive ProviderInitError where
  | fatal (provider message : String)
  | timeout (provider : String) (timeout : Duration) (lastError : String)
  | cancelled (provider : String)
deriving Repr, DecidableEq

structure ProviderInitRetryDiagnostics where
  attempts : Nat
  elapsed : Duration
  lastDelay : Option Duration
  recentErrors : List String
deriving Repr, DecidableEq

structure ProviderInitFailure where
  source : ProviderInitSourceKind
  error : ProviderInitError
  retryDiagnostics : Option ProviderInitRetryDiagnostics
deriving Repr, DecidableEq

namespace ProviderInitFailure

def fatal (provider message : String) (source : ProviderInitSourceKind) :
    ProviderInitFailure :=
  { source := source, error := .fatal provider message, retryDiagnostics := none }

def cancelled (provider : String) : ProviderInitFailure :=
  { source := .cancelled, error := .cancelled provider, retryDiagnostics := none }

end ProviderInitFailure

def providerInitRecentErrorLimit : Nat := 4

def pushRecentRetryableError (recentErrors : List String) (message : String) :
    List String :=
  (if recentErrors.length = providerInitRecentErrorLimit then recentErrors.tail
    else recentErrors) ++ [message]

/-- The arguments of `init_fallible_with_source`, less the initialiser. -/
structure ProviderInitConfig where
  provider : String
  policy : RestartPolicy
  fatalSource : ProviderInitSourceKind
  retryableTimeoutSource : ProviderInitSourceKind
deriving DecidableEq

/-- Where the initialisation is. -/
inductive ProviderInitPoint (Value : Type) where
  /-- at the top of the loop -/
  | loop
  /-- in the `select!` around an attempt -/
  | attempting
  /-- after a retryable error, before the second look at the deadline -/
  | retryable (message : String)
  /-- in the `select!` of the backoff wait -/
  | waiting (wakeAt : Instant)
  | initialised (value : Value)
  | failed (failure : ProviderInitFailure)
  | panicked
deriving Repr, DecidableEq

/-- The local variables of the initialisation with its token and the clock.
`waits` is history: when each wait began, and for how long. -/
structure ProviderInitState (Value : Type) where
  point : ProviderInitPoint Value
  start : Instant
  now : Instant
  cancelled : Bool
  backoff : BackoffController
  lastRetryableError : Option String
  retryAttempts : Nat
  lastRetryDelay : Option Duration
  recentRetryableErrors : List String
  waits : List (Instant × Duration)
deriving DecidableEq

/-- What can happen. -/
inductive ProviderInitAction (Value : Type) where
  | loop
  | attemptSucceeds (value : Value)
  | attemptFails (error : ProviderError)
  | attemptPanics
  | attemptTimesOut
  | attemptCancelled
  | checkDeadline
  /-- `next` is the delay that `next_delay` draws -/
  | waitElapsed (next : Duration)
  | waitCancelled
  | tick (elapsed : Duration)
  | cancel
deriving Repr, DecidableEq

namespace ProviderInitState

variable {Value : Type}

def new (config : ProviderInitConfig) (now : Instant) : ProviderInitState Value :=
  { point := .loop
    start := now
    now := now
    cancelled := false
    backoff := .new config.policy
    lastRetryableError := none
    retryAttempts := 0
    lastRetryDelay := none
    recentRetryableErrors := []
    waits := [] }

def deadline (config : ProviderInitConfig) (state : ProviderInitState Value) :
    Instant :=
  state.start + config.policy.providerInitTimeout

/-- `provider_init_timeout_failure`. -/
def timeoutFailure (config : ProviderInitConfig) (state : ProviderInitState Value)
    (lastError : String) (source : ProviderInitSourceKind) : ProviderInitFailure :=
  { source := source
    error :=
      .timeout config.provider config.policy.providerInitTimeout lastError
    retryDiagnostics :=
      some
        { attempts := state.retryAttempts
          elapsed := state.now - state.start
          lastDelay := state.lastRetryDelay
          recentErrors := state.recentRetryableErrors } }

/-- `provider_init_timeout_source`. -/
def timeoutSource (config : ProviderInitConfig)
    (state : ProviderInitState Value) : ProviderInitSourceKind :=
  if state.lastRetryableError.isSome then config.retryableTimeoutSource
  else .timeout

/-- The deadline has passed before or during an attempt. -/
def timeOut (config : ProviderInitConfig) (state : ProviderInitState Value) :
    ProviderInitState Value :=
  { state with
    point :=
      .failed <|
        state.timeoutFailure config
          (state.lastRetryableError.getD
            "provider initialization attempt did not complete before timeout")
          (state.timeoutSource config) }

/-- What an attempt that failed leaves. -/
def noteError (config : ProviderInitConfig) (state : ProviderInitState Value) :
    ProviderError → ProviderInitState Value
  | .fatal message =>
    { state with point := .failed (.fatal config.provider message config.fatalSource) }
  | .retryable message =>
    { state with
      retryAttempts := min (state.retryAttempts + 1) u32Max
      lastRetryableError := some message
      recentRetryableErrors :=
        pushRecentRetryableError state.recentRetryableErrors message
      point := .retryable message }

/-- The delay before the next attempt: the backoff, cut at the deadline. -/
def sleepFor (config : ProviderInitConfig) (state : ProviderInitState Value) :
    Duration :=
  min state.backoff.currentDelay (state.deadline config - state.now)

/-- The second look at the deadline, and the start of the wait. -/
def checkDeadline (config : ProviderInitConfig)
    (state : ProviderInitState Value) (message : String) :
    ProviderInitState Value :=
  if state.deadline config ≤ state.now then
    { state with
      point :=
        .failed
          (state.timeoutFailure config message config.retryableTimeoutSource) }
  else
    { state with
      lastRetryDelay := some (state.sleepFor config)
      waits := state.waits ++ [(state.now, state.sleepFor config)]
      point := .waiting (state.now + state.sleepFor config) }

end ProviderInitState

namespace ProviderInit

variable {Value : Type}

def step (config : ProviderInitConfig) (state : ProviderInitState Value) :
    ProviderInitAction Value → Option (ProviderInitState Value)
  | .loop =>
    match state.point with
    | .loop =>
      if state.deadline config ≤ state.now then some (state.timeOut config)
      else some { state with point := .attempting }
    | _ => none
  | .attemptSucceeds value =>
    match state.point with
    | .attempting => some { state with point := .initialised value }
    | _ => none
  | .attemptFails error =>
    match state.point with
    | .attempting => some (state.noteError config error)
    | _ => none
  | .attemptPanics =>
    match state.point with
    | .attempting => some { state with point := .panicked }
    | _ => none
  | .attemptTimesOut =>
    match state.point with
    | .attempting =>
      if state.deadline config ≤ state.now then some (state.timeOut config)
      else none
    | _ => none
  | .attemptCancelled =>
    match state.point with
    | .attempting =>
      if state.cancelled then
        some { state with point := .failed (.cancelled config.provider) }
      else none
    | _ => none
  | .checkDeadline =>
    match state.point with
    | .retryable message => some (state.checkDeadline config message)
    | _ => none
  | .waitElapsed next =>
    match state.point with
    | .waiting wakeAt =>
      if wakeAt ≤ state.now then
        some
          { state with backoff := state.backoff.recordFailure next, point := .loop }
      else none
    | _ => none
  | .waitCancelled =>
    match state.point with
    | .waiting _ =>
      if state.cancelled then
        some { state with point := .failed (.cancelled config.provider) }
      else none
    | _ => none
  | .tick elapsed => some { state with now := state.now + elapsed }
  | .cancel => some { state with cancelled := true }

end ProviderInit

/-! ### What a step can do -/

/-- The moves of an initialisation. -/
inductive ProviderInitMove {Value : Type} (cfg : ProviderInitConfig)
    (s : ProviderInitState Value) :
    ProviderInitAction Value → ProviderInitState Value → Prop where
  | expires (here : s.point = .loop)
      (late : s.deadline cfg ≤ s.now) :
      ProviderInitMove cfg s .loop (s.timeOut cfg)
  | attempts (here : s.point = .loop)
      (early : s.now < s.deadline cfg) :
      ProviderInitMove cfg s .loop { s with point := .attempting }
  | succeeds {value} (here : s.point = .attempting) :
      ProviderInitMove cfg s (.attemptSucceeds value)
        { s with point := .initialised value }
  | fails {error} (here : s.point = .attempting) :
      ProviderInitMove cfg s (.attemptFails error)
        (s.noteError cfg error)
  | panics (here : s.point = .attempting) :
      ProviderInitMove cfg s .attemptPanics
        { s with point := .panicked }
  | timesOut (here : s.point = .attempting)
      (late : s.deadline cfg ≤ s.now) :
      ProviderInitMove cfg s .attemptTimesOut (s.timeOut cfg)
  | cancelsAttempt (here : s.point = .attempting)
      (cancelled : s.cancelled = true) :
      ProviderInitMove cfg s .attemptCancelled
        { s with point := .failed (.cancelled cfg.provider) }
  | givesUp {msg} (here : s.point = .retryable msg)
      (late : s.deadline cfg ≤ s.now) :
      ProviderInitMove cfg s .checkDeadline
        { s with point := .failed (s.timeoutFailure cfg msg cfg.retryableTimeoutSource) }
  | waits {msg} (here : s.point = .retryable msg)
      (early : s.now < s.deadline cfg) :
      ProviderInitMove cfg s .checkDeadline
        { s with
          lastRetryDelay := some (s.sleepFor cfg)
          waits := s.waits ++ [(s.now, s.sleepFor cfg)]
          point := .waiting (s.now + s.sleepFor cfg) }
  | wakes {wakeAt next} (here : s.point = .waiting wakeAt)
      (reached : wakeAt ≤ s.now) :
      ProviderInitMove cfg s (.waitElapsed next)
        { s with backoff := s.backoff.recordFailure next, point := .loop }
  | cancelsWait {wakeAt} (here : s.point = .waiting wakeAt)
      (cancelled : s.cancelled = true) :
      ProviderInitMove cfg s .waitCancelled
        { s with point := .failed (.cancelled cfg.provider) }
  -- the environment
  | ticks {elapsed} :
      ProviderInitMove cfg s (.tick elapsed)
        { s with now := s.now + elapsed }
  | cancels :
      ProviderInitMove cfg s .cancel { s with cancelled := true }

theorem ProviderInitMove.of_step {Value : Type} {cfg : ProviderInitConfig}
    {s next : ProviderInitState Value} {a : ProviderInitAction Value}
    (h : ProviderInit.step cfg s a = some next) : ProviderInitMove cfg s a next := by
  cases a with
  | loop =>
    simp only [ProviderInit.step] at h
    split at h
    · rename_i here
      split at h <;> rename_i late <;> cases h
      · exact .expires here late
      · exact .attempts here (not_le.mp late)
    · cases h
  | attemptSucceeds value =>
    simp only [ProviderInit.step] at h
    split at h <;> cases h
    rename_i here
    exact .succeeds here
  | attemptFails error =>
    simp only [ProviderInit.step] at h
    split at h <;> cases h
    rename_i here
    exact .fails here
  | attemptPanics =>
    simp only [ProviderInit.step] at h
    split at h <;> cases h
    rename_i here
    exact .panics here
  | attemptTimesOut =>
    simp only [ProviderInit.step] at h
    split at h
    · rename_i here
      split at h <;> cases h
      exact .timesOut here ‹_›
    · cases h
  | attemptCancelled =>
    simp only [ProviderInit.step] at h
    split at h
    · rename_i here
      split at h <;> cases h
      exact .cancelsAttempt here ‹_›
    · cases h
  | checkDeadline =>
    simp only [ProviderInit.step] at h
    split at h <;> cases h
    rename_i msg here
    unfold ProviderInitState.checkDeadline
    split
    · rename_i late
      exact .givesUp here late
    · rename_i early
      exact .waits here (not_le.mp early)
  | waitElapsed delay =>
    simp only [ProviderInit.step] at h
    split at h
    · rename_i here
      split at h <;> cases h
      exact .wakes here ‹_›
    · cases h
  | waitCancelled =>
    simp only [ProviderInit.step] at h
    split at h
    · rename_i here
      split at h <;> cases h
      exact .cancelsWait here ‹_›
    · cases h
  | tick elapsed =>
    cases h
    exact .ticks
  | cancel =>
    cases h
    exact .cancels

/-! ### The record of an initialisation -/

/-- An initialisation with what it has done so far.  The clock that the top of
the loop reads is the start of the attempt it begins. -/
structure InitTrace (Value : Type) where
  init : ProviderInitState Value
  /-- when each attempt started -/
  starts : List Instant
  /-- what the attempts returned that returned in time -/
  answers : List (Except ProviderError Value)

namespace InitTrace

variable {Value : Type}

def begin (initial : ProviderInitState Value) : InitTrace Value :=
  { init := initial, starts := [], answers := [] }

/-- What a step adds to the record. -/
def note (trace : InitTrace Value) (next : ProviderInitState Value) :
    ProviderInitAction Value → InitTrace Value
  | .loop =>
    match next.point with
    | .attempting =>
      { trace with init := next, starts := trace.starts ++ [trace.init.now] }
    | _ => { trace with init := next }
  | .attemptSucceeds value =>
    { trace with init := next, answers := trace.answers ++ [.ok value] }
  | .attemptFails error =>
    { trace with init := next, answers := trace.answers ++ [.error error] }
  | _ => { trace with init := next }

def step (config : ProviderInitConfig) (trace : InitTrace Value)
    (action : ProviderInitAction Value) : Option (InitTrace Value) :=
  (ProviderInit.step config trace.init action).map fun next =>
    trace.note next action

theorem move_of_step {cfg : ProviderInitConfig} {t next : InitTrace Value}
    {a : ProviderInitAction Value} (h : t.step cfg a = some next) :
    ∃ init, ProviderInitMove cfg t.init a init ∧ t.note init a = next := by
  obtain ⟨init, h, noted⟩ := Option.map_eq_some_iff.mp h
  exact ⟨init, .of_step h, noted⟩

end InitTrace

/-! ### The environment -/

/-!
The environment fixes what each attempt does and when the token is cancelled.
An attempt may be noticed late, and so may the end of a wait, a timeout or the
cancellation: the scheduler decides.  `timeout` polls the attempt before it looks
at the clock, so that an attempt times out only while it has no result.
Attempts do not panic here.
-/

/-- What an attempt does. -/
inductive AttemptOutcome (Value : Type) where
  | answers (after : Duration) (result : Except ProviderError Value)
  | never

/-- An attempt that began at `start` has the result by now. -/
def AttemptOutcome.ReadyAt {Value : Type} (start now : Instant)
    (result : Except ProviderError Value) : AttemptOutcome Value → Prop
  | .answers after answer => answer = result ∧ start + after ≤ now
  | .never => False

/-- An attempt that began at `start` has no result yet. -/
def AttemptOutcome.PendingAt {Value : Type} (start now : Instant) :
    AttemptOutcome Value → Prop
  | .answers after _ => now < start + after
  | .never => True

/-- What an initialisation meets: the outcomes of its attempts, in order, and
the time at which its token is cancelled, if it is. -/
structure InitEnvironment (Value : Type) where
  attempt : Nat → AttemptOutcome Value
  cancelledAt : Option Instant

variable {Value : Type}

namespace InitEnvironment

/-- The attempt that is running has the result by now. -/
def Ready (environment : InitEnvironment Value) (trace : InitTrace Value)
    (result : Except ProviderError Value) : Prop :=
  ∃ start ∈ trace.starts.getLast?,
    (environment.attempt (trace.starts.length - 1)).ReadyAt start
      trace.init.now result

/-- The attempt that is running has no result yet. -/
def Pending (environment : InitEnvironment Value) (trace : InitTrace Value) :
    Prop :=
  ∃ start ∈ trace.starts.getLast?,
    (environment.attempt (trace.starts.length - 1)).PendingAt start
      trace.init.now

/-- The token is cancelled by now. -/
def Cancels (environment : InitEnvironment Value) (now : Instant) : Prop :=
  ∃ time ∈ environment.cancelledAt, time ≤ now

/-- What the environment lets happen. -/
def Permits (environment : InitEnvironment Value) (trace : InitTrace Value) :
    ProviderInitAction Value → Prop
  | .attemptSucceeds value => environment.Ready trace (.ok value)
  | .attemptFails error => environment.Ready trace (.error error)
  | .attemptPanics => False
  | .attemptTimesOut => environment.Pending trace
  | .cancel => environment.Cancels trace.init.now
  | _ => True

end InitEnvironment

instance [DecidableEq Value] {start now : Instant}
    {res : Except ProviderError Value} :
    (outcome : AttemptOutcome Value) → Decidable (outcome.ReadyAt start now res)
  | .answers after answer =>
    inferInstanceAs (Decidable (answer = res ∧ start + after ≤ now))
  | .never => inferInstanceAs (Decidable False)

instance {start now : Instant} :
    (outcome : AttemptOutcome Value) → Decidable (outcome.PendingAt start now)
  | .answers after _ => inferInstanceAs (Decidable (now < start + after))
  | .never => inferInstanceAs (Decidable True)

instance [DecidableEq Value] (environment : InitEnvironment Value)
    (t : InitTrace Value) (res : Except ProviderError Value) :
    Decidable (environment.Ready t res) :=
  inferInstanceAs (Decidable (∃ start ∈ t.starts.getLast?, _))

instance (environment : InitEnvironment Value) (t : InitTrace Value) :
    Decidable (environment.Pending t) :=
  inferInstanceAs (Decidable (∃ start ∈ t.starts.getLast?, _))

instance (environment : InitEnvironment Value) (now : Instant) :
    Decidable (environment.Cancels now) :=
  inferInstanceAs (Decidable (∃ time ∈ environment.cancelledAt, time ≤ now))

instance [DecidableEq Value] (environment : InitEnvironment Value)
    (t : InitTrace Value) : DecidablePred (environment.Permits t)
  | .attemptSucceeds value =>
    inferInstanceAs (Decidable (environment.Ready t (.ok value)))
  | .attemptFails error =>
    inferInstanceAs (Decidable (environment.Ready t (.error error)))
  | .cancel => inferInstanceAs (Decidable (environment.Cancels t.init.now))
  | .attemptPanics => inferInstanceAs (Decidable False)
  | .attemptTimesOut => inferInstanceAs (Decidable (environment.Pending t))
  | .loop | .attemptCancelled | .checkDeadline | .waitElapsed _ | .waitCancelled
  | .tick _ =>
    inferInstanceAs (Decidable True)

end ServiceDaemon
