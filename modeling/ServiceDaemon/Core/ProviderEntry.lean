/-
Purpose: The entry points that the provider macro generates for a fallible
  provider: three lazy ones and the eager one of the registry.  Each runs the
  same initialisation behind a slot, with a policy of its own.
Main exports: ProviderEntryPoint, FallibleProvider, AttemptStream
-/
import ServiceDaemon.Core.ProviderInit
import ServiceDaemon.Core.StateManager

namespace ServiceDaemon

open AsyncLib StepSystem

/-!
Every generated entry point hands a closure to its slot, and the slot calls the
closure if it has no value.  The closure chooses a policy, runs the
initialisation under `catch_init_panic`, and turns a failure into its error.
The lazy closures write `RestartPolicy::default()`; the registry passes the
policy of the daemon to the eager one.

The dependencies of the provider are resolved before its first attempt and take
no time here, and nothing is cancelled.

[SRC service-daemon-macro/src/provider/impls.rs, mod.rs, templates/]
[SRC core/provider_init.rs, core/managed_state.rs]
-/

/-- The generated entry points: `Provided::resolve`,
`ManagedProvided::resolve_rwlock` and `resolve_mutex`, and the `init` function
of the registry entry. -/
inductive ProviderEntryPoint where
  | resolve
  | resolveRwlock
  | resolveMutex
  | init
deriving Repr, DecidableEq

namespace ProviderEntryPoint

/-- The policy the closure uses; `passed` is the argument of `init`. -/
def policy (passed : RestartPolicy) : ProviderEntryPoint → RestartPolicy
  | .resolve | .resolveRwlock | .resolveMutex => .default
  | .init => passed

/-- The call on the slot. -/
def call : ProviderEntryPoint → ResolveKind
  | .resolve | .init => .snapshot
  | .resolveRwlock => .rwlock
  | .resolveMutex => .mutex

/-- Resolution from a service or a trigger. -/
def isLazy : ProviderEntryPoint → Bool
  | .resolve | .resolveRwlock | .resolveMutex => true
  | .init => false

end ProviderEntryPoint

/-- What the macro writes into the code of a fallible provider: its type, and
the arguments of `init_fallible_with_source`. -/
structure FallibleProvider where
  typeName : String
  provider : String
  fatalSource : ProviderInitSourceKind
  retryableTimeoutSource : ProviderInitSourceKind
deriving Repr, DecidableEq

/-- The arguments of the initialisation. -/
def FallibleProvider.config (provider : FallibleProvider)
    (policy : RestartPolicy) : ProviderInitConfig :=
  { provider := provider.provider
    policy := policy
    fatalSource := provider.fatalSource
    retryableTimeoutSource := provider.retryableTimeoutSource }

variable {Value : Type}

/-! ### The closure -/

/-- What the attempts of a provider do.  `panic` says after which time an
attempt panics, if it does, and what `panic_payload_to_string` makes of its
payload. -/
structure AttemptStream (Value : Type) where
  attempt : Nat → AttemptOutcome Value
  panic : Nat → Option (Duration × String)

namespace AttemptStream

/-- The stream as the environment of an initialisation that is not
cancelled. -/
def environment (stream : AttemptStream Value) : InitEnvironment Value :=
  { attempt := stream.attempt, cancelledAt := none }

/-- The attempt that is running has panicked by now. -/
def Panics (stream : AttemptStream Value) (trace : InitTrace Value) : Prop :=
  ∃ start ∈ trace.starts.getLast?,
    ∃ panic ∈ stream.panic (trace.starts.length - 1),
      start + panic.1 ≤ trace.init.now

/-- What the stream lets happen, where `N` is `next_delay`. -/
def Permits (N : RestartPolicy → Duration → Duration)
    (stream : AttemptStream Value) (trace : InitTrace Value) :
    ProviderInitAction Value → Prop
  | .attemptPanics => stream.Panics trace
  | .attemptTimesOut =>
    stream.environment.Pending trace ∧ ¬ stream.Panics trace
  | .waitElapsed next =>
    next = N trace.init.backoff.policy trace.init.backoff.currentDelay
  | action => stream.environment.Permits trace action

end AttemptStream

/-- What the closure returns: `catch_init_panic` around the initialisation, and
`provider_init_failure_boundary` around its result. -/
def closureResult (provider : FallibleProvider) (stream : AttemptStream Value)
    (trace : InitTrace Value) : Option (Except ProviderInitError Value) :=
  match trace.init.point with
  | .initialised value => some (.ok value)
  | .failed failure => some (.error failure.error)
  | .panicked =>
    (stream.panic (trace.starts.length - 1)).map fun panic =>
      .error (.fatal provider.typeName panic.2)
  | _ => none

/-! ### The slot -/

namespace StateManager

variable {Arc Error : Type}

/-- A call moves on until it waits or has returned, for at most so many
operations. -/
def drive (caller : Nat) :
    Nat → StateManager Arc Error → StateManager Arc Error
  | 0, manager => manager
  | operations + 1, manager =>
    match manager.step (.advance caller) with
    | none => manager
    | some next => drive caller operations next

/-- What the call returned, if it has. -/
def resultOf (manager : StateManager Arc Error) (caller : Nat) :
    Option (Except Error (Resolved Arc)) :=
  (manager.calls[caller]?).bind fun call =>
    match call.point with
    | .returned result => some result
    | _ => none

end StateManager

/-- A call alone on a slot without a value: it moves on to its closure, the
closure returns, and the call goes on.  None of the calls makes more than four
operations before or after. -/
def ResolveKind.resolveOn {Arc Error : Type} (kind : ResolveKind)
    (result : Except Error Arc) : Option (Except Error (Resolved Arc)) :=
  ((StateManager.new : StateManager Arc Error).step (.resolve kind)).bind
    fun called =>
      ((called.drive 0 4).step (.initReturns 0 result)).bind fun resumed =>
        (resumed.drive 0 4).resultOf 0

/-- Whatever its kind, the call runs its closure and returns what that
returned. -/
theorem ResolveKind.resolveOn_eq {Arc Error : Type} (kind : ResolveKind) (res : Except Error Arc) :
    (kind.resolveOn res).map (Except.map fun _ => ()) = some (res.map fun _ => ()) := by
  cases kind <;> cases res <;> rfl

/-! ### A resolution -/

/-- What can be seen of a resolution: when its attempts started and how they
ended, its waits, and its result. -/
structure InitObservation (Value : Type) where
  starts : List Instant
  answers : List (Except ProviderError Value)
  waits : List (Instant × Duration)
  result : Except ProviderInitError Unit

/-- `init_fallible_with_source`, run with this policy from `now` on, behaves so
behind the boundary of the closure. -/
def Initialises (N : RestartPolicy → Duration → Duration) (provider : FallibleProvider)
    (policy : RestartPolicy) (stream : AttemptStream Value) (now : Instant)
    (observation : InitObservation Value) : Prop :=
  ∃ (schedule : List (ProviderInitAction Value)) (trace : InitTrace Value)
    (result : Except ProviderInitError Value),
    GuardedRun (InitTrace.step (provider.config policy)) (stream.Permits N)
        (.begin (.new (provider.config policy) now)) schedule trace ∧
      closureResult provider stream trace = some result ∧
      observation =
        { starts := trace.starts
          answers := trace.answers
          waits := trace.init.waits
          result := result.map fun _ => () }

/-- A call of the entry point, on a slot without a value, behaves so. -/
def Resolves (N : RestartPolicy → Duration → Duration) (provider : FallibleProvider)
    (entry : ProviderEntryPoint) (passed : RestartPolicy) (stream : AttemptStream Value)
    (now : Instant) (observation : InitObservation Value) : Prop :=
  ∃ (schedule : List (ProviderInitAction Value)) (trace : InitTrace Value)
    (result : Except ProviderInitError Value)
    (returned : Except ProviderInitError (Resolved Value)),
    GuardedRun (InitTrace.step (provider.config (entry.policy passed)))
        (stream.Permits N)
        (.begin (.new (provider.config (entry.policy passed)) now)) schedule
        trace ∧
      closureResult provider stream trace = some result ∧
      entry.call.resolveOn result = some returned ∧
      observation =
        { starts := trace.starts
          answers := trace.answers
          waits := trace.init.waits
          result := returned.map fun _ => () }

/-- An entry point behaves as the initialisation with its policy does. -/
theorem resolves_iff_initialises {N : RestartPolicy → Duration → Duration}
    {provider : FallibleProvider} {entry : ProviderEntryPoint} {passed : RestartPolicy}
    {stream : AttemptStream Value} {now : Instant} {observation : InitObservation Value} :
    Resolves N provider entry passed stream now observation ↔
      Initialises N provider (entry.policy passed) stream now observation := by
  constructor
  · rintro ⟨acts, t, res, returned, run, closed, called, rfl⟩
    have same := entry.call.resolveOn_eq res
    rw [called] at same
    refine ⟨acts, t, res, run, closed, ?_⟩
    rw [← Option.some.inj same]
  · rintro ⟨acts, t, res, run, closed, rfl⟩
    obtain ⟨returned, called, same⟩ := Option.map_eq_some_iff.mp (entry.call.resolveOn_eq res)
    exact ⟨acts, t, res, returned, run, closed, called, by rw [same]⟩

end ServiceDaemon
