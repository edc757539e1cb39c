/-
Purpose: A signal trigger: the event loop of a generation whose host waits for a
  tracked notify, and the callers of `notify()`.
Main exports: TrackedNotify, SignalState, SignalAction
-/
import ServiceDaemon.Core.EventLoop

namespace ServiceDaemon

open AsyncLib StepSystem

/-!
`notify()` of a generated provider is `notify_waiters`: it wakes the futures
that exist at that moment and leaves nothing behind for later ones.  The future
of `SignalHost` is created by the first poll of `handle_step` in each select,
and it is dropped with the select.  One trigger is modelled with any number of
callers; other waiters of the same signal have futures of their own and do not
meet this one.

[SRC core/triggers.rs, core/managed_state.rs]
[SRC service-daemon-macro provider/templates/memory.rs]
-/

/-- The future `notified()` once it is created. -/
inductive Notified where
  | waiting
  | notified
deriving Repr, DecidableEq

/-- `TrackedNotify` as the trigger sees it: the identity slot, the future of its
current `handle_step`, and the calls of `notify_waiters` that have written their
identity and not yet woken the waiters. -/
structure TrackedNotify where
  lastId : Option (Uuid × ServiceId)
  future : Option Notified
  calls : Nat
deriving Repr, DecidableEq

namespace TrackedNotify

def new : TrackedNotify :=
  { lastId := none, future := none, calls := 0 }

/-- The first half of `notify_waiters`: store the captured identity. -/
def writeIdentity (signal : TrackedNotify) (identity : Uuid × ServiceId) :
    TrackedNotify :=
  { signal with lastId := some identity, calls := signal.calls + 1 }

/-- The second half: wake the futures that exist. -/
def notifyWaiters (signal : TrackedNotify) : Option TrackedNotify :=
  match signal.calls with
  | 0 => none
  | calls + 1 =>
    some
      { signal with calls := calls, future := signal.future.map fun _ => .notified }

end TrackedNotify

/-- A trigger generation and its signal.  `listening` is set once the trigger
has created its first future, and `unaccepted` counts the `notify()` calls that
completed since then and since the last `Next` that the loop accepted. -/
structure SignalState where
  runner : RunnerState Unit
  signal : TrackedNotify
  listening : Bool
  unaccepted : Nat

/-- The atomic operations. -/
inductive SignalAction where
  | writeIdentity (identity : Uuid × ServiceId)
  | notifyWaiters
  /-- the loop polls the `handle_step` future -/
  | pollStep
  /-- any other operation of the generation -/
  | runner (action : Action Unit)

/-- The loop is about to poll the host. -/
def LoopPoint.atHost {Payload : Type} : LoopPoint Payload → Bool
  | .pollHost => true
  | _ => false

/-- The select of the loop still holds the `handle_step` future. -/
def RunnerState.holdsStep {Payload : Type} (state : RunnerState Payload) :
    Bool :=
  state.hostPolled || state.loop.atHost

namespace SignalTrigger

def new (config : RunnerConfig) (now : Instant) : SignalState :=
  { runner := RunnerState.new config now
    signal := TrackedNotify.new
    listening := false
    unaccepted := 0 }

/-- `handle_step` of `SignalHost`. -/
def pollStep (config : RunnerConfig) (state : SignalState) :
    Option SignalState :=
  match state.signal.future with
  -- `target.notified()` creates the future, which is then polled.
  | none =>
    if state.runner.loop.atHost then
      some
        { state with signal := { state.signal with future := some .waiting }, listening := true }
    else none
  | some .waiting =>
    (Runner.step config state.runner .hostPending).map fun runner =>
      { state with runner := runner }
  -- `last_id()` takes the identity.
  | some .notified =>
    (Runner.step config state.runner (.hostReady (.next () state.signal.lastId))).map fun runner =>
      { state with
        runner := runner
        signal := { state.signal with lastId := none, future := none }
        unaccepted := 0 }

/-- A step of the generation; the future is dropped with its select. -/
def runnerMoves (config : RunnerConfig) (state : SignalState)
    (action : Action Unit) : Option SignalState :=
  (Runner.step config state.runner action).map fun runner =>
    { state with
      runner := runner
      signal :=
        { state.signal with future := if runner.holdsStep then state.signal.future else none } }

def step (config : RunnerConfig) (state : SignalState) :
    SignalAction → Option SignalState
  | .writeIdentity identity =>
    some { state with signal := state.signal.writeIdentity identity }
  | .notifyWaiters =>
    state.signal.notifyWaiters.map fun signal =>
      { state with
        signal := signal
        unaccepted :=
          if state.listening then state.unaccepted + 1
          else state.unaccepted }
  | .pollStep => pollStep config state
  -- The host answers only through `pollStep`.
  | .runner (.hostReady _) | .runner .hostPending => none
  | .runner action => runnerMoves config state action

end SignalTrigger

end ServiceDaemon
