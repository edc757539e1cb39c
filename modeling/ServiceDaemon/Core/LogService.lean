/-
Purpose: The log services: the loop that takes events from the broadcast queue
  in batches and writes them, with its two drains.
Main exports: LogServiceState, LogServiceState.receive, LogServiceState.step
-/
import ServiceDaemon.Lib.StepSystem

namespace ServiceDaemon

/-!
`log_service` and `file_log_service` run the same loop.  An event is the number
of its publication since the service subscribed.  The queue is a static and
keeps its sender, so it is never closed; its warnings are events that are
published like any other.

[SRC core/logging/services.rs, core/logging/file.rs]
-/

/-- Where the loop is between two operations. -/
inductive LogPoint where
  | checking
  | selecting
  | draining
  | flushing
  | finalDrain
  | finalFlush
  | returned
deriving DecidableEq

/-- A warning with its `skipped`, and the first event that it is about. -/
structure LagWarning where
  first : Nat
  skipped : Nat
deriving DecidableEq

/-- `position` is the next event of the receiver, and `observed` the number of
events published before the service observed its shutdown. -/
structure LogServiceState where
  published : Nat
  position : Nat
  shutdown : Bool
  point : LogPoint
  buffer : List Nat
  rendered : List Nat
  warnings : List LagWarning
  observed : Option Nat
deriving DecidableEq

inductive Received where
  | event
  | lagged (skipped : Nat)
  | empty

inductive LogAction where
  | publish
  | requestShutdown
  | run

namespace LogServiceState

def new : LogServiceState :=
  { published := 0
    position := 0
    shutdown := false
    point := .checking
    buffer := []
    rendered := []
    warnings := []
    observed := none }

/-- `recv` and `try_recv` on a queue that retains `capacity` events.  At every
call an event that is received is pushed to the buffer. -/
def receive (capacity : Nat) (state : LogServiceState) :
    Received × LogServiceState :=
  let oldest := state.published - capacity
  if state.position < oldest then
    (.lagged (oldest - state.position), { state with position := oldest })
  else if state.position < state.published then
    (.event,
      { state with position := state.position + 1, buffer := state.buffer ++ [state.position] })
  else (.empty, state)

/-- `try_recv` in a drain: any error ends it, and the flush is next. -/
def drain (capacity : Nat) (flush : LogPoint) (state : LogServiceState) :
    LogServiceState :=
  match state.receive capacity with
  | (.event, next) => next
  | (_, next) => { next with point := flush }

/-- One event of the buffer is written; with none left the flush ends. -/
def flush (after : LogPoint) (state : LogServiceState) : LogServiceState :=
  match state.buffer with
  | [] => { state with point := after }
  | event :: rest =>
    { state with buffer := rest, rendered := state.rendered ++ [event] }

def observeShutdown (state : LogServiceState) : LogServiceState :=
  { state with point := .finalDrain, observed := some state.published }

/-- One operation of the loop.  `select!` is biased towards the shutdown, and
waits while there is neither a shutdown nor an event. -/
def run (batchSize capacity : Nat) (state : LogServiceState) :
    Option LogServiceState :=
  match state.point with
  | .checking =>
    if state.shutdown then some state.observeShutdown
    else some { state with point := .selecting }
  | .selecting =>
    if state.shutdown then some state.observeShutdown
    else
      match state.receive capacity with
      | (.event, next) => some { next with point := .draining }
      | (.lagged skipped, next) =>
        some
          { next with point := .checking, warnings := next.warnings ++ [⟨state.position, skipped⟩] }
      | (.empty, _) => none
  | .draining =>
    if state.buffer.length < batchSize then
      some (state.drain capacity .flushing)
    else some { state with point := .flushing }
  | .flushing => some (state.flush .checking)
  | .finalDrain => some (state.drain capacity .finalFlush)
  | .finalFlush => some (state.flush .returned)
  | .returned => none

def step (batchSize capacity : Nat) (state : LogServiceState) :
    LogAction → Option LogServiceState
  | .publish => some { state with published := state.published + 1 }
  | .requestShutdown => some { state with shutdown := true }
  | .run => state.run batchSize capacity

end LogServiceState

end ServiceDaemon
