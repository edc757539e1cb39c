/-
Purpose: A broadcast queue: the tracked sender with its identity slot, and the
  hosts that receive from it.
Main exports: QueueMessage, TopicState, TopicAction
-/
import ServiceDaemon.Core.Dispatch
import ServiceDaemon.Lib.StepSystem

namespace ServiceDaemon

/-!
`TrackedSender::send` stores the identity it has captured in one slot that all
sends share, and then sends the value through the broadcast channel.
`TopicHost::handle_step` receives a value and then takes whatever the slot holds.
The slot and the channel are two objects, so each half of either operation is a
step of its own.

A clone of the sender has a slot of its own, which starts with a copy of what the
slot held.  Clones are left out: all sends go through the one sender whose slot
the hosts read.

A dropped `handle_step` future has received nothing, because the identity is
taken without another await.  The host keeps the sender alive, so its channel is
never closed.

[SRC core/managed_state.rs, core/triggers.rs]
-/

/-- A value with the identity that its send captured. -/
structure QueueMessage (Payload : Type) where
  value : Payload
  identity : Uuid × ServiceId

/-- The receiver of one host: the next message of the channel that it reads, and
the message it holds while `handle_step` takes the identity. -/
structure TopicReceiver where
  position : Nat
  holding : Option Nat
deriving Repr, DecidableEq

/-- What `handle_step` returned for message number `index`. -/
structure TopicDelivery (Payload : Type) where
  index : Nat
  transition : TriggerTransition Payload

/-- A queue and its subscribers.  `sending` lists the sends that have stored
their identity and not yet sent their value, and `channel` every message sent so
far. -/
structure TopicState (Payload : Type) where
  lastId : Option (Uuid × ServiceId)
  sending : List (QueueMessage Payload)
  channel : List (QueueMessage Payload)
  receivers : List TopicReceiver
  delivered : List (TopicDelivery Payload)

/-- The atomic operations.  A send is named by its place in `sending`, a host by
its place in `receivers`. -/
inductive TopicAction (Payload : Type) where
  | storeIdentity (value : Payload) (identity : Uuid × ServiceId)
  | sendValue (send : Nat)
  | subscribe
  | unsubscribe (host : Nat)
  | recv (host : Nat)
  | takeIdentity (host : Nat)

namespace TopicState

variable {Payload : Type}

def new : TopicState Payload :=
  { lastId := none, sending := [], channel := [], receivers := [], delivered := [] }

/-- The second half of `send`.  Without a receiver the channel refuses the
value. -/
def sendValue (send : Nat) (state : TopicState Payload) :
    Option (TopicState Payload) :=
  match state.sending[send]? with
  | none => none
  | some message =>
    some
      { state with
        sending := state.sending.eraseIdx send
        channel :=
          if state.receivers.isEmpty then state.channel
          else state.channel ++ [message] }

/-- `recv()` of a host that is not yet holding a message.  One that has fallen
behind the buffer skips to its oldest message. -/
def recv (capacity host : Nat) (state : TopicState Payload) :
    Option (TopicState Payload) :=
  match state.receivers[host]? with
  | some { position := position, holding := none } =>
    if capacity < state.channel.length - position then
      some
        { state with
          receivers :=
            state.receivers.set host
              { position := state.channel.length - capacity, holding := none } }
    else if position < state.channel.length then
      some
        { state with
          receivers :=
            state.receivers.set host
              { position := position + 1, holding := some position } }
    else none
  | _ => none

/-- `last_id()`, and the return of `handle_step`. -/
def takeIdentity (host : Nat) (state : TopicState Payload) :
    Option (TopicState Payload) :=
  match state.receivers[host]? with
  | some { position := position, holding := some index } =>
    match state.channel[index]? with
    | some message =>
      some
        { state with
          lastId := none
          receivers :=
            state.receivers.set host
              { position := position, holding := none }
          delivered :=
            state.delivered ++
              [{ index := index, transition := .next message.value state.lastId }] }
    | none => none
  | _ => none

/-- The end of a host.  It is suspended in `recv()` or between two steps. -/
def unsubscribe (host : Nat) (state : TopicState Payload) :
    Option (TopicState Payload) :=
  match state.receivers[host]? with
  | some { position := _, holding := none } =>
    some { state with receivers := state.receivers.eraseIdx host }
  | _ => none

/-- The transition function of a queue whose buffer holds `capacity`
messages. -/
def step (capacity : Nat) (state : TopicState Payload) :
    TopicAction Payload → Option (TopicState Payload)
  | .storeIdentity value identity =>
    some
      { state with
        lastId := some identity
        sending :=
          state.sending ++ [{ value := value, identity := identity }] }
  | .sendValue send => state.sendValue send
  | .subscribe =>
    some
      { state with
        receivers :=
          state.receivers ++
            [{ position := state.channel.length, holding := none }] }
  | .unsubscribe host => state.unsubscribe host
  | .recv host => state.recv capacity host
  | .takeIdentity host => state.takeIdentity host

end TopicState

end ServiceDaemon
