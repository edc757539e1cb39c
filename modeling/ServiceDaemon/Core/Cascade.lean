/-
Purpose: Triggers whose handlers publish to further triggers: the queue trigger
  with its event loop, and the signals and queues of a daemon through which
  messages pass from service to service.
Main exports: QueueTriggerState, QueueTrigger.step, Publication
-/
import ServiceDaemon.Core.SignalTrigger
import ServiceDaemon.Core.TopicTrigger

namespace ServiceDaemon

open StepSystem

/-!
A publisher captures its identity from the task-local service it runs in, and
leaves it in the slot of the provider.  The host of the trigger takes it from
there and hands it to the event loop, and `dispatch` spawns the handler with
`spawn_with_context`, so that a handler runs in the service of its trigger.

Each provider has one trigger, and each trigger one generation.  `Uuid::now_v7`
is modelled by its specification: it returns an identifier that no publication
has had before.

[SRC core/managed_state.rs, core/triggers.rs, core/context/api.rs]
[SRC core/trigger_runner/dispatch.rs, models/trigger.rs]
-/

/-! ### The queue trigger -/

/-- A trigger generation and the queue it has subscribed to. -/
structure QueueTriggerState (Payload : Type) where
  runner : RunnerState Payload
  topic : TopicState Payload

namespace QueueTrigger

variable {Payload : Type}

/-- `setup` subscribes before the loop begins. -/
def new (config : RunnerConfig) (now : Instant) : QueueTriggerState Payload :=
  { runner := RunnerState.new config now
    topic :=
      { TopicState.new with receivers := [{ position := 0, holding := none }] } }

/-- `rx.recv()` in a poll of `handle_step` has a value, or has lagged. -/
def recv (capacity : Nat) (state : QueueTriggerState Payload) :
    Option (QueueTriggerState Payload) :=
  if state.runner.loop.atHost then
    (state.topic.recv capacity 0).map fun topic => { state with topic := topic }
  else none

/-- `rx.recv()` has nothing, and `handle_step` is pending. -/
def recvPending (config : RunnerConfig) (capacity : Nat)
    (state : QueueTriggerState Payload) : Option (QueueTriggerState Payload) :=
  match state.topic.receivers.head? with
  | some { position := _, holding := none } =>
    if (state.topic.recv capacity 0).isNone then
      (Runner.step config state.runner .hostPending).map fun runner =>
        { state with runner := runner }
    else none
  | _ => none

/-- `last_id()` takes the identity, and `handle_step` returns. -/
def takeIdentity (config : RunnerConfig) (state : QueueTriggerState Payload) :
    Option (QueueTriggerState Payload) :=
  match state.topic.takeIdentity 0 with
  | none => none
  | some topic =>
    match topic.delivered.getLast? with
    | none => none
    | some delivery =>
      (Runner.step config state.runner (.hostReady delivery.transition)).map fun runner =>
        { runner := runner, topic := topic }

/-- `run_as_service` drops the host once the loop is gone. -/
def dropHost (state : QueueTriggerState Payload) :
    Option (QueueTriggerState Payload) :=
  match state.runner.loop with
  | .returned _ | .dropped =>
    (state.topic.unsubscribe 0).map fun topic => { state with topic := topic }
  | _ => none

/-- A step of the generation; the host answers only through the queue. -/
def runnerMoves (config : RunnerConfig) (state : QueueTriggerState Payload) :
    Action Payload → Option (QueueTriggerState Payload)
  | .hostReady _ | .hostPending => none
  | action =>
    (Runner.step config state.runner action).map fun runner =>
      { state with runner := runner }

end QueueTrigger

/-! ### Publications -/

/-- `current_service_id()` in a task with the given task-local service. -/
def currentServiceId (scope : Option ServiceId) : ServiceId :=
  scope.getD ⟨0⟩

/-- A dispatch, by the position of its trigger and its sequence number. -/
structure DispatchRef where
  trigger : Nat
  seq : Nat
deriving Repr, DecidableEq

/-- One call of `notify()` or `push()`: the dispatch whose handler made it, if
one did, the task-local service of the calling task, and the new message
identifier. -/
structure Publication where
  cause : Option DispatchRef
  scope : Option ServiceId
  messageId : Uuid
deriving Repr, DecidableEq

/-- `capture_message_identity`. -/
def Publication.identity (publication : Publication) : Uuid × ServiceId :=
  (publication.messageId, currentServiceId publication.scope)

/-- A queued value, with the call that sent it. -/
structure QueuedValue (Payload : Type) where
  publication : Publication
  value : Payload

/-- What a dispatch handles, and the identity it was given. -/
structure Dispatched where
  publication : Publication
  messageId : Uuid
  sourceId : ServiceId
deriving Repr, DecidableEq

/-! ### One trigger and its provider -/

/-- A signal trigger.  The source does not keep which call did what: `calls`
lists those that have stored their identity and not yet woken the waiters,
`woken` is the one that woke the future, and `accepted` lists those whose wakeup
the loop has accepted. -/
structure SignalRelay where
  trigger : SignalState
  calls : List Publication
  woken : Option Publication
  accepted : List Publication

inductive RelayState (Payload : Type) where
  | signal (state : SignalRelay)
  | queue (capacity : Nat) (state : QueueTriggerState (QueuedValue Payload))

/-- The templates of the providers that carry an identity. -/
inductive ProviderKind where
  | notify
  | queue (capacity : Nat)
deriving Repr, DecidableEq

/-- A provider and the trigger that listens to it. -/
structure Relay (Payload : Type) where
  config : RunnerConfig
  state : RelayState Payload

/-- The atomic operations of a provider and its trigger, after the first half of
a publication. -/
inductive RelayAction (Payload : Type) where
  /-- the second half of a publication -/
  | deliver (call : Nat)
  | pollStep
  | signalRunner (action : Action Unit)
  | recv
  | recvPending
  | takeIdentity
  | dropHost
  | queueRunner (action : Action (QueuedValue Payload))

namespace SignalRelay

def new (config : RunnerConfig) (now : Instant) : SignalRelay :=
  { trigger := SignalTrigger.new config now, calls := [], woken := none, accepted := [] }

/-- The first half of `notify_waiters`. -/
def store (config : RunnerConfig) (publication : Publication)
    (state : SignalRelay) : Option SignalRelay :=
  (SignalTrigger.step config state.trigger (.writeIdentity publication.identity)).map fun trigger =>
    { state with trigger := trigger, calls := state.calls ++ [publication] }

/-- The second half of one of the calls. -/
def deliver (config : RunnerConfig) (call : Nat) (state : SignalRelay) :
    Option SignalRelay :=
  match state.calls[call]? with
  | none => none
  | some publication =>
    (SignalTrigger.step config state.trigger .notifyWaiters).map
      fun trigger =>
        { state with
          trigger := trigger
          calls := state.calls.eraseIdx call
          woken :=
            if state.trigger.signal.future.isSome then some publication
            else state.woken }

def pollStep (config : RunnerConfig) (state : SignalRelay) :
    Option SignalRelay :=
  (SignalTrigger.step config state.trigger .pollStep).map fun trigger =>
    if state.trigger.signal.future = some .notified then
      { state with
        trigger := trigger
        woken := none
        accepted := state.accepted ++ state.woken.toList }
    else { state with trigger := trigger }

def runnerMoves (config : RunnerConfig) (action : Action Unit)
    (state : SignalRelay) : Option SignalRelay :=
  (SignalTrigger.step config state.trigger (.runner action)).map
    fun trigger => { state with trigger := trigger }

/-- No publication is on its way to the loop. -/
def idle (state : SignalRelay) : Bool :=
  state.calls.isEmpty && state.trigger.signal.future != some .notified

end SignalRelay

/-- The operations of a signal trigger. -/
def signalStep {Payload : Type} (config : RunnerConfig) (state : SignalRelay) :
    RelayAction Payload → Option SignalRelay
  | .deliver call => state.deliver config call
  | .pollStep => state.pollStep config
  | .signalRunner action => state.runnerMoves config action
  | .recv | .recvPending | .takeIdentity | .dropHost | .queueRunner _ => none

/-- The operations of a queue trigger. -/
def queueStep {Payload : Type} (config : RunnerConfig) (capacity : Nat)
    (state : QueueTriggerState (QueuedValue Payload)) :
    RelayAction Payload → Option (QueueTriggerState (QueuedValue Payload))
  | .deliver call =>
    (state.topic.step capacity (.sendValue call)).map fun topic =>
      { state with topic := topic }
  | .recv => QueueTrigger.recv capacity state
  | .recvPending => QueueTrigger.recvPending config capacity state
  | .takeIdentity => QueueTrigger.takeIdentity config state
  | .dropHost => QueueTrigger.dropHost state
  | .queueRunner action => QueueTrigger.runnerMoves config state action
  | .pollStep | .signalRunner _ => none

namespace Relay

variable {Payload : Type}

/-- A provider and its trigger at the start. -/
def new (now : Instant) (config : RunnerConfig) :
    ProviderKind → Relay Payload
  | .notify =>
    { config := config, state := .signal (SignalRelay.new config now) }
  | .queue capacity =>
    { config := config, state := .queue capacity (QueueTrigger.new config now) }

/-- The first half of a publication: its identity goes into the slot. -/
def store (publication : Publication) (value : Payload)
    (relay : Relay Payload) : Option (Relay Payload) :=
  match relay.state with
  | .signal state =>
    (state.store relay.config publication).map fun state =>
      { relay with state := .signal state }
  | .queue capacity state =>
    (state.topic.step capacity (.storeIdentity ⟨publication, value⟩ publication.identity)).map
      fun topic =>
        { relay with state := .queue capacity { state with topic := topic } }

def step (relay : Relay Payload) (action : RelayAction Payload) :
    Option (Relay Payload) :=
  match relay.state with
  | .signal state =>
    (signalStep relay.config state action).map fun state =>
      { relay with state := .signal state }
  | .queue capacity state =>
    (queueStep relay.config capacity state action).map fun state =>
      { relay with state := .queue capacity state }

/-- A dispatch of the trigger.  The data are those of its task; a signal has no
payload, so what it handles is read from the history. -/
def dispatch (relay : Relay Payload) (seq : Nat) : Option Dispatched :=
  match relay.state with
  | .signal state =>
    state.trigger.runner.tasks[seq]?.bind fun task =>
      state.accepted[seq]?.map fun publication =>
        { publication := publication
          messageId := task.context.messageId
          sourceId := task.context.sourceId }
  | .queue _ state =>
    state.runner.tasks[seq]?.map fun task =>
      { publication := task.context.payload.publication
        messageId := task.context.messageId
        sourceId := task.context.sourceId }

/-- The handler of the dispatch has not ended. -/
def handles (relay : Relay Payload) (seq : Nat) : Bool :=
  match relay.state with
  | .signal state =>
    state.trigger.runner.tasks[seq]?.any DispatchTask.holdsPermit
  | .queue _ state => state.runner.tasks[seq]?.any DispatchTask.holdsPermit

/-- No message of the provider is pending. -/
def idle (relay : Relay Payload) : Bool :=
  match relay.state with
  | .signal state => state.idle
  | .queue _ state =>
    state.topic.sending.isEmpty &&
      state.topic.receivers.all fun receiver =>
        decide
          (receiver = { position := state.topic.channel.length, holding := none })

end Relay

/-! ### The daemon -/

/-- The providers of a daemon with their triggers, and every publication so
far. -/
structure Cascade (Payload : Type) where
  relays : List (Relay Payload)
  published : List Publication

/-- Who publishes: a task with the given task-local service, or the handler of a
dispatch.  A handler that publishes from a task it started with a bare
`tokio::spawn` has left the scope of its service. -/
inductive Publisher where
  | service (scope : Option ServiceId)
  | handler (dispatch : DispatchRef) (inScope : Bool)
deriving Repr, DecidableEq

inductive CascadeAction (Payload : Type) where
  /-- the first half of a publication -/
  | publish (publisher : Publisher) (target : Nat) (messageId : Uuid)
      (value : Payload)
  | relay (index : Nat) (action : RelayAction Payload)

namespace Cascade

variable {Payload : Type}

def new (now : Instant) (triggers : List (RunnerConfig × ProviderKind)) :
    Cascade Payload :=
  { relays := triggers.map fun (config, kind) => Relay.new now config kind, published := [] }

/-- The publication that a publisher makes; a handler does so while it handles
its dispatch. -/
def publication (cascade : Cascade Payload) (messageId : Uuid) :
    Publisher → Option Publication
  | .service scope =>
    some { cause := none, scope := scope, messageId := messageId }
  | .handler dispatch inScope =>
    match cascade.relays[dispatch.trigger]? with
    | none => none
    | some relay =>
      if relay.handles dispatch.seq then
        some
          { cause := some dispatch
            scope := if inScope then some relay.config.serviceId else none
            messageId := messageId }
      else none

def publish (cascade : Cascade Payload) (publisher : Publisher) (target : Nat)
    (messageId : Uuid) (value : Payload) : Option (Cascade Payload) :=
  if messageId ∈ cascade.published.map Publication.messageId then none
  else
    match cascade.publication messageId publisher, cascade.relays[target]? with
    | some publication, some relay =>
      (relay.store publication value).map fun relay =>
        { relays := cascade.relays.set target relay
          published := cascade.published ++ [publication] }
    | _, _ => none

def step (cascade : Cascade Payload) :
    CascadeAction Payload → Option (Cascade Payload)
  | .publish publisher target messageId value =>
    cascade.publish publisher target messageId value
  | .relay index action =>
    match cascade.relays[index]? with
    | none => none
    | some relay =>
      (relay.step action).map fun relay =>
        { cascade with relays := cascade.relays.set index relay }

/-- A dispatch of the daemon. -/
def dispatch (cascade : Cascade Payload) (dispatch : DispatchRef) :
    Option Dispatched :=
  cascade.relays[dispatch.trigger]?.bind fun relay =>
    relay.dispatch dispatch.seq

end Cascade

end ServiceDaemon
