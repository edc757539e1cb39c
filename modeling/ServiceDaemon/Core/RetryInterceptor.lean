/-
Purpose: One trigger dispatch from its chain of interceptors to its observer:
  the retry loop around the handler, the dispatch timeout, and the counters the
  dispatch writes.
Main exports: TriggerContext, Invocation, TriggerRuntimeRecord
-/
import ServiceDaemon.Core.Dispatch
import ServiceDaemon.Models.Lifecycle
import ServiceDaemon.Lib.StepSystem

namespace ServiceDaemon

/-!
The runner installs two interceptors.  The tracing interceptor passes its context
on; the retry interceptor calls the rest of the chain once and from then on the
handler itself.  Between two calls it records the failure, looks at the tokens of
the service and sleeps.  The chain runs inside the dispatch timeout, the timeout
inside a task, and the observer of the task writes the outcome.

What the handler returns, the delay that `next_delay` draws, the clock and the
two tokens belong to the environment.  A `select!` with two ready branches takes
either of them.

[SRC core/trigger_runner/interceptors.rs, dispatch.rs]
[SRC core/context/api.rs, core/runtime_facts.rs, models/trigger.rs]
-/

/-! ### Contexts -/

structure TriggerMessage (Payload : Type) where
  messageId : Uuid
  sourceId : ServiceId
  timestamp : Instant
  payload : Payload
deriving Repr, DecidableEq

/-- `TriggerContext`, what the handler receives. -/
structure TriggerContext (Payload : Type) where
  serviceId : ServiceId
  generation : Nat
  instanceSeq : UInt64
  message : TriggerMessage Payload
deriving Repr, DecidableEq

/-- What a handler returns. -/
inductive HandlerResult where
  | ok
  | err (message : String)
deriving Repr, DecidableEq

/-- A call of the handler.  There is no result while it runs, and there will be
none if it panics or is dropped. -/
structure Invocation (Payload : Type) where
  context : TriggerContext Payload
  result : Option HandlerResult
deriving Repr, DecidableEq

def Invocation.succeeded {Payload : Type} (invocation : Invocation Payload) :
    Bool :=
  invocation.result == some .ok

def Invocation.failed {Payload : Type} (invocation : Invocation Payload) : Bool :=
  invocation.result.any (· != .ok)

namespace DispatchContext

variable {Payload : Type}

/-- The terminal node of `build_chain`. -/
def terminal (context : DispatchContext Payload) (now : Instant) :
    TriggerContext Payload :=
  { serviceId := context.serviceId
    generation := context.generation
    instanceSeq := context.instanceSeq
    message :=
      { messageId := context.messageId
        sourceId := context.sourceId
        timestamp := now
        payload := context.payload } }

/-- `first_ctx` of the retry interceptor. -/
def firstContext (context : DispatchContext Payload) : DispatchContext Payload :=
  { serviceId := context.serviceId
    sourceId := context.sourceId
    instanceSeq := context.instanceSeq
    generation := context.generation
    messageId := context.messageId
    triggerName := context.triggerName
    payload := context.payload
    retryPolicy := context.retryPolicy }

/-- `retry_ctx` of the retry interceptor. -/
def retryContext (context : DispatchContext Payload) (now : Instant) :
    TriggerContext Payload :=
  { serviceId := context.serviceId
    generation := context.generation
    instanceSeq := context.instanceSeq
    message :=
      { messageId := context.messageId
        sourceId := context.sourceId
        timestamp := now
        payload := context.payload } }

/-- The failure of a dispatch that has used up its retries. -/
def retryExhausted (context : DispatchContext Payload) (max : Nat) :
    TriggerDispatchFailure :=
  { kind := .handlerRetryExhausted
    triggerName := context.triggerName
    serviceId := context.serviceId
    instanceSeq := some context.instanceSeq
    messageId := some context.messageId
    reason := s!"exceeded max retry limit ({max} attempts)" }

end DispatchContext

/-! ### Counters -/

/-- The counters and the timeline of `TriggerRuntimeRecord` that a dispatch
writes.  `lastRetryError` is the text that `record_retry` stores; the source
keeps it in the same field as the text of the last failure. -/
structure TriggerRuntimeRecord extends TriggerRuntimeFacts where
  retryTotal : UInt64
  lastSuccessAt : Option Instant
  lastErrorAt : Option Instant
  lastRetryError : Option String
deriving Repr, DecidableEq

namespace TriggerRuntimeRecord

def recordCompleted (record : TriggerRuntimeRecord) (now : Instant) :
    TriggerRuntimeRecord :=
  { record with
    toTriggerRuntimeFacts := record.toTriggerRuntimeFacts.recordOutcome (.ok ())
    lastSuccessAt := some now }

def recordFailed (record : TriggerRuntimeRecord) (now : Instant)
    (failure : TriggerDispatchFailure) : TriggerRuntimeRecord :=
  { record with
    toTriggerRuntimeFacts :=
      record.toTriggerRuntimeFacts.recordOutcome (.error failure)
    lastErrorAt := some now }

def recordRetry (record : TriggerRuntimeRecord) (now : Instant)
    (message : String) : TriggerRuntimeRecord :=
  { record with
    retryTotal := record.retryTotal + 1
    lastErrorAt := some now
    lastRetryError := some message }

/-- What `observe_dispatch_task` writes for an outcome. -/
def observe (record : TriggerRuntimeRecord) (now : Instant) :
    DispatchTaskOutcome → TriggerRuntimeRecord
  | .ok () => record.recordCompleted now
  | .error failure => record.recordFailed now failure

end TriggerRuntimeRecord

/-! ### State -/

/-- What is fixed for a dispatch.  `debugDuration` is the debug format of a
duration. -/
structure RetryConfig (Payload : Type) where
  context : DispatchContext Payload
  timeout : Option Duration
  debugDuration : Duration → String

/-- Where the dispatch task is. -/
inductive RetryPoint where
  /-- at the head of the chain -/
  | chain
  | invoking
  /-- in `record_retry_failure`, before its first write -/
  | failed (message : String)
  | checkShutdown
  | beginSleep
  /-- in the `select!` of `sleep` -/
  | sleeping (deadline : Instant)
  /-- at the top of the retry loop -/
  | loop
  /-- the task has ended -/
  | returned (result : TaskResult)
  /-- the observer has written the outcome -/
  | observed (result : TaskResult)
deriving Repr, DecidableEq

/-- A dispatch task with the state it works on.  `facts` is the record of the
trigger, as far as this dispatch writes it.  The last two fields are history:
the calls of the handler and the delays it slept. -/
structure RetryState (Payload : Type) where
  point : RetryPoint
  backoff : BackoffController
  startedAt : Instant
  now : Instant
  cancelled : Bool
  reloadRequested : Bool
  facts : Option TriggerRuntimeRecord
  invocations : List (Invocation Payload)
  waits : List Duration
deriving DecidableEq

/-- What can happen: a move of the dispatch task, a branch of its `select!`, an
end from outside, the observer, or the environment. -/
inductive RetryAction where
  | enterChain
  | handlerReturns (result : HandlerResult)
  | handlerPanics (message : String)
  /-- `next` is the delay that `next_delay` draws -/
  | recordFailure (next : Duration)
  | checkShutdown
  | beginSleep
  | sleepElapsed
  | sleepInterrupted
  | loop
  | timeOut
  | abort (message : String)
  | observe
  | tick (elapsed : Duration)
  | cancel
  | requestReload
deriving Repr, DecidableEq

namespace RetryState

variable {Payload : Type}

/-- A dispatch at its spawn, with the record of its trigger. -/
def new (config : RetryConfig Payload) (now : Instant)
    (facts : Option TriggerRuntimeRecord) : RetryState Payload :=
  { point := .chain
    backoff := .new config.context.retryPolicy
    startedAt := now
    now := now
    cancelled := false
    reloadRequested := false
    facts := facts
    invocations := []
    waits := [] }

/-- The result of the task, once it has ended. -/
def result (state : RetryState Payload) : Option TaskResult :=
  match state.point with
  | .returned result | .observed result => some result
  | _ => none

/-- The token check of `is_shutdown`. -/
def isShutdown (state : RetryState Payload) : Bool :=
  state.cancelled || state.reloadRequested

/-- Call the handler. -/
def invoke (state : RetryState Payload) (context : TriggerContext Payload) :
    RetryState Payload :=
  { state with
    invocations := state.invocations ++ [{ context := context, result := none }]
    point := .invoking }

/-- The handler call that runs has returned. -/
def noteResult (state : RetryState Payload) (result : HandlerResult) :
    RetryState Payload :=
  { state with
    invocations :=
      state.invocations.dropLast ++
        (state.invocations.getLast?.map fun invocation =>
          { invocation with result := some result }).toList }

/-- The writes of `record_retry_failure`: the counter, then the backoff. -/
def recordFailure (state : RetryState Payload) (message : String)
    (next : Duration) : RetryState Payload :=
  { state with
    facts := state.facts.map fun record => record.recordRetry state.now message
    backoff := state.backoff.recordFailure next
    point := .checkShutdown }

/-- The top of the loop: give up, or call the handler again. -/
def loop (config : RetryConfig Payload) (state : RetryState Payload) :
    RetryState Payload :=
  match config.context.retryPolicy.triggerMaxRetries with
  | some max =>
    if max ≤ state.backoff.attemptCount then
      { state with point := .returned (.failed (config.context.retryExhausted max)) }
    else state.invoke (config.context.retryContext state.now)
  | none => state.invoke (config.context.retryContext state.now)

/-- The error of `run_dispatch_with_timeout`. -/
def timedOut (config : RetryConfig Payload) (timeout : Duration) :
    TriggerDispatchFailure :=
  { kind := .dispatchTimedOut
    triggerName := config.context.triggerName
    serviceId := config.context.serviceId
    instanceSeq := some config.context.instanceSeq
    messageId := some config.context.messageId
    reason := "dispatch did not complete within " ++ config.debugDuration timeout }

end RetryState

/-! ### Steps -/

namespace RetryInterceptor

variable {Payload : Type}

def step (config : RetryConfig Payload) (state : RetryState Payload) :
    RetryAction → Option (RetryState Payload)
  | .enterChain =>
    match state.point with
    | .chain =>
      some (state.invoke (config.context.firstContext.terminal state.now))
    | _ => none
  | .handlerReturns result =>
    match state.point, result with
    | .invoking, .ok =>
      some { state.noteResult .ok with point := .returned .ok }
    | .invoking, .err message =>
      some { state.noteResult (.err message) with point := .failed message }
    | _, _ => none
  | .handlerPanics message =>
    match state.point with
    | .invoking => some { state with point := .returned (.panicked message) }
    | _ => none
  | .recordFailure next =>
    match state.point with
    | .failed message => some (state.recordFailure message next)
    | _ => none
  -- An interrupted retry returns `Ok(())`.
  | .checkShutdown =>
    match state.point with
    | .checkShutdown =>
      if state.isShutdown then some { state with point := .returned .ok }
      else some { state with point := .beginSleep }
    | _ => none
  | .beginSleep =>
    match state.point with
    | .beginSleep =>
      some
        { state with
          waits := state.waits ++ [state.backoff.currentDelay]
          point := .sleeping (state.now + state.backoff.currentDelay) }
    | _ => none
  | .sleepElapsed =>
    match state.point with
    | .sleeping deadline =>
      if deadline ≤ state.now then some { state with point := .loop }
      else none
    | _ => none
  | .sleepInterrupted =>
    match state.point with
    | .sleeping _ =>
      if state.isShutdown then some { state with point := .returned .ok }
      else none
    | _ => none
  | .loop =>
    match state.point with
    | .loop => some (state.loop config)
    | _ => none
  | .timeOut =>
    match config.timeout, state.result with
    | some timeout, none =>
      if state.startedAt + timeout ≤ state.now then
        some
          { state with point := .returned (.failed (RetryState.timedOut config timeout)) }
      else none
    | _, _ => none
  | .abort message =>
    match state.result with
    | none => some { state with point := .returned (.cancelled message) }
    | some _ => none
  | .observe =>
    match state.point with
    | .returned result =>
      some
        { state with
          facts :=
            state.facts.map fun record =>
              record.observe state.now
                (observeDispatchTask config.context result)
          point := .observed result }
    | _ => none
  | .tick elapsed => some { state with now := state.now + elapsed }
  | .cancel => some { state with cancelled := true }
  | .requestReload => some { state with reloadRequested := true }

end RetryInterceptor

/-! ### What a step can do -/

/-- The moves of a dispatch. -/
inductive RetryMove {Payload : Type} (cfg : RetryConfig Payload)
    (s : RetryState Payload) : RetryAction → RetryState Payload → Prop where
  | enters (here : s.point = .chain) :
      RetryMove cfg s .enterChain
        (s.invoke (cfg.context.firstContext.terminal s.now))
  | succeeds (here : s.point = .invoking) :
      RetryMove cfg s (.handlerReturns .ok)
        { s.noteResult .ok with point := .returned .ok }
  | fails {msg} (here : s.point = .invoking) :
      RetryMove cfg s (.handlerReturns (.err msg))
        { s.noteResult (.err msg) with point := .failed msg }
  | panics {msg} (here : s.point = .invoking) :
      RetryMove cfg s (.handlerPanics msg)
        { s with point := .returned (.panicked msg) }
  | records {msg next} (here : s.point = .failed msg) :
      RetryMove cfg s (.recordFailure next)
        (s.recordFailure msg next)
  | givesUp (here : s.point = .checkShutdown)
      (signalled : s.isShutdown = true) :
      RetryMove cfg s .checkShutdown { s with point := .returned .ok }
  | goesOn (here : s.point = .checkShutdown)
      (clear : s.isShutdown = false) :
      RetryMove cfg s .checkShutdown { s with point := .beginSleep }
  | sleeps (here : s.point = .beginSleep) :
      RetryMove cfg s .beginSleep
        { s with
          waits := s.waits ++ [s.backoff.currentDelay]
          point := .sleeping (s.now + s.backoff.currentDelay) }
  | wakes {deadline} (here : s.point = .sleeping deadline)
      (reached : deadline ≤ s.now) :
      RetryMove cfg s .sleepElapsed { s with point := .loop }
  | interrupts {deadline} (here : s.point = .sleeping deadline)
      (signalled : s.isShutdown = true) :
      RetryMove cfg s .sleepInterrupted
        { s with point := .returned .ok }
  | exhausts {max} (here : s.point = .loop)
      (limit : cfg.context.retryPolicy.triggerMaxRetries = some max)
      (reached : max ≤ s.backoff.attemptCount) :
      RetryMove cfg s .loop
        { s with point := .returned (.failed (cfg.context.retryExhausted max)) }
  | retries (here : s.point = .loop)
      (below : ∀ max ∈ cfg.context.retryPolicy.triggerMaxRetries, s.backoff.attemptCount < max) :
      RetryMove cfg s .loop
        (s.invoke (cfg.context.retryContext s.now))
  | timesOut {timeout} (running : s.result = none)
      (limit : cfg.timeout = some timeout)
      (reached : s.startedAt + timeout ≤ s.now) :
      RetryMove cfg s .timeOut
        { s with point := .returned (.failed (RetryState.timedOut cfg timeout)) }
  | aborts {msg} (running : s.result = none) :
      RetryMove cfg s (.abort msg)
        { s with point := .returned (.cancelled msg) }
  | observes {res} (here : s.point = .returned res) :
      RetryMove cfg s .observe
        { s with
          facts :=
            s.facts.map fun record =>
              record.observe s.now (observeDispatchTask cfg.context res)
          point := .observed res }
  -- the environment
  | ticks {elapsed} :
      RetryMove cfg s (.tick elapsed)
        { s with now := s.now + elapsed }
  | cancels : RetryMove cfg s .cancel { s with cancelled := true }
  | requestsReload :
      RetryMove cfg s .requestReload { s with reloadRequested := true }

theorem RetryMove.of_loop {Payload : Type} {cfg : RetryConfig Payload}
    {s : RetryState Payload} (here : s.point = .loop) : RetryMove cfg s .loop (s.loop cfg) := by
  unfold RetryState.loop
  split
  · rename_i max limit
    split
    · rename_i reached
      exact .exhausts here limit reached
    · rename_i below
      refine .retries here ?_
      intro other present
      rw [limit] at present
      cases present
      exact not_le.mp below
  · rename_i unlimited
    refine .retries here ?_
    intro max present
    rw [unlimited] at present
    cases present

theorem RetryMove.of_step {Payload : Type} {cfg : RetryConfig Payload} {s next : RetryState Payload}
    {a : RetryAction} (h : RetryInterceptor.step cfg s a = some next) : RetryMove cfg s a next := by
  cases a with
  | enterChain =>
    simp only [RetryInterceptor.step] at h
    split at h <;> cases h
    rename_i here
    exact .enters here
  | handlerReturns res =>
    simp only [RetryInterceptor.step] at h
    split at h <;> cases h
    · rename_i here
      exact .succeeds here
    · rename_i here
      exact .fails here
  | handlerPanics msg =>
    simp only [RetryInterceptor.step] at h
    split at h <;> cases h
    rename_i here
    exact .panics here
  | recordFailure delay =>
    simp only [RetryInterceptor.step] at h
    split at h <;> cases h
    rename_i here
    exact .records here
  | checkShutdown =>
    simp only [RetryInterceptor.step] at h
    split at h
    · rename_i here
      split at h <;> rename_i signalled <;> cases h
      · exact .givesUp here signalled
      · exact .goesOn here (Bool.eq_false_iff.mpr signalled)
    · cases h
  | beginSleep =>
    simp only [RetryInterceptor.step] at h
    split at h <;> cases h
    rename_i here
    exact .sleeps here
  | sleepElapsed =>
    simp only [RetryInterceptor.step] at h
    split at h
    · rename_i here
      split at h <;> cases h
      exact .wakes here ‹_›
    · cases h
  | sleepInterrupted =>
    simp only [RetryInterceptor.step] at h
    split at h
    · rename_i here
      split at h <;> cases h
      exact .interrupts here ‹_›
    · cases h
  | loop =>
    simp only [RetryInterceptor.step] at h
    split at h <;> cases h
    rename_i here
    exact .of_loop here
  | timeOut =>
    simp only [RetryInterceptor.step] at h
    split at h
    · rename_i limit running
      split at h <;> cases h
      exact .timesOut running limit ‹_›
    · cases h
  | abort msg =>
    simp only [RetryInterceptor.step] at h
    split at h <;> cases h
    exact .aborts ‹_›
  | observe =>
    simp only [RetryInterceptor.step] at h
    split at h <;> cases h
    rename_i here
    exact .observes here
  | tick elapsed =>
    cases h
    exact .ticks
  | cancel =>
    cases h
    exact .cancels
  | requestReload =>
    cases h
    exact .requestsReload

end ServiceDaemon
