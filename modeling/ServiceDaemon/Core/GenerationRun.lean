/-
Purpose: The generations of services that depend on a provider, beside the
  slots of its type: each captures a baseline, resolves the provider through any
  entry point, and ends.
Main exports: ResolveEntry, GenerationRun, BindingState, BindingAction
-/
import ServiceDaemon.Core.ProviderScope

namespace ServiceDaemon

open AsyncLib StepSystem

/-!
A generation captures its baseline when it starts, then its body and its
dispatches resolve the provider, through any of the four entry points and any
number of times, until it ends.  The scope goes on as before: overrides, watches
of the binding, and the calls on the managers.

[SRC core/provider_scope.rs, core/service_daemon/runner/supervisor.rs]
-/

/-- The entry points of the generated code. -/
inductive ResolveEntry where
  | snapshot
  | rwlock
  | mutex
  | managed
deriving Repr, DecidableEq

/-- A generation with everything it resolves. -/
structure GenerationRun where
  capture : CapturePoint
  resolves : List (ResolveEntry × LookupPoint)
  ended : Bool
deriving Repr, DecidableEq

/-- The entries of one provider type and the generations that depend on it. -/
structure BindingState (Arc Error : Type) where
  scope : ScopeState Arc Error
  generations : List GenerationRun

/-- What can happen. -/
inductive BindingAction (Arc Error : Type) where
  | scope (action : ScopeAction Arc Error)
  | start
  | capture (generation : Nat)
  | resolve (generation : Nat) (entry : ResolveEntry)
  | lookup (generation resolve : Nat)
  | finish (generation : Nat)

/-- The generations are kept beside the scope here. -/
def ScopeAction.ofGeneration {Arc Error : Type} : ScopeAction Arc Error → Bool
  | .startGeneration | .capture _ | .resolveProviderSnapshot _
  | .lookup _ _ => true
  | _ => false

/-- The call a resolution makes on the manager it found.  On the root manager
`resolve_managed_result` reads the watch or runs the initialiser itself; on a
local one a managed resolution is a snapshot. -/
def ResolveEntry.call {Arc Error : Type} (entry : ResolveEntry) (index : Nat)
    (manager : StateManager Arc Error) : Option (StateManager Arc Error) :=
  match entry with
  | .snapshot => manager.step (.resolve .snapshot)
  | .rwlock => manager.step (.resolve .rwlock)
  | .mutex => manager.step (.resolve .mutex)
  | .managed =>
    if index = 0 then some manager else manager.step (.resolve .snapshot)

namespace BindingState

variable {Arc Error : Type}

def new (id : Nat) : BindingState Arc Error :=
  { scope := .new id, generations := [] }

def setGeneration (state : BindingState Arc Error) (index : Nat)
    (generation : GenerationRun) : BindingState Arc Error :=
  { state with generations := state.generations.set index generation }

/-- `current_local_provider_manager`, then the call on the manager. -/
def lookup (scope : ScopeState Arc Error) (entry : ResolveEntry) :
    LookupPoint → Option (ScopeState Arc Error × LookupPoint)
  | .readBinding => some (scope, .readSlot scope.effectiveBinding)
  | .readSlot binding =>
    let index := scope.managerFor binding
    scope.managers[index]?.bind fun manager =>
      (entry.call index manager).map fun after =>
        ({ scope with managers := scope.managers.set index after },
          .calling index manager.calls.length)
  | .calling _ _ => none

def step [DecidableEq Arc] (state : BindingState Arc Error) :
    BindingAction Arc Error → Option (BindingState Arc Error)
  | .scope action =>
    if action.ofGeneration then none
    else
      (state.scope.step action).map fun scope => { state with scope := scope }
  | .start =>
    some
      { state with generations := state.generations ++ [⟨.readBinding, [], false⟩] }
  | .capture index =>
    state.generations[index]?.bind fun generation =>
      if generation.ended then none
      else
        (state.scope.capture generation.capture).map fun point =>
          state.setGeneration index { generation with capture := point }
  -- The body runs once the watch has been captured.
  | .resolve index entry =>
    state.generations[index]?.bind fun generation =>
      match generation.ended, generation.capture with
      | false, .captured _ =>
        some
          (state.setGeneration index
            { generation with resolves := generation.resolves ++ [(entry, .readBinding)] })
      | _, _ => none
  | .lookup index resolve =>
    state.generations[index]?.bind fun generation =>
      if generation.ended then none
      else
        generation.resolves[resolve]?.bind fun (entry, point) =>
          (lookup state.scope entry point).map fun (scope, after) =>
            { scope := scope
              generations :=
                state.generations.set index
                  { generation with resolves := generation.resolves.set resolve (entry, after) } }
  | .finish index =>
    state.generations[index]?.map fun generation =>
      state.setGeneration index { generation with ended := true }

end BindingState

end ServiceDaemon
