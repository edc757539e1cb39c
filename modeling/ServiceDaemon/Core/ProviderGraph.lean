/-
Purpose: The provider graph at startup: the check for cycles, and the eager
  initialisation of the providers that the services reach.
Main exports: ServiceParam, ProviderEntry, ProviderRegistry
-/
import ServiceDaemon.Core.ProviderInit
import ServiceDaemon.Lib.Digraph

namespace ServiceDaemon

open GraphLib

/-!
The check builds one graph of all services and providers, with edges from a
provider to its parameters.  The eager initialisation builds another one, of
the reachable providers, with edges the other way round.  Every node of either
graph is created by `entry(key).or_insert_with(..)`, so a node is named by its
key here, and not by its index.

`toposort` is any topological sort.  The order in which a hash map or set is
iterated is arbitrary, and so is what `init` returns.

[SRC core/service_daemon/provider_graph.rs]
[SRC models/service.rs]
-/

structure TypeId where
  id : Nat
deriving Repr, DecidableEq

structure ServiceParam where
  typeName : String
  typeId : TypeId
deriving Repr, DecidableEq

/-- The name and the parameters of a `ServiceDescription`. -/
structure ServiceRoot where
  name : String
  params : List ServiceParam
deriving Repr, DecidableEq

/-- `ProviderEntry`, less its initialiser. -/
structure ProviderEntry where
  name : String
  typeId : TypeId
  params : List ServiceParam
  eager : Bool
deriving Repr, DecidableEq

/-- `PROVIDER_REGISTRY`, with one entry for each type. -/
structure ProviderRegistry where
  entries : List ProviderEntry
  distinct : (entries.map ProviderEntry.typeId).Nodup

/-! ### The check for cycles -/

/-- What a node was created for. -/
inductive GraphNode where
  | service (name : String)
  | type (typeId : TypeId)
deriving Repr, DecidableEq

/-- One iteration of the two phases: a node, and an edge to each of its
parameters. -/
def addWithParams (graph : DiGraph GraphNode String) (node : GraphNode)
    (label : String) (params : List ServiceParam) : DiGraph GraphNode String :=
  params.foldl
    (fun graph param =>
      (graph.entry (.type param.typeId) param.typeName).addEdge node (.type param.typeId))
    (graph.entry node label)

/-- The graph of services and providers. -/
def dependencyGraph (services : List ServiceRoot)
    (providers : List ProviderEntry) : DiGraph GraphNode String :=
  let roots := services.foldl
    (fun graph service =>
      addWithParams graph (.service service.name) service.name service.params)
    .empty
  providers.foldl
    (fun graph provider =>
      addWithParams graph (.type provider.typeId) provider.name provider.params)
    roots

/-- `{names:?}` for names that need no escapes. -/
def debugNames (names : List String) : String :=
  "[" ++ ", ".intercalate (names.map fun name => "\"" ++ name ++ "\"") ++ "]"

/-- The error for a cycle. -/
def circularDependency (graph : DiGraph GraphNode String) (node : GraphNode) :
    ProviderInitError :=
  let label := (graph.label? node).getD ""
  let involved :=
    (graph.nodes.filter fun other =>
      decide ((other.1, node) ∈ graph.edges) || decide ((node, other.1) ∈ graph.edges)).map Prod.snd
  .fatal label
    ("Circular dependency detected in provider dependency graph. " ++
      "Cycle involves '" ++ label ++ "', related nodes: " ++
      debugNames involved ++
      ". This would deadlock at runtime; review the #[provider] chain for " ++
      "these types.")

def validateDependencyGraph (toposort : Toposort) (services : List ServiceRoot)
    (providers : List ProviderEntry) : Except ProviderInitError Unit :=
  let graph := dependencyGraph services providers
  match toposort.sort graph with
  | .ok _ => .ok ()
  | .error node => .error (circularDependency graph node)

/-! ### Eager initialisation -/

/-- The order in which a hash map or set is iterated. -/
structure HashOrder where
  order : ∀ {Item : Type}, List Item → List Item
  perm : ∀ {Item : Type} (items : List Item), (order items).Perm items

/-- Iteration in the order of insertion. -/
def HashOrder.insertion : HashOrder where
  order items := items
  perm items := .refl items

/-- A map from types to entries, as a list. -/
abbrev ProviderMap := List ProviderEntry

namespace ProviderMap

def insert (map : ProviderMap) (entry : ProviderEntry) : ProviderMap :=
  (map.filter fun other => other.typeId ≠ entry.typeId) ++ [entry]

def get (map : ProviderMap) (typeId : TypeId) : Option ProviderEntry :=
  map.find? fun entry => entry.typeId = typeId

/-- The types that the provider of a type has as parameters. -/
def dependencies (map : ProviderMap) (typeId : TypeId) : List TypeId :=
  match map.get typeId with
  | none => []
  | some provider => provider.params.map ServiceParam.typeId

end ProviderMap

def providersById (registry : List ProviderEntry) : ProviderMap :=
  registry.foldl ProviderMap.insert []

/-- The parameters of the services, in order. -/
def serviceTypes (services : List ServiceRoot) : List TypeId :=
  services.flatMap fun service => service.params.map ServiceParam.typeId

/-- Steps 1 and 2: the types that are reached from the services.  No more types
are taken from the queue than there are parameters. -/
def reachableTypes (services : List ServiceRoot) (registry : List ProviderEntry) : List TypeId :=
  let providers := providersById registry
  let parameters :=
    registry.flatMap fun entry => entry.params.map ServiceParam.typeId
  (expand providers.dependencies ((serviceTypes services).length + parameters.length)
    (insertAll (serviceTypes services) ([], []))).getD []

/-- Step 3: the eager providers among them. -/
def eagerTargets (hash : HashOrder) (providers : ProviderMap)
    (reachable : List TypeId) : List ProviderEntry :=
  ((hash.order reachable).filterMap providers.get).filter ProviderEntry.eager

/-- Step 4, the nodes: the reachable types that have a provider. -/
def reachableNodes (providers : ProviderMap) (reachable : List TypeId) :
    DiGraph TypeId Unit :=
  reachable.foldl
    (fun graph typeId =>
      if (providers.get typeId).isSome then graph.entry typeId () else graph)
    .empty

/-- Step 4, the edges: from a dependency to its provider. -/
def addProviderEdges (reachable : List TypeId) (graph : DiGraph TypeId Unit)
    (entry : ProviderEntry) : DiGraph TypeId Unit :=
  if entry.typeId ∉ reachable then graph
  else if entry.typeId ∉ graph.names then graph
  else
    entry.params.foldl
      (fun graph dependency =>
        if dependency.typeId ∉ reachable then graph
        else if dependency.typeId ∈ graph.names then
          graph.addEdge dependency.typeId entry.typeId
        else graph)
      graph

/-- The graph of the reachable providers. -/
def reachableGraph (hash : HashOrder) (providers : ProviderMap)
    (reachable : List TypeId) : DiGraph TypeId Unit :=
  (hash.order providers).foldl (addProviderEdges reachable)
    (reachableNodes providers (hash.order reachable))

/-- Why the eager initialisation fails: the two defensive errors, and the error
of a provider. -/
inductive EagerInitError where
  | circular (offending : String)
  | missing
  | init (error : ProviderInitError)
deriving Repr, DecidableEq

/-- The error that is returned. -/
def EagerInitError.toProviderInitError : EagerInitError → ProviderInitError
  | .circular offending =>
    .fatal offending
      ("Circular provider dependency reached eager_init; " ++
        "this should have been caught by validate_dependency_graph")
  | .missing =>
    .fatal "<unknown>" "provider missing from eager initialization graph"
  | .init error => error

/-- The providers whose `init` was called, in order, and the result. -/
structure EagerRun where
  inits : List ProviderEntry
  result : Except EagerInitError Unit
deriving DecidableEq

/-- Step 5: run `init` in order, only for eager providers. -/
def runInits (providers : ProviderMap) (eagerIds : List TypeId)
    (init : ProviderEntry → Except ProviderInitError Unit) :
    List TypeId → EagerRun
  | [] => { inits := [], result := .ok () }
  | typeId :: order =>
    if typeId ∉ eagerIds then runInits providers eagerIds init order
    else
      match providers.get typeId with
      | none => { inits := [], result := .error .missing }
      | some entry =>
        match init entry with
        | .error error =>
          { inits := [entry], result := .error (.init error) }
        | .ok () =>
          let rest := runInits providers eagerIds init order
          { rest with inits := entry :: rest.inits }

def eagerInitReachableProviders (toposort : Toposort) (hash : HashOrder)
    (services : List ServiceRoot) (registry : List ProviderEntry)
    (init : ProviderEntry → Except ProviderInitError Unit) : EagerRun :=
  let providers := providersById registry
  let reachable := reachableTypes services registry
  let targets := eagerTargets hash providers reachable
  if targets.isEmpty then { inits := [], result := .ok () }
  else
    match toposort.sort (reachableGraph hash providers reachable) with
    | .error node =>
      let offending :=
        ((hash.order providers).find? fun entry =>
          entry.typeId = node).map ProviderEntry.name
      { inits := [], result := .error (.circular (offending.getD "<unknown>")) }
    | .ok order =>
      runInits providers (targets.map ProviderEntry.typeId) init order

end ServiceDaemon
