/-
Purpose: When the order of the eager initialisation does not depend on the order
  in which hash maps and sets are iterated: if of any two eager providers that
  are reached one depends on the other.
Main exports: EagerComparable, eagerInit_eq, eager_order_deterministic
-/
import ServiceDaemon.Proofs.EagerInitOrder

namespace ServiceDaemon

open GraphLib Relation

/-!
The nodes and the edges of the graph are added in the order in which a set and a
map are iterated.  Dependencies fix the order of the providers only where there
are any; elsewhere the order is left to the sort, and one that looks at the
nodes in the order they were added passes the iteration on.
-/

/-- Of any two eager providers that are reached, one depends on the other. -/
def EagerComparable (services : List ServiceRoot) (reg : ProviderRegistry) : Prop :=
  ∀ one ∈ reg.entries, ∀ two ∈ reg.entries,
    one.eager = true → two.eager = true → Reachable services reg one.typeId →
        Reachable services reg two.typeId → one = two ∨ TransGen reg.ParamOf one.typeId two.typeId ∨
            TransGen reg.ParamOf two.typeId one.typeId

variable {services : List ServiceRoot} {reg : ProviderRegistry}
  {hash other : HashOrder} {order eagerIds : List TypeId}

/-! ### The run reads the eager part of the order -/

section Inits

variable {providers : ProviderMap}
  {init : ProviderEntry → Except ProviderInitError Unit}

theorem runInits_filter :
    runInits providers eagerIds init (order.filter (· ∈ eagerIds)) =
      runInits providers eagerIds init order := by
  induction order with
  | nil => rfl
  | cons typeId order ih =>
    by_cases eager : typeId ∈ eagerIds
    · rw [List.filter_cons_of_pos (by simpa using eager)]
      simp only [runInits, ih]
    · rw [List.filter_cons_of_neg (by simpa using eager), ih]
      simp [runInits, eager]

theorem runInits_congr (same : ∀ typeId, typeId ∈ eagerIds ↔ typeId ∈ others) :
    runInits providers eagerIds init order = runInits providers others init order := by
  induction order with
  | nil => rfl
  | cons typeId order ih => simp only [runInits, same typeId, ih]

end Inits

/-! ### Comparable providers -/

/-- Comparable providers are initialised along their dependencies. -/
theorem EagerComparable.pairwise (comparable : EagerComparable services reg)
    (sorted : TopologicalOrder (reachableGraph hash reg.entries
      (reachableTypes services reg.entries)) order)
    (eager : ∀ typeId, typeId ∈ eagerIds ↔ ∃ entry ∈ reg.entries,
      entry.eager = true ∧ Reachable services reg entry.typeId ∧ entry.typeId = typeId) :
    (order.filter (· ∈ eagerIds)).Pairwise fun first second =>
      TransGen reg.ParamOf second first := by
  have apart := (sorted.pairwise.and sorted.nodup).filter (· ∈ eagerIds)
  refine apart.imp_of_mem ?_
  rintro first second one two ⟨unreached, different⟩
  obtain ⟨entry, mem, isEager, reachable, rfl⟩ :=
    (eager first).mp (of_decide_eq_true (List.mem_filter.mp one).2)
  obtain ⟨later, member, laterEager, reached, rfl⟩ :=
    (eager second).mp (of_decide_eq_true (List.mem_filter.mp two).2)
  rcases comparable entry mem later member isEager laterEager reachable
    reached with rfl | depends | depends
  · exact absurd rfl different
  · exact absurd (path_of_paramOf hash reachable depends ⟨later, member, rfl⟩) unreached
  · exact depends

/-- So there is one order only. -/
theorem EagerComparable.order_eq (comparable : EagerComparable services reg)
    (acyclic : Acyclic reg.DependsOn) {order' eagerIds' : List TypeId}
    (sorted : TopologicalOrder (reachableGraph hash reg.entries
      (reachableTypes services reg.entries)) order)
    (sorted' : TopologicalOrder (reachableGraph other reg.entries
      (reachableTypes services reg.entries)) order')
    (eager : ∀ typeId, typeId ∈ eagerIds ↔ ∃ entry ∈ reg.entries,
      entry.eager = true ∧ Reachable services reg entry.typeId ∧ entry.typeId = typeId)
    (eager' : ∀ typeId, typeId ∈ eagerIds' ↔ ∃ entry ∈ reg.entries,
      entry.eager = true ∧ Reachable services reg entry.typeId ∧ entry.typeId = typeId) :
    order.filter (· ∈ eagerIds) = order'.filter (· ∈ eagerIds') := by
  have params := reg.acyclic_paramOf_iff.mpr acyclic
  have : Std.Irrefl fun first second : TypeId =>
      TransGen reg.ParamOf second first := ⟨params⟩
  have : Std.Antisymm fun first second : TypeId =>
      TransGen reg.ParamOf second first :=
    ⟨fun first _ one two => absurd (two.trans one) (params first)⟩
  refine (comparable.pairwise sorted eager).eq_of_mem_iff (comparable.pairwise sorted' eager') ?_
  intro typeId
  rw [List.mem_filter, List.mem_filter, decide_eq_true_eq, decide_eq_true_eq,
    sorted.mem, sorted'.mem, (reachableGraph_spec hash services reg).2.1,
    (reachableGraph_spec other services reg).2.1, eager, eager']

/-! ### The run -/

/-- The sort finds an order of an acyclic registry. -/
theorem exists_order (toposort : Toposort) (hash : HashOrder)
    (services : List ServiceRoot) (acyclic : Acyclic reg.DependsOn) :
    ∃ order, toposort.sort (reachableGraph hash reg.entries
        (reachableTypes services reg.entries)) = .ok order ∧
      TopologicalOrder (reachableGraph hash reg.entries
        (reachableTypes services reg.entries)) order := by
  have wellFormed := (reachableGraph_spec hash services reg).1
  cases sorted : toposort.sort (reachableGraph hash reg.entries
      (reachableTypes services reg.entries)) with
  | error node =>
    exact absurd (acyclic_reachableGraph acyclic) (toposort.cyclic wellFormed sorted).2
  | ok order => exact ⟨order, rfl, toposort.sorted wellFormed sorted⟩

/-- The run of an acyclic registry.  Without eager providers it is the same as
that of the empty order. -/
theorem eagerInit_eq (toposort : Toposort) (hash : HashOrder) (services : List ServiceRoot)
    (acyclic : Acyclic reg.DependsOn) (init : ProviderEntry → Except ProviderInitError Unit) :
    ∃ order, toposort.sort (reachableGraph hash reg.entries
        (reachableTypes services reg.entries)) = .ok order ∧
      TopologicalOrder (reachableGraph hash reg.entries
        (reachableTypes services reg.entries)) order ∧
      eagerInitReachableProviders toposort hash services reg.entries init = runInits reg.entries
          ((eagerTargets hash reg.entries (reachableTypes services reg.entries)).map
              ProviderEntry.typeId) init order := by
  obtain ⟨order, found, sorted⟩ := exists_order toposort hash services acyclic
  refine ⟨order, found, sorted, ?_⟩
  simp only [eagerInitReachableProviders, providersById_eq, found]
  split
  · rename_i empty
    rw [List.isEmpty_iff.mp empty, List.map_nil, ← runInits_filter]
    simp [runInits]
  · rfl

theorem EagerComparable.run_eq (comparable : EagerComparable services reg)
    (acyclic : Acyclic reg.DependsOn) (toposort : Toposort) (hash other : HashOrder)
    (init : ProviderEntry → Except ProviderInitError Unit) :
    eagerInitReachableProviders toposort hash services reg.entries init =
      eagerInitReachableProviders toposort other services reg.entries
        init := by
  obtain ⟨order, -, sorted, run⟩ := eagerInit_eq toposort hash services acyclic init
  obtain ⟨order', -, sorted', run'⟩ := eagerInit_eq toposort other services acyclic init
  have targets : ∀ typeId,
      typeId ∈ (eagerTargets hash reg.entries
        (reachableTypes services reg.entries)).map ProviderEntry.typeId ↔
      typeId ∈ (eagerTargets other reg.entries (reachableTypes services reg.entries)).map
          ProviderEntry.typeId := by
    intro typeId
    rw [mem_eagerIds, mem_eagerIds]
  rw [run, run', ← runInits_filter, comparable.order_eq acyclic sorted sorted'
    (mem_eagerIds hash) (mem_eagerIds other), runInits_congr targets,
    runInits_filter]

/-! ### Determinism -/

/-- If of any two eager providers that are reached one depends on the other, the
providers are initialised in the same order for every iteration of the maps and
sets, whatever the initialisers return and whichever topological sort is used. -/
theorem eager_order_deterministic (toposort : Toposort) (services : List ServiceRoot)
    (registry : ProviderRegistry) (acyclic : Acyclic registry.DependsOn)
    (comparable : EagerComparable services registry) (hash other : HashOrder)
    (init : ProviderEntry → Except ProviderInitError Unit) :
    (eagerInitReachableProviders toposort hash services registry.entries init).inits =
      (eagerInitReachableProviders toposort other services registry.entries init).inits := by
  rw [comparable.run_eq acyclic toposort hash other init]

/-- The services of `poolRegistry`. -/
def poolServices : List ServiceRoot := [⟨"web", [⟨"Api", ⟨1⟩⟩]⟩]

/-- The eager providers that are reached are the pool and its configuration. -/
theorem poolRegistry_comparable : EagerComparable poolServices poolRegistry := by
  have depends : poolRegistry.ParamOf ⟨2⟩ ⟨3⟩ :=
    ⟨⟨"Pool", ⟨2⟩, [⟨"Config", ⟨3⟩⟩], true⟩, by decide, rfl, ⟨"Config", ⟨3⟩⟩, by decide, rfl⟩
  have eager : ∀ entry ∈ poolRegistry.entries, entry.eager = true →
      entry.typeId ∈ reachableTypes poolServices poolRegistry.entries →
        entry = ⟨"Pool", ⟨2⟩, [⟨"Config", ⟨3⟩⟩], true⟩ ∨ entry = ⟨"Config", ⟨3⟩, [], true⟩ := by
    decide +kernel
  intro one mem two member isEager otherEager reachable reached
  have reaches := (reachableTypes_spec poolServices poolRegistry).2
  rcases eager one mem isEager ((reaches _).mpr reachable) with rfl | rfl <;>
    rcases eager two member otherEager ((reaches _).mpr reached) with rfl | rfl
  · exact .inl rfl
  · exact .inr (.inl (.single depends))
  · exact .inr (.inr (.single depends))
  · exact .inl rfl

/-- Two eager providers of which one depends on the other. -/
theorem eager_order_deterministic_pool :
    (Acyclic poolRegistry.DependsOn ∧ EagerComparable poolServices poolRegistry) ∧
    ∀ hash other : HashOrder,
      (eagerInitReachableProviders .depthFirst hash poolServices
          poolRegistry.entries fun _ => .ok ()).inits =
        (eagerInitReachableProviders .depthFirst other poolServices
          poolRegistry.entries fun _ => .ok ()).inits := by
  have valid : validateDependencyGraph .depthFirst poolServices
      poolRegistry.entries = .ok () := by
    decide +kernel
  have acyclic := validate_ok_iff.mp valid
  refine ⟨⟨acyclic, poolRegistry_comparable⟩, ?_⟩
  intro hash other
  exact eager_order_deterministic .depthFirst poolServices poolRegistry acyclic
    poolRegistry_comparable hash other _

/-- Two eager providers that do not depend on anything. -/
def twinRegistry : ProviderRegistry where
  entries :=
    [⟨"Cache", ⟨1⟩, [], true⟩, ⟨"Database", ⟨2⟩, [], true⟩]
  distinct := by decide

/-- Iteration that begins at some place. -/
def HashOrder.rotated (places : Nat) : HashOrder where
  order items := items.rotate places
  perm items := items.rotate_perm places

def twinServices : List ServiceRoot :=
  [⟨"web", [⟨"Cache", ⟨1⟩⟩, ⟨"Database", ⟨2⟩⟩]⟩]

/-- They are initialised in the one order or the other. -/
theorem eager_order_depends_on_hash :
    Acyclic twinRegistry.DependsOn ∧
    (eagerInitReachableProviders .depthFirst .insertion twinServices
        twinRegistry.entries fun _ => .ok ()).inits.map ProviderEntry.name =
      ["Database", "Cache"] ∧
    (eagerInitReachableProviders .depthFirst (.rotated 1) twinServices
        twinRegistry.entries fun _ => .ok ()).inits.map ProviderEntry.name =
      ["Cache", "Database"] := by
  have valid : validateDependencyGraph .depthFirst twinServices
      twinRegistry.entries = .ok () := by
    decide +kernel
  exact ⟨validate_ok_iff.mp valid, by decide +kernel, by decide +kernel⟩

end ServiceDaemon
