/-
Purpose: The check for cycles accepts exactly the acyclic registries, and after
  it the eager initialisation reaches every provider it should, once, and in an
  order that respects dependencies.
Main exports: ProviderRegistry.ParamOf, ProviderRegistry.DependsOn, Reachable,
  eager_init_ordered
-/
import ServiceDaemon.Core.ProviderGraph
import ServiceDaemon.Lib.DepthFirst

namespace ServiceDaemon

open GraphLib Relation ProviderMap DiGraph

/-! ### What the graphs are about -/

namespace ProviderRegistry

variable (reg : ProviderRegistry)

/-- The type has a provider. -/
def Provides (typeId : TypeId) : Prop :=
  ∃ entry ∈ reg.entries, entry.typeId = typeId

/-- The provider of the first type has the second as a parameter. -/
def ParamOf (provider parameter : TypeId) : Prop :=
  ∃ entry ∈ reg.entries, entry.typeId = provider ∧ ∃ param ∈ entry.params, param.typeId = parameter

/-- The dependency relation between providers. -/
def DependsOn (provider dependency : TypeId) : Prop :=
  reg.ParamOf provider dependency ∧ reg.Provides dependency

theorem ParamOf.provides {reg : ProviderRegistry} {provider parameter : TypeId}
    (param : reg.ParamOf provider parameter) : reg.Provides provider := by
  obtain ⟨entry, mem, named, -⟩ := param
  exact ⟨entry, mem, named⟩

theorem acyclic_paramOf_iff : Acyclic reg.ParamOf ↔ Acyclic reg.DependsOn := by
  constructor
  · intro acyclic
    exact acyclic.mono fun _ _ depends => depends.1
  · intro acyclic
    exact Acyclic.of_sources (fun _ _ param => param.provides) acyclic

end ProviderRegistry

/-- The type is reached from a parameter of a service through parameters of
providers. -/
def Reachable (services : List ServiceRoot) (reg : ProviderRegistry) (typeId : TypeId) : Prop :=
  ∃ svc ∈ services, ∃ param ∈ svc.params,
    ReflTransGen reg.ParamOf param.typeId typeId

/-! ### The graph of the check -/

section Check

variable {g : DiGraph GraphNode String} {node one two : GraphNode}
  {label : String} {params : List ServiceParam}

/-- The loop over the parameters of a node. -/
theorem foldl_params (wellFormed : g.WellFormed)
    (present : node ∈ g.names) (params : List ServiceParam) :
    let added := params.foldl
      (fun g param =>
        (g.entry (.type param.typeId) param.typeName).addEdge node (.type param.typeId))
      g
    added.WellFormed ∧ ∀ one two, added.Adj one two ↔ g.Adj one two ∨
        (one = node ∧ ∃ param ∈ params, two = .type param.typeId) := by
  induction params generalizing g with
  | nil => exact ⟨wellFormed, fun one two => by simp⟩
  | cons param params ih =>
    have kept : node ∈ (g.entry (.type param.typeId) param.typeName).names :=
      mem_names_entry.mpr (.inl present)
    have new : GraphNode.type param.typeId ∈
        (g.entry (.type param.typeId) param.typeName).names :=
      mem_names_entry.mpr (.inr rfl)
    have next := (wellFormed.entry (.type param.typeId) param.typeName).addEdge kept new
    obtain ⟨built, adjacent⟩ := ih next kept
    refine ⟨built, ?_⟩
    intro one two
    rw [List.foldl_cons, adjacent one two, adj_addEdge, adj_entry]
    simp only [List.mem_cons, exists_eq_or_imp]
    tauto

theorem addWithParams_spec (wellFormed : g.WellFormed) (node : GraphNode)
    (label : String) (params : List ServiceParam) :
    (addWithParams g node label params).WellFormed ∧
      ∀ one two, (addWithParams g node label params).Adj one two ↔ g.Adj one two ∨
          (one = node ∧ ∃ param ∈ params, two = .type param.typeId) := by
  obtain ⟨built, adjacent⟩ := foldl_params (wellFormed.entry node label)
    (mem_names_entry.mpr (.inr rfl)) params
  refine ⟨built, ?_⟩
  intro one two
  rw [addWithParams, adjacent one two, adj_entry]

/-- A phase: a loop over items, each with a node and parameters. -/
theorem foldl_addWithParams {Item : Type} (node : Item → GraphNode) (label : Item → String)
    (params : Item → List ServiceParam) (wellFormed : g.WellFormed) (items : List Item) :
    let added := items.foldl
      (fun g item =>
        addWithParams g (node item) (label item) (params item))
      g
    added.WellFormed ∧ ∀ one two, added.Adj one two ↔ g.Adj one two ∨
        ∃ item ∈ items, one = node item ∧ ∃ param ∈ params item, two = .type param.typeId := by
  induction items generalizing g with
  | nil => exact ⟨wellFormed, fun one two => by simp⟩
  | cons item items ih =>
    obtain ⟨next, first⟩ := addWithParams_spec wellFormed (node item) (label item) (params item)
    obtain ⟨built, adjacent⟩ := ih next
    refine ⟨built, ?_⟩
    intro one two
    rw [List.foldl_cons, adjacent one two, first one two]
    simp only [List.mem_cons, exists_eq_or_imp, or_assoc]

end Check

variable {toposort : Toposort} {hash : HashOrder}
  {services : List ServiceRoot} {reg : ProviderRegistry}

/-- The edges of the graph: from services and from providers to parameters. -/
theorem dependencyGraph_spec (services : List ServiceRoot) (providers : List ProviderEntry) :
    (dependencyGraph services providers).WellFormed ∧
      ∀ one two, (dependencyGraph services providers).Adj one two ↔
        (∃ svc ∈ services, one = .service svc.name ∧
            ∃ param ∈ svc.params, two = .type param.typeId) ∨
          ∃ provider ∈ providers, one = .type provider.typeId ∧
            ∃ param ∈ provider.params, two = .type param.typeId := by
  obtain ⟨rooted, roots⟩ :=
    foldl_addWithParams (fun svc : ServiceRoot => .service svc.name)
      ServiceRoot.name ServiceRoot.params DiGraph.WellFormed.empty services
  obtain ⟨built, adjacent⟩ :=
    foldl_addWithParams (fun entry : ProviderEntry => .type entry.typeId)
      ProviderEntry.name ProviderEntry.params rooted providers
  refine ⟨built, ?_⟩
  intro one two
  rw [dependencyGraph, adjacent one two, roots one two]
  simp [DiGraph.Adj, empty]

/-- A path between types is a path of parameters; no path leads to a
service. -/
theorem paramOf_of_path (path : TransGen (dependencyGraph services reg.entries).Adj one two) :
    ∃ target, two = .type target ∧
      ∀ source, one = .type source → TransGen reg.ParamOf source target := by
  have edges := (dependencyGraph_spec services reg.entries).2
  induction path with
  | single step =>
    rcases (edges _ _).mp step with
      ⟨svc, -, rfl, param, -, rfl⟩ | ⟨entry, mem, rfl, param, given, rfl⟩
    · exact ⟨param.typeId, rfl, nofun⟩
    · refine ⟨param.typeId, rfl, ?_⟩
      rintro source ⟨⟩
      exact .single ⟨entry, mem, rfl, param, given, rfl⟩
  | tail _ step ih =>
    obtain ⟨middle, rfl, before⟩ := ih
    rcases (edges _ _).mp step with
      ⟨svc, -, other, -⟩ | ⟨entry, mem, same, param, given, rfl⟩
    · cases other
    · cases same
      refine ⟨param.typeId, rfl, ?_⟩
      intro source named
      exact (before source named).tail ⟨entry, mem, rfl, param, given, rfl⟩

theorem acyclic_dependencyGraph_iff :
    Acyclic (dependencyGraph services reg.entries).Adj ↔ Acyclic reg.DependsOn := by
  constructor
  · intro acyclic
    refine acyclic.comap GraphNode.type ?_
    rintro one two ⟨⟨entry, mem, rfl, param, given, rfl⟩, -⟩
    exact ((dependencyGraph_spec services reg.entries).2 _ _).mpr
      (.inr ⟨entry, mem, rfl, param, given, rfl⟩)
  · intro acyclic node cycle
    obtain ⟨target, named, path⟩ := paramOf_of_path cycle
    exact reg.acyclic_paramOf_iff.mpr acyclic target (path target named)

/-- The check accepts exactly the acyclic registries. -/
theorem validate_ok_iff :
    validateDependencyGraph toposort services reg.entries = .ok () ↔ Acyclic reg.DependsOn := by
  have wellFormed := (dependencyGraph_spec services reg.entries).1
  rw [← acyclic_dependencyGraph_iff]
  unfold validateDependencyGraph
  simp only
  split
  · rename_i order sorted
    exact iff_of_true rfl (toposort.sorted wellFormed sorted).acyclic
  · rename_i node stuck
    exact iff_of_false nofun (toposort.cyclic wellFormed stuck).2

/-! ### The map of providers -/

/-- Entries of distinct types stay as they are listed. -/
theorem foldl_insert {map entries : List ProviderEntry}
    (distinct : ((map ++ entries).map ProviderEntry.typeId).Nodup) :
    entries.foldl ProviderMap.insert map = map ++ entries := by
  induction entries generalizing map with
  | nil => simp
  | cons entry entries ih =>
    have fresh : ∀ other ∈ map, other.typeId ≠ entry.typeId := by
      intro other mem same
      rw [List.map_append, List.nodup_append] at distinct
      exact distinct.2.2 _ (List.mem_map_of_mem mem) entry.typeId (by simp) same
    have inserted : ProviderMap.insert map entry = map ++ [entry] := by
      unfold ProviderMap.insert
      rw [List.filter_eq_self.mpr]
      intro other mem
      exact decide_eq_true (fresh other mem)
    rw [List.foldl_cons, inserted, ih (by simpa using distinct)]
    simp

theorem providersById_eq (reg : ProviderRegistry) :
    providersById reg.entries = reg.entries :=
  foldl_insert (by simpa using reg.distinct)

/-- An entry is found under its type, and nowhere else. -/
theorem get_eq_some {typeId entry} :
    get reg.entries typeId = some entry ↔ entry ∈ reg.entries ∧ entry.typeId = typeId := by
  constructor
  · intro found
    exact ⟨List.mem_of_find?_eq_some found, by simpa using List.find?_some found⟩
  · rintro ⟨mem, rfl⟩
    cases found : get reg.entries entry.typeId with
    | none =>
      have missing := List.find?_eq_none.mp found entry mem
      simp at missing
    | some other =>
      have same : other.typeId = entry.typeId := by
        simpa using List.find?_some found
      rw [List.inj_on_of_nodup_map reg.distinct (List.mem_of_find?_eq_some found) mem same]

theorem get_isSome {typeId} : (get reg.entries typeId).isSome = true ↔ reg.Provides typeId := by
  rw [Option.isSome_iff_exists]
  constructor
  · rintro ⟨entry, found⟩
    exact ⟨entry, get_eq_some.mp found⟩
  · rintro ⟨entry, provides⟩
    exact ⟨entry, get_eq_some.mpr provides⟩

theorem mem_dependencies {provider parameter : TypeId} :
    parameter ∈ dependencies reg.entries provider ↔ reg.ParamOf provider parameter := by
  unfold dependencies
  split
  · rename_i missing
    refine iff_of_false List.not_mem_nil ?_
    intro param
    have found := get_isSome.mpr param.provides
    rw [missing] at found
    cases found
  · rename_i entry found
    obtain ⟨mem, named⟩ := get_eq_some.mp found
    rw [List.mem_map]
    constructor
    · rintro ⟨param, given, rfl⟩
      exact ⟨entry, mem, named, param, given, rfl⟩
    · rintro ⟨other, member, same, param, given, rfl⟩
      have again := get_eq_some.mpr ⟨member, same⟩
      cases found.symm.trans again
      exact ⟨param, given, rfl⟩

/-! ### The reachable types -/

theorem mem_serviceTypes :
    typeId ∈ serviceTypes services ↔ ∃ svc ∈ services, ∃ param ∈ svc.params,
        param.typeId = typeId := by
  simp [serviceTypes]

/-- The worklist finds exactly the reachable types, each once. -/
theorem reachableTypes_spec (services : List ServiceRoot) (reg : ProviderRegistry) :
    (reachableTypes services reg.entries).Nodup ∧
      ∀ typeId, typeId ∈ reachableTypes services reg.entries ↔ Reachable services reg typeId := by
  let parameters := reg.entries.flatMap fun entry =>
    entry.params.map ServiceParam.typeId
  have listed : ∀ typeId,
      ∀ target ∈ dependencies reg.entries typeId,
        target ∈ serviceTypes services ++ parameters := by
    intro typeId target depends
    obtain ⟨entry, member, -, param, given, rfl⟩ := mem_dependencies.mp depends
    apply List.mem_append_right
    exact List.mem_flatMap.mpr ⟨entry, member, List.mem_map_of_mem given⟩
  have enough : room (serviceTypes services ++ parameters)
      (insertAll (serviceTypes services) ([], [])) ≤
        (serviceTypes services).length + parameters.length := by
    rw [room_insertAll fun target given => List.mem_append_left _ given, ← List.length_append]
    simpa [room] using (serviceTypes services ++ parameters).toFinset_card_le
  obtain ⟨reached, expanded, distinct, mem⟩ := expand_eq_some listed (Exploring.begin _ _) enough
  have equal : reachableTypes services reg.entries = reached := by
    simp only [reachableTypes, providersById_eq]
    rw [expanded]
    rfl
  rw [equal]
  refine ⟨distinct, ?_⟩
  intro typeId
  have edges : (fun one two => two ∈ dependencies reg.entries one) = reg.ParamOf := by
    funext one two
    exact propext mem_dependencies
  rw [mem typeId, edges]
  constructor
  · rintro ⟨first, given, path⟩
    obtain ⟨svc, served, param, listed, rfl⟩ := mem_serviceTypes.mp given
    exact ⟨svc, served, param, listed, path⟩
  · rintro ⟨svc, served, param, listed, path⟩
    exact ⟨param.typeId, mem_serviceTypes.mpr ⟨svc, served, param, listed, rfl⟩, path⟩

theorem Reachable.trans {one two} (reachable : Reachable services reg one)
    (path : ReflTransGen reg.ParamOf one two) : Reachable services reg two := by
  obtain ⟨svc, served, param, mem, before⟩ := reachable
  exact ⟨svc, served, param, mem, before.trans path⟩

/-! ### The graph of the reachable providers -/

/-- The loop over the reachable types. -/
theorem foldl_nodes {g : DiGraph TypeId Unit} (wellFormed : g.WellFormed) (types : List TypeId) :
    let added := types.foldl
      (fun g typeId =>
        if (get reg.entries typeId).isSome then
          g.entry typeId ()
        else g)
      g
    added.WellFormed ∧ added.edges = g.edges ∧ ∀ typeId, typeId ∈ added.names ↔ typeId ∈ g.names ∨
        (typeId ∈ types ∧ reg.Provides typeId) := by
  induction types generalizing g with
  | nil => exact ⟨wellFormed, rfl, fun typeId => by simp⟩
  | cons first types ih =>
    rw [List.foldl_cons]
    by_cases provided : (get reg.entries first).isSome
    · rw [if_pos provided]
      have provides := get_isSome.mp provided
      obtain ⟨built, edges, names⟩ := ih (wellFormed.entry first ())
      refine ⟨built, edges.trans (entry_edges first ()), ?_⟩
      intro typeId
      rw [names typeId, mem_names_entry]
      constructor
      · rintro ((old | rfl) | new)
        · exact .inl old
        · exact .inr ⟨List.mem_cons_self, provides⟩
        · exact .inr ⟨.tail _ new.1, new.2⟩
      · rintro (old | ⟨mem, provides⟩)
        · exact .inl (.inl old)
        · rcases List.mem_cons.mp mem with rfl | mem
          · exact .inl (.inr rfl)
          · exact .inr ⟨mem, provides⟩
    · rw [if_neg provided]
      obtain ⟨built, edges, names⟩ := ih wellFormed
      refine ⟨built, edges, ?_⟩
      intro typeId
      rw [names typeId]
      refine or_congr_right ⟨fun new => ⟨.tail _ new.1, new.2⟩, ?_⟩
      rintro ⟨mem, provides⟩
      rcases List.mem_cons.mp mem with rfl | mem
      · exact absurd (get_isSome.mpr provides) provided
      · exact ⟨mem, provides⟩

/-- The loop over the parameters of an entry. -/
theorem foldl_dependencies {graph : DiGraph TypeId Unit} (wellFormed : graph.WellFormed)
    {provider : TypeId} (present : provider ∈ graph.names) (reachable : List TypeId)
    (params : List ServiceParam) :
    let added := params.foldl
      (fun graph dependency =>
        if dependency.typeId ∉ reachable then graph
        else if dependency.typeId ∈ graph.names then
          graph.addEdge dependency.typeId provider
        else graph)
      graph
    added.WellFormed ∧ added.names = graph.names ∧
      ∀ one two, added.Adj one two ↔ graph.Adj one two ∨
        (two = provider ∧ one ∈ reachable ∧ one ∈ graph.names ∧
          ∃ param ∈ params, param.typeId = one) := by
  induction params generalizing graph with
  | nil => exact ⟨wellFormed, rfl, fun one two => by simp⟩
  | cons param params ih =>
    rw [List.foldl_cons]
    by_cases linked : param.typeId ∈ reachable ∧ param.typeId ∈ graph.names
    · rw [if_neg (not_not.mpr linked.1), if_pos linked.2]
      obtain ⟨built, names, adjacent⟩ := ih (wellFormed.addEdge linked.2 present) present
      refine ⟨built, names, ?_⟩
      intro one two
      rw [adjacent one two, adj_addEdge]
      constructor
      · rintro ((old | ⟨rfl, rfl⟩) | ⟨rfl, inside, named, other, given, rfl⟩)
        · exact .inl old
        · exact .inr ⟨rfl, linked.1, linked.2, param, List.mem_cons_self, rfl⟩
        · exact .inr ⟨rfl, inside, named, other, .tail _ given, rfl⟩
      · rintro (old | ⟨rfl, inside, named, other, given, rfl⟩)
        · exact .inl (.inl old)
        · rcases List.mem_cons.mp given with rfl | given
          · exact .inl (.inr ⟨rfl, rfl⟩)
          · exact .inr ⟨rfl, inside, named, other, given, rfl⟩
    · have skipped : (if param.typeId ∉ reachable then graph else if param.typeId ∈ graph.names then
            graph.addEdge param.typeId provider
          else graph) = graph := by
        split
        · rfl
        · rename_i inside
          exact if_neg fun named => linked ⟨not_not.mp inside, named⟩
      rw [skipped]
      obtain ⟨built, names, adjacent⟩ := ih wellFormed present
      refine ⟨built, names, ?_⟩
      intro one two
      rw [adjacent one two]
      refine or_congr_right ⟨?_, ?_⟩
      · rintro ⟨rfl, inside, named, other, given, rfl⟩
        exact ⟨rfl, inside, named, other, .tail _ given, rfl⟩
      · rintro ⟨rfl, inside, named, other, given, rfl⟩
        rcases List.mem_cons.mp given with rfl | given
        · exact absurd ⟨inside, named⟩ linked
        · exact ⟨rfl, inside, named, other, given, rfl⟩

/-- One entry of the loop over the providers. -/
theorem addProviderEdges_spec {graph : DiGraph TypeId Unit} (wellFormed : graph.WellFormed)
    (reachable : List TypeId) (entry : ProviderEntry) :
    (addProviderEdges reachable graph entry).WellFormed ∧
      (addProviderEdges reachable graph entry).names = graph.names ∧
      ∀ one two, (addProviderEdges reachable graph entry).Adj one two ↔
        graph.Adj one two ∨ ((one ∈ reachable ∧ one ∈ graph.names) ∧
            (two ∈ reachable ∧ two ∈ graph.names) ∧ entry.typeId = two ∧
            ∃ param ∈ entry.params, param.typeId = one) := by
  by_cases linked : entry.typeId ∈ reachable ∧ entry.typeId ∈ graph.names
  · rw [addProviderEdges, if_neg (not_not.mpr linked.1), if_neg (not_not.mpr linked.2)]
    obtain ⟨built, names, adjacent⟩ := foldl_dependencies wellFormed linked.2 reachable entry.params
    refine ⟨built, names, ?_⟩
    intro one two
    rw [adjacent one two]
    refine or_congr_right ⟨?_, ?_⟩
    · rintro ⟨rfl, inside, named, params⟩
      exact ⟨⟨inside, named⟩, linked, rfl, params⟩
    · rintro ⟨⟨inside, named⟩, -, rfl, params⟩
      exact ⟨rfl, inside, named, params⟩
  · have skipped : addProviderEdges reachable graph entry = graph := by
      unfold addProviderEdges
      split
      · rfl
      · rename_i inside
        exact if_pos fun named => linked ⟨not_not.mp inside, named⟩
    rw [skipped]
    refine ⟨wellFormed, rfl, ?_⟩
    intro one two
    refine ⟨.inl, ?_⟩
    rintro (old | ⟨-, inside, rfl, -⟩)
    · exact old
    · exact absurd inside linked

/-- The loop over the entries. -/
theorem foldl_entries (wellFormed : g.WellFormed)
    (reachable : List TypeId) (entries : List ProviderEntry) :
    let added := entries.foldl (addProviderEdges reachable) g
    added.WellFormed ∧ added.names = g.names ∧ ∀ one two, added.Adj one two ↔ g.Adj one two ∨
        ((one ∈ reachable ∧ one ∈ g.names) ∧ (two ∈ reachable ∧ two ∈ g.names) ∧
          ∃ entry ∈ entries, entry.typeId = two ∧ ∃ param ∈ entry.params, param.typeId = one) := by
  induction entries generalizing g with
  | nil => exact ⟨wellFormed, rfl, fun one two => by simp⟩
  | cons entry entries ih =>
    obtain ⟨next, kept, first⟩ := addProviderEdges_spec wellFormed reachable entry
    obtain ⟨built, names, adjacent⟩ := ih next
    refine ⟨built, names.trans kept, ?_⟩
    intro one two
    rw [List.foldl_cons, adjacent one two, first one two, kept]
    simp only [List.mem_cons, exists_eq_or_imp, and_or_left, or_assoc]

/-- The nodes are the reachable providers, and the edges lead from a reachable
dependency to its reachable provider. -/
theorem reachableGraph_spec (hash : HashOrder) (services : List ServiceRoot)
    (reg : ProviderRegistry) :
    let g := reachableGraph hash reg.entries (reachableTypes services reg.entries)
    g.WellFormed ∧ (∀ typeId, typeId ∈ g.names ↔
        Reachable services reg typeId ∧ reg.Provides typeId) ∧
      ∀ one two, g.Adj one two ↔ (Reachable services reg one ∧ reg.Provides one) ∧
          Reachable services reg two ∧ reg.ParamOf two one := by
  have reachable := (reachableTypes_spec services reg).2
  obtain ⟨rooted, edges, nodes⟩ :=
    foldl_nodes DiGraph.WellFormed.empty (hash.order (reachableTypes services reg.entries))
  obtain ⟨built, names, adjacent⟩ :=
    foldl_entries rooted (reachableTypes services reg.entries) (hash.order reg.entries)
  have named : ∀ typeId, typeId ∈
      (reachableNodes reg.entries (hash.order (reachableTypes services reg.entries))).names ↔
      Reachable services reg typeId ∧ reg.Provides typeId := by
    intro typeId
    rw [reachableNodes, nodes typeId, (hash.perm _).mem_iff, reachable typeId]
    simp [DiGraph.empty, DiGraph.names]
  refine ⟨built, ?_, ?_⟩
  · intro typeId
    rw [reachableGraph, reachableNodes, names]
    exact named typeId
  · intro one two
    have none : ¬ (reachableNodes reg.entries
        (hash.order (reachableTypes services reg.entries))).Adj one two := by
      rw [DiGraph.Adj, reachableNodes, edges]
      exact List.not_mem_nil
    rw [reachableGraph, reachableNodes, adjacent one two]
    constructor
    · rintro (edge | ⟨⟨-, first⟩, ⟨-, second⟩, entry, mem, rfl, params⟩)
      · exact absurd edge none
      · exact ⟨(named one).mp first, ((named _).mp second).1, entry,
          (hash.perm _).mem_iff.mp mem, rfl, params⟩
    · rintro ⟨first, second, entry, mem, rfl, params⟩
      refine .inr ⟨⟨(reachable one).mpr first.1, (named one).mpr first⟩, ?_,
        entry, (hash.perm _).mem_iff.mpr mem, rfl, params⟩
      exact ⟨(reachable _).mpr second, (named _).mpr ⟨second, entry, mem, rfl⟩⟩

/-- Every path of parameters from a reachable type to a provider is, the other
way round, a path of that graph. -/
theorem path_of_paramOf (hash : HashOrder) {one two : TypeId}
    (reachable : Reachable services reg one)
    (path : TransGen reg.ParamOf one two) (provided : reg.Provides two) :
    TransGen (reachableGraph hash reg.entries
      (reachableTypes services reg.entries)).Adj two one := by
  have adjacent := (reachableGraph_spec hash services reg).2.2
  induction path with
  | single step =>
    exact .single ((adjacent _ _).mpr ⟨⟨reachable.trans (.single step), provided⟩, reachable, step⟩)
  | tail before step ih =>
    have middle := reachable.trans before.to_reflTransGen
    have edge := (adjacent _ _).mpr ⟨⟨middle.trans (.single step), provided⟩, middle, step⟩
    exact .head edge (ih step.provides)

theorem acyclic_reachableGraph (acyclic : Acyclic reg.DependsOn) :
    Acyclic (reachableGraph hash reg.entries (reachableTypes services reg.entries)).Adj := by
  have params := reg.acyclic_paramOf_iff.mpr acyclic
  refine params.swap.mono ?_
  intro one two edge
  exact (((reachableGraph_spec hash services reg).2.2 one two).mp edge).2.2

/-! ### Running the initialisers -/

section Inits

variable {providers : ProviderMap} {eagerIds order : List TypeId}
  {init : ProviderEntry → Except ProviderInitError Unit}

/-- With a provider for every eager type, only an initialiser can fail. -/
theorem runInits_not_defensive
    (provided : ∀ typeId ∈ eagerIds, (providers.get typeId).isSome = true) :
    (runInits providers eagerIds init order).result ≠ .error .missing ∧
      ∀ offending, (runInits providers eagerIds init order).result ≠
        .error (.circular offending) := by
  induction order with
  | nil => exact ⟨nofun, nofun⟩
  | cons typeId order ih =>
    unfold runInits
    split
    · exact ih
    · rename_i eager
      split
      · rename_i missing
        have found := provided typeId (not_not.mp eager)
        rw [missing] at found
        cases found
      · split
        · exact ⟨nofun, nofun⟩
        · exact ih

/-- If every initialiser succeeds, those of the eager types run, in order. -/
theorem runInits_ok (succeeds : ∀ entry, init entry = .ok ())
    (provided : ∀ typeId ∈ eagerIds, (providers.get typeId).isSome = true) :
    runInits providers eagerIds init order =
      { inits := (order.filter (· ∈ eagerIds)).filterMap providers.get, result := .ok () } := by
  induction order with
  | nil => rfl
  | cons typeId order ih =>
    by_cases eager : typeId ∈ eagerIds
    · obtain ⟨entry, found⟩ := Option.isSome_iff_exists.mp (provided typeId eager)
      simp [runInits, eager, found, succeeds entry, ih]
    · simp [runInits, eager, ih]

end Inits

/-! ### Eager initialisation -/

theorem mem_eagerTargets (hash : HashOrder) {entry} :
    entry ∈ eagerTargets hash reg.entries
        (reachableTypes services reg.entries) ↔
      entry ∈ reg.entries ∧ entry.eager = true ∧ Reachable services reg entry.typeId := by
  have reachable := (reachableTypes_spec services reg).2
  rw [eagerTargets, List.mem_filter, List.mem_filterMap]
  constructor
  · rintro ⟨⟨typeId, mem, found⟩, eager⟩
    obtain ⟨member, rfl⟩ := get_eq_some.mp found
    exact ⟨member, eager, (reachable _).mp ((hash.perm _).mem_iff.mp mem)⟩
  · rintro ⟨member, eager, reached⟩
    exact ⟨⟨entry.typeId, (hash.perm _).mem_iff.mpr ((reachable _).mpr reached),
      get_eq_some.mpr ⟨member, rfl⟩⟩, eager⟩

theorem mem_eagerIds (hash : HashOrder) (typeId : TypeId) :
    typeId ∈ (eagerTargets hash reg.entries
        (reachableTypes services reg.entries)).map ProviderEntry.typeId ↔
      ∃ entry ∈ reg.entries, entry.eager = true ∧
        Reachable services reg entry.typeId ∧ entry.typeId = typeId := by
  rw [List.mem_map]
  constructor
  · rintro ⟨entry, target, named⟩
    obtain ⟨mem, eager, reachable⟩ := (mem_eagerTargets hash).mp target
    exact ⟨entry, mem, eager, reachable, named⟩
  · rintro ⟨entry, mem, eager, reachable, named⟩
    exact ⟨entry, (mem_eagerTargets hash).mpr ⟨mem, eager, reachable⟩, named⟩

/-- What the eager initialisation does when every initialiser succeeds: it runs
those of the reachable eager providers, each once, and each of them after all
eager providers it depends on, directly or through others. -/
structure EagerRun.Complete (services : List ServiceRoot)
    (reg : ProviderRegistry) (run : EagerRun) : Prop where
  succeeds : run.result = .ok ()
  once : run.inits.Nodup
  exactly : ∀ entry, entry ∈ run.inits ↔ entry ∈ reg.entries ∧ entry.eager = true ∧
      Reachable services reg entry.typeId
  ordered : ∀ (before : List ProviderEntry) (entry : ProviderEntry)
    (after : List ProviderEntry), run.inits = before ++ entry :: after →
      ∀ dependency ∈ reg.entries, dependency.eager = true →
        TransGen reg.ParamOf entry.typeId dependency.typeId → dependency ∈ before

section Order

variable {order eagerIds : List TypeId} {inits : List ProviderEntry}

/-- The entries of the eager types in the order. -/
theorem mem_inits
    (sorted : TopologicalOrder (reachableGraph hash reg.entries
      (reachableTypes services reg.entries)) order)
    (eager : ∀ typeId, typeId ∈ eagerIds ↔ ∃ entry ∈ reg.entries,
      entry.eager = true ∧ Reachable services reg entry.typeId ∧
        entry.typeId = typeId) (entry : ProviderEntry) :
    entry ∈ (order.filter (· ∈ eagerIds)).filterMap
        (get reg.entries) ↔
      entry ∈ reg.entries ∧ entry.eager = true ∧ Reachable services reg entry.typeId := by
  have names := (reachableGraph_spec hash services reg).2.1
  rw [List.mem_filterMap]
  constructor
  · rintro ⟨typeId, mem, found⟩
    obtain ⟨member, rfl⟩ := get_eq_some.mp found
    obtain ⟨other, mem, eager, reachable, same⟩ := (eager _).mp
      (of_decide_eq_true (List.mem_filter.mp mem).2)
    cases List.inj_on_of_nodup_map reg.distinct mem member same
    exact ⟨member, eager, reachable⟩
  · rintro ⟨member, isEager, reachable⟩
    refine ⟨entry.typeId, List.mem_filter.mpr ⟨?_, ?_⟩, get_eq_some.mpr ⟨member, rfl⟩⟩
    · exact (sorted.mem _).mpr ((names _).mpr ⟨reachable, entry, member, rfl⟩)
    · exact decide_eq_true ((eager _).mpr ⟨entry, member, isEager, reachable, rfl⟩)

theorem inits_apart (eagerIds : List TypeId)
    (sorted : TopologicalOrder (reachableGraph hash reg.entries
      (reachableTypes services reg.entries)) order) :
    ((order.filter (· ∈ eagerIds)).filterMap
      (get reg.entries)).Pairwise fun first second =>
        ¬ TransGen (reachableGraph hash reg.entries
          (reachableTypes services reg.entries)).Adj second.typeId
            first.typeId := by
  refine (sorted.pairwise.filter _).filterMap _ ?_
  intro one two unreached first found second other
  obtain ⟨-, rfl⟩ := get_eq_some.mp found
  obtain ⟨-, rfl⟩ := get_eq_some.mp other
  exact unreached

/-- So what an entry depends on comes before it, if it is there at all. -/
theorem mem_before_of_apart {before after : List ProviderEntry} {entry dependency : ProviderEntry}
    (acyclic : Acyclic (reachableGraph hash reg.entries (reachableTypes services reg.entries)).Adj)
    (apart : (before ++ entry :: after).Pairwise fun first second =>
      ¬ TransGen (reachableGraph hash reg.entries
        (reachableTypes services reg.entries)).Adj second.typeId
          first.typeId) (mem : dependency ∈ before ++ entry :: after)
    (back : TransGen (reachableGraph hash reg.entries
      (reachableTypes services reg.entries)).Adj dependency.typeId entry.typeId) :
    dependency ∈ before := by
  rcases List.mem_append.mp mem with earlier | later
  · exact earlier
  · rcases List.mem_cons.mp later with rfl | later
    · exact absurd back (acyclic _)
    · have following := (List.pairwise_append.mp apart).2.1
      exact absurd back ((List.pairwise_cons.mp following).1 dependency later)

/-- The initialisers of a topological order. -/
theorem complete_of_order
    (sorted : TopologicalOrder (reachableGraph hash reg.entries
      (reachableTypes services reg.entries)) order)
    (eager : ∀ typeId, typeId ∈ eagerIds ↔ ∃ entry ∈ reg.entries,
      entry.eager = true ∧ Reachable services reg entry.typeId ∧ entry.typeId = typeId)
    (ran : inits = (order.filter (· ∈ eagerIds)).filterMap (get reg.entries)) :
    EagerRun.Complete services reg
      { inits := inits, result := .ok () } := by
  have exactly : ∀ entry, entry ∈ inits ↔ entry ∈ reg.entries ∧
      entry.eager = true ∧ Reachable services reg entry.typeId := by
    rw [ran]
    exact mem_inits sorted eager
  refine ⟨rfl, ?_, exactly, ?_⟩
  · rw [ran]
    refine (sorted.nodup.filter _).filterMap ?_
    intro one two entry found again
    obtain ⟨-, rfl⟩ := get_eq_some.mp found
    obtain ⟨-, same⟩ := get_eq_some.mp again
    exact same
  · rintro before entry after (split : inits = _) dependency mem isEager path
    have here : entry ∈ inits := by
      rw [split]
      exact List.mem_append_right _ List.mem_cons_self
    have reachable := ((exactly entry).mp here).2.2
    have listed := (exactly dependency).mpr ⟨mem, isEager, reachable.trans path.to_reflTransGen⟩
    have back := path_of_paramOf hash reachable path ⟨dependency, mem, rfl⟩
    have apart := inits_apart eagerIds sorted
    rw [← ran, split] at apart
    rw [split] at listed
    exact mem_before_of_apart sorted.acyclic apart listed back

end Order

/-- Eager initialisation is complete and ordered, for every order that the sort
finds and in which the maps are iterated: the check accepts exactly the acyclic
registries, and then the defensive errors are never returned, and if every
initialiser succeeds, those of the reachable eager providers have run, each once
and after those it depends on. -/
theorem eager_init_ordered (toposort : Toposort) (hash : HashOrder) (services : List ServiceRoot)
    (registry : ProviderRegistry) (init : ProviderEntry → Except ProviderInitError Unit) :
    (validateDependencyGraph toposort services registry.entries = .ok () ↔
        Acyclic registry.DependsOn) ∧
      (validateDependencyGraph toposort services registry.entries = .ok () →
        (eagerInitReachableProviders toposort hash services registry.entries
            init).result ≠ .error .missing ∧
          (∀ offending, (eagerInitReachableProviders toposort hash services
                registry.entries init).result ≠
              .error (.circular offending)) ∧
          ((∀ entry, init entry = .ok ()) → (eagerInitReachableProviders toposort hash services
              registry.entries init).Complete services registry)) := by
  refine ⟨validate_ok_iff, ?_⟩
  intro valid
  have acyclic : Acyclic (reachableGraph hash registry.entries
      (reachableTypes services registry.entries)).Adj :=
    acyclic_reachableGraph (validate_ok_iff.mp valid)
  have wellFormed := (reachableGraph_spec hash services registry).1
  simp only [eagerInitReachableProviders, providersById_eq]
  split
  · -- there is nothing to initialise
    rename_i empty
    refine ⟨nofun, nofun, fun _ => ⟨rfl, List.nodup_nil, ?_, ?_⟩⟩
    · intro entry
      rw [← mem_eagerTargets hash, List.isEmpty_iff.mp empty]
    · intro before entry after split
      simp at split
  · split
    · rename_i node stuck
      exact absurd acyclic (toposort.cyclic wellFormed stuck).2
    · rename_i order sorted
      have provided : ∀ typeId ∈ (eagerTargets hash registry.entries
          (reachableTypes services registry.entries)).map
            ProviderEntry.typeId,
          (ProviderMap.get registry.entries typeId).isSome = true := by
        intro typeId listed
        obtain ⟨entry, member, -, -, named⟩ :=
          (mem_eagerIds hash typeId).mp listed
        exact get_isSome.mpr ⟨entry, member, named⟩
      obtain ⟨present, uncircular⟩ := runInits_not_defensive provided
      refine ⟨present, uncircular, ?_⟩
      intro succeeds
      rw [runInits_ok succeeds provided]
      exact complete_of_order (toposort.sorted wellFormed sorted)
        (mem_eagerIds hash) rfl

/-- A lazy provider between a service and two eager ones, and an eager one that
no service reaches. -/
def poolRegistry : ProviderRegistry where
  entries :=
    [⟨"Api", ⟨1⟩, [⟨"Pool", ⟨2⟩⟩], false⟩,
      ⟨"Pool", ⟨2⟩, [⟨"Config", ⟨3⟩⟩], true⟩, ⟨"Config", ⟨3⟩, [], true⟩,
      ⟨"Metrics", ⟨4⟩, [⟨"Config", ⟨3⟩⟩], true⟩]
  distinct := by decide

example :
    (eagerInitReachableProviders .depthFirst .insertion
        [⟨"web", [⟨"Api", ⟨1⟩⟩]⟩] poolRegistry.entries
        fun _ => .ok ()).inits.map ProviderEntry.name = ["Config", "Pool"] := by
  decide

end ServiceDaemon
