/-
Purpose: Directed graphs with named nodes: acyclic relations, topological orders
  and what a sort owes, and the closure of a set of nodes by a worklist.
Main exports: Acyclic, DiGraph, TopologicalOrder
-/
import Mathlib

namespace GraphLib

open Relation

/-! ### Acyclic relations -/

section Acyclic

universe u v

variable {Node : Type u} {Other : Type v} {edge wider : Node → Node → Prop}

/-- No node reaches itself. -/
def Acyclic (edge : Node → Node → Prop) : Prop :=
  ∀ node, ¬ TransGen edge node node

namespace Acyclic

theorem mono (acyclic : Acyclic wider)
    (included : ∀ source target, edge source target → wider source target) : Acyclic edge := by
  intro node cycle
  exact acyclic node (TransGen.mono included _ _ cycle)

theorem swap (acyclic : Acyclic edge) : Acyclic (Function.swap edge) := by
  intro node cycle
  exact acyclic node (transGen_swap.mp cycle)

theorem comap {target : Other → Other → Prop} (name : Node → Other) (acyclic : Acyclic target)
    (mapped : ∀ one two, edge one two → target (name one) (name two)) : Acyclic edge := by
  intro node cycle
  exact acyclic (name node) (cycle.lift name mapped)

/-- Nodes without an edge of their own are on no cycle. -/
theorem of_sources {inner : Node → Prop}
    (sources : ∀ source target, edge source target → inner source)
    (acyclic : Acyclic fun source target => edge source target ∧ inner target) : Acyclic edge := by
  have kept : ∀ {source target}, TransGen edge source target → inner target →
      TransGen (fun one two => edge one two ∧ inner two) source target := by
    intro source target path
    induction path with
    | single step =>
      intro inside
      exact .single ⟨step, inside⟩
    | tail _ step ih =>
      intro inside
      exact (ih (sources _ _ step)).tail ⟨step, inside⟩
  intro node cycle
  obtain ⟨next, first, -⟩ := TransGen.head'_iff.mp cycle
  exact acyclic node (kept cycle (sources node next first))

end Acyclic

end Acyclic

/-! ### Graphs -/

/-- A directed graph.  A node is named by what it was added for; its label is
the one it was added with. -/
structure DiGraph (Node Label : Type) where
  nodes : List (Node × Label)
  edges : List (Node × Node)

variable {Node Label : Type}

namespace DiGraph

def empty : DiGraph Node Label := { nodes := [], edges := [] }

/-- The nodes, in the order they were added. -/
def names (graph : DiGraph Node Label) : List Node := graph.nodes.map Prod.fst

/-- There is an edge. -/
def Adj (graph : DiGraph Node Label) (source target : Node) : Prop :=
  (source, target) ∈ graph.edges

def addEdge (graph : DiGraph Node Label) (source target : Node) :
    DiGraph Node Label :=
  { graph with edges := graph.edges ++ [(source, target)] }

/-- Nodes are there once, and edges are between nodes. -/
structure WellFormed (g : DiGraph Node Label) : Prop where
  distinct : g.names.Nodup
  closed : ∀ source target, g.Adj source target → source ∈ g.names ∧ target ∈ g.names

variable {g : DiGraph Node Label}

theorem adj_addEdge :
    (g.addEdge source target).Adj one two ↔ g.Adj one two ∨ (one = source ∧ two = target) := by
  simp [Adj, addEdge]

theorem WellFormed.addEdge (wellFormed : g.WellFormed)
    (one : source ∈ g.names) (two : target ∈ g.names) :
    (g.addEdge source target).WellFormed where
  distinct := wellFormed.distinct
  closed other another adjacent := by
    rcases adj_addEdge.mp adjacent with old | ⟨rfl, rfl⟩
    · exact wellFormed.closed other another old
    · exact ⟨one, two⟩

theorem WellFormed.empty : (empty : DiGraph Node Label).WellFormed where
  distinct := List.nodup_nil
  closed _ _ adjacent := absurd adjacent List.not_mem_nil

variable [DecidableEq Node]

/-- Add a node, unless it is there. -/
def entry (graph : DiGraph Node Label) (node : Node) (label : Label) :
    DiGraph Node Label :=
  if node ∈ graph.names then graph
  else { graph with nodes := graph.nodes ++ [(node, label)] }

/-- The label of a node. -/
def label? (graph : DiGraph Node Label) (node : Node) : Option Label :=
  (graph.nodes.find? fun entry => entry.1 = node).map Prod.snd

theorem mem_names_entry :
    other ∈ (g.entry node label).names ↔ other ∈ g.names ∨ other = node := by
  unfold entry
  split
  · rename_i present
    constructor
    · exact .inl
    · rintro (mem | rfl)
      · exact mem
      · exact present
  · simp [names]

@[simp] theorem entry_edges (node : Node) (label : Label) :
    (g.entry node label).edges = g.edges := by
  unfold entry
  split <;> rfl

@[simp] theorem adj_entry :
    (g.entry node label).Adj source target ↔ g.Adj source target := by
  simp [Adj]

theorem WellFormed.entry (wellFormed : g.WellFormed) (node : Node) (label : Label) :
    (g.entry node label).WellFormed where
  distinct := by
    unfold DiGraph.entry
    split
    · exact wellFormed.distinct
    · rename_i absent
      simp only [names, List.map_append, List.map_cons, List.map_nil]
      exact List.nodup_append.mpr ⟨wellFormed.distinct, List.nodup_singleton _,
        fun one mem two only same => absent (by
          rw [← List.mem_singleton.mp only, ← same]
          exact mem)⟩
  closed source target adjacent := by
    obtain ⟨one, two⟩ := wellFormed.closed source target (adj_entry.mp adjacent)
    exact ⟨mem_names_entry.mpr (.inl one), mem_names_entry.mpr (.inl two)⟩

end DiGraph

/-! ### Topological orders -/

/-- The nodes in an order that every edge respects. -/
structure TopologicalOrder [DecidableEq Node] (g : DiGraph Node Label)
    (order : List Node) : Prop where
  nodup : order.Nodup
  mem : ∀ node, node ∈ order ↔ node ∈ g.names
  forward : ∀ source target, g.Adj source target → order.idxOf source < order.idxOf target

namespace TopologicalOrder

variable [DecidableEq Node] {g : DiGraph Node Label} {order : List Node}

theorem forward_path (sorted : TopologicalOrder g order)
    (path : TransGen g.Adj source target) : order.idxOf source < order.idxOf target := by
  induction path with
  | single step => exact sorted.forward _ _ step
  | tail _ step ih => exact ih.trans (sorted.forward _ _ step)

theorem acyclic (sorted : TopologicalOrder g order) : Acyclic g.Adj := by
  intro node cycle
  exact Nat.lt_irrefl _ (sorted.forward_path cycle)

theorem pairwise (sorted : TopologicalOrder g order) :
    order.Pairwise fun first second => ¬ TransGen g.Adj second first := by
  rw [List.pairwise_iff_getElem]
  intro one two inside within before path
  have backward := sorted.forward_path path
  rw [sorted.nodup.idxOf_getElem, sorted.nodup.idxOf_getElem] at backward
  omega

end TopologicalOrder

/-- A sort of graphs: it finds a topological order, or a node of a graph that
has a cycle. -/
structure Toposort where
  sort : ∀ {Node Label : Type} [DecidableEq Node], DiGraph Node Label → Except Node (List Node)
  sorted : ∀ {Node Label : Type} [DecidableEq Node]
    {graph : DiGraph Node Label} {order : List Node}, graph.WellFormed →
    sort graph = .ok order → TopologicalOrder graph order
  cyclic : ∀ {Node Label : Type} [DecidableEq Node]
    {graph : DiGraph Node Label} {node : Node}, graph.WellFormed →
    sort graph = .error node → node ∈ graph.names ∧ ¬ Acyclic graph.Adj

/-! ### Closure by a worklist -/

section Worklist

variable {successors : Node → List Node} {targets start all : List Node}
  {work : List Node × List Node}

/-- The invariant of the worklist: everything that is reached comes from the
start, and everything but the queue has its successors. -/
structure Exploring (successors : Node → List Node) (start : List Node)
    (work : List Node × List Node) : Prop where
  distinct : work.1.Nodup
  sound : ∀ node ∈ work.1, ∃ first ∈ start,
    ReflTransGen (fun one two => two ∈ successors one) first node
  started : ∀ node ∈ start, node ∈ work.1
  queued : ∀ node ∈ work.2, node ∈ work.1
  pending : ∀ node ∈ work.1,
    node ∈ work.2 ∨ ∀ target ∈ successors node, target ∈ work.1

/-- With an empty queue, exactly what can be reached is. -/
theorem Exploring.complete (exploring : Exploring successors start (reached, [])) (node : Node) :
    node ∈ reached ↔ ∃ first ∈ start,
      ReflTransGen (fun one two => two ∈ successors one) first node := by
  constructor
  · exact exploring.sound node
  · rintro ⟨first, given, path⟩
    induction path with
    | refl => exact exploring.started first given
    | tail _ step ih =>
      rcases exploring.pending _ ih with waiting | done
      · cases waiting
      · exact done _ step

variable [DecidableEq Node]

/-- Add the targets that are new, to what is reached and to the queue. -/
def insertAll : List Node → List Node × List Node → List Node × List Node
  | [], work => work
  | target :: targets, (reached, queue) =>
    if target ∈ reached then insertAll targets (reached, queue)
    else insertAll targets (reached ++ [target], queue ++ [target])

/-- Take nodes from the queue and add their successors, until the queue is
empty; at most so many nodes. -/
def expand (successors : Node → List Node) :
    Nat → List Node × List Node → Option (List Node)
  | _, (reached, []) => some reached
  | 0, (_, _ :: _) => none
  | count + 1, (reached, node :: queue) =>
    expand successors count (insertAll (successors node) (reached, queue))

/-- The new ones go to both. -/
theorem insertAll_eq (targets : List Node) (work : List Node × List Node) :
    ∃ added : List Node,
      insertAll targets work = (work.1 ++ added, work.2 ++ added) ∧
        added.Nodup ∧ (∀ node ∈ added, node ∉ work.1 ∧ node ∈ targets) ∧
        ∀ node ∈ targets, node ∈ work.1 ∨ node ∈ added := by
  induction targets generalizing work with
  | nil =>
    refine ⟨[], by simp [insertAll], List.nodup_nil, ?_, ?_⟩
    · intro node mem
      cases mem
    · intro node mem
      cases mem
  | cons target targets ih =>
    obtain ⟨reached, queue⟩ := work
    by_cases known : target ∈ reached
    · obtain ⟨added, equal, distinct, fresh, all⟩ := ih (reached, queue)
      refine ⟨added, by simp [insertAll, known, equal], distinct, ?_, ?_⟩
      · intro node mem
        exact ⟨(fresh node mem).1, .tail _ (fresh node mem).2⟩
      · intro node mem
        rcases List.mem_cons.mp mem with rfl | mem
        · exact .inl known
        · exact all node mem
    · obtain ⟨added, equal, distinct, fresh, all⟩ := ih (reached ++ [target], queue ++ [target])
      refine ⟨target :: added, by simp [insertAll, known, equal], ?_, ?_, ?_⟩
      · refine List.nodup_cons.mpr ⟨?_, distinct⟩
        intro mem
        exact (fresh target mem).1 (by simp)
      · intro node mem
        rcases List.mem_cons.mp mem with rfl | mem
        · exact ⟨known, List.mem_cons_self⟩
        · have absent := (fresh node mem).1
          rw [List.mem_append, not_or] at absent
          exact ⟨absent.1, .tail _ (fresh node mem).2⟩
      · intro node mem
        rcases List.mem_cons.mp mem with rfl | mem
        · exact .inr List.mem_cons_self
        · rcases all node mem with old | new
          · rcases List.mem_append.mp old with old | last
            · exact .inl old
            · rw [List.mem_singleton.mp last]
              exact .inr List.mem_cons_self
          · exact .inr (.tail _ new)

namespace Exploring

theorem begin (successors : Node → List Node) (start : List Node) :
    Exploring successors start (insertAll start ([], [])) := by
  obtain ⟨added, equal, distinct, fresh, all⟩ := insertAll_eq start ([], [])
  rw [equal]
  refine ⟨distinct, ?_, ?_, fun node mem => mem, fun node mem => .inl mem⟩
  · intro node mem
    exact ⟨node, (fresh node mem).2, .refl⟩
  · intro node mem
    exact (all node mem).resolve_left List.not_mem_nil

theorem step (exploring : Exploring successors start (reached, node :: queue)) :
    Exploring successors start
      (insertAll (successors node) (reached, queue)) := by
  obtain ⟨added, equal, distinct, fresh, all⟩ := insertAll_eq (successors node) (reached, queue)
  have here : node ∈ reached := exploring.queued node List.mem_cons_self
  rw [equal]
  refine ⟨?_, ?_, ?_, ?_, ?_⟩
  · refine List.nodup_append.mpr ⟨exploring.distinct, distinct, ?_⟩
    rintro one old two new rfl
    exact (fresh one new).1 old
  · intro other mem
    rcases List.mem_append.mp mem with old | new
    · exact exploring.sound other old
    · obtain ⟨first, given, path⟩ := exploring.sound node here
      exact ⟨first, given, path.tail (fresh other new).2⟩
  · intro other given
    exact List.mem_append_left _ (exploring.started other given)
  · intro other mem
    rcases List.mem_append.mp mem with old | new
    · exact List.mem_append_left _ (exploring.queued other (.tail _ old))
    · exact List.mem_append_right _ new
  · intro other mem
    rcases List.mem_append.mp mem with old | new
    · rcases exploring.pending other old with waiting | done
      · rcases List.mem_cons.mp waiting with rfl | waiting
        · -- the node that was taken has its successors now
          refine .inr fun target successor => ?_
          exact List.mem_append.mpr (all target successor)
        · exact .inl (List.mem_append_left _ waiting)
      · refine .inr fun target successor => ?_
        exact List.mem_append_left _ (done target successor)
    · exact .inl (List.mem_append_right _ new)

end Exploring

/-- How many nodes may still be taken from the queue, if all of them are listed
in `all`. -/
def room (all : List Node) (work : List Node × List Node) : Nat :=
  work.2.length + (all.toFinset \ work.1.toFinset).card

theorem room_insertAll (mem : ∀ target ∈ targets, target ∈ all) (work : List Node × List Node) :
    room all (insertAll targets work) = room all work := by
  obtain ⟨added, equal, distinct, fresh, -⟩ := insertAll_eq targets work
  have inside : added.toFinset ⊆ all.toFinset \ work.1.toFinset := by
    intro node new
    have facts := fresh node (List.mem_toFinset.mp new)
    simp [facts.1, mem node facts.2]
  have split := Finset.card_sdiff_add_card_eq_card inside
  rw [List.toFinset_card_of_nodup distinct] at split
  have regroup : all.toFinset \ (work.1.toFinset ∪ added.toFinset) =
      (all.toFinset \ work.1.toFinset) \ added.toFinset :=
    sdiff_sdiff_left.symm
  simp only [room, equal, List.length_append, List.toFinset_append, regroup]
  omega

/-- The worklist ends with what can be reached. -/
theorem expand_eq_some (mem : ∀ node, ∀ target ∈ successors node, target ∈ all)
    (exploring : Exploring successors start work) (enough : room all work ≤ count) :
    ∃ reached, expand successors count work = some reached ∧ reached.Nodup ∧
      ∀ node, node ∈ reached ↔ ∃ first ∈ start,
        ReflTransGen (fun one two => two ∈ successors one) first node := by
  induction count generalizing work with
  | zero =>
    obtain ⟨reached, queue⟩ := work
    cases queue with
    | nil => exact ⟨reached, by simp [expand], exploring.distinct, exploring.complete⟩
    | cons node queue => simp [room] at enough
  | succ count ih =>
    obtain ⟨reached, queue⟩ := work
    cases queue with
    | nil => exact ⟨reached, by simp [expand], exploring.distinct, exploring.complete⟩
    | cons node queue =>
      have less : room all (insertAll (successors node) (reached, queue)) ≤ count := by
        rw [room_insertAll (mem node)]
        simp only [room, List.length_cons] at enough ⊢
        omega
      exact ih exploring.step less

end Worklist

end GraphLib
