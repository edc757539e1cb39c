/-
Purpose: A topological sort: the nodes as a depth-first search finishes them,
  the one finished last first.
Main exports: finish, depthFirstSort, Toposort.depthFirst
-/
import ServiceDaemon.Lib.Digraph

namespace GraphLib

open Relation

/-!
The search begins at every node, in the order in which the nodes were added, and
goes on to the targets of a node, in the order in which its edges were added.  A
node is finished after everything that it reaches, if there are no cycles.

A path without a cycle is no longer than there are nodes, so the search need not
go deeper.  On a graph with a cycle it is cut off; some edge then goes backward
in the order that was found.
-/

variable {Node Label : Type} [DecidableEq Node]

/-- The targets of a node, by the earliest edge first. -/
def successors (edges : List (Node × Node)) (node : Node) : List Node :=
  (edges.filter fun edge => edge.1 = node).map Prod.snd

/-- The finished nodes, the last one first, after a search of at most this depth
from `node`. -/
def finish (edges : List (Node × Node)) : Nat → List Node → Node → List Node
  | 0, finished, _ => finished
  | depth + 1, finished, node =>
    if node ∈ finished then finished
    else ((successors edges node).foldl (finish edges depth) finished).insert node

/-- The search from every node. -/
def depthFirstOrder (graph : DiGraph Node Label) : List Node :=
  graph.names.foldl (finish graph.edges (graph.names.length + 1)) []

/-- The order found, unless an edge goes backward in it. -/
def depthFirstSort (graph : DiGraph Node Label) : Except Node (List Node) :=
  let order := depthFirstOrder graph
  match graph.edges.find? fun edge => order.idxOf edge.2 ≤ order.idxOf edge.1 with
  | some edge => .error edge.1
  | none => .ok order

theorem mem_successors {edges : List (Node × Node)} {source target : Node} :
    target ∈ successors edges source ↔ (source, target) ∈ edges := by
  simp [successors]

/-! ### What is finished -/

section Finished

variable {edges : List (Node × Node)}

/-- What a search keeps, a search from several nodes keeps. -/
theorem foldl_finish (holds : List Node → Prop) {depth : Nat} {nodes : List Node}
    (kept : ∀ node ∈ nodes, ∀ finished, holds finished → holds (finish edges depth finished node))
    {finished : List Node} (holding : holds finished) :
    holds (nodes.foldl (finish edges depth) finished) := by
  induction nodes generalizing finished with
  | nil => exact holding
  | cons node nodes ih =>
    refine ih (fun other mem => kept other (List.mem_cons_of_mem _ mem)) ?_
    exact kept node List.mem_cons_self finished holding

theorem subset_finish (depth : Nat) (finished : List Node) (node : Node) :
    finished ⊆ finish edges depth finished node := by
  induction depth generalizing finished node with
  | zero => exact List.Subset.refl _
  | succ depth ih =>
    rw [finish]
    split
    · exact List.Subset.refl _
    · intro other mem
      refine List.mem_insert_of_mem ?_
      exact foldl_finish (other ∈ ·) (fun next _ finished mem => ih finished next mem) mem

theorem nodup_finish (depth : Nat) {finished : List Node} (distinct : finished.Nodup)
    (node : Node) : (finish edges depth finished node).Nodup := by
  induction depth generalizing finished node with
  | zero => exact distinct
  | succ depth ih =>
    rw [finish]
    split
    · exact distinct
    · exact (foldl_finish List.Nodup (fun next _ _ distinct => ih distinct next) distinct).insert

theorem mem_finish (depth : Nat) (finished : List Node) (node : Node) :
    node ∈ finish edges (depth + 1) finished node := by
  rw [finish]
  split
  · assumption
  · exact List.mem_insert_self

/-- A search stays among nodes that contain the targets of every edge. -/
theorem finish_subset {names : List Node}
    (closed : ∀ source target, (source, target) ∈ edges → target ∈ names) (depth : Nat)
    {finished : List Node} (within : finished ⊆ names) {node : Node} (named : node ∈ names) :
    finish edges depth finished node ⊆ names := by
  induction depth generalizing finished node with
  | zero => exact within
  | succ depth ih =>
    rw [finish]
    split
    · exact within
    · have below := foldl_finish (· ⊆ names)
        (fun next mem _ within =>
          ih within (closed node next (mem_successors.mp mem))) within
      intro other mem
      rcases List.mem_insert_iff.mp mem with rfl | mem
      · exact named
      · exact below mem

/-- A search from several nodes that finishes each of them. -/
theorem foldl_finish_mem (holds : List Node → Prop) {depth : Nat} {nodes : List Node}
    (kept : ∀ node ∈ nodes, ∀ finished, holds finished →
      holds (finish edges depth finished node) ∧ node ∈ finish edges depth finished node)
    {finished : List Node} (holding : holds finished) :
    holds (nodes.foldl (finish edges depth) finished) ∧
      ∀ node ∈ nodes, node ∈ nodes.foldl (finish edges depth) finished := by
  induction nodes generalizing finished with
  | nil => exact ⟨holding, nofun⟩
  | cons first rest ih =>
    obtain ⟨held, finishes⟩ := kept first List.mem_cons_self finished holding
    obtain ⟨holding, later⟩ := ih (fun node mem => kept node (List.mem_cons_of_mem _ mem)) held
    refine ⟨holding, ?_⟩
    intro node mem
    rcases List.mem_cons.mp mem with rfl | mem
    · rw [List.foldl_cons]
      exact foldl_finish (node ∈ ·) (fun next _ finished mem => subset_finish _ finished next mem)
        finishes
    · exact later node mem

end Finished

/-! ### The order in which nodes are finished -/

section Order

variable {graph : DiGraph Node Label} {finished : List Node} {node : Node}

/-- What a finished node has an edge to is finished, and it was finished
earlier. -/
def Settled (graph : DiGraph Node Label) (finished : List Node) : Prop :=
  ∀ source ∈ finished, ∀ target, graph.Adj source target →
    target ∈ finished ∧ finished.idxOf source < finished.idxOf target

theorem Settled.insert (settled : Settled graph finished)
    (reached : ∀ target, graph.Adj node target → target ∈ finished) :
    Settled graph (finished.insert node) := by
  by_cases known : node ∈ finished
  · rw [List.insert_of_mem known]
    exact settled
  rw [List.insert_of_not_mem known]
  intro source mem target adjacent
  rcases List.mem_cons.mp mem with rfl | mem
  · have later := reached target adjacent
    refine ⟨List.mem_cons_of_mem _ later, ?_⟩
    rw [List.idxOf_cons_self, List.idxOf_cons_ne _ (by rintro rfl; exact known later)]
    exact Nat.succ_pos _
  · obtain ⟨later, before⟩ := settled source mem target adjacent
    refine ⟨List.mem_cons_of_mem _ later, ?_⟩
    rw [List.idxOf_cons_ne _ (by rintro rfl; exact known mem),
      List.idxOf_cons_ne _ (by rintro rfl; exact known later)]
    exact Nat.succ_lt_succ before

/-- In a graph without cycles a search reaches everything before its depth ends.
`trail` is the way from the start to `node`. -/
theorem settled_finish (wellFormed : graph.WellFormed) (acyclic : Acyclic graph.Adj)
    (depth : Nat) {trail : List Node} (distinct : trail.Nodup)
    (leads : ∀ earlier ∈ trail, earlier ∈ graph.names ∧ TransGen graph.Adj earlier node)
    (deep : graph.names.length < trail.length + depth) (named : node ∈ graph.names)
    (settled : Settled graph finished) :
    Settled graph (finish graph.edges depth finished node) ∧
      node ∈ finish graph.edges depth finished node := by
  induction depth generalizing trail finished node with
  | zero =>
    have most : trail.length ≤ graph.names.length :=
      (List.subperm_of_subset distinct fun earlier mem => (leads earlier mem).1).length_le
    omega
  | succ depth ih =>
    refine ⟨?_, mem_finish _ _ _⟩
    rw [finish]
    split
    · exact settled
    -- The way to a target is longer by `node`, which is not on the way to itself.
    have fresh : node ∉ trail := fun mem => acyclic node (leads node mem).2
    have search : ∀ target ∈ successors graph.edges node, ∀ finished,
        Settled graph finished → Settled graph (finish graph.edges depth finished target) ∧
          target ∈ finish graph.edges depth finished target := by
      intro target mem finished settled
      have adjacent : graph.Adj node target := mem_successors.mp mem
      refine ih (List.nodup_cons.mpr ⟨fresh, distinct⟩) ?_ ?_
        (wellFormed.closed _ _ adjacent).2 settled
      · intro earlier mem
        rcases List.mem_cons.mp mem with rfl | mem
        · exact ⟨named, .single adjacent⟩
        · exact ⟨(leads earlier mem).1, (leads earlier mem).2.tail adjacent⟩
      · rw [List.length_cons]
        omega
    obtain ⟨below, reached⟩ := foldl_finish_mem (Settled graph) search settled
    exact below.insert fun target adjacent => reached target (mem_successors.mpr adjacent)

end Order

/-! ### The sort -/

theorem depthFirstOrder_mem {graph : DiGraph Node Label} (wellFormed : graph.WellFormed)
    (node : Node) : node ∈ depthFirstOrder graph ↔ node ∈ graph.names := by
  refine ⟨?_, (foldl_finish_mem (fun _ => True)
    (fun node _ finished _ => ⟨trivial, mem_finish _ finished node⟩) trivial).2 node⟩
  intro mem
  refine foldl_finish (· ⊆ graph.names) ?_ (List.nil_subset _) mem
  intro next named finished within
  exact finish_subset (fun _ _ edge => (wellFormed.closed _ _ edge).2) _ within named

theorem depthFirstSort_ok {graph : DiGraph Node Label} {order : List Node}
    (wellFormed : graph.WellFormed) (sorted : depthFirstSort graph = .ok order) :
    TopologicalOrder graph order := by
  unfold depthFirstSort at sorted
  simp only at sorted
  split at sorted <;> cases sorted
  rename_i forward
  refine ⟨?_, depthFirstOrder_mem wellFormed, ?_⟩
  · exact foldl_finish List.Nodup (fun next _ _ distinct => nodup_finish _ distinct next)
      List.nodup_nil
  · intro source target adjacent
    have ahead := List.find?_eq_none.mp forward _ adjacent
    simpa using ahead

theorem depthFirstSort_error {graph : DiGraph Node Label} {node : Node}
    (wellFormed : graph.WellFormed) (stuck : depthFirstSort graph = .error node) :
    node ∈ graph.names ∧ ¬ Acyclic graph.Adj := by
  unfold depthFirstSort at stuck
  simp only at stuck
  split at stuck <;> cases stuck
  rename_i edge backward
  have adjacent : graph.Adj edge.1 edge.2 := List.mem_of_find?_eq_some backward
  have named := (wellFormed.closed _ _ adjacent).1
  refine ⟨named, ?_⟩
  intro acyclic
  have settled : Settled graph (depthFirstOrder graph) := by
    refine foldl_finish (Settled graph) ?_ (fun _ mem => absurd mem List.not_mem_nil)
    intro next mem finished settled
    refine (settled_finish wellFormed acyclic _ List.nodup_nil ?_ ?_ mem settled).1
    · intro earlier mem
      cases mem
    · exact Nat.lt_of_lt_of_eq (Nat.lt_succ_self _) (Nat.zero_add _).symm
  have forward := (settled edge.1 ((depthFirstOrder_mem wellFormed _).mpr named) _ adjacent).2
  have found := List.find?_some backward
  rw [decide_eq_true_iff] at found
  exact Nat.not_le.mpr forward found

/-- The depth-first sort is a topological sort. -/
def Toposort.depthFirst : Toposort where
  sort graph := depthFirstSort graph
  sorted wellFormed sorted := depthFirstSort_ok wellFormed sorted
  cyclic wellFormed stuck := depthFirstSort_error wellFormed stuck

end GraphLib
