import Inquiry.Table

/-!
Which question reads the answer of which: a directed graph with its paths and cycles.

An edge leads from the question that reads an answer to the one that gives it. Edges are kept from
either end, and nodes and the edges of each node keep the order in which they were first named.
-/
namespace Inquiry.Dependency

def appendNew {α : Type} [DecidableEq α] (items : List α) (item : α) : List α :=
  if item ∈ items then items else items ++ [item]

/-- The other ends of the edges of each node that has some. -/
abbrev Ends := Table (List String)

namespace Ends

def of (ends : Ends) (node : String) : List String := (ends.get? node).getD []

def note (ends : Ends) (node other : String) : Ends :=
  ends.insert node (appendNew (ends.of node) other)

theorem of_note (ends : Ends) (node other n : String) :
    (ends.note node other).of n =
      if n = node then appendNew (ends.of n) other else ends.of n := by
  unfold of note
  rw [Table.get?_insert]
  split
  · rename_i same
    rw [same]
    rfl
  · rfl

end Ends

structure Graph where
  nodes : List String
  forward : Ends
  backward : Ends
deriving DecidableEq

namespace Graph

def empty : Graph := ⟨[], ∅, ∅⟩

/-- Note that `dependent` reads the answer of `dependency`. -/
def add (g : Graph) (dependent dependency : String) : Graph where
  nodes := appendNew (appendNew g.nodes dependent) dependency
  forward := g.forward.note dependent dependency
  backward := g.backward.note dependency dependent

def dependencies (g : Graph) (node : String) : List String := g.forward.of node

def dependents (g : Graph) (node : String) : List String := g.backward.of node

/-- The number of nodes that read some answer. -/
def size (g : Graph) : Nat := g.forward.size

/-- A search in breadth: the nodes it has come to, and those of them that wait to be gone on from,
in their order. -/
structure Frontier where
  visited : List String
  queue : List String

/-- Come to a node, which then waits, unless the search has come to it before. -/
def Frontier.meet (f : Frontier) (node : String) : Frontier :=
  if node ∈ f.visited then f else ⟨node :: f.visited, f.queue ++ [node]⟩

def targets (g : Graph) : List String := g.forward.entries.flatMap (·.2)

theorem mem_targets {g : Graph} {node next : String} (mem : next ∈ g.dependencies node) :
    next ∈ g.targets := by
  unfold dependencies Ends.of at mem
  cases entry : g.forward.get? node with
  | none => rw [entry] at mem; cases mem
  | some others =>
    rw [entry] at mem
    exact List.mem_flatMap.mpr ⟨(node, others), Table.mem_of_find entry, mem⟩

/-- What is left of a search: the nodes that wait, and the edges to nodes it has not come to. -/
def remaining (g : Graph) (f : Frontier) : Nat :=
  f.queue.length + (g.targets.filter (· ∉ f.visited)).length

/-- To come to a node that an edge leads to leaves no more to do: it waits, but the edge is done. -/
theorem remaining_meet_le {g : Graph} {node : String} (target : node ∈ g.targets)
    (f : Frontier) : g.remaining (f.meet node) ≤ g.remaining f := by
  unfold Frontier.meet
  split
  · exact Nat.le_refl _
  · rename_i fresh
    have apart : g.targets.filter (· ∉ node :: f.visited) =
        (g.targets.filter (· ∉ f.visited)).filter (· ≠ node) := by
      rw [List.filter_filter]
      simp [not_or]
    have fewer : (g.targets.filter (· ∉ node :: f.visited)).length <
        (g.targets.filter (· ∉ f.visited)).length := by
      rw [apart, List.length_filter_lt_length_iff_exists]
      exact ⟨node, List.mem_filter.mpr ⟨target, by simpa using fresh⟩, by simp⟩
    simp only [remaining, List.length_append, List.length_singleton]
    omega

theorem remaining_foldl_meet_le {g : Graph} {nodes : List String} (targets : nodes ⊆ g.targets)
    (f : Frontier) : g.remaining (nodes.foldl Frontier.meet f) ≤ g.remaining f := by
  induction nodes generalizing f with
  | nil => exact Nat.le_refl _
  | cons node rest ih =>
    have others := ih (fun n mem => targets (List.mem_cons_of_mem _ mem)) (f.meet node)
    exact Nat.le_trans others (remaining_meet_le (targets (List.mem_cons_self ..)) f)

/-- Whether a search comes along an edge to `target`. It goes on from the nodes that wait, the
first one first, and ends there or when none is left. -/
def leadsTo (g : Graph) (target : String) : Frontier → Bool
  | ⟨_, []⟩ => false
  | ⟨visited, node :: queue⟩ =>
    if target ∈ g.dependencies node then true
    else g.leadsTo target ((g.dependencies node).foldl Frontier.meet ⟨visited, queue⟩)
termination_by f => g.remaining f
decreasing_by
  have targets : g.dependencies node ⊆ g.targets := fun _ mem => mem_targets mem
  have less := remaining_foldl_meet_le targets ⟨visited, queue⟩
  simp only [remaining, List.length_cons] at less ⊢
  omega

/-- Whether edges lead from one node to another. Every id leads to itself. -/
def hasPath (g : Graph) (source target : String) : Bool :=
  source == target || g.leadsTo target ⟨[source], [source]⟩

/-- A search in depth: the nodes it has come to, and the cycles it has closed. -/
structure Search where
  visited : List String
  cycles : List (List String)

/-- The closed path that an edge from the end of `path` back to `node` makes. -/
def closing (path : List String) (node : String) : List String :=
  path.dropWhile (· ≠ node) ++ [node]

/-- Go on from the last node of `path`, along paths of at most `fuel` nodes more. An edge back
into the path closes a cycle, and nodes that were visited before are passed over. -/
def explore (g : Graph) : (fuel : Nat) → (path : List String) → (node : String) → Search → Search
  | 0, _, _, search => search
  | fuel + 1, path, node, search =>
    let path := path ++ [node]
    (g.dependencies node).foldl
      (fun search next =>
        if next ∈ path then { search with cycles := search.cycles ++ [closing path next] }
        else if next ∈ search.visited then search
        else g.explore fuel path next search)
      { search with visited := node :: search.visited }

def search (g : Graph) : Search :=
  g.nodes.foldl
    (fun search node =>
      if node ∈ search.visited then search else g.explore g.nodes.length [] node search)
    ⟨[], []⟩

/-- Closed paths, in the order in which a search in depth closes them. -/
def cycles (g : Graph) : List (List String) := g.search.cycles

end Graph

end Inquiry.Dependency
