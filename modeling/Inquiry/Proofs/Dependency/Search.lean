import Inquiry.Proofs.Dependency.Graph
import Mathlib.Data.List.Infix

/-!
The search in depth without a bound.

`Graph.Follows` tells how a search goes along edges, one rule for each thing it can do with a
node, and nothing limits how deep it goes. Main statements: `Graph.Sound.follows_search`, by which
the bounded search of a graph is such a search and so comes to an end by itself, and
`Follows.unique`, by which there is no other.
-/
namespace Inquiry.Dependency.Graph

/-- A search that has come to the end of a path goes on to some nodes in their order. An empty path
is what it sets out from. -/
inductive Follows (g : Graph) : List String → List String → Search → Search → Prop
  | done (path : List String) (s : Search) : Follows g path [] s s
  | close {path rest : List String} {next : String} {s t : Search} (back : next ∈ path)
      (more : Follows g path rest { s with cycles := s.cycles ++ [closing path next] } t) :
      Follows g path (next :: rest) s t
  | pass {path rest : List String} {next : String} {s t : Search} (fresh : next ∉ path)
      (seen : next ∈ s.visited) (more : Follows g path rest s t) :
      Follows g path (next :: rest) s t
  | enter {path rest : List String} {next : String} {s r t : Search} (fresh : next ∉ path)
      (unseen : next ∉ s.visited)
      (inner : Follows g (path ++ [next]) (g.dependencies next)
        { s with visited := next :: s.visited } r)
      (more : Follows g path rest r t) : Follows g path (next :: rest) s t

variable {g : Graph} {path nexts : List String} {s t u : Search}

/-- A search has one result. -/
theorem Follows.unique (h : g.Follows path nexts s t) (h' : g.Follows path nexts s u) : t = u := by
  induction h generalizing u with
  | done => cases h'; rfl
  | close back _ ih =>
    cases h' with
    | close _ more => exact ih more
    | pass fresh => exact absurd back fresh
    | enter fresh => exact absurd back fresh
  | pass fresh seen _ ih =>
    cases h' with
    | close back => exact absurd back fresh
    | pass _ _ more => exact ih more
    | enter _ unseen => exact absurd seen unseen
  | enter fresh unseen _ _ ihInner ihMore =>
    cases h' with
    | close back => exact absurd back fresh
    | pass _ seen => exact absurd seen unseen
    | enter _ _ inner more =>
      have same := ihInner inner
      subst same
      exact ihMore more

/-- What the bounded search does with one node. -/
def examine (g : Graph) (fuel : Nat) (path : List String) (s : Search) (next : String) : Search :=
  if next ∈ path then { s with cycles := s.cycles ++ [closing path next] }
  else if next ∈ s.visited then s
  else g.explore fuel path next s

theorem explore_succ (g : Graph) (fuel : Nat) (path : List String) (node : String) (s : Search) :
    g.explore (fuel + 1) path node s =
      (g.dependencies node).foldl (g.examine fuel (path ++ [node]))
        { s with visited := node :: s.visited } := rfl

theorem search_eq_foldl (g : Graph) :
    g.search = g.nodes.foldl (g.examine g.nodes.length []) ⟨[], []⟩ := by
  have same : (fun s node => if node ∈ s.visited then s else g.explore g.nodes.length [] node s) =
      g.examine g.nodes.length [] := by
    funext s node
    simp only [examine, List.not_mem_nil, if_false]
  rw [search, same]

/-- A path without repetitions leaves nodes to go to as long as there is one off it. -/
theorem length_lt_of_fresh {nodes : List String} {next : String} (simple : path.Nodup)
    (within : path ⊆ nodes) (fresh : next ∉ path) (known : next ∈ nodes) :
    path.length < nodes.length := by
  have longer : (next :: path).Nodup := List.nodup_cons.mpr ⟨fresh, simple⟩
  have inside : next :: path ⊆ nodes := List.cons_subset.mpr ⟨known, within⟩
  exact longer.length_le_of_subset inside

/-- The bound is not met: a path that is as long as there are nodes has nowhere to go. -/
theorem Sound.follows_foldl (h : g.Sound) (fuel : Nat) (simple : path.Nodup)
    (within : path ⊆ g.nodes) (known : nexts ⊆ g.nodes)
    (enough : g.nodes.length ≤ fuel + path.length) (s : Search) :
    g.Follows path nexts s (nexts.foldl (g.examine fuel path) s) := by
  induction fuel generalizing path nexts s with
  | zero =>
    induction nexts generalizing s with
    | nil => exact .done path s
    | cons next rest ih =>
      obtain ⟨knownNext, knownRest⟩ := List.cons_subset.mp known
      rw [List.foldl_cons]
      have back : next ∈ path := by
        by_contra fresh
        have := length_lt_of_fresh simple within fresh knownNext
        omega
      rw [examine, if_pos back]
      exact .close back (ih knownRest _)
  | succ fuel ihFuel =>
    induction nexts generalizing s with
    | nil => exact .done path s
    | cons next rest ih =>
      obtain ⟨knownNext, knownRest⟩ := List.cons_subset.mp known
      rw [List.foldl_cons]
      by_cases back : next ∈ path
      · rw [examine, if_pos back]
        exact .close back (ih knownRest _)
      · by_cases seen : next ∈ s.visited
        · rw [examine, if_neg back, if_pos seen]
          exact .pass back seen (ih knownRest _)
        · rw [examine, if_neg back, if_neg seen, explore_succ]
          refine .enter back seen (ihFuel ?_ ?_ ?_ ?_ _) (ih knownRest _)
          · rw [← List.concat_eq_append]
            exact simple.concat back
          · exact List.append_subset.mpr ⟨within, List.cons_subset.mpr ⟨knownNext, by simp⟩⟩
          · exact fun b reads => (h.reads next b reads).2
          · rw [List.length_append, List.length_singleton]
            omega

/-- The search of a graph ends by itself. -/
theorem Sound.follows_search (h : g.Sound) : g.Follows [] g.nodes ⟨[], []⟩ g.search := by
  rw [search_eq_foldl]
  exact h.follows_foldl _ List.nodup_nil (List.nil_subset _) (List.Subset.refl _)
    (Nat.le_add_right _ _) _

namespace Follows

/-- The nodes that were visited before stay behind those visited since. -/
theorem visited_suffix (h : g.Follows path nexts s t) : s.visited <:+ t.visited := by
  induction h with
  | done => exact List.suffix_refl _
  | close _ _ ih => exact ih
  | pass _ _ _ ih => exact ih
  | enter _ _ _ _ ihInner ihMore =>
    exact (List.suffix_cons _ _).trans (ihInner.trans ihMore)

theorem visited_mono (h : g.Follows path nexts s t) {node : String} (seen : node ∈ s.visited) :
    node ∈ t.visited :=
  h.visited_suffix.subset seen

theorem cycles_prefix (h : g.Follows path nexts s t) : s.cycles <+: t.cycles := by
  induction h with
  | done => exact List.prefix_refl _
  | close _ _ ih => exact (List.prefix_append _ _).trans ih
  | pass _ _ _ ih => exact ih
  | enter _ _ _ _ ihInner ihMore => exact ihInner.trans ihMore

/-- No node is visited twice. -/
theorem nodup_visited (h : g.Follows path nexts s t) (nodup : s.visited.Nodup) :
    t.visited.Nodup := by
  induction h with
  | done => exact nodup
  | close _ _ ih => exact ih nodup
  | pass _ _ _ ih => exact ih nodup
  | enter _ unseen _ _ ihInner ihMore =>
    exact ihMore (ihInner (List.nodup_cons.mpr ⟨unseen, nodup⟩))

/-- A path that the search has visited is visited still when it enters the next node. -/
theorem concat_subset_visited {next : String} (visited : path ⊆ s.visited) :
    path ++ [next] ⊆ next :: s.visited := by
  intro node mem
  rcases List.mem_append.mp mem with mem | mem
  · exact List.mem_cons_of_mem _ (visited mem)
  · rw [List.mem_singleton.mp mem]
    exact List.mem_cons_self ..

/-- Every node that a search goes on to is visited in the end. -/
theorem nexts_visited (h : g.Follows path nexts s t) (visited : path ⊆ s.visited) :
    nexts ⊆ t.visited := by
  induction h with
  | done => exact List.nil_subset _
  | close back more ih =>
    exact List.cons_subset.mpr ⟨more.visited_mono (visited back), ih visited⟩
  | pass _ seen more ih => exact List.cons_subset.mpr ⟨more.visited_mono seen, ih visited⟩
  | enter _ _ inner more _ ihMore =>
    have entered := inner.visited_mono (List.mem_cons_self ..)
    refine List.cons_subset.mpr ⟨more.visited_mono entered, ihMore ?_⟩
    exact fun node mem => inner.visited_mono (List.mem_cons_of_mem _ (visited mem))

end Follows

end Inquiry.Dependency.Graph
