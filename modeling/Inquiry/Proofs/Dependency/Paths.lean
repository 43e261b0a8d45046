import Inquiry.Proofs.Dependency.Cycles

/-!
Where edges lead.

A search in breadth that ends without having come along an edge to its target has come to a set of
nodes that no edge leaves, and none leads to the target from there. Main statements:
`Graph.hasPath_iff`, for any graph, and `Graph.hasPath_reachability`, which also ties the paths of
a graph to its cycles.
-/
namespace Inquiry.Dependency.Graph

variable {g : Graph} {target node : String} {nodes : List String} {f : Frontier}

namespace Frontier

/-- A node that a search has come to and that does not wait any longer. -/
def Left (f : Frontier) (node : String) : Prop := node ∈ f.visited ∧ node ∉ f.queue

theorem mem_visited_foldl_meet :
    node ∈ (nodes.foldl meet f).visited ↔ node ∈ nodes ∨ node ∈ f.visited := by
  induction nodes generalizing f with
  | nil => simp
  | cons first rest ih =>
    have visited : node ∈ (f.meet first).visited ↔ node = first ∨ node ∈ f.visited := by
      unfold meet
      split
      · rename_i seen
        exact ⟨.inr, Or.rec (fun same => same ▸ seen) id⟩
      · exact List.mem_cons
    rw [List.foldl_cons, ih, visited, List.mem_cons, or_assoc, or_left_comm]

theorem queue_subset_meet (f : Frontier) (node : String) : f.queue ⊆ (f.meet node).queue := by
  unfold meet
  split
  · exact List.Subset.refl _
  · exact List.subset_append_left _ _

theorem mem_queue_foldl_meet (waits : node ∈ (nodes.foldl meet f).queue) :
    node ∈ nodes ∨ node ∈ f.queue := by
  induction nodes generalizing f with
  | nil => exact .inr waits
  | cons first rest ih =>
    rcases ih waits with later | before
    · exact .inl (.tail _ later)
    · unfold meet at before
      split at before
      · exact .inr before
      · rcases List.mem_append.mp before with before | here
        · exact .inr before
        · exact .inl (List.mem_singleton.mp here ▸ .head _)

/-- Coming to a node leaves none: either it waits from now on, or nothing changes. -/
theorem Left.of_meet {other : String} (left : (f.meet other).Left node) : f.Left node := by
  refine ⟨?_, fun waits => left.2 (queue_subset_meet f other waits)⟩
  obtain ⟨visited, gone⟩ := left
  unfold meet at visited gone
  split at visited
  · exact visited
  · rename_i fresh
    rw [if_neg fresh] at gone
    rcases List.mem_cons.mp visited with rfl | before
    · exact absurd (List.mem_append_right _ (List.mem_singleton_self _)) gone
    · exact before

theorem Left.of_foldl_meet (left : (nodes.foldl meet f).Left node) : f.Left node := by
  induction nodes generalizing f with
  | nil => exact left
  | cons first rest ih => exact (ih left).of_meet

/-- Where a search has left nodes, it has come to all that they read, and not to its target. -/
def Explored (f : Frontier) (g : Graph) (target : String) : Prop :=
  ∀ a, f.Left a → ∀ b, g.Reads a b → b ∈ f.visited ∧ b ≠ target

/-- One step leaves the first node of the queue, after it came to what that node reads. -/
theorem Explored.step {visited queue : List String}
    (explored : Explored ⟨visited, node :: queue⟩ g target)
    (missed : target ∉ g.dependencies node) :
    ((g.dependencies node).foldl meet ⟨visited, queue⟩).Explored g target := by
  intro a left b reads
  obtain ⟨came, gone⟩ := left.of_foldl_meet
  rw [mem_visited_foldl_meet]
  by_cases here : a = node
  · subst here
    exact ⟨.inl reads, fun same => missed (same ▸ reads)⟩
  · have before : Left ⟨visited, node :: queue⟩ a := ⟨came, by simpa [here] using gone⟩
    exact (explored a before b reads).imp_left .inr

end Frontier

/-- What is found can be reached from a node that waited. -/
theorem transGen_of_leadsTo (found : g.leadsTo target f = true) :
    ∃ a ∈ f.queue, Relation.TransGen g.Reads a target := by
  fun_induction leadsTo g target f with
  | case1 => cases found
  | case2 visited node queue reads => exact ⟨node, .head _, .single reads⟩
  | case3 visited node queue _ ih =>
    obtain ⟨a, waits, leads⟩ := ih found
    rcases Frontier.mem_queue_foldl_meet waits with next | before
    · exact ⟨node, .head _, .head next leads⟩
    · exact ⟨a, .tail _ before, leads⟩

/-- A search that finds nothing ends with nodes that no edge leaves, and that none leads from to
the target. -/
theorem exists_closed_of_not_leadsTo (missed : g.leadsTo target f = false)
    (explored : f.Explored g target) :
    ∃ reached : List String, f.visited ⊆ reached ∧
      ∀ a ∈ reached, ∀ b, g.Reads a b → b ∈ reached ∧ b ≠ target := by
  fun_induction leadsTo g target f with
  | case1 visited =>
    exact ⟨visited, List.Subset.refl _, fun a came => explored a ⟨came, List.not_mem_nil⟩⟩
  | case2 => cases missed
  | case3 visited node queue absent ih =>
    obtain ⟨reached, more, closed⟩ := ih missed (explored.step absent)
    refine ⟨reached, fun a came => more ?_, closed⟩
    exact Frontier.mem_visited_foldl_meet.mpr (.inr came)

/-- Along edges one stays among nodes that no edge leaves, and does not come to the target. -/
theorem stays_of_closed {reached : List String} {a b : String}
    (closed : ∀ a ∈ reached, ∀ b, g.Reads a b → b ∈ reached ∧ b ≠ target) (start : a ∈ reached)
    (leads : Relation.TransGen g.Reads a b) : b ∈ reached ∧ b ≠ target := by
  induction leads with
  | single reads => exact closed a start _ reads
  | tail _ reads ih => exact closed _ ih.1 _ reads

/-- One id leads to another if they are the same, or if edges lead there one after the other. -/
theorem hasPath_iff {a b : String} :
    g.hasPath a b = true ↔ a = b ∨ Relation.TransGen g.Reads a b := by
  rw [hasPath, Bool.or_eq_true, beq_iff_eq]
  refine or_congr_right' fun _ => ⟨fun found => ?_, fun leads => ?_⟩
  · obtain ⟨start, waits, leads⟩ := transGen_of_leadsTo found
    rw [List.mem_singleton.mp waits] at leads
    exact leads
  · by_contra missed
    rw [Bool.not_eq_true] at missed
    -- At the start the only node waits, so nothing is left yet.
    obtain ⟨reached, came, closed⟩ := exists_closed_of_not_leadsTo missed
      fun _ left => absurd left.1 left.2
    exact (stays_of_closed closed (came (.head _)) leads).2 rfl

theorem hasPath_trans {a b c : String} (first : g.hasPath a b = true)
    (second : g.hasPath b c = true) : g.hasPath a c = true := by
  rw [hasPath_iff] at first second ⊢
  rcases first with rfl | first
  · exact second
  · rcases second with rfl | second
    · exact .inr first
    · exact .inr (first.trans second)

/-- An edge lies on a cycle if its end leads back to where it begins. -/
theorem exists_cycle_iff_hasPath :
    (∃ path, g.Cycle path) ↔ ∃ a b, g.Reads a b ∧ g.hasPath b a = true := by
  rw [exists_cycle_iff]
  refine exists_congr fun a => ?_
  rw [Relation.TransGen.head'_iff]
  refine exists_congr fun b => and_congr_right fun _ => ?_
  rw [hasPath_iff, Relation.reflTransGen_iff_eq_or_transGen, eq_comm]

/-- However a graph was built, the search in breadth ends for any two ids, which need not be among
its nodes, and finds a path exactly where they are the same or a chain of edges leads from one to
the other. So every id leads to itself, and paths compose; and the search in depth reports cycles
exactly where some edge leads back to where it begins. -/
theorem hasPath_reachability (edits : List Edit) :
    (∀ a b, (ofEdits edits).hasPath a b = true ↔
      a = b ∨ Relation.TransGen (ofEdits edits).Reads a b) ∧
    (∀ a, (ofEdits edits).hasPath a a = true) ∧
    (∀ a b c, (ofEdits edits).hasPath a b = true → (ofEdits edits).hasPath b c = true →
      (ofEdits edits).hasPath a c = true) ∧
    ((ofEdits edits).cycles ≠ [] ↔
      ∃ a b, (ofEdits edits).Reads a b ∧ (ofEdits edits).hasPath b a = true) := by
  refine ⟨fun a b => hasPath_iff, fun a => hasPath_iff.mpr (.inl rfl),
    fun a b c => hasPath_trans, ?_⟩
  rw [Ne, (Sound.ofEdits edits).cycles_eq_nil_iff, not_not, exists_cycle_iff_hasPath]

/-- A ring of two nodes with a way in and a way out, behind an edge that was cleared away. -/
theorem hasPath_reachability_ring :
    let g := ofEdits
      [.add "z" "a", .clear, .add "a" "b", .add "b" "c", .add "c" "b", .add "c" "d"]
    g.hasPath "a" "d" = true ∧ g.hasPath "z" "z" = true ∧ g.hasPath "z" "a" = false ∧
      g.cycles ≠ [] := by
  intro g
  have ab : g.Reads "a" "b" := by unfold Reads; decide
  have bc : g.Reads "b" "c" := by unfold Reads; decide
  have cb : g.Reads "c" "b" := by unfold Reads; decide
  have cd : g.Reads "c" "d" := by unfold Reads; decide
  have cleared : g.dependencies "z" = [] := by decide
  obtain ⟨leads, self, composes, round⟩ := hasPath_reachability
    [.add "z" "a", .clear, .add "a" "b", .add "b" "c", .add "c" "b", .add "c" "d"]
  have inward : g.hasPath "a" "c" = true := (leads "a" "c").mpr (.inr (.tail (.single ab) bc))
  have outward : g.hasPath "c" "d" = true := (leads "c" "d").mpr (.inr (.single cd))
  have back : g.hasPath "c" "b" = true := (leads "c" "b").mpr (.inr (.single cb))
  refine ⟨composes "a" "c" "d" inward outward, self "z", ?_, round.mpr ⟨"b", "c", bc, back⟩⟩
  rw [← Bool.not_eq_true, leads]
  rintro (same | chain)
  · exact absurd same (by decide)
  · obtain ⟨b, first, -⟩ := Relation.TransGen.head'_iff.mp chain
    rw [Reads, cleared] at first
    cases first

end Inquiry.Dependency.Graph
