import Inquiry.Proofs.Dependency.Graph
import Inquiry.Proofs.Table
import Mathlib.Data.List.Perm.Subperm

namespace Inquiry.Dependency

section Firsts

variable {α : Type} [DecidableEq α] {items found other : List α}

/-- The items of a list once each, in the order in which they first stand there. -/
structure Firsts (items found : List α) : Prop where
  mem : ∀ a, a ∈ found ↔ a ∈ items
  order : found.Pairwise fun a b => items.idxOf a < items.idxOf b

namespace Firsts

theorem nil : Firsts ([] : List α) [] := ⟨fun _ => Iff.rfl, .nil⟩

theorem nodup (h : Firsts items found) : found.Nodup := by
  refine h.order.imp ?_
  rintro a _ before rfl
  exact Nat.lt_irrefl _ before

theorem appendNew (h : Firsts items found) (a : α) :
    Firsts (items ++ [a]) (appendNew found a) := by
  have kept : found.Pairwise fun b c => (items ++ [a]).idxOf b < (items ++ [a]).idxOf c := by
    refine h.order.imp_of_mem fun memB memC before => ?_
    rwa [List.idxOf_append_of_mem ((h.mem _).mp memB), List.idxOf_append_of_mem ((h.mem _).mp memC)]
  refine ⟨fun b => by rw [mem_appendNew, h.mem, List.mem_append, List.mem_singleton], ?_⟩
  unfold Dependency.appendNew
  split
  · exact kept
  · rename_i fresh
    refine List.pairwise_append.mpr ⟨kept, List.pairwise_singleton _ _, fun b mem c here => ?_⟩
    have earlier : b ∈ items := (h.mem b).mp mem
    have last : a ∉ items := fun there => fresh ((h.mem a).mpr there)
    rw [List.mem_singleton.mp here, List.idxOf_append_of_mem earlier,
      List.idxOf_append_of_notMem last]
    exact Nat.lt_of_lt_of_le (List.idxOf_lt_length_of_mem earlier) (Nat.le_add_right _ _)

theorem unique (h : Firsts items found) (h' : Firsts items other) : found = other := by
  have same : ∀ a, a ∈ found ↔ a ∈ other := fun a => (h.mem a).trans (h'.mem a).symm
  refine List.Perm.eq_of_pairwise ?_ h.order h'.order
    ((List.perm_ext_iff_of_nodup h.nodup h'.nodup).mpr same)
  intro a b _ _ before after
  omega

/-- A list without repetitions is in order already. -/
theorem of_nodup (nodup : items.Nodup) : Firsts items items := by
  refine ⟨fun _ => Iff.rfl, List.pairwise_iff_getElem.mpr fun i j hi hj before => ?_⟩
  rwa [nodup.idxOf_getElem i hi, nodup.idxOf_getElem j hj]

theorem eq_of_nodup (h : Firsts items found) (nodup : items.Nodup) : found = items :=
  h.unique (of_nodup nodup)

end Firsts

end Firsts

/-- To note one more pair keeps the ends that pairs name in order, from whichever side it is. -/
theorem Firsts.of_note {ends : Ends} {pairs : List (String × String)}
    (key item : String × String → String)
    (h : ∀ n, Firsts ((pairs.filter (key · = n)).map item) (ends.of n)) (e : String × String)
    (n : String) :
    Firsts (((pairs ++ [e]).filter (key · = n)).map item) ((ends.note (key e) (item e)).of n) := by
  rw [Ends.of_note, List.filter_append, List.map_append]
  split
  · rename_i own
    simpa [own] using (h n).appendNew (item e)
  · rename_i foreign
    simpa [Ne.symm foreign] using h n

/-- What a change makes of the pairs that were put in since the graph was last cleared. -/
def Edit.note (pairs : List (String × String)) : Edit → List (String × String)
  | add dependent dependency => pairs ++ [(dependent, dependency)]
  | clear => []

/-- The pairs that were put in since the graph was last cleared, in their order. -/
def Edit.pairs (edits : List Edit) : List (String × String) := edits.foldl note []

namespace Graph

variable {g : Graph} {pairs : List (String × String)}

/-- A graph tells of each node what pairs say about it, in the order of the pairs. -/
structure Keeps (g : Graph) (pairs : List (String × String)) : Prop where
  dependencies : ∀ n, Firsts ((pairs.filter (·.1 = n)).map (·.2)) (g.dependencies n)
  dependents : ∀ n, Firsts ((pairs.filter (·.2 = n)).map (·.1)) (g.dependents n)
  nodes : Firsts (pairs.flatMap fun e => [e.1, e.2]) g.nodes
  sources : ∀ n, n ∈ g.forward.keys ↔ n ∈ pairs.map (·.1)

namespace Keeps

theorem empty : Graph.empty.Keeps [] := ⟨fun _ => .nil, fun _ => .nil, .nil, fun _ => Iff.rfl⟩

theorem add (h : g.Keeps pairs) (dependent dependency : String) :
    (g.add dependent dependency).Keeps (pairs ++ [(dependent, dependency)]) where
  dependencies := Firsts.of_note (·.1) (·.2) h.dependencies (dependent, dependency)
  dependents := Firsts.of_note (·.2) (·.1) h.dependents (dependent, dependency)
  nodes := by
    have both := (h.nodes.appendNew dependent).appendNew dependency
    rw [List.append_assoc] at both
    rwa [List.flatMap_append]
  sources n := by
    have noted : n ∈ (g.add dependent dependency).forward.keys ↔
        n = dependent ∨ n ∈ g.forward.keys := by
      rw [Table.mem_keys_iff, Table.mem_keys_iff]
      exact Table.contains_insert ..
    rw [noted, h.sources, List.map_append, List.mem_append, or_comm]
    simp

theorem edit (h : g.Keeps pairs) (e : Edit) : (e.apply g).Keeps (e.note pairs) := by
  cases e with
  | add dependent dependency => exact h.add dependent dependency
  | clear => exact empty

/-- However a graph is built, it keeps the pairs that were put in since it was last cleared. -/
theorem ofEdits (edits : List Edit) : (ofEdits edits).Keeps (Edit.pairs edits) := by
  have kept : ∀ (g : Graph) (pairs : List (String × String)), g.Keeps pairs →
      (edits.foldl Edit.apply g).Keeps (edits.foldl Edit.note pairs) := by
    induction edits with
    | nil => exact fun _ _ h => h
    | cons e rest ih => exact fun g pairs h => ih (e.apply g) (e.note pairs) (h.edit e)
  exact kept _ _ empty

theorem mem_dependencies (h : g.Keeps pairs) {a b : String} :
    b ∈ g.dependencies a ↔ (a, b) ∈ pairs := by
  rw [(h.dependencies a).mem]
  simp

theorem mem_dependents (h : g.Keeps pairs) {a b : String} :
    a ∈ g.dependents b ↔ (a, b) ∈ pairs := by
  rw [(h.dependents b).mem]
  simp

theorem mem_keys_forward_iff (h : g.Keeps pairs) {a : String} :
    a ∈ g.forward.keys ↔ g.dependencies a ≠ [] := by
  rw [h.sources, List.mem_map, Ne, List.eq_nil_iff_forall_not_mem]
  simp [h.mem_dependencies]

theorem keys_forward_subset_nodes (h : g.Keeps pairs) : g.forward.keys ⊆ g.nodes := by
  intro a reads
  obtain ⟨e, mem, rfl⟩ := List.mem_map.mp ((h.sources a).mp reads)
  exact (h.nodes.mem _).mpr (List.mem_flatMap.mpr ⟨e, mem, List.mem_cons_self ..⟩)

/-- The size is the number of nodes that have a dependency. -/
theorem size_eq (h : g.Keeps pairs) :
    g.size = (g.nodes.filter fun n => g.dependencies n ≠ []).length := by
  have perm : g.forward.keys.Perm (g.nodes.filter fun n => g.dependencies n ≠ []) := by
    refine (List.perm_ext_iff_of_nodup g.forward.nodup_keys (h.nodes.nodup.filter _)).mpr ?_
    intro a
    rw [List.mem_filter, decide_eq_true_eq, ← h.mem_keys_forward_iff]
    exact (and_iff_right_of_imp fun reads => h.keys_forward_subset_nodes reads).symm
  rw [← perm.length_eq, Table.keys, List.length_map]
  rfl

end Keeps

end Graph

end Inquiry.Dependency
