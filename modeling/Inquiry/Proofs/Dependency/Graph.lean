import Inquiry.Dependency.Graph
import Mathlib.Data.List.Nodup
import Mathlib.Data.List.Basic

namespace Inquiry.Dependency

section appendNew

variable {α : Type} [DecidableEq α]

theorem mem_appendNew {items : List α} {item a : α} :
    a ∈ appendNew items item ↔ a ∈ items ∨ a = item := by
  unfold appendNew
  split
  · rename_i there
    constructor
    · exact .inl
    · rintro (mem | rfl)
      · exact mem
      · exact there
  · rw [List.mem_append, List.mem_singleton]

theorem nodup_appendNew {items : List α} {item : α} (nodup : items.Nodup) :
    (appendNew items item).Nodup := by
  unfold appendNew
  split
  · exact nodup
  · rename_i absent
    rw [← List.concat_eq_append]
    exact nodup.concat absent

end appendNew

/-- A change of a graph. -/
inductive Edit where
  | add (dependent dependency : String)
  | clear

def Edit.apply (g : Graph) : Edit → Graph
  | add dependent dependency => g.add dependent dependency
  | clear => .empty

namespace Graph

/-- What changes make of the empty graph. -/
def ofEdits (edits : List Edit) : Graph := edits.foldl Edit.apply .empty

/-- There is an edge from one node to another. -/
def Reads (g : Graph) (a b : String) : Prop := b ∈ g.dependencies a

theorem dependencies_add (g : Graph) (dependent dependency node : String) :
    (g.add dependent dependency).dependencies node =
      if node = dependent then appendNew (g.dependencies node) dependency
      else g.dependencies node :=
  g.forward.of_note dependent dependency node

theorem dependents_add (g : Graph) (dependent dependency node : String) :
    (g.add dependent dependency).dependents node =
      if node = dependency then appendNew (g.dependents node) dependent
      else g.dependents node :=
  g.backward.of_note dependency dependent node

theorem reads_add {g : Graph} {dependent dependency a b : String} :
    (g.add dependent dependency).Reads a b ↔
      g.Reads a b ∨ a = dependent ∧ b = dependency := by
  unfold Reads
  rw [dependencies_add]
  split
  · rename_i own
    rw [mem_appendNew, and_iff_right own]
  · rename_i foreign
    simp [foreign]

/-- Nodes and edges stand once each, edges lead between nodes, and from either end they are the
same. -/
structure Sound (g : Graph) : Prop where
  nodes : g.nodes.Nodup
  nodup_dependencies : ∀ node, (g.dependencies node).Nodup
  reads : ∀ a b, g.Reads a b → a ∈ g.nodes ∧ b ∈ g.nodes
  mem_dependents_iff : ∀ a b, a ∈ g.dependents b ↔ g.Reads a b

theorem Sound.empty : empty.Sound where
  nodes := List.nodup_nil
  nodup_dependencies _ := List.nodup_nil
  reads _ _ reads := nomatch reads
  mem_dependents_iff _ _ := iff_of_false List.not_mem_nil List.not_mem_nil

theorem Sound.add {g : Graph} (h : g.Sound) (dependent dependency : String) :
    (g.add dependent dependency).Sound where
  nodes := nodup_appendNew (nodup_appendNew h.nodes)
  nodup_dependencies node := by
    rw [dependencies_add]
    split
    · exact nodup_appendNew (h.nodup_dependencies node)
    · exact h.nodup_dependencies node
  reads a b reads := by
    simp only [Graph.add, mem_appendNew]
    rcases reads_add.mp reads with before | ⟨rfl, rfl⟩
    · obtain ⟨source, target⟩ := h.reads a b before
      exact ⟨.inl (.inl source), .inl (.inl target)⟩
    · exact ⟨.inl (.inr rfl), .inr rfl⟩
  mem_dependents_iff a b := by
    rw [reads_add, dependents_add, ← h.mem_dependents_iff]
    split
    · rename_i own
      rw [mem_appendNew, and_iff_left own]
    · rename_i foreign
      simp [foreign]

theorem Sound.edit {g : Graph} (h : g.Sound) (e : Edit) : (e.apply g).Sound := by
  cases e with
  | add dependent dependency => exact h.add dependent dependency
  | clear => exact Sound.empty

/-- However a graph is built, it is sound. -/
theorem Sound.ofEdits (edits : List Edit) : (ofEdits edits).Sound := by
  have kept : ∀ g : Graph, g.Sound → (edits.foldl Edit.apply g).Sound := by
    induction edits with
    | nil => exact fun _ h => h
    | cons e rest ih => exact fun g h => ih (e.apply g) (h.edit e)
  exact kept _ Sound.empty

/-- Edges alone, put into a graph, are its edges. -/
theorem reads_ofEdits {edges : List (String × String)} {a b : String} :
    (ofEdits (edges.map fun e => .add e.1 e.2)).Reads a b ↔ (a, b) ∈ edges := by
  have kept : ∀ g : Graph, ((edges.map fun e => Edit.add e.1 e.2).foldl Edit.apply g).Reads a b ↔
      g.Reads a b ∨ (a, b) ∈ edges := by
    induction edges with
    | nil => simp
    | cons e rest ih =>
      intro g
      rw [List.map_cons, List.foldl_cons, ih, Edit.apply, reads_add, List.mem_cons,
        ← Prod.mk.injEq, or_assoc]
  have fresh : ¬ empty.Reads a b := fun reads => nomatch reads
  exact (kept empty).trans (or_iff_right fresh)

end Graph

end Inquiry.Dependency
