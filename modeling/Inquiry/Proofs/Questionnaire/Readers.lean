import Inquiry.Proofs.Dependency.Insertion
import Inquiry.Proofs.Questionnaire.Dependencies
import Inquiry.Proofs.Questionnaire.Position

/-!
In which order the graph of a questionnaire tells what is read, and by whom.

Where ids are distinct, what a question reads is put into the graph in one go and in ascending
order, so nothing is named twice. Main statements: `Questionnaire.dependencies_dependencies`,
`Questionnaire.dependents_dependencies` and, for any graph as well,
`Questionnaire.dependencies_in_order`.
-/
namespace Inquiry

instance (question : Question) (id : String) : Decidable (question.DependsOn id) :=
  decidable_of_iff _ Question.contains_reads_iff

namespace Questionnaire

variable {q : Questionnaire} {question : Question} {id : String}

theorem pairs_readings :
    Dependency.Edit.pairs (q.readings.map fun e => .add e.1 e.2) = q.readings := by
  have noted : ∀ pairs : List (String × String),
      (q.readings.map fun e => Dependency.Edit.add e.1 e.2).foldl Dependency.Edit.note pairs =
        pairs ++ q.readings := by
    induction q.readings with
    | nil => exact fun pairs => (List.append_nil pairs).symm
    | cons e rest ih =>
      intro pairs
      rw [List.map_cons, List.foldl_cons, ih, Dependency.Edit.note, List.append_assoc]
      rfl
  exact noted []

theorem keeps_dependencies (q : Questionnaire) : q.dependencies.Keeps q.readings := by
  have kept := Dependency.Graph.Keeps.ofEdits (q.readings.map fun e => .add e.1 e.2)
  rwa [pairs_readings, ← dependencies_eq_ofEdits] at kept

/-- Among questions with distinct ids one has a given id. -/
theorem flatMap_of_id {α : Type} {questions : List Question} (f : Question → List α)
    (distinct : (questions.map (·.id)).Nodup) (mem : question ∈ questions) :
    (questions.flatMap fun other => if other.id = question.id then f other else []) =
      f question := by
  induction questions with
  | nil => cases mem
  | cons head rest ih =>
    obtain ⟨apart, distinct⟩ := List.nodup_cons.mp distinct
    rw [List.flatMap_cons]
    rcases List.mem_cons.mp mem with rfl | later
    · have others : ∀ other ∈ rest, other.id ≠ question.id :=
        fun other mem same => apart (List.mem_map.mpr ⟨other, mem, same⟩)
      rw [if_pos rfl, List.flatMap_eq_nil_iff.mpr fun other mem => if_neg (others other mem),
        List.append_nil]
    · have differ : head.id ≠ question.id :=
        fun same => apart (List.mem_map.mpr ⟨question, later, same.symm⟩)
      rw [if_neg differ, List.nil_append, ih distinct later]

theorem readings_of_source (distinct : q.Distinct) (mem : question ∈ q.questions) :
    (q.readings.filter (·.1 = question.id)).map (·.2) = question.reads.keys := by
  rw [← flatMap_of_id (fun other => other.reads.keys) distinct mem, readings, List.filter_flatMap,
    List.map_flatMap]
  refine List.flatMap_congr fun other _ => ?_
  rw [List.filter_map, List.map_map]
  by_cases same : other.id = question.id <;> simp [Function.comp_def, same]

theorem flatMap_of_reader (questions : List Question) (id : String) :
    (questions.flatMap fun question => if question.DependsOn id then [question.id] else []) =
      (questions.filter (·.DependsOn id)).map (·.id) := by
  induction questions with
  | nil => rfl
  | cons head rest ih =>
    by_cases reads : head.DependsOn id <;> simp [reads, ih]

theorem readings_of_target (q : Questionnaire) (id : String) :
    (q.readings.filter (·.2 = id)).map (·.1) =
      (q.questions.filter (·.DependsOn id)).map (·.id) := by
  rw [← flatMap_of_reader, readings, List.filter_flatMap, List.map_flatMap]
  refine List.flatMap_congr fun question _ => ?_
  rw [List.filter_map, List.map_map]
  have alone : question.reads.keys.filter (· = id) =
      if question.DependsOn id then [id] else [] := by
    rw [List.filter_eq]
    split
    · rename_i reads
      have mem := Question.mem_keys_reads_iff.mpr reads
      rw [List.count_eq_one_of_mem question.reads.nodup_keys mem]
      rfl
    · rename_i independent
      rw [List.count_eq_zero_of_not_mem (mt Question.mem_keys_reads_iff.mp independent)]
      rfl
  change (question.reads.keys.filter (· = id)).map (fun _ => question.id) = _
  rw [alone]
  split <;> rfl

/-- What a question reads is told in ascending order. -/
theorem dependencies_dependencies (distinct : q.Distinct) (mem : question ∈ q.questions) :
    q.dependencies.dependencies question.id = question.reads.keys := by
  have kept := q.keeps_dependencies.dependencies question.id
  rw [readings_of_source distinct mem] at kept
  exact kept.eq_of_nodup question.reads.nodup_keys

/-- The questions that read an answer are told in the order of the questionnaire. -/
theorem dependents_dependencies (distinct : q.Distinct) (id : String) :
    q.dependencies.dependents id = (q.questions.filter (·.DependsOn id)).map (·.id) := by
  have kept := q.keeps_dependencies.dependents id
  rw [readings_of_target] at kept
  exact kept.eq_of_nodup (distinct.sublist (List.filter_sublist.map _))

/-- However a graph was built, it tells exactly the edges that were put in since it was last
cleared, from either end, and their ends as its nodes: each once, in the order in which they were
first named. Its size is the number of its nodes that have a dependency. In the graph of a
questionnaire with distinct ids, the dependencies of a question are the ids that some rule of it
reads, in ascending order, and the dependents of an id are the questions that read it, in the order
of the questionnaire. -/
theorem dependencies_in_order :
    (∀ edits : List Dependency.Edit,
      let g := Dependency.Graph.ofEdits edits
      let pairs := Dependency.Edit.pairs edits
      (∀ a b,
        (b ∈ g.dependencies a ↔ (a, b) ∈ pairs) ∧ (a ∈ g.dependents b ↔ (a, b) ∈ pairs)) ∧
      (∀ a, (g.dependencies a).Nodup ∧
        Dependency.Firsts ((pairs.filter (·.1 = a)).map (·.2)) (g.dependencies a)) ∧
      (∀ b, (g.dependents b).Nodup ∧
        Dependency.Firsts ((pairs.filter (·.2 = b)).map (·.1)) (g.dependents b)) ∧
      g.nodes.Nodup ∧ Dependency.Firsts (pairs.flatMap fun e => [e.1, e.2]) g.nodes ∧
      g.size = (g.nodes.filter fun a => g.dependencies a ≠ []).length) ∧
    ∀ q : Questionnaire, q.Distinct →
      (∀ question ∈ q.questions,
        (q.dependencies.dependencies question.id).Pairwise (· < ·) ∧
        ∀ id, id ∈ q.dependencies.dependencies question.id ↔ question.DependsOn id) ∧
      ∀ id, q.dependencies.dependents id =
        (q.questions.filter (·.DependsOn id)).map (·.id) := by
  constructor
  · intro edits g pairs
    have kept : g.Keeps pairs := .ofEdits edits
    exact ⟨fun a b => ⟨kept.mem_dependencies, kept.mem_dependents⟩,
      fun a => ⟨(kept.dependencies a).nodup, kept.dependencies a⟩,
      fun b => ⟨(kept.dependents b).nodup, kept.dependents b⟩,
      kept.nodes.nodup, kept.nodes, kept.size_eq⟩
  · intro q distinct
    refine ⟨fun question mem => ?_, q.dependents_dependencies distinct⟩
    rw [dependencies_dependencies distinct mem]
    exact ⟨question.reads.sorted_keys, fun id => Question.mem_keys_reads_iff⟩

/-- A form in which the first and the last question read the second, and the last one others that
come before and that do not exist. -/
def shared : Questionnaire :=
  let filled (id : String) : Condition := .unary id .isNotEmpty
  let first := { Question.plain "a" .text with
    rules := some { Rules.none with requiredIf := some (.one (filled "b")) } }
  let last := { Question.plain "c" .text with
    rules := some { Rules.none with
      hideIf := some (.one (filled "z"))
      skipIf := some (.all [filled "b", filled "a", filled "b"]) } }
  ⟨"form", "", "", [first, .plain "b" .text, last]⟩

theorem dependencies_in_order_shared :
    let g := Dependency.Graph.ofEdits
      [.add "z" "y", .clear, .add "b" "c", .add "b" "a", .add "a" "a", .add "b" "c"]
    ("y" ∉ g.dependencies "z" ∧ Dependency.Firsts ["c", "a", "c"] (g.dependencies "b") ∧
      Dependency.Firsts ["b", "a"] (g.dependents "a") ∧
      Dependency.Firsts ["b", "c", "b", "a", "a", "a", "b", "c"] g.nodes) ∧
    shared.Distinct ∧ shared.dependencies.dependents "b" = ["a", "c"] ∧
    "z" ∈ shared.dependencies.dependencies "c" := by
  intro g
  obtain ⟨built, drawn⟩ := dependencies_in_order
  obtain ⟨edges, outward, inward, -, nodes, -⟩ := built
    [.add "z" "y", .clear, .add "b" "c", .add "b" "a", .add "a" "a", .add "b" "c"]
  have distinct : shared.Distinct := by decide
  obtain ⟨reads, readers⟩ := drawn shared distinct
  refine ⟨⟨mt (edges "z" "y").1.mp (by decide), (outward "b").2, (inward "a").2, nodes⟩,
    distinct, (readers "b").trans (by decide +kernel), ?_⟩
  obtain ⟨last, mem, own, dependsOn⟩ : ∃ last ∈ shared.questions, last.id = "c" ∧
      last.DependsOn "z" := by decide +kernel
  exact own ▸ ((reads last mem).2 "z").mpr dependsOn

end Questionnaire

end Inquiry
