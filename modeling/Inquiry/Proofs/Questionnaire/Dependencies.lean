import Inquiry.Validation
import Inquiry.Proofs.Dependency.Graph
import Inquiry.Proofs.Table

namespace Inquiry

/-- A guard stands in one of the four places of rules. -/
def Rules.Has (rules : Rules) (guard : Guard) : Prop :=
  rules.showIf = some guard ∨ rules.hideIf = some guard ∨
    rules.skipIf = some guard ∨ rules.requiredIf = some guard

theorem Rules.mem_conditions_iff {rules : Rules} {condition : Condition} :
    condition ∈ rules.conditions ↔ ∃ guard, rules.Has guard ∧ condition ∈ guard.conditions := by
  simp only [conditions, guards, Has, List.mem_flatMap, List.mem_append, Option.mem_toList,
    or_assoc]

theorem Rules.contains_reads_iff {rules : Rules} {id : String} :
    rules.reads.contains id = true ↔ ∃ condition ∈ rules.conditions, condition.question = id := by
  rw [reads, IdSet.contains_ofIds, List.mem_map]

/-- A condition in some rule of a question reads the answer to another. -/
def Question.DependsOn (question : Question) (id : String) : Prop :=
  ∃ rules guard condition, question.rules = some rules ∧ rules.Has guard ∧
    condition ∈ guard.conditions ∧ condition.question = id

theorem Question.contains_reads_iff {question : Question} {id : String} :
    question.reads.contains id = true ↔ question.DependsOn id := by
  unfold reads DependsOn
  cases question.rules with
  | none => simp
  | some rules =>
    dsimp only
    rw [Rules.contains_reads_iff]
    constructor
    · rintro ⟨condition, mem, names⟩
      obtain ⟨guard, has, among⟩ := Rules.mem_conditions_iff.mp mem
      exact ⟨rules, guard, condition, rfl, has, among, names⟩
    · rintro ⟨_, guard, condition, ⟨⟩, has, among, names⟩
      exact ⟨condition, Rules.mem_conditions_iff.mpr ⟨guard, has, among⟩, names⟩

theorem Question.mem_keys_reads_iff {question : Question} {id : String} :
    id ∈ question.reads.keys ↔ question.DependsOn id :=
  (Table.mem_keys_iff _ _).trans contains_reads_iff

namespace Questionnaire

/-- A question of the first id reads the answer to the second. -/
def DependsOn (q : Questionnaire) (a b : String) : Prop :=
  ∃ question ∈ q.questions, question.id = a ∧ question.DependsOn b

/-- What each question reads, question by question. -/
def readings (q : Questionnaire) : List (String × String) :=
  q.questions.flatMap fun question => question.reads.keys.map fun id => (question.id, id)

variable {q : Questionnaire}

theorem mem_readings_iff {a b : String} : (a, b) ∈ q.readings ↔ q.DependsOn a b := by
  simp only [readings, DependsOn, List.mem_flatMap, List.mem_map, Prod.mk.injEq,
    Question.mem_keys_reads_iff]
  constructor
  · rintro ⟨question, mem, _, reads, rfl, rfl⟩
    exact ⟨question, mem, rfl, reads⟩
  · rintro ⟨question, mem, rfl, reads⟩
    exact ⟨question, mem, b, reads, rfl, rfl⟩

theorem dependencies_eq_ofEdits :
    q.dependencies = .ofEdits (q.readings.map fun e => .add e.1 e.2) := by
  rw [Dependency.Graph.ofEdits, List.foldl_map, readings, List.foldl_flatMap]
  simp only [List.foldl_map]
  rfl

theorem sound_dependencies : q.dependencies.Sound :=
  dependencies_eq_ofEdits ▸ Dependency.Graph.Sound.ofEdits _

theorem reads_dependencies_iff {a b : String} : q.dependencies.Reads a b ↔ q.DependsOn a b := by
  rw [dependencies_eq_ofEdits, Dependency.Graph.reads_ofEdits, mem_readings_iff]

theorem reads_dependencies : q.dependencies.Reads = q.DependsOn := by
  funext a b
  exact propext reads_dependencies_iff

end Questionnaire

end Inquiry
