import Inquiry.Proofs.Dependency.Cycles
import Inquiry.Proofs.Questionnaire.Dependencies
import Inquiry.Proofs.Questionnaire.Position

namespace Inquiry.Validation

variable {q : Questionnaire} {question : Question}

theorem mem_questionErrors_iff {issue : Issue} :
    issue ∈ questionErrors q question ↔
      (∃ id, question.DependsOn id ∧ q.contains id = false ∧
        issue = .unknownReference question.id id) ∨
      (question.DependsOn question.id ∧ issue = .selfReference question.id) := by
  unfold questionErrors
  rw [List.mem_append, List.mem_map]
  refine or_congr ?_ ?_
  · constructor
    · rintro ⟨id, mem, rfl⟩
      obtain ⟨reads, unknown⟩ := List.mem_filter.mp mem
      exact ⟨id, Question.mem_keys_reads_iff.mp reads, by simpa using unknown, rfl⟩
    · rintro ⟨id, reads, unknown, rfl⟩
      refine ⟨id, List.mem_filter.mpr ⟨Question.mem_keys_reads_iff.mpr reads, ?_⟩, rfl⟩
      rw [unknown]
      rfl
  · split
    · rename_i own
      simp [Question.contains_reads_iff.mp own]
    · rename_i foreign
      rw [Question.contains_reads_iff] at foreign
      simp [foreign]

theorem nodup_questionErrors (q : Questionnaire) (question : Question) :
    (questionErrors q question).Nodup := by
  unfold questionErrors
  refine List.nodup_append.mpr ⟨?_, ?_, ?_⟩
  · refine List.Nodup.map ?_ (question.reads.nodup_keys.filter _)
    intro a b same
    exact (Issue.unknownReference.inj same).2
  · split
    · exact List.nodup_singleton _
    · exact List.nodup_nil
  · intro issue mem other mem' same
    obtain ⟨id, -, rfl⟩ := List.mem_map.mp mem
    split at mem'
    · rw [List.mem_singleton.mp mem'] at same
      cases same
    · cases mem'

/-- The errors of a question name it, so questions with different ids have different errors. -/
theorem questionErrors_disjoint {other : Question} (differ : question.id ≠ other.id) :
    (questionErrors q question).Disjoint (questionErrors q other) := by
  intro issue mem mem'
  rcases mem_questionErrors_iff.mp mem with ⟨id, -, -, rfl⟩ | ⟨-, rfl⟩
  · rcases mem_questionErrors_iff.mp mem' with ⟨id', -, -, same⟩ | ⟨-, same⟩
    · exact differ (Issue.unknownReference.inj same).1
    · cases same
  · rcases mem_questionErrors_iff.mp mem' with ⟨id', -, -, same⟩ | ⟨-, same⟩
    · cases same
    · exact differ (Issue.selfReference.inj same)

theorem mem_errors_iff {issue : Issue} :
    issue ∈ (check q).errors ↔
      (∃ path ∈ q.dependencies.cycles, issue = .cycle path) ∨
      (∃ a b, q.DependsOn a b ∧ q.contains b = false ∧ issue = .unknownReference a b) ∨
      (∃ a, q.DependsOn a a ∧ issue = .selfReference a) := by
  unfold check
  rw [List.mem_append, List.mem_map, List.mem_flatMap]
  refine or_congr (by simp only [eq_comm]) ?_
  constructor
  · rintro ⟨question, mem, found⟩
    rcases mem_questionErrors_iff.mp found with ⟨id, reads, unknown, rfl⟩ | ⟨reads, rfl⟩
    · exact .inl ⟨_, id, ⟨question, mem, rfl, reads⟩, unknown, rfl⟩
    · exact .inr ⟨_, ⟨question, mem, rfl, reads⟩, rfl⟩
  · rintro (⟨_, b, ⟨question, mem, rfl, reads⟩, unknown, rfl⟩ |
      ⟨_, ⟨question, mem, own, reads⟩, rfl⟩)
    · exact ⟨question, mem, mem_questionErrors_iff.mpr (.inl ⟨b, reads, unknown, rfl⟩)⟩
    · subst own
      exact ⟨question, mem, mem_questionErrors_iff.mpr (.inr ⟨reads, rfl⟩)⟩

theorem unknownReference_mem_iff {a b : String} :
    .unknownReference a b ∈ (check q).errors ↔ q.DependsOn a b ∧ q.contains b = false := by
  simp [mem_errors_iff]

theorem selfReference_mem_iff {a : String} :
    .selfReference a ∈ (check q).errors ↔ q.DependsOn a a := by
  simp [mem_errors_iff]

theorem cycle_mem_iff {path : List String} :
    .cycle path ∈ (check q).errors ↔ path ∈ q.dependencies.cycles := by
  simp [mem_errors_iff]

/-- No error is reported twice. -/
theorem nodup_errors (distinct : q.Distinct) : (check q).errors.Nodup := by
  refine List.nodup_append.mpr ⟨?_, ?_, ?_⟩
  · refine List.Nodup.map (fun _ _ same => Issue.cycle.inj same) ?_
    refine q.sound_dependencies.cycles_apart.imp ?_
    rintro c _ apart rfl
    exact apart (List.IsRotated.refl _)
  · refine List.nodup_flatMap.mpr ⟨fun question _ => nodup_questionErrors q question, ?_⟩
    exact (List.pairwise_map.mp distinct).imp questionErrors_disjoint
  · rintro _ mem _ mem' rfl
    obtain ⟨path, -, rfl⟩ := List.mem_map.mp mem
    obtain ⟨question, -, found⟩ := List.mem_flatMap.mp mem'
    rcases mem_questionErrors_iff.mp found with ⟨_, -, -, same⟩ | ⟨-, same⟩ <;> cases same

theorem cycles_eq_nil_iff :
    q.dependencies.cycles = [] ↔ ∀ a, ¬ Relation.TransGen q.DependsOn a a := by
  rw [q.sound_dependencies.cycles_eq_nil_iff, Dependency.Graph.exists_cycle_iff,
    q.reads_dependencies, not_exists]

theorem isValid_check_iff :
    (check q).isValid = true ↔
      (∀ a b, q.DependsOn a b → q.contains b = true) ∧
      ∀ a, ¬ Relation.TransGen q.DependsOn a a := by
  rw [Report.isValid, List.isEmpty_iff, ← cycles_eq_nil_iff]
  constructor
  · intro none
    have absent : ∀ issue, issue ∉ (check q).errors := by simp [none]
    constructor
    · intro a b reads
      by_contra unknown
      rw [Bool.not_eq_true] at unknown
      exact absent _ (unknownReference_mem_iff.mpr ⟨reads, unknown⟩)
    · refine List.eq_nil_iff_forall_not_mem.mpr fun path mem => ?_
      exact absent _ (cycle_mem_iff.mpr mem)
  · rintro ⟨known, none⟩
    refine List.eq_nil_iff_forall_not_mem.mpr fun issue mem => ?_
    rcases mem_errors_iff.mp mem with ⟨path, mem, -⟩ | ⟨a, b, reads, unknown, -⟩ | ⟨a, reads, -⟩
    · rw [none] at mem
      cases mem
    · rw [known a b reads] at unknown
      cases unknown
    · exact cycles_eq_nil_iff.mp none a (.single reads)

/-- The rules of a questionnaire are valid if and only if they read only questions that there are
and no question depends on itself, directly or through others. What is unknown is reported once
for each question that reads it, and so is each question that reads itself, which is also a cycle.
Whatever the warnings, they do not count. -/
theorem check_verdict (distinct : q.Distinct) :
    ((check q).isValid = true ↔
      (∀ a b, q.DependsOn a b → q.contains b = true) ∧
      ∀ a, ¬ Relation.TransGen q.DependsOn a a) ∧
    (∀ a b,
      (q.DependsOn a b ∧ q.contains b = false →
        (check q).errors.count (.unknownReference a b) = 1) ∧
      (¬ (q.DependsOn a b ∧ q.contains b = false) →
        .unknownReference a b ∉ (check q).errors)) ∧
    (∀ a,
      (q.DependsOn a a → (check q).errors.count (.selfReference a) = 1) ∧
      (¬ q.DependsOn a a → .selfReference a ∉ (check q).errors) ∧
      (.selfReference a ∈ (check q).errors ↔ .cycle [a, a] ∈ (check q).errors)) ∧
    ∀ warnings, Report.isValid { check q with warnings } = (check q).isValid := by
  have once : ∀ issue ∈ (check q).errors, (check q).errors.count issue = 1 :=
    fun issue mem => List.count_eq_one_of_mem (nodup_errors distinct) mem
  refine ⟨isValid_check_iff, fun a b => ⟨fun reads => ?_, ?_⟩, fun a => ⟨fun reads => ?_, ?_, ?_⟩,
    fun _ => rfl⟩
  · exact once _ (unknownReference_mem_iff.mpr reads)
  · exact mt unknownReference_mem_iff.mp
  · exact once _ (selfReference_mem_iff.mpr reads)
  · exact mt selfReference_mem_iff.mp
  · rw [selfReference_mem_iff, cycle_mem_iff, q.sound_dependencies.loop_mem_cycles_iff,
      q.reads_dependencies_iff]

/-- The first question reads its own answer and the second's, and in two rules one that nobody is
asked for; the second reads the first's. -/
def tangled : Questionnaire where
  id := "form"
  title := ""
  description := ""
  questions :=
    let filled (id : String) : Condition := .unary id .isNotEmpty
    [{ Question.plain "a" .text with rules := some { Rules.none with
        showIf := some (.all [filled "a", filled "b", filled "z"])
        requiredIf := some (.one (filled "z")) } },
      { Question.plain "b" .text with rules := some { Rules.none with
        skipIf := some (.one (filled "a")) } }]

theorem check_verdict_tangled :
    (check tangled).isValid = false ∧
    (check tangled).errors.count (.unknownReference "a" "z") = 1 ∧
    (check tangled).errors.count (.selfReference "a") = 1 ∧
    .cycle ["a", "a"] ∈ (check tangled).errors ∧
    .selfReference "b" ∉ (check tangled).errors := by
  have distinct : tangled.Distinct := by decide
  obtain ⟨valid, unknown, own, -⟩ := check_verdict distinct
  have reads : ∀ id ∈ ["a", "z"], tangled.DependsOn "a" id := by
    simp only [← Questionnaire.mem_readings_iff]
    decide +kernel
  have foreign : ¬ tangled.DependsOn "b" "b" := by
    rw [← Questionnaire.mem_readings_iff]
    decide +kernel
  have itself := reads "a" (by decide)
  refine ⟨?_, (unknown "a" "z").1 ⟨reads "z" (by decide), by decide⟩, (own "a").1 itself, ?_,
    (own "b").2.1 foreign⟩
  · rw [← Bool.not_eq_true, valid]
    exact fun h => h.2 "a" (.single itself)
  · rw [← (own "a").2.2, selfReference_mem_iff]
    exact itself

end Inquiry.Validation
