import Inquiry.Proofs.Validation

namespace Inquiry

def Question.HasShowRule (question : Question) : Prop :=
  ∃ rules guard, question.rules = some rules ∧ rules.showIf = some guard

/-- A condition in the rule to show a question reads the answer to another. -/
def Question.ShowsBy (question : Question) (id : String) : Prop :=
  ∃ rules guard condition, question.rules = some rules ∧ rules.showIf = some guard ∧
    condition ∈ guard.conditions ∧ condition.question = id

theorem Question.ShowsBy.dependsOn {question : Question} {id : String}
    (h : question.ShowsBy id) : question.DependsOn id := by
  obtain ⟨rules, guard, condition, own, shows, mem, names⟩ := h
  exact ⟨rules, guard, condition, own, .inl shows, mem, names⟩

theorem Question.ShowsBy.hasShowRule {question : Question} {id : String}
    (h : question.ShowsBy id) : question.HasShowRule := by
  obtain ⟨rules, guard, -, own, shows, -⟩ := h
  exact ⟨rules, guard, own, shows⟩

theorem Question.isSome_showIf_iff {question : Question} :
    (question.rules.bind (·.showIf)).isSome = true ↔ question.HasShowRule := by
  simp only [Option.isSome_iff_exists, Option.bind_eq_some_iff, HasShowRule]
  constructor
  · rintro ⟨guard, rules, own, shows⟩
    exact ⟨rules, guard, own, shows⟩
  · rintro ⟨rules, guard, own, shows⟩
    exact ⟨guard, rules, own, shows⟩

/-- The second id names a question that stands behind the one that the first names. -/
def Questionnaire.Precedes (q : Questionnaire) (a b : String) : Prop :=
  ∃ i j, q.position? a = some i ∧ q.position? b = some j ∧ i < j

namespace Validation

variable {q : Questionnaire} {question : Question} {position : Nat} {issue : Issue}

def Issue.warned? : Issue → Option String
  | .potentiallyUnreachable question _ => some question
  | _ => none

theorem isLater_iff (stands : q.position? question.id = some position) {id : String} :
    isLater q position id = true ↔ q.Precedes question.id id := by
  simp only [isLater, Option.any_eq_true, decide_eq_true_eq, Questionnaire.Precedes]
  constructor
  · rintro ⟨j, found, later⟩
    exact ⟨position, j, stands, found, later⟩
  · rintro ⟨i, j, stands', found, later⟩
    rw [stands, Option.some_inj] at stands'
    exact ⟨j, found, stands' ▸ later⟩

/-- The first of some ids in order is the least. -/
theorem find?_eq_some_iff_least {ids : List String} {p : String → Bool} {id : String}
    (sorted : ids.Pairwise (· < ·)) :
    ids.find? p = some id ↔
      id ∈ ids ∧ p id = true ∧ ∀ other ∈ ids, p other = true → id ≤ other := by
  induction ids with
  | nil => simp
  | cons first rest ih =>
    obtain ⟨before, sorted⟩ := List.pairwise_cons.mp sorted
    by_cases here : p first = true
    · rw [List.find?_cons_of_pos here, Option.some_inj]
      constructor
      · rintro rfl
        refine ⟨List.mem_cons_self, here, ?_⟩
        intro other mem _
        rcases List.mem_cons.mp mem with rfl | mem
        · exact String.le_refl _
        · exact Std.le_of_lt (before other mem)
      · rintro ⟨mem, -, least⟩
        rcases List.mem_cons.mp mem with rfl | mem
        · rfl
        · exact absurd (before id mem) (String.not_lt.mpr (least first List.mem_cons_self here))
    · rw [List.find?_cons_of_neg here, ih sorted]
      constructor
      · rintro ⟨mem, holds, least⟩
        refine ⟨List.mem_cons_of_mem _ mem, holds, ?_⟩
        intro other mem' holds'
        rcases List.mem_cons.mp mem' with rfl | mem'
        · exact absurd holds' here
        · exact least other mem' holds'
      · rintro ⟨mem, holds, least⟩
        rcases List.mem_cons.mp mem with rfl | mem
        · exact absurd holds here
        · exact ⟨mem, holds, fun other mem' => least other (List.mem_cons_of_mem _ mem')⟩

theorem questionWarning_eq_some_iff (stands : q.position? question.id = some position) :
    questionWarning q position question = some issue ↔ question.HasShowRule ∧ ∃ id,
      issue = .potentiallyUnreachable question.id id ∧ question.DependsOn id ∧
      q.Precedes question.id id ∧
      ∀ other, question.DependsOn other → q.Precedes question.id other → id ≤ other := by
  unfold questionWarning
  split
  · rename_i shows
    simp only [Option.map_eq_some_iff, find?_eq_some_iff_least question.reads.sorted_keys,
      Question.mem_keys_reads_iff, isLater_iff stands, Question.isSome_showIf_iff.mp shows,
      true_and, eq_comm (a := issue)]
    exact exists_congr fun id => by tauto
  · rename_i hidden
    rw [Question.isSome_showIf_iff] at hidden
    simp [hidden]

theorem exists_questionWarning (stands : q.position? question.id = some position)
    (shows : question.HasShowRule) {id : String} (reads : question.DependsOn id)
    (later : q.Precedes question.id id) :
    ∃ issue, questionWarning q position question = some issue := by
  have found : (question.reads.keys.find? (isLater q position)).isSome = true :=
    List.find?_isSome.mpr
      ⟨id, Question.mem_keys_reads_iff.mpr reads, (isLater_iff stands).mpr later⟩
  obtain ⟨first, found⟩ := Option.isSome_iff_exists.mp found
  refine ⟨.potentiallyUnreachable question.id first, ?_⟩
  rw [questionWarning, if_pos (Question.isSome_showIf_iff.mpr shows), found]
  rfl

theorem mem_warnings_iff_questionWarning (distinct : q.Distinct) :
    issue ∈ (check q).warnings ↔ ∃ question ∈ q.questions, ∃ position,
      q.position? question.id = some position ∧
      questionWarning q position question = some issue := by
  simp only [check, List.mem_filterMap, Prod.exists, List.mem_zipIdx_iff_getElem?]
  constructor
  · rintro ⟨question, position, found, warned⟩
    exact ⟨question, List.mem_of_getElem? found, position,
      Questionnaire.position?_of_getElem? distinct found, warned⟩
  · rintro ⟨question, mem, position, stands, warned⟩
    obtain ⟨i, found⟩ := List.mem_iff_getElem?.mp mem
    have here := Questionnaire.position?_of_getElem? distinct found
    rw [stands, Option.some_inj] at here
    exact ⟨question, position, here ▸ found, warned⟩

/-- A warning is about a question with a rule to show it, and names the least id of a later question
that any of its rules reads. -/
theorem mem_warnings_iff (distinct : q.Distinct) :
    issue ∈ (check q).warnings ↔ ∃ question ∈ q.questions, question.HasShowRule ∧ ∃ id,
      issue = .potentiallyUnreachable question.id id ∧ question.DependsOn id ∧
      q.Precedes question.id id ∧
      ∀ other, question.DependsOn other → q.Precedes question.id other → id ≤ other := by
  rw [mem_warnings_iff_questionWarning distinct]
  refine exists_congr fun question => and_congr_right fun mem => ?_
  constructor
  · rintro ⟨position, stands, warned⟩
    exact (questionWarning_eq_some_iff stands).mp warned
  · intro warned
    obtain ⟨position, stands⟩ := Questionnaire.exists_position?_of_mem mem
    exact ⟨position, stands, (questionWarning_eq_some_iff stands).mpr warned⟩

/-- No two warnings are about one question. -/
theorem pairwise_warnings (distinct : q.Distinct) :
    (check q).warnings.Pairwise fun v w => v.warned? ≠ w.warned? := by
  have about : ∀ {question : Question} {position : Nat} {issue : Issue},
      questionWarning q position question = some issue → issue.warned? = some question.id := by
    intro question position issue warned
    unfold questionWarning at warned
    split at warned
    · obtain ⟨id, -, rfl⟩ := Option.map_eq_some_iff.mp warned
      rfl
    · cases warned
  have apart : q.questions.zipIdx.Pairwise fun x y => x.1.id ≠ y.1.id := by
    have ids : q.questions.zipIdx.map (fun x => x.1.id) = q.questions.map (·.id) := by
      have fst := congrArg (List.map Question.id) (List.zipIdx_map_fst 0 q.questions)
      rwa [List.map_map] at fst
    have nodup := distinct
    rw [Questionnaire.Distinct, ← ids] at nodup
    exact List.pairwise_map.mp nodup
  refine List.pairwise_filterMap.mpr (apart.imp ?_)
  intro x y differ v warned w warned' same
  rw [about warned, about warned', Option.some_inj] at same
  exact differ same

/-- The questions warned about are those with a rule to show them any of whose rules reads a later
one, each once, and the least of the later ones is named. So a question whose rule to show it reads
a later one is warned about, and one without such a rule is not. But what is named need not be read
by the rule to show: it is if no later question is read by another rule alone. -/
theorem check_warnings (distinct : q.Distinct) :
    (∀ issue, issue ∈ (check q).warnings ↔
      ∃ question ∈ q.questions, question.HasShowRule ∧ ∃ id,
        issue = .potentiallyUnreachable question.id id ∧ question.DependsOn id ∧
        q.Precedes question.id id ∧
        ∀ other, question.DependsOn other → q.Precedes question.id other → id ≤ other) ∧
    (check q).warnings.Pairwise (fun v w => v.warned? ≠ w.warned?) ∧
    ∀ question ∈ q.questions,
      ((∃ id, question.ShowsBy id ∧ q.Precedes question.id id) →
        ∃ id, .potentiallyUnreachable question.id id ∈ (check q).warnings) ∧
      (¬ question.HasShowRule →
        ∀ id, .potentiallyUnreachable question.id id ∉ (check q).warnings) ∧
      ((∀ id, question.DependsOn id → q.Precedes question.id id → question.ShowsBy id) →
        ∀ id, .potentiallyUnreachable question.id id ∈ (check q).warnings →
          question.ShowsBy id ∧ q.Precedes question.id id) := by
  refine ⟨fun issue => mem_warnings_iff distinct, pairwise_warnings distinct, ?_⟩
  intro question mem
  have warned : ∀ {id}, .potentiallyUnreachable question.id id ∈ (check q).warnings →
      question.HasShowRule ∧ question.DependsOn id ∧ q.Precedes question.id id := by
    intro id among
    obtain ⟨other, mem', shows, _, same, reads, later, -⟩ := (mem_warnings_iff distinct).mp among
    obtain ⟨named, rfl⟩ := Issue.potentiallyUnreachable.inj same
    have itself : other = question := List.inj_on_of_nodup_map distinct mem' mem named.symm
    rw [itself] at shows reads later
    exact ⟨shows, reads, later⟩
  refine ⟨?_, ?_, ?_⟩
  · rintro ⟨id, shows, later⟩
    obtain ⟨position, stands⟩ := Questionnaire.exists_position?_of_mem mem
    obtain ⟨issue, found⟩ :=
      exists_questionWarning stands shows.hasShowRule shows.dependsOn later
    have among := (mem_warnings_iff_questionWarning distinct).mpr
      ⟨question, mem, position, stands, found⟩
    obtain ⟨-, first, rfl, -⟩ := (questionWarning_eq_some_iff stands).mp found
    exact ⟨first, among⟩
  · exact fun absent id among => absent (warned among).1
  · intro only id among
    obtain ⟨-, reads, later⟩ := warned among
    exact ⟨only id reads later, later⟩

/-- A rule that asks whether a question is answered. -/
def answered (id : String) : Option Guard := some (.one (.unary id .isNotEmpty))

def ruled (id : String) (rules : Rules) : Question :=
  { Question.plain id .text with rules := some rules }

/-- The first question is skipped by the third, the second is shown by the first and hidden by the
third, and the third is shown by the last. -/
def deferred : Questionnaire :=
  ⟨"form", "", "", [ruled "a" { Rules.none with skipIf := answered "c" },
    ruled "b" { Rules.none with showIf := answered "a", hideIf := answered "c" },
    ruled "c" { Rules.none with showIf := answered "d" }, .plain "d" .text]⟩

/-- The third question is warned about, and the first one is not although it reads a later one. -/
theorem check_warnings_deferred :
    (check deferred).warnings.Pairwise (fun v w => v.warned? ≠ w.warned?) ∧
    (∃ id, .potentiallyUnreachable "c" id ∈ (check deferred).warnings) ∧
    (∀ id, .potentiallyUnreachable "c" id ∈ (check deferred).warnings → id = "d") ∧
    ∀ id, .potentiallyUnreachable "a" id ∉ (check deferred).warnings := by
  have distinct : deferred.Distinct := by decide
  obtain ⟨-, once, warned⟩ := check_warnings distinct
  let first := ruled "a" { Rules.none with skipIf := answered "c" }
  let third := ruled "c" { Rules.none with showIf := answered "d" }
  obtain ⟨-, silent, -⟩ := warned first (by simp [deferred, first])
  obtain ⟨shown, -, named⟩ := warned third (by simp [deferred, third])
  have shows : third.ShowsBy "d" :=
    ⟨_, _, .unary "d" .isNotEmpty, rfl, rfl, List.mem_singleton_self _, rfl⟩
  have only : ∀ id, third.DependsOn id → id = "d" := by
    rintro id ⟨_, guard, condition, ⟨⟩, has, mem, rfl⟩
    rcases has with has | has | has | has <;> cases has
    rw [List.mem_singleton.mp mem]
    rfl
  have unruled : ¬ first.HasShowRule := by
    rintro ⟨_, _, ⟨⟩, shows⟩
    cases shows
  have later : deferred.Precedes third.id "d" := ⟨2, 3, by decide, by decide, by decide⟩
  refine ⟨once, shown ⟨"d", shows, later⟩, ?_, silent unruled⟩
  intro id among
  exact only id (named (fun other reads _ => only other reads ▸ shows) id among).1.dependsOn

/-- The second question is warned about the third, which only its rule to hide reads: its rule to
show reads no later question. -/
theorem warned_by_hiding :
    deferred.Distinct ∧ .potentiallyUnreachable "b" "c" ∈ (check deferred).warnings ∧
    ∀ question ∈ deferred.questions, question.id = "b" →
      ∀ id, question.ShowsBy id → ¬ deferred.Precedes "b" id := by
  refine ⟨by decide, by decide +kernel, ?_⟩
  rintro question mem named id ⟨rules, guard, condition, own, shows, among, rfl⟩
  have second : question = ruled "b"
      { Rules.none with showIf := answered "a", hideIf := answered "c" } := by
    simp only [deferred, List.mem_cons, List.not_mem_nil, or_false] at mem
    rcases mem with rfl | rfl | rfl | rfl
    · exact absurd named (by decide)
    · rfl
    · exact absurd named (by decide)
    · exact absurd named (by decide)
  subst second
  cases own
  cases shows
  rw [List.mem_singleton.mp among]
  rintro ⟨i, j, stands, stands', later⟩
  have first : deferred.position? "b" = some 1 := by decide
  have second : deferred.position? (Condition.unary "a" .isNotEmpty).question = some 0 := by decide
  rw [first, Option.some_inj] at stands
  rw [second, Option.some_inj] at stands'
  omega

end Validation

end Inquiry
