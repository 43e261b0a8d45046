import Inquiry.Decision

namespace Inquiry

/-- The pattern that an answer is tried against, if there is one. -/
def Condition.pattern? (c : Condition) : Option String :=
  match c.operator, c.value with
  | .matchesPattern, some (.string text) => some text
  | .notMatches, some (.string text) => some text
  | _, _ => none

/-- A condition whose pattern, if it has one, can be used. -/
def Condition.Usable (c : Condition) : Prop :=
  ∀ text ∈ c.pattern?, (Pattern.compile text).isOk = true

instance (c : Condition) : Decidable c.Usable :=
  inferInstanceAs (Decidable (∀ text ∈ c.pattern?, (Pattern.compile text).isOk = true))

/-- What comes of trying an answer against a pattern: only texts are tried against texts. -/
def tried (answer operand : Option Json) : Except Pattern.Fault Bool :=
  match answer, operand with
  | some (.string text), some (.string pattern) => (Pattern.compile pattern).map (·.occursIn text)
  | _, _ => .ok false

theorem tried_eq_error_iff {answer operand : Option Json} {fault : Pattern.Fault} :
    tried answer operand = .error fault ↔ ∃ text pattern, answer = some (.string text) ∧
      operand = some (.string pattern) ∧ Pattern.compile pattern = .error fault := by
  unfold tried
  split
  · rename_i text pattern
    cases compiled : Pattern.compile pattern <;> simp [Except.map, compiled]
  · rename_i other
    simp only [reduceCtorEq, false_iff]
    rintro ⟨text, pattern, rfl, rfl, -⟩
    exact other text pattern rfl rfl

/-- An outcome whose error, if it is one, is put down to a condition. -/
def Condition.blame (c : Condition) (outcome : Except BadPattern Bool) : Except BadPattern Bool :=
  outcome.mapError fun bad => { bad with condition := c }

theorem Condition.findsPattern_eq (c : Condition) (answer : Option Json) :
    c.findsPattern answer = (tried answer c.value).mapError fun fault => ⟨c, fault⟩ := by
  unfold findsPattern
  split
  · rename_i text pattern operand
    rw [operand, tried]
    cases Pattern.compile pattern <;> rfl
  · rename_i other
    rw [tried.eq_2 _ _ other]
    rfl

/-- Where the same comes of trying their patterns, two conditions differ in whom they blame. -/
theorem Condition.findsPattern_eq_blame {c d : Condition} {answer : Option Json}
    (same : tried answer c.value = tried answer d.value) :
    d.findsPattern answer = d.blame (c.findsPattern answer) := by
  rw [findsPattern_eq, findsPattern_eq, same, blame]
  cases tried answer d.value <;> rfl

theorem Condition.exists_findsPattern {c : Condition} (usable : c.Usable)
    (matching : c.operator = .matchesPattern ∨ c.operator = .notMatches) (answer : Option Json) :
    ∃ b, c.findsPattern answer = .ok b := by
  unfold findsPattern
  split
  · rename_i text pattern operand
    have own : c.pattern? = some pattern := by
      rcases matching with kind | kind <;> simp [pattern?, kind, operand]
    cases compiled : Pattern.compile pattern with
    | ok p => exact ⟨p.occursIn text, rfl⟩
    | error fault =>
      have ok := usable pattern own
      rw [compiled] at ok
      cases ok
  · exact ⟨false, rfl⟩

theorem Condition.exists_holds {c : Condition} (usable : c.Usable) (answers : Answers) :
    ∃ b, c.holds answers = .ok b := by
  unfold holds holdsOf
  cases kind : c.operator with
  | matchesPattern => exact exists_findsPattern usable (.inl kind) _
  | notMatches =>
    obtain ⟨b, found⟩ := exists_findsPattern usable (.inr kind) (answers.get? c.question)
    exact ⟨!b, by simp only [found]; rfl⟩
  | _ => exact ⟨_, rfl⟩

theorem exists_allHold {conditions : List Condition} (usable : ∀ c ∈ conditions, c.Usable)
    (answers : Answers) : ∃ b, allHold answers conditions = .ok b := by
  induction conditions with
  | nil => exact ⟨true, rfl⟩
  | cons c rest ih =>
    obtain ⟨b, first⟩ := Condition.exists_holds (usable c (List.mem_cons_self ..)) answers
    obtain ⟨d, others⟩ := ih fun c mem => usable c (List.mem_cons_of_mem _ mem)
    unfold allHold
    cases b with
    | true => exact ⟨d, by simp only [first, others]; rfl⟩
    | false => exact ⟨false, by simp only [first]; rfl⟩

theorem Guard.exists_holdsOr (guard : Option Guard)
    (usable : ∀ g ∈ guard, ∀ c ∈ g.conditions, c.Usable) (absent : Bool) (answers : Answers) :
    ∃ b, Guard.holdsOr absent guard answers = .ok b := by
  cases guard with
  | none => exact ⟨absent, rfl⟩
  | some g => exact exists_allHold (usable g rfl) answers

namespace Question

/-- A question all of whose patterns can be used. -/
def Usable (q : Question) : Prop := ∀ c ∈ q.ruleSet.conditions, c.Usable

instance (q : Question) : Decidable q.Usable :=
  inferInstanceAs (Decidable (∀ c ∈ q.ruleSet.conditions, c.Usable))

variable {q : Question}

/-- The conditions of each guard are among those of the question. -/
theorem Usable.of_guard (h : q.Usable) {guard : Option Guard}
    (own : guard ∈ [q.ruleSet.showIf, q.ruleSet.hideIf, q.ruleSet.skipIf, q.ruleSet.requiredIf]) :
    ∀ g ∈ guard, ∀ c ∈ g.conditions, c.Usable := by
  intro g present c mem
  apply h c
  have among : g ∈ q.ruleSet.guards := by
    simp only [List.mem_cons, List.not_mem_nil, or_false] at own
    rcases own with rfl | rfl | rfl | rfl <;> simp [Rules.guards, Option.mem_def.mp present]
  exact List.mem_flatMap.mpr ⟨g, among, mem⟩

theorem exists_isSkipped (h : q.Usable) (answers : Answers) :
    ∃ b, q.isSkipped answers = .ok b :=
  Guard.exists_holdsOr q.ruleSet.skipIf (h.of_guard (by simp)) false answers

theorem exists_isShown (h : q.Usable) (answers : Answers) : ∃ b, q.isShown answers = .ok b := by
  obtain ⟨shows, first⟩ :=
    Guard.exists_holdsOr q.ruleSet.showIf (h.of_guard (by simp)) true answers
  obtain ⟨hides, second⟩ :=
    Guard.exists_holdsOr q.ruleSet.hideIf (h.of_guard (by simp)) false answers
  unfold isShown
  cases shows with
  | true => exact ⟨!hides, by simp only [first, second]; rfl⟩
  | false => exact ⟨false, by simp only [first]; rfl⟩

theorem exists_isRequired (h : q.Usable) (answers : Answers) :
    ∃ b, q.isRequired answers = .ok b := by
  unfold isRequired
  split
  · exact ⟨true, rfl⟩
  · exact Guard.exists_holdsOr q.ruleSet.requiredIf (h.of_guard (by simp)) false answers

theorem exists_isVisible (h : q.Usable) (answers : Answers) :
    ∃ b, q.isVisible answers = .ok b := by
  obtain ⟨skips, first⟩ := exists_isSkipped h answers
  obtain ⟨shows, second⟩ := exists_isShown h answers
  unfold isVisible
  cases skips with
  | true => exact ⟨false, by simp only [first]; rfl⟩
  | false => exact ⟨shows, by simp only [first, second]; rfl⟩

/-- The walk stops at the questions that are not skipped and are shown. -/
theorem isVisible_eq_true_iff {answers : Answers} :
    q.isVisible answers = .ok true ↔
      q.isSkipped answers = .ok false ∧ q.isShown answers = .ok true := by
  unfold isVisible
  cases q.isSkipped answers with
  | error bad => simp [bind, Except.bind]
  | ok skips =>
    cases skips with
    | true => simp [bind, Except.bind, pure, Except.pure]
    | false => simp [bind, Except.bind]

variable {answers : Answers}

/-- A question that is decided not to be visible: it is skipped, or else it is not shown. -/
def Hidden (q : Question) (answers : Answers) : Prop :=
  q.isSkipped answers = .ok true ∨ q.isSkipped answers = .ok false ∧ q.isShown answers = .ok false

/-- A question that is decided to be visible. -/
def Visible (q : Question) (answers : Answers) : Prop :=
  q.isSkipped answers = .ok false ∧ q.isShown answers = .ok true

/-- A question that cannot be decided: it fails whether it is skipped, or else whether it is
shown. -/
def Undecided (q : Question) (answers : Answers) (bad : BadPattern) : Prop :=
  q.isSkipped answers = .error bad ∨
    q.isSkipped answers = .ok false ∧ q.isShown answers = .error bad

theorem isVisible_eq_false_iff : q.isVisible answers = .ok false ↔ q.Hidden answers := by
  unfold isVisible Hidden
  cases q.isSkipped answers with
  | error bad => simp [bind, Except.bind]
  | ok skips => cases skips <;> simp [bind, Except.bind, pure, Except.pure]

theorem isVisible_eq_error_iff {bad : BadPattern} :
    q.isVisible answers = .error bad ↔ q.Undecided answers bad := by
  unfold isVisible Undecided
  cases q.isSkipped answers with
  | error other => simp [bind, Except.bind]
  | ok skips => cases skips <;> simp [bind, Except.bind, pure, Except.pure]

theorem Visible.not_hidden (h : q.Visible answers) : ¬ q.Hidden answers := by
  have visible := isVisible_eq_true_iff.mpr h
  rw [← isVisible_eq_false_iff, visible]
  simp

theorem Undecided.not_hidden {bad : BadPattern} (h : q.Undecided answers bad) :
    ¬ q.Hidden answers := by
  have undecided := isVisible_eq_error_iff.mpr h
  rw [← isVisible_eq_false_iff, undecided]
  simp

theorem Usable.not_undecided (h : q.Usable) (answers : Answers) (bad : BadPattern) :
    ¬ q.Undecided answers bad := by
  intro undecided
  obtain ⟨visible, decided⟩ := exists_isVisible h answers
  rw [isVisible_eq_error_iff.mpr undecided] at decided
  cases decided

end Question

end Inquiry
