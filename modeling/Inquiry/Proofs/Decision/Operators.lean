import Inquiry.Proofs.Decision
import Mathlib.Data.List.Basic

namespace Inquiry

open Json

/-- The operators that hold where plain ones do not. -/
inductive Operator.Denies : Operator → Operator → Prop
  | equals : Denies .notEquals .equals
  | contains : Denies .notContains .contains
  | isIn : Denies .notIn .isIn
  | matchesPattern : Denies .notMatches .matchesPattern
  | isEmpty : Denies .isNotEmpty .isEmpty

section Operands

variable {answer operand : Option Json}

/-- A value that is there and is a number. -/
def IsNumber (value : Option Json) : Prop := ∃ n, value = some (.number n)

/-- A value that has a length: a text or a list. -/
def IsSized (value : Option Json) : Prop :=
  (∃ s, value = some (.string s)) ∨ ∃ items, value = some (.array items)

theorem isNumber_of_rank {n : Int} (h : operand.bind rank? = some n) : IsNumber operand := by
  obtain ⟨v, rfl, ranked⟩ := Option.bind_eq_some_iff.mp h
  cases v with
  | number n => exact ⟨n, rfl⟩
  | _ => cases ranked

theorem isSized_of_length {length : Nat} (h : answerLength? answer = some length) :
    IsSized answer := by
  match answer with
  | some (.string s) => exact .inl ⟨s, rfl⟩
  | some (.array items) => exact .inr ⟨items, rfl⟩
  | none | some .null | some (.bool _) | some (.number _) | some (.object _) => cases h

theorem compareNumbers_eq_false (relation : Int → Int → Bool)
    (unfit : ¬ (IsNumber answer ∧ IsNumber operand)) :
    compareNumbers relation answer operand = false := by
  unfold compareNumbers
  split
  · rename_i first second
    exact absurd ⟨isNumber_of_rank first, isNumber_of_rank second⟩ unfit
  · rfl

theorem compareLength_eq_false (relation : Int → Int → Bool)
    (unfit : ¬ (IsSized answer ∧ IsNumber operand)) :
    compareLength relation answer operand = false := by
  unfold compareLength
  split
  · rename_i first second
    exact absurd ⟨isSized_of_length first, isNumber_of_rank second⟩ unfit
  · rfl

/-- A length is the one that is wanted if it is at least and at most that. -/
theorem compareLength_eq_iff : compareLength (· = ·) answer operand = true ↔
    compareLength (· ≥ ·) answer operand = true ∧
      compareLength (· ≤ ·) answer operand = true := by
  unfold compareLength
  split
  · simp only [decide_eq_true_eq]
    omega
  · simp

end Operands

namespace Condition

variable {c : Condition} {answers : Answers}

/-- The condition with another operator on the same operands. -/
def asking (c : Condition) (operator : Operator) : Condition := { c with operator }

theorem findsPattern_eq_error_iff {answer : Option Json} {bad : BadPattern} :
    c.findsPattern answer = .error bad ↔ ∃ text pattern fault, answer = some (.string text) ∧
      c.value = some (.string pattern) ∧ Pattern.compile pattern = .error fault ∧
      bad = ⟨c, fault⟩ := by
  rw [findsPattern_eq]
  constructor
  · intro failed
    cases trial : tried answer c.value with
    | ok found => rw [trial] at failed; cases failed
    | error fault =>
      rw [trial] at failed
      obtain ⟨text, pattern, answered, operand, compiled⟩ := tried_eq_error_iff.mp trial
      exact ⟨text, pattern, fault, answered, operand, compiled, (Except.error.inj failed).symm⟩
  · rintro ⟨text, pattern, fault, answered, operand, compiled, rfl⟩
    rw [tried_eq_error_iff.mpr ⟨text, pattern, answered, operand, compiled⟩]
    rfl

theorem holds_eq_error_iff {bad : BadPattern} :
    c.holds answers = .error bad ↔
      (c.operator = .matchesPattern ∨ c.operator = .notMatches) ∧
      ∃ text pattern fault, answers.get? c.question = some (.string text) ∧
        c.value = some (.string pattern) ∧ Pattern.compile pattern = .error fault ∧
        bad = ⟨c, fault⟩ := by
  rw [← findsPattern_eq_error_iff]
  unfold holds holdsOf
  cases c.operator with
  | matchesPattern => simp
  | notMatches => cases c.findsPattern (answers.get? c.question) <;> simp [Functor.map, Except.map]
  | _ => simp

theorem holds_of_denies {positive negative : Operator} (denies : negative.Denies positive) :
    (c.asking negative).holds answers =
      (c.asking negative).blame ((!·) <$> (c.asking positive).holds answers) := by
  cases denies with
  | matchesPattern =>
    change (!·) <$> (c.asking .notMatches).findsPattern (answers.get? c.question) = blame _
      ((!·) <$> (c.asking .matchesPattern).findsPattern (answers.get? c.question))
    rw [findsPattern_eq_blame (c := c.asking .matchesPattern) (d := c.asking .notMatches) rfl]
    cases (c.asking .matchesPattern).findsPattern (answers.get? c.question) <;> rfl
  | _ => rfl

section Numbers

variable {m n : Number}

/-- The operators that compare numbers read their order. -/
theorem holds_of_numbers (answered : answers.get? c.question = some (.number m))
    (operand : c.value = some (.number n)) :
    ((c.asking .lessThan).holds answers = .ok true ↔ m.rank < n.rank) ∧
    ((c.asking .equals).holds answers = .ok true ↔ m.rank = n.rank) ∧
    ((c.asking .greaterThan).holds answers = .ok true ↔ n.rank < m.rank) ∧
    ((c.asking .greaterThanOrEqual).holds answers = .ok true ↔ n.rank ≤ m.rank) ∧
    ((c.asking .lessThanOrEqual).holds answers = .ok true ↔ m.rank ≤ n.rank) := by
  simp [holds, holdsOf, asking, answered, operand, compareNumbers, rank?, agree?, agrees]

/-- Which of three operators fits the order of two numbers. -/
def fitting (m n : Number) : Operator :=
  if m.rank < n.rank then .lessThan else if m.rank = n.rank then .equals else .greaterThan

theorem holds_iff_fitting (answered : answers.get? c.question = some (.number m))
    (operand : c.value = some (.number n)) {operator : Operator}
    (mem : operator ∈ [Operator.lessThan, .equals, .greaterThan]) :
    (c.asking operator).holds answers = .ok true ↔ operator = fitting m n := by
  obtain ⟨less, level, greater, -⟩ := holds_of_numbers answered operand
  simp only [List.mem_cons, List.not_mem_nil, or_false] at mem
  rcases mem with rfl | rfl | rfl
  · rw [less]
    grind [fitting]
  · rw [level]
    grind [fitting]
  · rw [greater]
    grind [fitting]

theorem existsUnique_holds (answered : answers.get? c.question = some (.number m))
    (operand : c.value = some (.number n)) :
    ∃! operator, operator ∈ [Operator.lessThan, .equals, .greaterThan] ∧
      (c.asking operator).holds answers = .ok true := by
  have among : fitting m n ∈ [Operator.lessThan, .equals, .greaterThan] := by
    grind [fitting]
  exact ⟨fitting m n, ⟨among, (holds_iff_fitting answered operand among).mpr rfl⟩,
    fun operator ⟨mem, held⟩ => (holds_iff_fitting answered operand mem).mp held⟩

end Numbers

/-- What the operators say of the same operands, given or not, and whatever their kinds: only a
pattern that cannot be used fails, negated operators deny the plain ones, numbers are in one of
three orders, and a length is right if it is both long and short enough. -/
theorem operators_related (c : Condition) (answers : Answers) :
    (∀ bad, c.holds answers = .error bad ↔
      (c.operator = .matchesPattern ∨ c.operator = .notMatches) ∧
      ∃ text pattern fault, answers.get? c.question = some (.string text) ∧
        c.value = some (.string pattern) ∧ Pattern.compile pattern = .error fault ∧
        bad = ⟨c, fault⟩) ∧
    (∀ positive negative : Operator, negative.Denies positive →
      (c.asking negative).holds answers =
        (c.asking negative).blame ((!·) <$> (c.asking positive).holds answers)) ∧
    (IsNumber (answers.get? c.question) ∧ IsNumber c.value →
      (∃! operator, operator ∈ [Operator.lessThan, .equals, .greaterThan] ∧
        (c.asking operator).holds answers = .ok true) ∧
      ((c.asking .greaterThanOrEqual).holds answers = .ok true ↔
        (c.asking .greaterThan).holds answers = .ok true ∨
          (c.asking .equals).holds answers = .ok true) ∧
      ((c.asking .lessThanOrEqual).holds answers = .ok true ↔
        (c.asking .lessThan).holds answers = .ok true ∨
          (c.asking .equals).holds answers = .ok true)) ∧
    (¬ (IsNumber (answers.get? c.question) ∧ IsNumber c.value) →
      ∀ operator ∈ [Operator.greaterThan, .lessThan, .greaterThanOrEqual, .lessThanOrEqual],
        (c.asking operator).holds answers = .ok false) ∧
    ((c.asking .hasLength).holds answers = .ok true ↔
      (c.asking .hasMinLength).holds answers = .ok true ∧
        (c.asking .hasMaxLength).holds answers = .ok true) ∧
    (¬ (IsSized (answers.get? c.question) ∧ IsNumber c.value) →
      ∀ operator ∈ [Operator.hasLength, .hasMinLength, .hasMaxLength],
        (c.asking operator).holds answers = .ok false) := by
  refine ⟨fun bad => holds_eq_error_iff, fun positive negative => holds_of_denies, ?_, ?_, ?_, ?_⟩
  · rintro ⟨⟨m, answered⟩, n, operand⟩
    obtain ⟨less, level, greater, least, most⟩ := holds_of_numbers answered operand
    refine ⟨existsUnique_holds answered operand, ?_, ?_⟩
    · rw [least, greater, level]
      omega
    · rw [most, less, level]
      omega
  · intro unfit operator mem
    simp only [List.mem_cons, List.not_mem_nil, or_false] at mem
    rcases mem with rfl | rfl | rfl | rfl <;>
      exact congrArg Except.ok (compareNumbers_eq_false _ unfit)
  · simp only [holds, holdsOf, asking, Except.ok.injEq]
    exact compareLength_eq_iff
  · intro unfit operator mem
    simp only [List.mem_cons, List.not_mem_nil, or_false] at mem
    rcases mem with rfl | rfl | rfl <;>
      exact congrArg Except.ok (compareLength_eq_false _ unfit)

/-- A text and a number, each asked what suits it and what does not. -/
theorem operators_related_fixed :
    let text : Answers := Table.ofList [("size", .string "ab")]
    let number : Answers := Table.ofList [("size", .int 5)]
    let unclosed := compare "size" .matchesPattern (.string "(")
    let four := compare "size" .equals (.int 4)
    let two := compare "size" .equals (.int 2)
    (unclosed.asking .notMatches).holds text = .error ⟨unclosed.asking .notMatches, .malformed⟩ ∧
      (four.asking .notEquals).holds number = .ok true ∧
      (four.asking .greaterThanOrEqual).holds number = .ok true ∧
      (four.asking .lessThan).holds number ≠ .ok true ∧
      (four.asking .greaterThan).holds text = .ok false ∧
      (two.asking .hasLength).holds text = .ok true ∧
      (two.asking .hasMinLength).holds number = .ok false := by
  intro text number unclosed four two
  obtain ⟨fails, -⟩ := operators_related (unclosed.asking .notMatches) text
  obtain ⟨-, denies, ordered, -⟩ := operators_related four number
  obtain ⟨-, -, -, unordered, -⟩ := operators_related four text
  obtain ⟨-, -, -, -, measured, -⟩ := operators_related two text
  obtain ⟨-, -, -, -, -, unmeasured⟩ := operators_related two number
  obtain ⟨one, least, -⟩ := ordered ⟨⟨.int 5, rfl⟩, .int 4, rfl⟩
  have unread : Pattern.readAll "(".toList = none := by
    rw [← Option.isNone_iff_eq_none]
    decide +kernel
  have unusable : Pattern.compile "(" = .error .malformed := by rw [Pattern.compile, unread]
  have greater : (four.asking .greaterThan).holds number = .ok true := by decide +kernel
  refine ⟨(fails _).mpr ⟨.inr rfl, "ab", "(", .malformed, rfl, rfl, unusable, rfl⟩, ?_,
    least.mpr (.inl greater), ?_, ?_, ?_, ?_⟩
  · rw [denies _ _ .equals]
    decide +kernel
  · intro less
    have same := one.unique ⟨by simp, less⟩ ⟨by simp, greater⟩
    cases same
  · refine unordered ?_ _ (by simp)
    rintro ⟨⟨n, other⟩, -⟩
    cases other
  · exact measured.mpr ⟨by decide +kernel, by decide +kernel⟩
  · refine unmeasured ?_ _ (by simp)
    rintro ⟨⟨s, other⟩ | ⟨items, other⟩, -⟩ <;> cases other

end Condition

end Inquiry
