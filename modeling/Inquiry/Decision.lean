import Inquiry.Answers
import Inquiry.Pattern
import Inquiry.Questionnaire.Basic

/-!
What the answers decide: whether a condition holds, and with it whether a question is shown,
skipped or required.

An operand of the wrong kind is no error: comparisons with it fail, and negated ones hold. Only a
pattern that cannot be used is an error.
-/
namespace Inquiry

structure BadPattern where
  condition : Condition
  fault : Pattern.Fault
deriving DecidableEq

def BadPattern.message (b : BadPattern) : String :=
  "Invalid pattern in condition on '" ++ b.condition.question ++ "': " ++ b.fault.headline

/-- Compare two numbers by their ranks; anything else does not compare. -/
def compareNumbers (relation : Int → Int → Bool) (answer operand : Option Json) : Bool :=
  match answer.bind Json.rank?, operand.bind Json.rank? with
  | some a, some b => relation a b
  | _, _ => false

def compareLength (relation : Int → Int → Bool) (answer operand : Option Json) : Bool :=
  match answerLength? answer, operand.bind Json.rank? with
  | some length, some n => relation (Number.int length).rank n
  | _, _ => false

def hasItem (answer operand : Option Json) : Bool :=
  match answer with
  | some (.array items) => items.any fun item => Json.agree? (some item) operand
  | _ => false

def isAmong (answer : Option Json) (candidates : Option (List Json)) : Bool :=
  match candidates with
  | some values => values.any fun value => Json.agree? answer (some value)
  | none => false

namespace Condition

/-- Whether the pattern of a condition occurs in a text answer. -/
def findsPattern (c : Condition) (answer : Option Json) : Except BadPattern Bool :=
  match answer, c.value with
  | some (.string text), some (.string pattern) =>
    match Pattern.compile pattern with
    | .ok p => .ok (p.occursIn text)
    | .error fault => .error ⟨c, fault⟩
  | _, _ => .ok false

def holdsOf (c : Condition) (answer : Option Json) : Except BadPattern Bool :=
  match c.operator with
  | .equals => .ok (Json.agree? answer c.value)
  | .notEquals => .ok (!Json.agree? answer c.value)
  | .greaterThan => .ok (compareNumbers (· > ·) answer c.value)
  | .lessThan => .ok (compareNumbers (· < ·) answer c.value)
  | .greaterThanOrEqual => .ok (compareNumbers (· ≥ ·) answer c.value)
  | .lessThanOrEqual => .ok (compareNumbers (· ≤ ·) answer c.value)
  | .contains => .ok (hasItem answer c.value)
  | .notContains => .ok (!hasItem answer c.value)
  | .isIn => .ok (isAmong answer c.values)
  | .notIn => .ok (!isAmong answer c.values)
  | .matchesPattern => c.findsPattern answer
  | .notMatches => (!·) <$> c.findsPattern answer
  | .isEmpty => .ok (isBlankAnswer answer)
  | .isNotEmpty => .ok (!isBlankAnswer answer)
  | .hasLength => .ok (compareLength (· = ·) answer c.value)
  | .hasMinLength => .ok (compareLength (· ≥ ·) answer c.value)
  | .hasMaxLength => .ok (compareLength (· ≤ ·) answer c.value)

def holds (c : Condition) (answers : Answers) : Except BadPattern Bool :=
  c.holdsOf (answers.get? c.question)

end Condition

/-- Whether all conditions hold. They are tried in order up to the first that does not. -/
def allHold (answers : Answers) : List Condition → Except BadPattern Bool
  | [] => .ok true
  | c :: rest => do if (← c.holds answers) then allHold answers rest else return false

def Guard.holds (g : Guard) (answers : Answers) : Except BadPattern Bool :=
  allHold answers g.conditions

/-- Whether a guard that may be absent holds; an absent one answers `absent`. -/
def Guard.holdsOr (absent : Bool) (guard : Option Guard) (answers : Answers) :
    Except BadPattern Bool :=
  match guard with
  | some g => g.holds answers
  | none => .ok absent

namespace Question

def ruleSet (q : Question) : Rules := q.rules.getD .none

/-- A question is shown unless its condition to show fails or its condition to hide holds. -/
def isShown (q : Question) (answers : Answers) : Except BadPattern Bool := do
  if !(← Guard.holdsOr true q.ruleSet.showIf answers) then return false
  return !(← Guard.holdsOr false q.ruleSet.hideIf answers)

def isSkipped (q : Question) (answers : Answers) : Except BadPattern Bool :=
  Guard.holdsOr false q.ruleSet.skipIf answers

/-- A question is required by itself or by a rule. -/
def isRequired (q : Question) (answers : Answers) : Except BadPattern Bool :=
  if q.required then .ok true else Guard.holdsOr false q.ruleSet.requiredIf answers

/-- Whether the walk stops at a question: it is not skipped, and it is shown. -/
def isVisible (q : Question) (answers : Answers) : Except BadPattern Bool := do
  if (← q.isSkipped answers) then return false
  q.isShown answers

end Question

end Inquiry
