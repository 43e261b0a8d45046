import Inquiry.Json.Value

namespace Inquiry

inductive Operator where
  | equals
  | notEquals
  | greaterThan
  | lessThan
  | greaterThanOrEqual
  | lessThanOrEqual
  | contains
  | notContains
  | isIn
  | notIn
  | matchesPattern
  | notMatches
  | isEmpty
  | isNotEmpty
  | hasLength
  | hasMinLength
  | hasMaxLength
deriving DecidableEq

namespace Operator

def all : List Operator :=
  [equals, notEquals, greaterThan, lessThan, greaterThanOrEqual, lessThanOrEqual, contains,
    notContains, isIn, notIn, matchesPattern, notMatches, isEmpty, isNotEmpty, hasLength,
    hasMinLength, hasMaxLength]

def name : Operator → String
  | equals => "equals"
  | notEquals => "notEquals"
  | greaterThan => "greaterThan"
  | lessThan => "lessThan"
  | greaterThanOrEqual => "greaterThanOrEqual"
  | lessThanOrEqual => "lessThanOrEqual"
  | contains => "contains"
  | notContains => "notContains"
  | isIn => "in"
  | notIn => "notIn"
  | matchesPattern => "matches"
  | notMatches => "notMatches"
  | isEmpty => "isEmpty"
  | isNotEmpty => "isNotEmpty"
  | hasLength => "hasLength"
  | hasMinLength => "hasMinLength"
  | hasMaxLength => "hasMaxLength"

def ofName? (name : String) : Option Operator := all.find? (·.name == name)

theorem ofName?_name (op : Operator) : ofName? op.name = some op := by
  cases op <;> decide

end Operator

/-- A comparison of one question's answer with an operand or with a set of candidates. An operand
that is null is not the same as none. -/
structure Condition where
  question : String
  operator : Operator
  value : Option Json
  values : Option (List Json)
deriving DecidableEq

namespace Condition

def compare (question : String) (operator : Operator) (value : Json) : Condition :=
  ⟨question, operator, some value, none⟩

/-- A condition that takes no operand. -/
def unary (question : String) (operator : Operator) : Condition := ⟨question, operator, none, none⟩

def oneOf (question : String) (operator : Operator) (values : List Json) : Condition :=
  ⟨question, operator, none, some values⟩

end Condition

/-- One condition, or a list of which all have to hold. -/
inductive Guard where
  | one (condition : Condition)
  | all (conditions : List Condition)
deriving DecidableEq

/-- The conditions in the order in which they are tried. -/
def Guard.conditions : Guard → List Condition
  | one condition => [condition]
  | all conditions => conditions

structure Rules where
  showIf : Option Guard
  hideIf : Option Guard
  skipIf : Option Guard
  requiredIf : Option Guard
deriving DecidableEq

namespace Rules

def none : Rules := ⟨.none, .none, .none, .none⟩

def guards (r : Rules) : List Guard :=
  r.showIf.toList ++ r.hideIf.toList ++ r.skipIf.toList ++ r.requiredIf.toList

def conditions (r : Rules) : List Condition := r.guards.flatMap Guard.conditions

/-- The ids of the questions whose answers some condition reads. -/
def reads (r : Rules) : IdSet := IdSet.ofIds (r.conditions.map (·.question))

end Rules

end Inquiry
