import Inquiry.Decimal.Binary64
import Inquiry.Json.Value

namespace Inquiry.Session

open Decimal (Binary64)

structure Progress where
  /-- The position of the current question, counted from 1. -/
  current : Nat
  total : Nat
  answered : Nat
  percent : Nat
  completed : Bool
deriving DecidableEq

namespace Progress

/-- The greatest percentage that is told. -/
def percentLimit : Nat := 4294967295

/-- The share of `answered` in `total` in whole percent: quotient and product are rounded to the
nearest float each, and then a half goes up. -/
def percentOf (answered total : Nat) : Nat :=
  if total = 0 then 0
  else
    let share := do
      let quotient ← (Binary64.ofNat answered).div (Binary64.ofNat total)
      quotient.mul (Binary64.ofNat 100)
    match share with
    | some x => min x.round.toNat percentLimit
    | none => percentLimit

def of (index total answered : Nat) (completed : Bool) : Progress :=
  ⟨index + 1, total, answered, percentOf answered total, completed⟩

def toJson (p : Progress) : Json :=
  .object [("answeredQuestions", .nat p.answered), ("currentQuestion", .nat p.current),
    ("isCompleted", .bool p.completed), ("percentComplete", .nat p.percent),
    ("totalQuestions", .nat p.total)]

end Progress

end Inquiry.Session
