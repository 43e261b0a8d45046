import Inquiry.Pattern.Reader

namespace Inquiry

/-- A pattern that is well formed and of admissible size. -/
structure Pattern where
  expression : Pattern.Expression

namespace Pattern

inductive Fault where
  | malformed
  | tooLarge
deriving DecidableEq

/-- The first line of what there is to say about it. -/
def Fault.headline : Fault → String
  | malformed => "regex parse error:"
  | tooLarge => "Compiled regex exceeds size limit of 10485760 bytes."

/-- How deeply groups, repetitions and the like may be nested. -/
def depthLimit : Nat := 250

/-- The bytes that each machine for a pattern may take. -/
def weightLimit : Nat := 10485760

def isTooLarge (weight : Weight) : Bool :=
  let whole := weight + .frame
  weightLimit < whole.forward || weightLimit < whole.backward

def compile (text : String) : Except Fault Pattern :=
  match readAll text.toList with
  | none => .error .malformed
  | some part =>
    if part.depth > depthLimit then .error .malformed
    else if isTooLarge part.weight then .error .tooLarge
    else .ok ⟨part.expression⟩

def occursIn (p : Pattern) (text : String) : Bool := p.expression.occursIn text

end Pattern

end Inquiry
