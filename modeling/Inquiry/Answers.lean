import Inquiry.Json.Value

namespace Inquiry

abbrev Answers := Table Json

namespace Answers

def record (answers : Answers) (id : String) (answer : Json) : Answers := answers.insert id answer

def toJson (answers : Answers) : Json := .object answers.entries

end Answers

/-- Whether an answer says nothing: it is absent, null, or an empty text or list. -/
def isBlankAnswer : Option Json → Bool
  | none | some .null => true
  | some (.string s) => s.isEmpty
  | some (.array items) => items.isEmpty
  | some _ => false

/-- The length of a text in characters, or of a list. -/
def answerLength? : Option Json → Option Nat
  | some (.string s) => some s.length
  | some (.array items) => some items.length
  | _ => none

end Inquiry
