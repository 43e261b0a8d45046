import Inquiry.Json.Decode
import Inquiry.Questionnaire.Basic

/-!
The written form of questionnaires.

A part that is absent has no field. An operand that is null is written as null but read as absent;
everything else is read as it was written.
-/
namespace Inquiry

open Json (takeField takeItem takeItem? demand toText toFlag toValue toSequence toOptional toChoice
  toRecord string)

def Json.optional (name : String) : Option Json → List (String × Json)
  | some value => [(name, value)]
  | none => []

namespace Operator

def ofJson (value : Json) : Except DecodeError Operator := do
  let name ← toText value
  match ofName? name with
  | some op => return op
  | none => throw (.unknownOperator name)

end Operator

namespace Condition

def toJson (c : Condition) : Json :=
  .object ([("operator", string c.operator.name), ("questionId", string c.question)]
    ++ Json.optional "value" c.value ++ Json.optional "values" (c.values.map .array))

def ofJson : Json → Except DecodeError Condition :=
  toRecord "Condition" 4
    (fun fields => do
      let operator ← takeField "operator" Operator.ofJson fields
      let question ← takeField "questionId" toText fields
      let value ← takeField "value" (toOptional toValue) fields
      let values ← takeField "values" (toOptional (toSequence toValue)) fields
      return ⟨← demand "questionId" question, ← demand "operator" operator, value.join,
        values.join⟩)
    (fun wanted => do
      return ⟨← takeItem wanted toText, ← takeItem wanted Operator.ofJson,
        (← takeItem? (toOptional toValue)).join,
        (← takeItem? (toOptional (toSequence toValue))).join⟩)

end Condition

namespace Guard

def toJson : Guard → Json
  | one condition => condition.toJson
  | all conditions => .array (conditions.map Condition.toJson)

/-- An array is a list of conditions, and anything else has to be one condition. -/
def ofJson : Json → Except DecodeError Guard
  | .array items => all <$> items.mapM Condition.ofJson
  | value => one <$> Condition.ofJson value

end Guard

namespace Rules

def toJson (r : Rules) : Json :=
  .object (Json.optional "hideIf" (r.hideIf.map Guard.toJson)
    ++ Json.optional "requiredIf" (r.requiredIf.map Guard.toJson)
    ++ Json.optional "showIf" (r.showIf.map Guard.toJson)
    ++ Json.optional "skipIf" (r.skipIf.map Guard.toJson))

def ofJson : Json → Except DecodeError Rules :=
  toRecord "Conditional" 4
    (fun fields => do
      let hideIf ← takeField "hideIf" guard fields
      let requiredIf ← takeField "requiredIf" guard fields
      let showIf ← takeField "showIf" guard fields
      let skipIf ← takeField "skipIf" guard fields
      return ⟨showIf.join, hideIf.join, skipIf.join, requiredIf.join⟩)
    (fun _ => do
      return ⟨(← takeItem? guard).join, (← takeItem? guard).join, (← takeItem? guard).join,
        (← takeItem? guard).join⟩)
where
  /-- A guard that may be absent. -/
  guard : Json → Except DecodeError (Option Guard) := toOptional Guard.ofJson

end Rules

namespace AnswerKind

def all : List AnswerKind :=
  [text, number, boolean, singleChoice, multipleChoice, date, email, scale]

def name : AnswerKind → String
  | text => "text"
  | number => "number"
  | boolean => "boolean"
  | singleChoice => "single_choice"
  | multipleChoice => "multiple_choice"
  | date => "date"
  | email => "email"
  | scale => "scale"

/-- The kinds by their names. -/
def choices : List (String × AnswerKind) := all.map fun kind => (kind.name, kind)

def ofJson : Json → Except DecodeError AnswerKind := toChoice choices

end AnswerKind

namespace Question

def toJson (q : Question) : Json :=
  .object (Json.optional "conditional" (q.rules.map Rules.toJson)
    ++ [("id", string q.id), ("required", .bool q.required), ("text", string q.text),
      ("type", string q.kind.name)])

def ofJson : Json → Except DecodeError Question :=
  toRecord "Question" 5
    (fun fields => do
      let rules ← takeField "conditional" (toOptional Rules.ofJson) fields
      let id ← takeField "id" toText fields
      let required ← takeField "required" toFlag fields
      let text ← takeField "text" toText fields
      let kind ← takeField "type" AnswerKind.ofJson fields
      return ⟨← demand "id" id, kind.getD .text, text.getD "", required.getD false, rules.join⟩)
    (fun wanted => do
      return ⟨← takeItem wanted toText, (← takeItem? AnswerKind.ofJson).getD .text,
        (← takeItem? toText).getD "", (← takeItem? toFlag).getD false,
        (← takeItem? (toOptional Rules.ofJson)).join⟩)

end Question

namespace Questionnaire

def toJson (q : Questionnaire) : Json :=
  .object [("description", string q.description), ("id", string q.id),
    ("questions", .array (q.questions.map Question.toJson)), ("title", string q.title)]

def ofJson : Json → Except DecodeError Questionnaire :=
  toRecord "Questionnaire" 4
    (fun fields => do
      let description ← takeField "description" toText fields
      let id ← takeField "id" toText fields
      let questions ← takeField "questions" (toSequence Question.ofJson) fields
      let title ← takeField "title" toText fields
      return ⟨← demand "id" id, title.getD "", description.getD "", questions.getD []⟩)
    (fun wanted => do
      return ⟨← takeItem wanted toText, (← takeItem? toText).getD "",
        (← takeItem? toText).getD "", (← takeItem? (toSequence Question.ofJson)).getD []⟩)

end Questionnaire

end Inquiry
