import Inquiry.Questionnaire.Record
import Inquiry.Text.Blank
import Inquiry.Yaml.Value

/-!
Loading questionnaires from YAML, of which JSON is a part.

A document is read in the order in which it is written, and the first thing that does not fit is
the error. Rules are read as whole values first, so that a scalar in them is what it looks like.
-/
namespace Inquiry

inductive LoadError where
  | unreadableFile
  | document (fault : Yaml.Fault)
  | emptyQuestionId (questionnaire : String)
  | duplicateQuestion (questionnaire question : String)
deriving DecidableEq

/-- What there is to say about it, where that is more than that something is malformed. -/
def LoadError.message? : LoadError → Option String
  | unreadableFile | document .unreadable => none
  | document (.unknownOperator name) => some (DecodeError.unknownOperator name).message
  | emptyQuestionId questionnaire =>
    some ("Questionnaire '" ++ questionnaire ++ "' has an empty question id")
  | duplicateQuestion questionnaire question =>
    some ("Questionnaire '" ++ questionnaire ++ "' defines question '" ++ question
      ++ "' more than once")

open Yaml (Document Node Reading)

/-- Set a field that must not be set already. -/
def setOnce {α : Type} (field : Option α) (read : Reading α) : Reading (Option α) := do
  if field.isSome then throw .unreadable
  return some (← read)

def ignore (node : Node) : Reading Unit := do
  if !node.isWhole then throw .unreadable

/-- Read the entries of a mapping into a draft of a record, one after the other. -/
def readDraft {α : Type} (d : Document) (blank : α) (field : α → String → Node → Reading α)
    (node : Node) : Reading α := do
  (← d.toEntries node).foldlM
    (fun draft entry => do field draft (← d.toText entry.1) entry.2) blank

def demandField {α : Type} : Option α → Reading α
  | some a => return a
  | none => throw .unreadable

namespace Guard

/-- A guard is read as a whole value, in which collections may lie so deep. -/
def ofNode (d : Document) (depth : Nat) (node : Node) : Reading Guard := do
  match ofJson (← d.toValue depth node) with
  | .ok guard => return guard
  | .error (.unknownOperator name) => throw (.unknownOperator name)
  | .error _ => throw .unreadable

end Guard

namespace Rules

/-- Rules that are read in part. -/
structure Draft where
  showIf : Option (Option Guard)
  hideIf : Option (Option Guard)
  skipIf : Option (Option Guard)
  requiredIf : Option (Option Guard)

def ofNode (d : Document) (node : Node) : Reading Rules := do
  let guard (field : Option (Option Guard)) (node : Node) : Reading (Option (Option Guard)) :=
    setOnce field (d.toOptional (Guard.ofNode d (Yaml.depthLimit - 4)) node)
  let draft ← readDraft d (⟨.none, .none, .none, .none⟩ : Draft)
    (fun draft key node => do
      match key with
      | "showIf" => return { draft with showIf := ← guard draft.showIf node }
      | "hideIf" => return { draft with hideIf := ← guard draft.hideIf node }
      | "skipIf" => return { draft with skipIf := ← guard draft.skipIf node }
      | "requiredIf" => return { draft with requiredIf := ← guard draft.requiredIf node }
      | _ => do
        ignore node
        return draft)
    node
  return ⟨draft.showIf.join, draft.hideIf.join, draft.skipIf.join, draft.requiredIf.join⟩

end Rules

namespace AnswerKind

/-- A kind is a scalar with its name, or a local tag with its name on a null. -/
def ofNode (d : Document) (node : Node) : Reading AnswerKind := do
  let choose (name : String) : Reading AnswerKind :=
    match Table.find name choices with
    | some kind => return kind
    | none => throw .unreadable
  match (← d.resolve node) with
  | .scalar tag style written =>
    if Yaml.isLocal tag then
      let kind ← choose (String.ofList ((tag.getD "").toList.drop 1))
      if style == .plain && (written.isEmpty || Yaml.isNull written) then return kind
      else throw .unreadable
    else choose written
  | _ => throw .unreadable

end AnswerKind

namespace Question

structure Draft where
  id : Option String
  kind : Option AnswerKind
  text : Option String
  required : Option Bool
  rules : Option (Option Rules)

def ofNode (d : Document) (node : Node) : Reading Question := do
  let draft ← readDraft d (Draft.mk none none none none none)
    (fun draft key node => do
      match key with
      | "id" => return { draft with id := ← setOnce draft.id (d.toText node) }
      | "type" => return { draft with kind := ← setOnce draft.kind (AnswerKind.ofNode d node) }
      | "text" => return { draft with text := ← setOnce draft.text (d.toText node) }
      | "required" => return { draft with required := ← setOnce draft.required (d.toFlag node) }
      | "conditional" =>
        return { draft with rules := ← setOnce draft.rules (d.toOptional (Rules.ofNode d) node) }
      | _ => do
        ignore node
        return draft)
    node
  return ⟨← demandField draft.id, draft.kind.getD .text, draft.text.getD "",
    draft.required.getD false, draft.rules.join⟩

end Question

namespace Questionnaire

structure Draft where
  id : Option String
  title : Option String
  description : Option String
  questions : Option (List Question)

def ofNode (d : Document) (node : Node) : Reading Questionnaire := do
  let draft ← readDraft d (Draft.mk none none none none)
    (fun draft key node => do
      match key with
      | "id" => return { draft with id := ← setOnce draft.id (d.toText node) }
      | "title" => return { draft with title := ← setOnce draft.title (d.toText node) }
      | "description" =>
        return { draft with description := ← setOnce draft.description (d.toText node) }
      | "questions" =>
        return { draft with questions := ← setOnce draft.questions do
          (← d.toItems node).mapM (Question.ofNode d) }
      | _ => do
        ignore node
        return draft)
    node
  return ⟨← demandField draft.id, draft.title.getD "", draft.description.getD "",
    draft.questions.getD []⟩

/-- The first fault among the ids of questions: one that is blank, or one that an earlier question
has too. -/
def idFault? (q : Questionnaire) : Option LoadError := go [] q.questions
where
  go (seen : List String) : List Question → Option LoadError
    | [] => none
    | question :: rest =>
      if Text.isBlankText question.id then some (.emptyQuestionId q.id)
      else if question.id ∈ seen then some (.duplicateQuestion q.id question.id)
      else go (question.id :: seen) rest

/-- The questionnaire that a text holds, whatever its ids are. -/
def read (text : String) : Except Yaml.Fault Questionnaire :=
  let d := Document.ofText text
  d.read (ofNode d)

/-- The questionnaire that a text holds, in which each question has an id of its own. -/
def load (text : String) : Except LoadError Questionnaire :=
  match read text with
  | .error fault => .error (.document fault)
  | .ok q =>
    match q.idFault? with
    | some e => .error e
    | none => .ok q

end Questionnaire

end Inquiry
