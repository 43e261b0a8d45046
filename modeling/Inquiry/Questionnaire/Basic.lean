import Inquiry.Questionnaire.Condition

namespace Inquiry

inductive AnswerKind where
  | text
  | number
  | boolean
  | singleChoice
  | multipleChoice
  | date
  | email
  | scale
deriving DecidableEq

structure Question where
  id : String
  kind : AnswerKind
  text : String
  required : Bool
  rules : Option Rules
deriving DecidableEq

/-- A question without a text that is always asked. -/
def Question.plain (id : String) (kind : AnswerKind) : Question := ⟨id, kind, "", false, none⟩

/-- The ids of the questions whose answers decide about a question. -/
def Question.reads (q : Question) : IdSet :=
  match q.rules with
  | some rules => rules.reads
  | none => ∅

structure Questionnaire where
  id : String
  title : String
  description : String
  questions : List Question
deriving DecidableEq

namespace Questionnaire

/-- The first position of an id among questions. -/
def positionIn (id : String) : List Question → Option Nat
  | [] => none
  | q :: rest => if q.id = id then some 0 else (positionIn id rest).map (· + 1)

def position? (q : Questionnaire) (id : String) : Option Nat := positionIn id q.questions

def find? (q : Questionnaire) (id : String) : Option Question := q.questions.find? (·.id = id)

def contains (q : Questionnaire) (id : String) : Bool := (q.position? id).isSome

def size (q : Questionnaire) : Nat := q.questions.length

def isEmpty (q : Questionnaire) : Bool := q.questions.isEmpty

/-- The first id that an earlier question has too. -/
def repeatedId? (q : Questionnaire) : Option String := go [] q.questions
where
  go (seen : List String) : List Question → Option String
    | [] => none
    | q :: rest => if q.id ∈ seen then some q.id else go (q.id :: seen) rest

end Questionnaire

end Inquiry
