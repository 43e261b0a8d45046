import Inquiry.Dependency.Graph
import Inquiry.Questionnaire.Basic

namespace Inquiry

/-- The graph of which question of a questionnaire reads which. -/
def Questionnaire.dependencies (q : Questionnaire) : Dependency.Graph :=
  q.questions.foldl
    (fun graph question =>
      question.reads.keys.foldl (fun graph id => graph.add question.id id) graph)
    .empty

namespace Validation

inductive Issue where
  | cycle (path : List String)
  | unknownReference (question dependency : String)
  | selfReference (question : String)
  /-- A question that is shown on a condition reads a later one. -/
  | potentiallyUnreachable (question dependency : String)
deriving DecidableEq

def Issue.message : Issue → String
  | cycle path => "Circular dependency detected: " ++ " -> ".intercalate path
  | unknownReference question dependency =>
    "Question '" ++ question ++ "' references non-existent question '" ++ dependency ++ "'"
  | selfReference question => "Question '" ++ question ++ "' references itself"
  | potentiallyUnreachable question dependency =>
    "Question '" ++ question ++ "' may be unreachable: it depends on later question '"
      ++ dependency ++ "'"

structure Report where
  errors : List Issue
  warnings : List Issue
deriving DecidableEq

/-- Warnings do not make a questionnaire invalid. -/
def Report.isValid (r : Report) : Bool := r.errors.isEmpty

def questionErrors (q : Questionnaire) (question : Question) : List Issue :=
  let unknown := question.reads.keys.filter (!q.contains ·)
  unknown.map (.unknownReference question.id)
    ++ if question.reads.contains question.id then [.selfReference question.id] else []

def isLater (q : Questionnaire) (position : Nat) (id : String) : Bool :=
  (q.position? id).any (position < ·)

/-- The warning about a question at a position, if there is one: it names the first id in order
that any of its rules reads and that stands behind, provided that a rule decides whether to show
the question. -/
def questionWarning (q : Questionnaire) (position : Nat) (question : Question) : Option Issue :=
  if (question.rules.bind (·.showIf)).isSome then
    (question.reads.keys.find? (isLater q position)).map (.potentiallyUnreachable question.id)
  else none

/-- Check a questionnaire. Cycles come first, then the questions in order. -/
def check (q : Questionnaire) : Report where
  errors := q.dependencies.cycles.map .cycle ++ q.questions.flatMap (questionErrors q)
  warnings := (q.questions.zipIdx).filterMap fun (question, position) =>
    questionWarning q position question

end Validation

end Inquiry
