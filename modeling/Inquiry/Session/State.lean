import Inquiry.Answers
import Inquiry.Json.Decode

namespace Inquiry.Session

/-- Where a session stands, what was answered, and the way that led there. -/
structure State where
  questionnaire : String
  session : String
  index : Nat
  current : Option String
  answers : Answers
  /-- The questions that were left forward. -/
  visited : IdSet
  /-- The questions that were passed over. -/
  skipped : IdSet
  /-- The questions shown, of which the last is the current one. -/
  history : List String
  completed : Bool
  started : Time.Instant
  updated : Time.Instant
deriving DecidableEq

def State.begin (now : Time.Instant) (questionnaire session first : String) : State where
  questionnaire
  session
  index := 0
  current := some first
  answers := ∅
  visited := ∅
  skipped := ∅
  history := [first]
  completed := false
  started := now
  updated := now

/-- A state with its tables as lists. -/
structure Snapshot where
  questionnaire : String
  session : String
  index : Nat
  current : Option String
  answers : List (String × Json)
  visited : List String
  skipped : List String
  history : List String
  completed : Bool
  started : Time.Instant
  updated : Time.Instant
deriving DecidableEq

/-- Why a stored state cannot be resumed. -/
inductive Corruption where
  | notObject
  | missingField (name : String)
  | unreadable (error : DecodeError)
  /-- The last question of the history is not the current one. -/
  | strayCurrent (current : String)
  | noState (session : String)
  /-- The state was saved by another session. -/
  | foreign (session : String)
  | indexOutOfRange (index : Nat)
  | wrongPosition (current : String) (index : Nat)
  | unknownInHistory (id : String)
deriving DecidableEq

def Corruption.message : Corruption → String
  | notObject => "state is not an object"
  | missingField name => "missing field '" ++ name ++ "'"
  | unreadable error => error.message
  | strayCurrent current => "history does not end at current question '" ++ current ++ "'"
  | noState session => "session " ++ session ++ " has no saved state"
  | foreign session => "saved state does not belong to session " ++ session
  | indexOutOfRange index => "question index " ++ toString index ++ " out of range"
  | wrongPosition current index =>
    "current question '" ++ current ++ "' does not match index " ++ toString index
  | unknownInHistory id => "history names unknown question '" ++ id ++ "'"

namespace Snapshot

open Json (takeField takeItem demand toText toFlag toCount toInstant toValue toSequence toOptional
  toRecord string)

def fieldNames : List String :=
  ["questionnaireId", "sessionId", "currentQuestionIndex", "currentQuestionId", "responses",
    "visitedQuestions", "skippedQuestions", "questionHistory", "isCompleted", "startTime",
    "lastUpdateTime"]

def pairToJson (pair : String × Json) : Json := .array [string pair.1, pair.2]

def pairOfJson : Json → Except DecodeError (String × Json)
  | .array items =>
    Json.readRow items do
      return (← takeItem "a tuple of size 2" toText, ← takeItem "a tuple of size 2" toValue)
  | value => .error (.unfit value "a tuple of size 2")

def toJson (s : Snapshot) : Json :=
  .object [("currentQuestionId", (s.current.map string).getD .null),
    ("currentQuestionIndex", .nat s.index), ("isCompleted", .bool s.completed),
    ("lastUpdateTime", string s.updated.text), ("questionHistory", .strings s.history),
    ("questionnaireId", string s.questionnaire), ("responses", .array (s.answers.map pairToJson)),
    ("sessionId", string s.session), ("skippedQuestions", .strings s.skipped),
    ("startTime", string s.started.text), ("visitedQuestions", .strings s.visited)]

def ofJson : Json → Except DecodeError Snapshot :=
  toRecord "FlowSnapshot" 11
    (fun fields => do
      let current ← takeField "currentQuestionId" (toOptional toText) fields
      let index ← takeField "currentQuestionIndex" toCount fields
      let completed ← takeField "isCompleted" toFlag fields
      let updated ← takeField "lastUpdateTime" toInstant fields
      let history ← takeField "questionHistory" (toSequence toText) fields
      let questionnaire ← takeField "questionnaireId" toText fields
      let answers ← takeField "responses" (toSequence pairOfJson) fields
      let session ← takeField "sessionId" toText fields
      let skipped ← takeField "skippedQuestions" (toSequence toText) fields
      let started ← takeField "startTime" toInstant fields
      let visited ← takeField "visitedQuestions" (toSequence toText) fields
      return {
        questionnaire := ← demand "questionnaireId" questionnaire
        session := ← demand "sessionId" session
        index := ← demand "currentQuestionIndex" index
        current := current.join
        answers := ← demand "responses" answers
        visited := ← demand "visitedQuestions" visited
        skipped := ← demand "skippedQuestions" skipped
        history := ← demand "questionHistory" history
        completed := ← demand "isCompleted" completed
        started := ← demand "startTime" started
        updated := ← demand "lastUpdateTime" updated })
    (fun wanted => do
      return {
        questionnaire := ← takeItem wanted toText
        session := ← takeItem wanted toText
        index := ← takeItem wanted toCount
        current := ← takeItem wanted (toOptional toText)
        answers := ← takeItem wanted (toSequence pairOfJson)
        visited := ← takeItem wanted (toSequence toText)
        skipped := ← takeItem wanted (toSequence toText)
        history := ← takeItem wanted (toSequence toText)
        completed := ← takeItem wanted toFlag
        started := ← takeItem wanted toInstant
        updated := ← takeItem wanted toInstant })

end Snapshot

namespace State

def snapshot (s : State) : Snapshot where
  questionnaire := s.questionnaire
  session := s.session
  index := s.index
  current := s.current
  answers := s.answers.toList
  visited := s.visited.keys
  skipped := s.skipped.keys
  history := s.history
  completed := s.completed
  started := s.started
  updated := s.updated

/-- The state that a snapshot tells. Of several answers to one question the last counts. -/
def ofSnapshot (s : Snapshot) : State where
  questionnaire := s.questionnaire
  session := s.session
  index := s.index
  current := s.current
  answers := .ofList s.answers
  visited := .ofIds s.visited
  skipped := .ofIds s.skipped
  history := s.history
  completed := s.completed
  started := s.started
  updated := s.updated

def toJson (s : State) : Json := s.snapshot.toJson

/-- The state that was stored. No field may be missing, and the history has to end with the
current question. -/
def ofJson : Json → Except Corruption State
  | .object fields =>
    match Snapshot.fieldNames.find? fun name => (Table.find name fields).isNone with
    | some missing => .error (.missingField missing)
    | none =>
      match Snapshot.ofJson (.object fields) with
      | .error e => .error (.unreadable e)
      | .ok snapshot =>
        let state := ofSnapshot snapshot
        match state.current with
        | some current =>
          if state.history.getLast? = some current then .ok state
          else .error (.strayCurrent current)
        | none => .ok state
  | _ => .error .notObject

end State

end Inquiry.Session
