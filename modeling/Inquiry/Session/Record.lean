import Inquiry.Questionnaire.Record
import Inquiry.Session.State

namespace Inquiry.Session

open Json (takeField takeItem takeItem? demand toText toCount toInstant toValue toSequence
  toOptional toChoice toRecord string)

/-- Whether a session still goes on. -/
inductive Status where
  | active
  | completed
deriving DecidableEq

namespace Status

def name : Status → String
  | active => "active"
  | completed => "completed"

def ofJson : Json → Except DecodeError Status :=
  toChoice ([active, completed].map fun status => (status.name, status))

/-- The status that goes with a state. -/
def ofState (s : State) : Status := if s.completed then completed else active

end Status

/-- A session with its state as it was last saved. -/
structure Record where
  id : String
  questionnaire : String
  status : Status
  created : Time.Instant
  updated : Time.Instant
  state : Option Json
deriving DecidableEq

namespace Record

def toJson (r : Record) : Json :=
  .object ([("createdAt", string r.created.text), ("id", string r.id),
    ("questionnaireId", string r.questionnaire)] ++ Json.optional "state" r.state
    ++ [("status", string r.status.name), ("updatedAt", string r.updated.text)])

def ofJson : Json → Except DecodeError Record :=
  toRecord "SessionRecord" 6
    (fun fields => do
      let created ← takeField "createdAt" toInstant fields
      let id ← takeField "id" toText fields
      let questionnaire ← takeField "questionnaireId" toText fields
      let state ← takeField "state" (toOptional toValue) fields
      let status ← takeField "status" Status.ofJson fields
      let updated ← takeField "updatedAt" toInstant fields
      return {
        id := ← demand "id" id
        questionnaire := ← demand "questionnaireId" questionnaire
        status := ← demand "status" status
        created := ← demand "createdAt" created
        updated := ← demand "updatedAt" updated
        state := state.join })
    (fun wanted => do
      return {
        id := ← takeItem wanted toText
        questionnaire := ← takeItem wanted toText
        status := ← takeItem wanted Status.ofJson
        created := ← takeItem wanted toInstant
        updated := ← takeItem wanted toInstant
        state := (← takeItem? (toOptional toValue)).join })

end Record

structure Entry where
  question : String
  value : Json
  answered : Time.Instant
deriving DecidableEq

namespace Entry

def toJson (e : Entry) : Json :=
  .object [("answeredAt", string e.answered.text), ("questionId", string e.question),
    ("value", e.value)]

def ofJson : Json → Except DecodeError Entry :=
  toRecord "AnswerRecord" 3
    (fun fields => do
      let answered ← takeField "answeredAt" toInstant fields
      let question ← takeField "questionId" toText fields
      let value ← takeField "value" toValue fields
      return ⟨← demand "questionId" question, ← demand "value" value,
        ← demand "answeredAt" answered⟩)
    (fun wanted => do
      return ⟨← takeItem wanted toText, ← takeItem wanted toValue, ← takeItem wanted toInstant⟩)

end Entry

/-- Everything that was answered in a session, in order. -/
structure Log where
  session : String
  questionnaire : String
  entries : List Entry
  answered : Nat
  started : Time.Instant
  completed : Option Time.Instant
deriving DecidableEq

namespace Log

def begin (now : Time.Instant) (session questionnaire : String) : Log :=
  ⟨session, questionnaire, [], 0, now, none⟩

def toJson (l : Log) : Json :=
  .object ([("answeredCount", .nat l.answered), ("answers", .array (l.entries.map Entry.toJson))]
    ++ Json.optional "completedAt" (l.completed.map fun t => string t.text)
    ++ [("questionnaireId", string l.questionnaire), ("sessionId", string l.session),
      ("startedAt", string l.started.text)])

def ofJson : Json → Except DecodeError Log :=
  toRecord "ResponseRecord" 6
    (fun fields => do
      let answered ← takeField "answeredCount" toCount fields
      let entries ← takeField "answers" (toSequence Entry.ofJson) fields
      let completed ← takeField "completedAt" (toOptional toInstant) fields
      let questionnaire ← takeField "questionnaireId" toText fields
      let session ← takeField "sessionId" toText fields
      let started ← takeField "startedAt" toInstant fields
      return {
        session := ← demand "sessionId" session
        questionnaire := ← demand "questionnaireId" questionnaire
        entries := ← demand "answers" entries
        answered := ← demand "answeredCount" answered
        started := ← demand "startedAt" started
        completed := completed.join })
    (fun wanted => do
      return {
        session := ← takeItem wanted toText
        questionnaire := ← takeItem wanted toText
        entries := ← takeItem wanted (toSequence Entry.ofJson)
        answered := ← takeItem wanted toCount
        started := ← takeItem wanted toInstant
        completed := (← takeItem? (toOptional toInstant)).join })

end Log

end Inquiry.Session
