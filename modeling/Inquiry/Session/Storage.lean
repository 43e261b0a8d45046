import Inquiry.Session.Record

namespace Inquiry.Session

inductive StorageError where
  | questionnaireNotFound (id : String)
  | invalidQuestionnaire (id message : String)
  | sessionNotFound (session : String)
  | logNotFound (session : String)
  /-- A stored value cannot be read. -/
  | unreadable (message : String)
deriving DecidableEq

namespace StorageError

def message : StorageError → String
  | questionnaireNotFound id => "Questionnaire not found: " ++ id
  | invalidQuestionnaire id message => "Invalid questionnaire " ++ id ++ ": " ++ message
  | sessionNotFound session => "Session not found: " ++ session
  | logNotFound session => "Response record not found for session: " ++ session
  | unreadable message => message

def repeatedQuestion (questionnaire question : String) : StorageError :=
  invalidQuestionnaire questionnaire ("duplicate question id '" ++ question ++ "'")

/-- A stored value broke off before it began. -/
def brokenOff : StorageError := unreadable "EOF while parsing a value at line 1 column 0"

end StorageError

/-- Where the ids of sessions come from. None is given out twice. -/
class SessionIds where
  /-- The id of the n-th session that is opened. -/
  id : Nat → String
  id_injective : ∀ {m n : Nat}, id m = id n → m = n

instance SessionIds.counted : SessionIds where
  id n := "$" ++ toString n
  id_injective {m n} same := by
    have digits : Nat.toDigits 10 m = Nat.toDigits 10 n := by
      have written := congrArg String.toList same
      simpa [Nat.toString_eq_ofList_toDigits] using written
    rw [← Nat.ofDigitChars_ten_toDigits (n := m), digits, Nat.ofDigitChars_ten_toDigits]

/-- What is stored anew of a session; what is absent stays as it was. -/
structure Update where
  status : Option Status
  state : Option Json
deriving DecidableEq

/-- The operations of a storage whose contents are of type `σ`. A failed operation, too, leaves
contents behind. -/
structure Storage (σ : Type) where
  loadQuestionnaire : String → ExceptT StorageError (StateM σ) Questionnaire
  createSession : Time.Instant → String → ExceptT StorageError (StateM σ) String
  loadSession : String → ExceptT StorageError (StateM σ) Record
  updateSession : Time.Instant → String → Update → ExceptT StorageError (StateM σ) Unit
  loadLog : String → ExceptT StorageError (StateM σ) Log
  saveLog : Log → ExceptT StorageError (StateM σ) Unit

structure Store where
  questionnaires : Table Questionnaire
  sessions : Table Record
  logs : Table Log
  opened : Nat
deriving DecidableEq

namespace Store

def empty : Store := ⟨∅, ∅, ∅, 0⟩

def saveQuestionnaire (s : Store) (q : Questionnaire) : Store :=
  { s with questionnaires := s.questionnaires.insert q.id q }

def ofQuestionnaires (questionnaires : List Questionnaire) : Store :=
  questionnaires.foldl saveQuestionnaire empty

/-- A questionnaire, which must not have two questions of one id. -/
def loadQuestionnaire (s : Store) (id : String) : Except StorageError Questionnaire :=
  match s.questionnaires.get? id with
  | none => .error (.questionnaireNotFound id)
  | some q =>
    match q.repeatedId? with
    | some question => .error (.repeatedQuestion q.id question)
    | none => .ok q

def createSession [SessionIds] (s : Store) (now : Time.Instant) (questionnaire : String) :
    String × Store :=
  let id := SessionIds.id (s.opened + 1)
  (id, { s with
    sessions := s.sessions.insert id ⟨id, questionnaire, .active, now, now, none⟩
    opened := s.opened + 1 })

def loadSession (s : Store) (session : String) : Except StorageError Record :=
  match s.sessions.get? session with
  | some record => .ok record
  | none => .error (.sessionNotFound session)

def updateSession (s : Store) (now : Time.Instant) (session : String) (update : Update) :
    Except StorageError Store :=
  match s.sessions.get? session with
  | some record => .ok { s with
      sessions := s.sessions.insert session { record with
        status := update.status.getD record.status
        state := update.state <|> record.state
        updated := now } }
  | none => .error (.sessionNotFound session)

/-- Forget a session and its log. The log goes even if there is no such session, which is an
error. -/
def deleteSession (s : Store) (session : String) : Except StorageError Unit × Store :=
  (if s.sessions.contains session then .ok () else .error (.sessionNotFound session),
    { s with sessions := s.sessions.erase session, logs := s.logs.erase session })

def loadLog (s : Store) (session : String) : Except StorageError Log :=
  match s.logs.get? session with
  | some log => .ok log
  | none => .error (.logNotFound session)

def saveLog (s : Store) (log : Log) : Store := { s with logs := s.logs.insert log.session log }

end Store

inductive Call where
  | loadQuestionnaire
  | createSession
  | loadSession
  | updateSession
  | loadLog
  | saveLog
deriving DecidableEq

/-- Tables behind a connection: the calls that came through it so far, and which of them fail. -/
structure Connection where
  store : Store
  /-- The calls made so far, the last one first. -/
  calls : List Call
  /-- The error that strikes a call, by the number of calls before it. -/
  faults : Nat → Call → Option StorageError

namespace Connection

def sound (store : Store) : Connection := ⟨store, [], fun _ _ => none⟩

/-- Make a call, which changes nothing if it fails. -/
def call {α : Type} (c : Call) (operation : Store → Except StorageError (α × Store)) :
    ExceptT StorageError (StateM Connection) α := fun connection =>
  let after := { connection with calls := c :: connection.calls }
  match connection.faults connection.calls.length c with
  | some e => (.error e, after)
  | none =>
    match operation connection.store with
    | .ok (a, store) => (.ok a, { after with store })
    | .error e => (.error e, after)

def storage [SessionIds] : Storage Connection where
  loadQuestionnaire id := call .loadQuestionnaire fun s => return (← s.loadQuestionnaire id, s)
  createSession now id := call .createSession fun s => .ok (s.createSession now id)
  loadSession id := call .loadSession fun s => return (← s.loadSession id, s)
  updateSession now id update :=
    call .updateSession fun s => return ((), ← s.updateSession now id update)
  loadLog id := call .loadLog fun s => return (← s.loadLog id, s)
  saveLog log := call .saveLog fun s => .ok ((), s.saveLog log)

end Connection

end Inquiry.Session
