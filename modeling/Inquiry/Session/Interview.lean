import Inquiry.Decision
import Inquiry.Formula
import Inquiry.Session.Progress
import Inquiry.Session.Storage

/-!
Interviews: one session at a time is started or resumed and led through its questionnaire.

Every step is saved before it counts. A step that fails leaves the interview as it was, even if
the storage has changed by then.
-/
namespace Inquiry.Session

inductive InterviewError where
  | questionNotFound (id : String)
  | noQuestions (questionnaire : String)
  | alreadyCompleted (session : String)
  | unknownSession (session : String)
  | corrupted (corruption : Corruption)
  | noCurrentQuestion
  | notLoaded
  | pattern (bad : BadPattern)
  | storage (error : StorageError)
deriving DecidableEq

def InterviewError.message : InterviewError → String
  | questionNotFound id => "Question not found: " ++ id
  | noQuestions questionnaire =>
    "Invalid navigation: questionnaire '" ++ questionnaire ++ "' has no questions"
  | alreadyCompleted session =>
    "Invalid navigation: session " ++ session ++ " is already completed"
  | unknownSession session =>
    "Session error: " ++ (StorageError.sessionNotFound session).message
  | corrupted corruption => "Flow state corrupted: " ++ corruption.message
  | noCurrentQuestion => "No current question"
  | notLoaded => "No questionnaire loaded"
  | pattern bad => bad.message
  | storage error => error.message

/-- A session under way: its questionnaire and its state. -/
structure Live where
  questionnaire : Questionnaire
  state : State
deriving DecidableEq

/-- Where a step of an interview leads. -/
inductive Step where
  | question (q : Question)
  /-- No visible question is left. -/
  | completed (answers : Answers)
deriving DecidableEq

/-- An interview, if one is under way, over a storage with contents of type `σ`. -/
structure Interview (σ : Type) where
  live : Option Live
  contents : σ

abbrev Interviewing (σ α : Type) := ExceptT InterviewError (StateM (Interview σ)) α

namespace Interview

variable {σ : Type}

def ask {α : Type} (operation : ExceptT StorageError (StateM σ) α) : Interviewing σ α :=
  fun interview =>
    match operation interview.contents with
    | (.ok a, contents) => (.ok a, { interview with contents })
    | (.error e, contents) => (.error (.storage e), { interview with contents })

def decideBy (decision : Except BadPattern Bool) : Interviewing σ Bool :=
  match decision with
  | .ok b => pure b
  | .error bad => throw (.pattern bad)

def active : Interviewing σ Live := do
  match (← get).live with
  | some live => return live
  | none => throw .notLoaded

/-- What is under way and not completed. -/
def ongoing : Interviewing σ Live := do
  let live ← active
  if live.state.completed then throw (.alreadyCompleted live.state.session)
  return live

def persist (storage : Storage σ) (now : Time.Instant) (state : State) : Interviewing σ Unit :=
  ask (storage.updateSession now state.session ⟨some (.ofState state), some state.toJson⟩)

/-- Save a state and make it the one under way. -/
def commit (storage : Storage σ) (now : Time.Instant) (live : Live) : Interviewing σ Unit := do
  persist storage now live.state
  modify fun interview => { interview with live := some live }

def start (storage : Storage σ) (now : Time.Instant) (questionnaire : String) :
    Interviewing σ Question := do
  let q ← ask (storage.loadQuestionnaire questionnaire)
  match q.questions with
  | [] => throw (.noQuestions questionnaire)
  | first :: _ => do
    let session ← ask (storage.createSession now questionnaire)
    ask (storage.saveLog (.begin now session questionnaire))
    commit storage now ⟨q, .begin now questionnaire session first.id⟩
    return first

/-- What a look ahead finds: the ids passed over, and the visible question with its position. -/
structure Outlook where
  passed : List String
  found : Option (Nat × Question)
deriving DecidableEq

/-- Look for the first visible question among those that stand from a position on. -/
def lookAhead (answers : Answers) : Nat → List Question → Except BadPattern Outlook
  | _, [] => .ok ⟨[], none⟩
  | position, q :: rest => do
    if (← q.isVisible answers) then return ⟨[], some (position, q)⟩
    let outlook ← lookAhead answers (position + 1) rest
    return { outlook with passed := q.id :: outlook.passed }

def moveOn (state : State) (now : Time.Instant) (current : String) (outlook : Outlook) : State :=
  let left := { state with
    visited := state.visited.add current
    skipped := outlook.passed.foldl IdSet.add state.skipped
    updated := now }
  match outlook.found with
  | some (position, q) => { left with
      index := position
      current := some q.id
      skipped := left.skipped.erase q.id
      history := left.history ++ [q.id] }
  | none => { left with completed := true }

def stampCompletion (storage : Storage σ) (now : Time.Instant) (state : State) :
    Interviewing σ Unit := do
  let log ← ask (storage.loadLog state.session)
  ask (storage.saveLog { log with completed := some now, answered := state.answers.size })

/-- Go on to the next visible question, or complete the session. -/
def next (storage : Storage σ) (now : Time.Instant) : Interviewing σ Step := do
  let live ← ongoing
  let state := live.state
  match state.current with
  | none => throw .noCurrentQuestion
  | some current => do
    let ahead := live.questionnaire.questions.drop (state.index + 1)
    match lookAhead state.answers (state.index + 1) ahead with
    | .error bad => throw (.pattern bad)
    | .ok outlook => do
      let moved := moveOn state now current outlook
      if moved.completed then stampCompletion storage now moved
      commit storage now { live with state := moved }
      match outlook.found with
      | some (_, q) => return .question q
      | none => return .completed moved.answers

/-- The state after stepping back, and the question stepped back to. -/
def stepBack (live : Live) (now : Time.Instant) : State × Option Question :=
  let history := live.state.history.dropLast
  let state := { live.state with history, updated := now }
  let target := do
    let id ← history.getLast?
    let position ← live.questionnaire.position? id
    let q ← live.questionnaire.questions[position]?
    return (position, id, q)
  match target with
  | some (position, id, q) => ({ state with index := position, current := some id }, some q)
  | none => ({ state with current := none }, none)

/-- Step back to the question shown before, if there is one. -/
def previous (storage : Storage σ) (now : Time.Instant) : Interviewing σ (Option Question) := do
  let live ← ongoing
  if live.state.history.length ≤ 1 then return none
  let (state, question) := stepBack live now
  commit storage now { live with state }
  return question

def jump (storage : Storage σ) (now : Time.Instant) (id : String) : Interviewing σ Question := do
  let live ← ongoing
  match live.questionnaire.position? id, live.questionnaire.find? id with
  | some position, some q => do
    commit storage now { live with state := { live.state with
      index := position
      current := some id
      history := live.state.history ++ [id]
      updated := now } }
    return q
  | _, _ => throw (.questionNotFound id)

/-- Record the answer to a question; the log keeps what it replaces. -/
def record (storage : Storage σ) (now : Time.Instant) (id : String) (answer : Json) :
    Interviewing σ Unit := do
  let live ← ongoing
  if !live.questionnaire.contains id then throw (.questionNotFound id)
  let answers := live.state.answers.record id answer
  let log ← ask (storage.loadLog live.state.session)
  ask (storage.saveLog { log with
    entries := log.entries ++ [⟨id, answer, now⟩]
    answered := answers.size })
  commit storage now { live with state := { live.state with answers, updated := now } }

def save (storage : Storage σ) (now : Time.Instant) : Interviewing σ Unit := do
  persist storage now (← active).state

/-- What is wrong with a state of a questionnaire, if anything is. -/
def corruption? (q : Questionnaire) (state : State) : Option Corruption :=
  if q.size ≤ state.index then some (.indexOutOfRange state.index)
  else
    match state.current.filter fun id => q.position? id ≠ some state.index with
    | some id => some (.wrongPosition id state.index)
    | none => (state.history.find? (!q.contains ·)).map .unknownInHistory

def storedState (session : String) (record : Record) : Except Corruption State :=
  match record.state with
  | none => .error (.noState session)
  | some json => do
    let state ← State.ofJson json
    if state.session = session ∧ state.questionnaire = record.questionnaire then return state
    throw (.foreign session)

/-- Load a record. That there is no such session is an error of its own. -/
def loadRecord (storage : Storage σ) (session : String) : Interviewing σ Record :=
  tryCatch (ask (storage.loadSession session)) fun error =>
    match error with
    | .storage (.sessionNotFound id) => throw (.unknownSession id)
    | other => throw other

def load (storage : Storage σ) (session : String) : Interviewing σ Unit := do
  let record ← loadRecord storage session
  match storedState session record with
  | .error corruption => throw (.corrupted corruption)
  | .ok state => do
    let q ← ask (storage.loadQuestionnaire state.questionnaire)
    match corruption? q state with
    | some corruption => throw (.corrupted corruption)
    | none => modify fun interview => { interview with live := some ⟨q, state⟩ }

def progress : Interviewing σ Progress := do
  let live ← active
  return .of live.state.index live.questionnaire.size live.state.answers.size live.state.completed

def current? (interview : Interview σ) : Option Question := do
  let live ← interview.live
  live.questionnaire.find? (← live.state.current)

def isRequired : Interviewing σ Bool := do
  let live ← active
  match (← get).current? with
  | some q => decideBy (q.isRequired live.state.answers)
  | none => throw .noCurrentQuestion

def call (registry : Registry) (now : Time.Instant) (name : String) (args : List String) :
    Interviewing σ (Except NotRegistered Json) := do
  let live ← active
  return registry.call name args ⟨live.state.answers, now⟩

end Interview

end Inquiry.Session
