import Inquiry.Proofs.Session.Terms

/-!
The calls of a storage as data, and what they tell an interview.

A transcript of answers serves as a storage of its own: it gives the answers that were heard and
keeps the first request beyond them. So an operation can be followed call by call. Main statement:
`Honest.keptBy`, the terms of every storage that answers soundly if it is asked soundly.
-/
namespace Inquiry.Session

open Interview

inductive Request where
  | loadQuestionnaire (id : String)
  | createSession (now : Time.Instant) (questionnaire : String)
  | loadSession (session : String)
  | updateSession (now : Time.Instant) (session : String) (update : Update)
  | loadLog (session : String)
  | saveLog (log : Log)
deriving DecidableEq

namespace Request

abbrev Answer : Request → Type
  | loadQuestionnaire _ => Questionnaire
  | createSession _ _ => String
  | loadSession _ => Record
  | updateSession _ _ _ => Unit
  | loadLog _ => Log
  | saveLog _ => Unit

variable {σ : Type}

def make (storage : Storage σ) : (r : Request) → ExceptT StorageError (StateM σ) r.Answer
  | loadQuestionnaire id => storage.loadQuestionnaire id
  | createSession now questionnaire => storage.createSession now questionnaire
  | loadSession session => storage.loadSession session
  | updateSession now session update => storage.updateSession now session update
  | loadLog session => storage.loadLog session
  | saveLog log => storage.saveLog log

end Request

structure Exchange where
  request : Request
  answer : Except StorageError request.Answer

/-- What is written of a state that fits its questionnaire on the shelf. -/
def Accounted (shelf : Table Questionnaire) (json : Json) : Prop :=
  ∃ state q, json = State.toJson state ∧ shelf.get? state.questionnaire = some q ∧ state.Fits q

/-- Only states that are accounted for are stored. -/
def Request.Sound (shelf : Table Questionnaire) : Request → Prop
  | updateSession _ _ update => ∀ json, update.state = some json → Accounted shelf json
  | _ => True

/-- Questionnaires come from the shelf, and stored states are accounted for. -/
def Exchange.Sound (shelf : Table Questionnaire) : Exchange → Prop
  | ⟨.loadQuestionnaire id, answer⟩ => ∀ q, answer = .ok q → shelf.get? id = some q ∧ q.Distinct
  | ⟨.loadSession _, answer⟩ => ∀ record, answer = .ok record →
      ∀ json, record.state = some json → Accounted shelf json
  | _ => True

theorem Exchange.sound_error (shelf : Table Questionnaire) (r : Request) (e : StorageError) :
    Exchange.Sound shelf ⟨r, .error e⟩ := by
  cases r with
  | loadQuestionnaire | loadSession => exact fun _ impossible => nomatch impossible
  | createSession | updateSession | loadLog | saveLog => trivial

/-- A state that is read from a record which is accounted for fits its questionnaire. -/
theorem Accounted.fits {shelf : Table Questionnaire} {session : String} {record : Record}
    {state : State} {q : Questionnaire}
    (sound : ∀ json, record.state = some json → Accounted shelf json)
    (stored : storedState session record = .ok state)
    (shelved : shelf.get? state.questionnaire = some q) : state.Fits q := by
  cases written : record.state with
  | none => simp [storedState, written] at stored
  | some json =>
    obtain ⟨told, r, rfl, shelved', fits⟩ := sound json written
    have same := fits.eq_of_storedState written stored
    subst same
    rw [shelved, Option.some_inj] at shelved'
    exact shelved' ▸ fits

variable {σ : Type}

/-- A storage that answers soundly, and keeps a property of its contents, if it is asked soundly. -/
def Honest (shelf : Table Questionnaire) (storage : Storage σ) (P : σ → Prop) : Prop :=
  ∀ (r : Request) (c : σ), r.Sound shelf → P c →
    P (r.make storage c).2 ∧ Exchange.Sound shelf ⟨r, (r.make storage c).1⟩

def Terms.plain (P : σ → Prop) : Terms σ := ⟨fun _ c => P c, fun _ _ _ => True⟩

theorem Honest.keptBy {shelf : Table Questionnaire} {storage : Storage σ} {P : σ → Prop}
    (honest : Honest shelf storage P) : (Terms.plain P).KeptBy shelf storage where
  loadQuestionnaire {live c d id answer} := by
    intro holds called
    have kept := honest (.loadQuestionnaire id) c trivial holds
    simp only [Request.make, called] at kept
    exact kept
  createSession {live c d now questionnaire answer} := by
    intro holds called
    have kept := honest (.createSession now questionnaire) c trivial holds
    simp only [Request.make, called] at kept
    exact ⟨kept.1, fun _ _ => trivial⟩
  loadSession {live c d session answer} := by
    intro holds called
    have kept := honest (.loadSession session) c trivial holds
    simp only [Request.make, called] at kept
    refine ⟨kept.1, ?_⟩
    intro record state q ok stored shelved _
    exact ⟨kept.1, Accounted.fits (kept.2 record ok) stored shelved⟩
  updateSession {live next c d now answer} := by
    intro holds _ sound called
    have asked : (Request.updateSession now next.state.session (.ofState next.state)).Sound
        shelf := by
      rintro _ ⟨⟩
      exact ⟨next.state, next.questionnaire, rfl, sound.shelved, sound.fits⟩
    have kept := honest _ c asked holds
    simp only [Request.make, called] at kept
    exact ⟨fun _ _ => kept.1, fun _ _ => kept.1⟩
  loadLog {live c d session answer} := by
    intro holds called
    have kept := honest (.loadLog session) c trivial holds
    simp only [Request.make, called] at kept
    exact ⟨kept.1, fun _ _ _ => trivial⟩
  saveLog {live c d log answer} := by
    intro holds called
    have kept := honest (.saveLog log) c trivial holds
    simp only [Request.make, called] at kept
    exact ⟨kept.1, fun _ _ _ => trivial⟩
  opened_of_holds _ := trivial

/-- Answers that were heard, and the first request without one. -/
structure Transcript where
  ahead : List Exchange
  waiting : Option Request

namespace Transcript

/-- Answer a request from what was heard. One that was not heard is kept and fails. -/
def replay (r : Request) : ExceptT StorageError (StateM Transcript) r.Answer := fun t =>
  match t.ahead with
  | [] => (.error .brokenOff, { t with waiting := t.waiting <|> some r })
  | e :: rest =>
    if same : e.request = r then (same ▸ e.answer, { t with ahead := rest })
    else (.error .brokenOff, { t with waiting := t.waiting <|> some r })

def storage : Storage Transcript where
  loadQuestionnaire id := replay (.loadQuestionnaire id)
  createSession now questionnaire := replay (.createSession now questionnaire)
  loadSession session := replay (.loadSession session)
  updateSession now session update := replay (.updateSession now session update)
  loadLog session := replay (.loadLog session)
  saveLog log := replay (.saveLog log)

theorem make_storage (r : Request) : r.make storage = replay r := by
  cases r <;> rfl

/-- A request is answered by the next exchange if that is its own, and breaks off otherwise. -/
theorem replay_cases (r : Request) (t : Transcript) :
    (∃ answer rest, t.ahead = ⟨r, answer⟩ :: rest ∧
      r.make storage t = (answer, { t with ahead := rest })) ∨
    r.make storage t = (.error .brokenOff, { t with waiting := t.waiting <|> some r }) := by
  obtain ⟨ahead, waiting⟩ := t
  rw [make_storage]
  unfold replay
  cases ahead with
  | nil => exact .inr rfl
  | cons e rest =>
    dsimp only
    split
    · rename_i same
      obtain ⟨request, answer⟩ := e
      subst same
      exact .inl ⟨answer, rest, rfl, rfl⟩
    · exact .inr rfl

/-- A transcript of sound exchanges with a sound request at its end. -/
structure Sound (shelf : Table Questionnaire) (t : Transcript) : Prop where
  ahead : ∀ e ∈ t.ahead, e.Sound shelf
  waiting : ∀ r ∈ t.waiting, r.Sound shelf

theorem Sound.ask {shelf : Table Questionnaire} {t : Transcript} {r : Request} (h : t.Sound shelf)
    (asked : r.Sound shelf) : Sound shelf { t with waiting := t.waiting <|> some r } := by
  refine ⟨h.ahead, ?_⟩
  intro s waits
  cases before : t.waiting with
  | none =>
    simp [before] at waits
    exact waits ▸ asked
  | some first =>
    simp [before] at waits
    exact waits ▸ h.waiting first before

theorem honest (shelf : Table Questionnaire) : Honest shelf storage (Sound shelf) := by
  intro r t asked sound
  rcases replay_cases r t with ⟨answer, rest, ahead, made⟩ | made
  · obtain ⟨own, others⟩ := List.forall_mem_cons.mp (ahead ▸ sound.ahead)
    rw [made]
    exact ⟨⟨others, sound.waiting⟩, own⟩
  · rw [made]
    exact ⟨sound.ask asked, Exchange.sound_error shelf r .brokenOff⟩

end Transcript

end Inquiry.Session
