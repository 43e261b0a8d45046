import Inquiry.Proofs.Session.Exchange

/-!
Operations as programs that stop at every call of the storage.

A program tells what is left of an operation, so that others can use the storage before it goes on.
It is a view of the operation only: main statement `Operation.perform_eq_run`, by which an operation
comes to what its program comes to, over any storage.
-/
namespace Inquiry.Session

open Interview

/-- What is left of an operation: the next call with all that can follow it, or nothing. -/
inductive Program (α : Type) : Type
  | done (a : α) : Program α
  | ask (r : Request) (next : Except StorageError r.Answer → Program α) : Program α

/-- What an operation comes to: its answer, and what is under way then. -/
abbrev Result := Except InterviewError Reply × Option Live

namespace Program

variable {σ α : Type}

def run (storage : Storage σ) : Program α → σ → α × σ
  | done a, c => (a, c)
  | ask r next, c => (next (r.make storage c).1).run storage (r.make storage c).2

/-- Go on with an answer. If the call failed, what is under way stays as it is. -/
def follow {β : Type} (live : Option Live) (next : β → Program Result) :
    Except StorageError β → Program Result
  | .ok b => next b
  | .error e => done (.error (.storage e), live)

/-- Make a call that must not fail. -/
def demand (live : Option Live) (r : Request) (next : r.Answer → Program Result) :
    Program Result :=
  ask r (follow live next)

theorem run_demand (storage : Storage σ) (live : Option Live) (r : Request)
    (next : r.Answer → Program Result) (c : σ) :
    (demand live r next).run storage c =
      match r.make storage c with
      | (.ok a, d) => (next a).run storage d
      | (.error e, d) => ((.error (.storage e), live), d) := by
  simp only [demand, run]
  rcases r.make storage c with ⟨_ | a, d⟩ <;> rfl

inductive Heard : Program α → List Exchange → Program α → Prop
  | nil (p : Program α) : Heard p [] p
  | cons {r : Request} {next : Except StorageError r.Answer → Program α}
      (answer : Except StorageError r.Answer) {heard : List Exchange} {rest : Program α}
      (further : Heard (next answer) heard rest) : Heard (ask r next) (⟨r, answer⟩ :: heard) rest

theorem Heard.concat {p : Program α} {heard : List Exchange} {r : Request}
    {next : Except StorageError r.Answer → Program α} (h : Heard p heard (ask r next))
    (answer : Except StorageError r.Answer) : Heard p (heard ++ [⟨r, answer⟩]) (next answer) := by
  generalize left : ask r next = rest at h
  induction h with
  | nil p =>
    subst left
    exact .cons answer (.nil _)
  | cons first further ih => exact .cons first (ih left)

/-- A program that runs over what was heard comes as far as it is left. -/
theorem Heard.run_transcript {p rest : Program α} {heard : List Exchange} (h : Heard p heard rest) :
    p.run Transcript.storage ⟨heard, none⟩ = rest.run Transcript.storage ⟨[], none⟩ := by
  induction h with
  | nil => rfl
  | @cons r next answer heard rest further ih =>
    have made : r.make Transcript.storage ⟨⟨r, answer⟩ :: heard, none⟩ =
        (answer, ⟨heard, none⟩) := by
      rw [Transcript.make_storage]
      exact dif_pos rfl
    rw [Program.run, made]
    exact ih

theorem run_waiting (p : Program α) (r : Request) :
    (p.run Transcript.storage ⟨[], some r⟩).2.waiting = some r := by
  induction p with
  | done => rfl
  | ask s next ih =>
    rw [run, Transcript.make_storage]
    exact ih (.error .brokenOff)

/-- Beyond what was heard, the transcript keeps the call that is made next. -/
theorem run_ask_waiting (r : Request) (next : Except StorageError r.Answer → Program α) :
    ((ask r next).run Transcript.storage ⟨[], none⟩).2.waiting = some r := by
  rw [run, Transcript.make_storage]
  exact run_waiting _ r

def interview (result : Result × σ) : Except InterviewError Reply × Interview σ :=
  (result.1.1, ⟨result.1.2, result.2⟩)

end Program

open Program (done ask demand interview)

/-- The state under way is the one that was saved. -/
def Plan.saving (now : Time.Instant) (q : Questionnaire) (live : Option Live) (state : State)
    (reply : Reply) : Program Result :=
  demand live (.updateSession now state.session (.ofState state)) fun _ =>
    done (.ok reply, some ⟨q, state⟩)

def Plan.program (now : Time.Instant) (q : Questionnaire) (live : Option Live) :
    Plan → Program Result
  | refuse error => done (.error error, live)
  | stay reply => done (.ok reply, live)
  | go state none reply => saving now q live state reply
  | go state (some note) reply =>
    demand live (.loadLog state.session) fun log =>
    demand live (.saveLog (note log)) fun _ => saving now q live state reply

namespace Operation

/-- A session is opened and its log begun before its state is saved. -/
def startProgram (now : Time.Instant) (questionnaire : String) (live : Option Live) :
    Program Result :=
  demand live (.loadQuestionnaire questionnaire) fun q =>
    match q.questions with
    | [] => done (.error (.noQuestions questionnaire), live)
    | first :: _ =>
      demand live (.createSession now questionnaire) fun session =>
      demand live (.saveLog (.begin now session questionnaire)) fun _ =>
      Plan.saving now q live (.begin now questionnaire session first.id) (.question first)

/-- What was stored is resumed with the questionnaire that is stored now. -/
def resumeProgram (live : Option Live) : Except Corruption State → Program Result
  | .error corruption => done (.error (.corrupted corruption), live)
  | .ok state =>
    demand live (.loadQuestionnaire state.questionnaire) fun q =>
      match corruption? q state with
      | some corruption => done (.error (.corrupted corruption), live)
      | none => done (.ok .done, some ⟨q, state⟩)

def loadProgram (session : String) (live : Option Live) : Program Result :=
  ask (.loadSession session) fun
    | .error e => done (.error (refusal e), live)
    | .ok record => resumeProgram live (storedState session record)

def program (now : Time.Instant) (live : Option Live) : Operation → Program Result
  | start questionnaire => startProgram now questionnaire live
  | load session => loadProgram session live
  | move m =>
    match live with
    | none => done (.error .notLoaded, none)
    | some l => (m.plan now l).program now l.questionnaire live

end Operation

variable {σ : Type}

theorem Plan.run_saving (storage : Storage σ) (now : Time.Instant) (q : Questionnaire)
    (live : Option Live) (state : State) (reply : Reply) (c : σ) :
    (go state none reply).run storage now q ⟨live, c⟩ =
      interview ((saving now q live state reply).run storage c) := by
  rw [run_go, saving, Program.run_demand]
  simp only [Request.make]
  rcases storage.updateSession now state.session (.ofState state) c with ⟨_ | _, d⟩ <;> rfl

theorem Plan.run_eq_run (plan : Plan) (storage : Storage σ) (now : Time.Instant)
    (q : Questionnaire) (live : Option Live) (c : σ) :
    plan.run storage now q ⟨live, c⟩ = interview ((plan.program now q live).run storage c) := by
  cases plan with
  | refuse | stay => rfl
  | go state note reply =>
    cases note with
    | none => exact run_saving ..
    | some note =>
      rw [run_note, program, Program.run_demand]
      simp only [Request.make]
      rcases storage.loadLog state.session c with ⟨_ | log, d⟩
      · rfl
      · dsimp only
        rw [Program.run_demand]
        simp only [Request.make]
        rcases storage.saveLog (note log) d with ⟨_ | _, e⟩
        · rfl
        · exact run_saving ..

namespace Operation

theorem start_eq_run (storage : Storage σ) (now : Time.Instant) (questionnaire : String)
    (live : Option Live) (c : σ) :
    (start questionnaire).perform storage now ⟨live, c⟩ =
      interview ((startProgram now questionnaire live).run storage c) := by
  rw [run_start, startProgram, Program.run_demand]
  simp only [Request.make]
  rcases storage.loadQuestionnaire questionnaire c with ⟨_ | q, d⟩
  · rfl
  · dsimp only
    cases q.questions with
    | nil => rfl
    | cons first rest =>
      dsimp only
      rw [Program.run_demand]
      simp only [Request.make]
      rcases storage.createSession now questionnaire d with ⟨_ | session, e⟩
      · rfl
      · dsimp only
        rw [Program.run_demand]
        simp only [Request.make]
        rcases storage.saveLog (.begin now session questionnaire) e with ⟨_ | _, f⟩
        · rfl
        · exact Plan.run_saving ..

theorem load_eq_run (storage : Storage σ) (now : Time.Instant) (session : String)
    (live : Option Live) (c : σ) :
    (load session).perform storage now ⟨live, c⟩ =
      interview ((loadProgram session live).run storage c) := by
  rw [run_load, loadProgram, Program.run]
  simp only [Request.make]
  rcases storage.loadSession session c with ⟨_ | record, d⟩
  · rfl
  · dsimp only
    cases storedState session record with
    | error => rfl
    | ok state =>
      simp only [resumeProgram]
      rw [Program.run_demand]
      simp only [Request.make]
      rcases storage.loadQuestionnaire state.questionnaire d with ⟨_ | q, e⟩
      · rfl
      · dsimp only
        cases corruption? q state <;> rfl

theorem perform_eq_run (op : Operation) (storage : Storage σ) (now : Time.Instant)
    (live : Option Live) (c : σ) :
    op.perform storage now ⟨live, c⟩ = interview ((op.program now live).run storage c) := by
  cases op with
  | start questionnaire => exact start_eq_run ..
  | load session => exact load_eq_run ..
  | move m =>
    cases live with
    | none => exact m.perform_none storage now c
    | some live => exact (m.perform_eq_run storage now live c).trans (Plan.run_eq_run ..)

end Operation

end Inquiry.Session
