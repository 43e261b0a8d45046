import Inquiry.Proofs.Session.Alike
import Inquiry.Proofs.Session.Exposure
import Inquiry.Proofs.Session.Outcome
import Inquiry.Proofs.Session.Program

/-!
Operations of an interview whose sessions are called otherwise, at other times.

Sessions are told apart by their ids, but nothing else is decided by an id. So an operation stops at
the same calls under other ids, and goes on alike as long as it is answered alike. Main statement:
`Operation.program_like`.
-/
namespace Inquiry.Session

open Interview

section Under

variable (f : String → String)

def StorageError.under : StorageError → StorageError
  | sessionNotFound session => sessionNotFound (f session)
  | logNotFound session => logNotFound (f session)
  | other => other

def Corruption.under : Corruption → Corruption
  | noState session => noState (f session)
  | foreign session => foreign (f session)
  | other => other

/-- An error that tells of sessions by other ids. -/
def InterviewError.under : InterviewError → InterviewError
  | alreadyCompleted session => alreadyCompleted (f session)
  | unknownSession session => unknownSession (f session)
  | corrupted corruption => corrupted (corruption.under f)
  | storage error => storage (error.under f)
  | other => other

def State.under (s : State) : State := { s with session := f s.session }

def Live.under (l : Live) : Live := { l with state := l.state.under f }

def Operation.under : Operation → Operation
  | load session => load (f session)
  | other => other

def Plan.under : Plan → Plan
  | refuse error => refuse (error.under f)
  | stay reply => stay reply
  | go state note reply => go (state.under f) note reply

end Under

variable {f : String → String}

@[simp] theorem State.under_current (s : State) : (s.under f).current = s.current := rfl

@[simp] theorem State.under_index (s : State) : (s.under f).index = s.index := rfl

@[simp] theorem State.under_answers (s : State) : (s.under f).answers = s.answers := rfl

theorem Interview.moveOn_under (s : State) (now : Time.Instant) (current : String)
    (outlook : Outlook) :
    moveOn (s.under f) now current outlook = (moveOn s now current outlook).under f := by
  obtain ⟨passed, _ | ⟨position, question⟩⟩ := outlook <;> rfl

theorem Interview.stepBack_under (live : Live) (now : Time.Instant) :
    stepBack (live.under f) now = ((stepBack live now).1.under f, (stepBack live now).2) := by
  simp only [stepBack, Live.under, State.under]
  split <;> rfl

theorem Move.planOngoing_under (m : Move) (now : Time.Instant) (live : Live) :
    m.planOngoing now (live.under f) = (m.planOngoing now live).under f := by
  obtain ⟨q, s⟩ := live
  cases m with
  | next =>
    simp only [planOngoing, Live.under, State.under_current, State.under_index, State.under_answers,
      moveOn_under]
    cases s.current with
    | none => rfl
    | some current =>
      dsimp only
      cases lookAhead s.answers (s.index + 1) (q.questions.drop (s.index + 1)) with
      | error bad => rfl
      | ok outlook => obtain ⟨passed, _ | ⟨position, question⟩⟩ := outlook <;> rfl
  | previous =>
    simp only [planOngoing, stepBack_under, apply_ite (Plan.under f)]
    rfl
  | jump id =>
    simp only [planOngoing, Live.under, State.under]
    cases q.position? id with
    | none => rfl
    | some position => cases q.find? id <;> rfl
  | record id answer =>
    simp only [planOngoing, apply_ite (Plan.under f)]
    rfl
  | save => rfl

theorem Move.plan_under (m : Move) (now : Time.Instant) (live : Live) :
    m.plan now (live.under f) = (m.plan now live).under f := by
  unfold plan
  rw [planOngoing_under, apply_ite (Plan.under f)]
  rfl

/-- States that differ in their times, and in the id of their session as told. -/
def State.Like (f : String → String) (s t : State) : Prop := (s.under f).Alike t

/-- Sessions under way that stand in one questionnaire, the first of them among the given ones. -/
structure Live.Like (f : String → String) (own : List String) (l m : Live) : Prop where
  alike : (l.under f).Alike m
  own : l.state.session ∈ own
  stands : l.Stands

/-- Written states of a session. -/
def Json.Tell (f : String → String) (session : String) (json other : Json) : Prop :=
  ∃ s t : State, json = s.toJson ∧ other = t.toJson ∧ s.Like f t ∧ s.session = session ∧
    ∀ id, s.current = some id → s.history.getLast? = some id

/-- Records of a session that differ in their times, and in the id of their session as told. -/
structure Record.Like (f : String → String) (session : String) (r q : Record) : Prop where
  id : r.id = session ∧ q.id = f session
  questionnaire : q.questionnaire = r.questionnaire
  status : q.status = r.status
  state : Option.Rel (Json.Tell f session) r.state q.state

/-- Like records of a session that is among the given ones if they tell a state. -/
def Record.LikeOwn (f : String → String) (own : List String) (session : String)
    (r q : Record) : Prop :=
  r.Like f session q ∧ (r.state.isSome = true → session ∈ own)

/-- Logs of a session that differ in their times, and in the id of their session as told. -/
structure Log.Like (f : String → String) (session : String) (l m : Log) : Prop where
  session : l.session = session ∧ m.session = f session
  questionnaire : m.questionnaire = l.questionnaire
  entries : m.entries.map (fun e => (e.question, e.value)) =
    l.entries.map fun e => (e.question, e.value)
  answered : m.answered = l.answered
  completed : m.completed.isSome = l.completed.isSome

/-- Updates of a session with states that end their histories with their current question. -/
def Update.Like (f : String → String) (session : String) (u v : Update) : Prop :=
  ∃ s t : State, u = .ofState s ∧ v = .ofState t ∧ s.Like f t ∧ s.session = session ∧
    ∀ id, s.current = some id → s.history.getLast? = some id

/-- Calls that fail alike, or are answered alike. -/
inductive Answered {α β : Type} (f : String → String) (R : α → β → Prop) :
    Except StorageError α → Except StorageError β → Prop
  | error (e : StorageError) : Answered f R (.error e) (.error (e.under f))
  | ok {a : α} {b : β} (related : R a b) : Answered f R (.ok a) (.ok b)

/-- Programs that make like calls, at whatever times, and go on alike if they are answered alike.
They write only in sessions of their own, among which are those that they open. -/
inductive Program.Like (f : String → String) :
    List String → Program Result → Program Result → Prop
  | done {own : List String} {answer other : Except InterviewError Reply}
      {live before : Option Live} (same : other = answer.mapError (.under f))
      (lives : Option.Rel (Live.Like f own) live before) :
      Like f own (.done (answer, live)) (.done (other, before))
  | loadQuestionnaire {own : List String} (id : String)
      {next after : Except StorageError Questionnaire → Program Result}
      (further : ∀ a b, Answered f (fun q r : Questionnaire => r = q ∧ q.Distinct) a b →
        Like f own (next a) (after b)) :
      Like f own (.ask (.loadQuestionnaire id) next) (.ask (.loadQuestionnaire id) after)
  | createSession {own : List String} (now later : Time.Instant) (questionnaire : String)
      {next after : Except StorageError String → Program Result}
      (further : ∀ session,
        Like f (own ++ [session]) (next (.ok session)) (after (.ok (f session)))) :
      Like f own (.ask (.createSession now questionnaire) next)
        (.ask (.createSession later questionnaire) after)
  | loadSession {own : List String} (session : String)
      {next after : Except StorageError Record → Program Result}
      (further : ∀ a b, Answered f (Record.LikeOwn f own session) a b →
        Like f own (next a) (after b)) :
      Like f own (.ask (.loadSession session) next) (.ask (.loadSession (f session)) after)
  | updateSession {own : List String} (now later : Time.Instant) {session : String}
      (mem : session ∈ own) {u v : Update} (updates : u.Like f session v)
      {next after : Except StorageError Unit → Program Result}
      (further : ∀ a b, Answered f Eq a b → Like f own (next a) (after b)) :
      Like f own (.ask (.updateSession now session u) next)
        (.ask (.updateSession later (f session) v) after)
  | loadLog {own : List String} {session : String} (mem : session ∈ own)
      {next after : Except StorageError Log → Program Result}
      (further : ∀ a b, Answered f (Log.Like f session) a b → Like f own (next a) (after b)) :
      Like f own (.ask (.loadLog session) next) (.ask (.loadLog (f session)) after)
  | saveLog {own : List String} {session : String} (mem : session ∈ own) {l m : Log}
      (logs : l.Like f session m) {next after : Except StorageError Unit → Program Result}
      (further : ∀ a b, Answered f Eq a b → Like f own (next a) (after b)) :
      Like f own (.ask (.saveLog l) next) (.ask (.saveLog m) after)

variable {own : List String} {live before : Option Live} {l m : Live} {s t : State}
  {q : Questionnaire} {now later : Time.Instant} {session : String}

theorem Live.Like.more (h : l.Like f own m) (more : List String) : l.Like f (own ++ more) m :=
  ⟨h.alike, List.mem_append_left _ h.own, h.stands⟩

theorem Live.Like.rel_more (h : Option.Rel (Live.Like f own) live before) (more : List String) :
    Option.Rel (Live.Like f (own ++ more)) live before := by
  cases h with
  | none => exact .none
  | some like => exact .some (like.more more)

/-- Interviews that answer alike what they are asked without a storage. -/
structure Interview.AskedAlike {σ τ : Type} (i : Interview σ) (j : Interview τ) : Prop where
  progress : (Interview.progress i).1 = (Interview.progress j).1
  current : i.current? = j.current?
  required : (Interview.isRequired i).1 = (Interview.isRequired j).1
  call : ∀ registry now name args, (Interview.call registry now name args i).1 =
    (Interview.call registry now name args j).1

theorem Interview.run_isRequired {σ : Type} (live : Live) (c : σ) :
    (isRequired (⟨some live, c⟩ : Interview σ)).1 =
      match live.state.current.bind live.questionnaire.find? with
      | some q => (q.isRequired live.state.answers).mapError .pattern
      | none => .error .noCurrentQuestion := by
  have shown : (⟨some live, c⟩ : Interview σ).current? =
      live.state.current.bind live.questionnaire.find? := rfl
  simp only [isRequired, run_bind, run_active, run_get, shown]
  cases live.state.current.bind live.questionnaire.find? with
  | none => rfl
  | some q =>
    dsimp only
    cases q.isRequired live.state.answers <;> rfl

/-- No question about a session is answered by its id or its times. -/
theorem Interview.AskedAlike.of_like {σ τ : Type} {i : Interview σ} {j : Interview τ}
    (lives : Option.Rel (Live.Like f own) i.live j.live) : i.AskedAlike j := by
  obtain ⟨live, c⟩ := i
  obtain ⟨other, d⟩ := j
  cases lives with
  | none => exact ⟨rfl, rfl, rfl, fun _ _ _ _ => rfl⟩
  | @some l m like =>
    obtain ⟨q, s⟩ := l
    obtain ⟨r, t⟩ := m
    obtain ⟨⟨same, started, updated, alike⟩, -, -⟩ := like
    cases same
    cases alike
    refine ⟨rfl, rfl, ?_, fun _ _ _ _ => rfl⟩
    rw [run_isRequired, run_isRequired]
    rfl

/-- What goes on alike with every answer goes on alike if the call fails, too. -/
theorem Program.Like.follow {α β : Type} {R : α → β → Prop} {next : α → Program Result}
    {after : β → Program Result} (lives : Option.Rel (Live.Like f own) live before)
    (further : ∀ a b, R a b → Like f own (next a) (after b)) (a : Except StorageError α)
    (b : Except StorageError β) (answered : Answered f R a b) :
    Like f own (Program.follow live next a) (Program.follow before after b) := by
  cases answered with
  | error e => exact .done rfl lives
  | ok related => exact further _ _ related

/-- Saving like states comes to like sessions. -/
theorem Plan.saving_like (lives : Option.Rel (Live.Like f own) live before) (states : s.Like f t)
    (mem : s.session ∈ own) (distinct : q.Distinct) (stands : s.Stands q) (reply : Reply) :
    Program.Like f own (saving now q live s reply) (saving later q before t reply) := by
  have session : t.session = f s.session := by
    obtain ⟨_, _, rfl⟩ := states
    rfl
  unfold saving
  rw [session]
  refine .updateSession now later mem ⟨s, t, rfl, rfl, states, rfl, ?_⟩ (.follow lives ?_)
  · exact fun id shown => (stands.shown id shown).2
  · exact fun _ _ _ => .done rfl (.some ⟨⟨rfl, states⟩, mem, distinct, stands⟩)

/-- What moves note in like logs leaves them like. -/
theorem Noting.like {move : Move} {reply saying : Reply} {note other : Log → Log}
    (h : Noting now l s move (some note) reply) (k : Noting later m t move (some other) saying)
    (answers : t.answers = s.answers) {log record : Log} (logs : log.Like f session record) :
    (note log).Like f session (other record) := by
  cases h with
  | answer id value =>
    cases k
    refine ⟨logs.session, logs.questionnaire, ?_, congrArg Table.size answers, logs.completed⟩
    simp only [Log.add, List.map_append, logs.entries]
    rfl
  | finish =>
    cases k
    exact ⟨logs.session, logs.questionnaire, logs.entries, congrArg Table.size answers, rfl⟩

/-- A move goes on alike in a session that is called otherwise. -/
theorem Move.program_like (move : Move) (like : l.Like f own m) :
    Program.Like f own ((move.plan now l).program now l.questionnaire (some l))
      ((move.plan later m).program later m.questionnaire (some m)) := by
  have plans := move.plan_alike like.alike now later
  have questionnaire : m.questionnaire = l.questionnaire := like.alike.questionnaire.symm
  have lives : Option.Rel (Live.Like f own) (some l) (some m) := .some like
  rw [plan_under] at plans
  rw [questionnaire]
  generalize planned : move.plan now l = plan at plans
  generalize planned' : move.plan later m = other at plans
  cases plan with
  | refuse | stay =>
    cases plans
    exact .done rfl lives
  | go s note reply =>
    have leads := leads planned
    have stands := leads.stands like.stands
    have mem : s.session ∈ own := leads.session ▸ like.own
    cases note with
    | none =>
      cases plans with
      | go states => exact Plan.saving_like lives states mem like.stands.distinct stands reply
    | some note =>
      cases plans with
      | @note _ t _ g states =>
        obtain ⟨started, updated, eq⟩ := states
        have session : t.session = f s.session := by rw [eq]; rfl
        have answers : t.answers = s.answers := by rw [eq]; rfl
        simp only [Plan.program]
        rw [session]
        refine .loadLog mem (.follow lives fun log other logs => ?_)
        have noted := (noting planned).like (noting planned') answers logs
        refine .saveLog mem noted (.follow lives fun _ _ _ => ?_)
        exact Plan.saving_like lives ⟨started, updated, eq⟩ mem like.stands.distinct stands reply

namespace Operation

theorem startProgram_like (questionnaire : String)
    (lives : Option.Rel (Live.Like f own) live before) :
    Program.Like f own (startProgram now questionnaire live)
      (startProgram later questionnaire before) := by
  refine .loadQuestionnaire questionnaire (.follow lives ?_)
  rintro _ q ⟨rfl, distinct⟩
  cases questions : q.questions with
  | nil => exact .done rfl lives
  | cons first rest =>
    refine .createSession now later questionnaire fun session => ?_
    have lives := Live.Like.rel_more lives [session]
    have mem : session ∈ own ++ [session] := List.mem_concat_self
    have logs : (Log.begin now session questionnaire).Like f session
        (.begin later (f session) questionnaire) := ⟨⟨rfl, rfl⟩, rfl, rfl, rfl, rfl⟩
    refine .saveLog mem logs (.follow lives fun _ _ _ => ?_)
    exact Plan.saving_like lives ⟨later, later, rfl⟩ mem distinct
      (State.stands_begin questions now questionnaire session) _

/-- What is wrong with a state is told without the id of its session. -/
theorem under_of_corrupted {corruption : Corruption} (found : corruption? q s = some corruption) :
    corruption.under f = corruption := by
  unfold corruption? at found
  split at found
  · cases found
    rfl
  · split at found
    · cases found
      rfl
    · obtain ⟨id, -, rfl⟩ := Option.map_eq_some_iff.mp found
      rfl

/-- A state that is told by a record is resumed if the record says that it is its own. -/
theorem storedState_told {record : Record} (told : record.state = some s.toJson)
    (ends : ∀ id, s.current = some id → s.history.getLast? = some id) :
    storedState session record =
      if s.session = session ∧ s.questionnaire = record.questionnaire then .ok s
      else .error (.foreign session) := by
  simp only [storedState, told, State.ofJson_toJson ends]
  rfl

/-- Like records hold like states, or are refused alike. -/
theorem storedState_like {record other : Record} (records : record.Like f session other) :
    (∃ corruption, storedState session record = .error corruption ∧
      storedState (f session) other = .error (corruption.under f)) ∨
    ∃ s t, storedState session record = .ok s ∧ storedState (f session) other = .ok t ∧
      s.Like f t ∧ s.session = session ∧ record.state.isSome = true := by
  have states := records.state
  generalize left : record.state = json, right : other.state = written at states
  cases states with
  | none =>
    refine .inl ⟨.noState session, ?_, ?_⟩
    · simp only [storedState, left]
    · simp only [storedState, right]
      rfl
  | some told =>
    obtain ⟨s, t, rfl, rfl, ⟨started, updated, rfl⟩, own, ends⟩ := told
    subst own
    rw [storedState_told left ends, storedState_told right ends, records.questionnaire]
    change _ ∨ _
    by_cases same : s.questionnaire = record.questionnaire
    · exact .inr ⟨s, _, if_pos ⟨rfl, same⟩, if_pos ⟨rfl, same⟩, ⟨started, updated, rfl⟩, rfl, rfl⟩
    · exact .inl ⟨.foreign s.session, if_neg fun h => same h.2, if_neg fun h => same h.2⟩

/-- A session is resumed alike from like records. -/
theorem loadProgram_like (session : String)
    (lives : Option.Rel (Live.Like f own) live before) :
    Program.Like f own (loadProgram session live) (loadProgram (f session) before) := by
  refine .loadSession session fun a b answered => ?_
  cases answered with
  | error e =>
    refine .done ?_ lives
    cases e <;> rfl
  | @ok record other related =>
    obtain ⟨records, known⟩ := related
    change Program.Like f own (resumeProgram live _) (resumeProgram before _)
    rcases storedState_like records with ⟨corruption, left, right⟩ | ⟨s, t, left, right, found⟩
    · rw [left, right]
      exact .done rfl lives
    · obtain ⟨⟨started, updated, rfl⟩, own, some⟩ := found
      rw [left, right]
      refine .loadQuestionnaire s.questionnaire (.follow lives ?_)
      rintro _ q ⟨rfl, distinct⟩
      have unnamed : corruption? q { s.under f with started := started, updated := updated } =
        corruption? q s := rfl
      rw [unnamed]
      cases checked : corruption? q s with
      | some corruption =>
        have same : corruption.under f = corruption := under_of_corrupted checked
        exact .done (by simp only [Except.mapError, InterviewError.under, same]) lives
      | none =>
        have stands := State.stands_of_checked left checked
        have alike : (s.under f).Alike _ := ⟨started, updated, rfl⟩
        exact .done rfl (.some ⟨⟨rfl, alike⟩, own ▸ known some, distinct, stands⟩)

/-- Operations in like sessions go on alike, whatever their times. -/
theorem program_like (op : Operation) (now later : Time.Instant)
    (lives : Option.Rel (Live.Like f own) live before) :
    Program.Like f own (op.program now live) ((op.under f).program later before) := by
  cases op with
  | start questionnaire => exact startProgram_like questionnaire lives
  | load session => exact loadProgram_like session lives
  | move m =>
    cases lives with
    | none => exact .done rfl .none
    | some like => exact m.program_like like

end Operation

end Inquiry.Session
