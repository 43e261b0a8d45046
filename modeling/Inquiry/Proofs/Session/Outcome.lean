import Inquiry.Proofs.Session.Invariant
import Inquiry.Proofs.Session.Storing

namespace Inquiry.Session

open Interview
open Connection (storage)

/-- Tables in which a state is saved with the record of its session. -/
def Store.saveState (s : Store) (now : Time.Instant) (record : Record) (state : State) : Store :=
  { s with sessions := s.sessions.insert state.session (record.update now (.ofState state)) }

/-- Tables in which a session is opened and its log begun. -/
def Store.openLogged [SessionIds] (s : Store) (now : Time.Instant) (questionnaire : String) :
    Store :=
  (s.createSession now questionnaire).2.saveLog
    (.begin now (SessionIds.id (s.opened + 1)) questionnaire)

theorem Store.get?_sessions_saveState (s : Store) (now : Time.Instant) (record : Record)
    (state : State) (id : String) :
    (s.saveState now record state).sessions.get? id =
      if id = state.session then some (record.update now (.ofState state))
      else s.sessions.get? id :=
  Table.get?_insert ..

theorem Store.get?_logs_saveLog (s : Store) (log : Log) (id : String) :
    (s.saveLog log).logs.get? id = if id = log.session then some log else s.logs.get? id :=
  Table.get?_insert ..

theorem Store.get?_sessions_createSession [SessionIds] (s : Store) (now : Time.Instant)
    (questionnaire id : String) :
    (s.createSession now questionnaire).2.sessions.get? id =
      if id = SessionIds.id (s.opened + 1) then
        some ⟨SessionIds.id (s.opened + 1), questionnaire, .active, now, now, none⟩
      else s.sessions.get? id :=
  Table.get?_insert ..

theorem Store.get?_logs_openLogged [SessionIds] (s : Store) (now : Time.Instant)
    (questionnaire id : String) :
    (s.openLogged now questionnaire).logs.get? id =
      if id = SessionIds.id (s.opened + 1) then
        some (.begin now (SessionIds.id (s.opened + 1)) questionnaire)
      else s.logs.get? id :=
  get?_logs_saveLog ..

/-- A log with one more entry, and the number of questions answered then. -/
def Log.add (l : Log) (entry : Entry) (answered : Nat) : Log :=
  { l with entries := l.entries ++ [entry], answered }

def Log.close (l : Log) (now : Time.Instant) (answered : Nat) : Log :=
  { l with completed := some now, answered }

/-- A connection through which a note was left in the log of a session, if there was one. -/
inductive Connection.Noted (c : Connection) (session : String) :
    Option (Log → Log) → Connection → Prop
  | nothing : c.Noted session none c
  | note (f : Log → Log) (log : Log) (found : c.store.logs.get? session = some log) :
      c.Noted session (some f)
        ((c.after .loadLog c.store).after .saveLog (c.store.saveLog (f log)))

/-- What a move that goes on notes in the log, and what becomes of the answers. -/
inductive Noting (now : Time.Instant) (live : Live) (state : State) :
    Move → Option (Log → Log) → Reply → Prop
  | nothing (m : Move) (reply : Reply) (silent : ∀ id value, m ≠ .record id value)
      (further : ∀ answers, reply ≠ .completed answers)
      (answers : state.answers = live.state.answers)
      (completed : state.completed = live.state.completed) : Noting now live state m none reply
  | answer (id : String) (value : Json) (ongoing : live.state.completed = false)
      (answers : state.answers = live.state.answers.record id value)
      (completed : state.completed = false) :
      Noting now live state (.record id value)
        (some fun log => log.add ⟨id, value, now⟩ state.answers.size) .done
  | finish (ongoing : live.state.completed = false) (answers : state.answers = live.state.answers)
      (completed : state.completed = true) :
      Noting now live state .next (some fun log => log.close now state.answers.size)
        (.completed state.answers)

/-- What an operation can come to: its answer, what is under way then, and the connection. -/
inductive Outcome [SessionIds] (now : Time.Instant) (before : Option Live) (c : Connection) :
    Operation → Except InterviewError Reply → Option Live → Connection → Prop
  | fails (op : Operation) (e : InterviewError) (d : Connection) (same : d.store = c.store) :
      Outcome now before c op (.error e) before d
  /-- A session is opened, but it does not come to a state. -/
  | opens (questionnaire : String) (e : InterviewError) (d : Connection)
      (left : d.store = (c.store.createSession now questionnaire).2 ∨
        d.store = c.store.openLogged now questionnaire) :
      Outcome now before c (.start questionnaire) (.error e) before d
  | starts (questionnaire session : String) (q : Questionnaire) (first : Question)
      (rest : List Question) (record : Record) (d : Connection)
      (fresh : session = SessionIds.id (c.store.opened + 1))
      (loaded : c.store.questionnaires.get? questionnaire = some q ∧ q.Distinct)
      (questions : q.questions = first :: rest) (own : record.questionnaire = questionnaire)
      (saved : d.store = (c.store.openLogged now questionnaire).saveState now record
        (.begin now questionnaire session first.id)) :
      Outcome now before c (.start questionnaire) (.ok (.question first))
        (some ⟨q, .begin now questionnaire session first.id⟩) d
  | loads (session : String) (record : Record) (state : State) (q : Questionnaire)
      (d : Connection) (found : c.store.sessions.get? session = some record)
      (stored : storedState session record = .ok state)
      (loaded : c.store.questionnaires.get? state.questionnaire = some q ∧ q.Distinct)
      (checked : corruption? q state = none) (same : d.store = c.store) :
      Outcome now before c (.load session) (.ok .done) (some ⟨q, state⟩) d
  | stays (m : Move) (live : Live) (reply : Reply) (there : before = some live)
      (planned : m.plan now live = .stay reply) :
      Outcome now before c (.move m) (.ok reply) before c
  /-- What there is to note is noted, but the state is not saved. -/
  | lags (m : Move) (live : Live) (state : State) (note : Option (Log → Log)) (reply : Reply)
      (e : StorageError) (mid d : Connection) (there : before = some live)
      (planned : m.plan now live = .go state note reply)
      (noted : c.Noted state.session note mid)
      (failed : storage.updateSession now state.session (.ofState state) mid = (.error e, d)) :
      Outcome now before c (.move m) (.error (.storage e)) before d
  | goes (m : Move) (live : Live) (state : State) (note : Option (Log → Log)) (reply : Reply)
      (record : Record) (mid : Connection) (there : before = some live)
      (planned : m.plan now live = .go state note reply)
      (noted : c.Noted state.session note mid)
      (found : mid.store.sessions.get? state.session = some record) :
      Outcome now before c (.move m) (.ok reply) (some ⟨live.questionnaire, state⟩)
        (mid.after .updateSession (mid.store.saveState now record state))

/-- Only stepping back from the first question leaves all as it is. -/
theorem Move.eq_previous_of_stay {m : Move} {now : Time.Instant} {live : Live} {reply : Reply}
    (planned : m.plan now live = .stay reply) : m = .previous ∧ reply = .nowhere := by
  have stays := m.planned now live
  rw [planned] at stays
  cases stays with
  | first => exact ⟨rfl, rfl⟩

theorem Move.noting {m : Move} {now : Time.Instant} {live : Live} {state : State}
    {note : Option (Log → Log)} {reply : Reply} (planned : m.plan now live = .go state note reply) :
    Noting now live state m note reply := by
  have goes := m.planned now live
  rw [planned] at goes
  cases goes with
  | onward => exact .nothing _ _ (by simp) (by simp) rfl rfl
  | finish ongoing => exact .finish ongoing rfl rfl
  | back =>
    refine .nothing _ _ (by simp) ?_ ?_ ?_
    · intro answers
      cases (stepBack live now).2 <;> simp [Reply.ofPrevious]
    all_goals
      unfold stepBack
      dsimp only
      split <;> rfl
  | jump => exact .nothing _ _ (by simp) (by simp) rfl rfl
  | record ongoing id value => exact .answer id value ongoing rfl ongoing
  | save => exact .nothing _ _ (by simp) (by simp) rfl rfl

theorem Noting.filed {now : Time.Instant} {live : Live} {state : State} {m : Move}
    {note : Option (Log → Log)} {reply : Reply} (h : Noting now live state m note reply) :
    ∀ f ∈ note, ∀ log : Log, (f log).session = log.session := by
  cases h with
  | nothing => rintro _ ⟨⟩
  | answer | finish => rintro _ ⟨⟩ log; rfl

variable [SessionIds]

theorem Move.outcome (m : Move) (now : Time.Instant) (live : Live) (c : Connection) :
    Outcome now (some live) c (.move m) (m.perform storage now ⟨some live, c⟩).1
      (m.perform storage now ⟨some live, c⟩).2.live
      (m.perform storage now ⟨some live, c⟩).2.contents := by
  rw [perform_eq_run]
  cases planned : m.plan now live with
  | refuse e => exact .fails _ e c rfl
  | stay reply => exact .stays m live reply rfl planned
  | go state note reply =>
    have going : ∀ mid, c.Noted state.session note mid →
        Outcome now (some live) c (.move m)
          ((Plan.go state none reply).run storage now live.questionnaire ⟨some live, mid⟩).1
          ((Plan.go state none reply).run storage now live.questionnaire ⟨some live, mid⟩).2.live
          ((Plan.go state none reply).run storage now live.questionnaire
            ⟨some live, mid⟩).2.contents := by
      intro mid noted
      rw [Plan.run_go]
      rcases called : storage.updateSession now state.session (.ofState state) mid with ⟨e | _, d⟩
      · exact .lags m live state note reply e mid d rfl planned noted called
      · obtain ⟨_, impossible, -⟩ | ⟨-, record, found, saved⟩ :=
          Connection.updateSession_cases called
        · cases impossible
        · have whole : d = mid.after .updateSession (mid.store.saveState now record state) := by
            simp only [storage] at called
            rw [Connection.eq_after called, saved]
            rfl
          rw [whole]
          exact .goes m live state note reply record mid rfl planned noted found
    cases note with
    | none => exact going c .nothing
    | some note =>
      rw [Plan.run_note]
      rcases loaded : storage.loadLog state.session c with ⟨e | log, d⟩
      · exact .fails _ _ d (Connection.loadLog_cases loaded)
      · obtain ⟨found, rfl⟩ := Connection.loadLog_found loaded
        dsimp only
        rcases saved : storage.saveLog (note log) (c.after .loadLog c.store) with ⟨e | a, d⟩
        · simp only [storage] at saved
          have same := Connection.store_of_error saved
          exact .fails _ _ d same
        · rw [Connection.saveLog_saved saved]
          exact going _ (.note note log found)

theorem Operation.start_outcome (questionnaire : String) (now : Time.Instant)
    (live : Option Live) (c : Connection) :
    Outcome now live c (start questionnaire)
      ((start questionnaire).perform storage now ⟨live, c⟩).1
      ((start questionnaire).perform storage now ⟨live, c⟩).2.live
      ((start questionnaire).perform storage now ⟨live, c⟩).2.contents := by
  rw [run_start]
  rcases loaded : storage.loadQuestionnaire questionnaire c with ⟨_ | q, d⟩
  · exact .fails _ _ d (Connection.loadQuestionnaire_cases loaded).1
  · obtain ⟨same, there⟩ := Connection.loadQuestionnaire_cases loaded
    dsimp only
    cases questions : q.questions with
    | nil => exact .fails _ _ d same
    | cons first rest =>
      dsimp only
      rcases created : storage.createSession now questionnaire d with ⟨_ | session, e⟩
      · simp only [storage] at created
        exact .fails _ _ e ((Connection.store_of_error created).trans same)
      · obtain ⟨_, impossible, -⟩ | ⟨id, opened⟩ := Connection.createSession_cases created
        · cases impossible
        · cases id
          rw [same] at opened ⊢
          dsimp only
          rcases logged : storage.saveLog
            (.begin now (SessionIds.id (c.store.opened + 1)) questionnaire) e with ⟨_ | a, f⟩
          · simp only [storage] at logged
            exact .opens _ _ f (.inl ((Connection.store_of_error logged).trans opened))
          · have begun : f.store = c.store.openLogged now questionnaire := by
              rw [Connection.saveLog_saved logged, Connection.after, opened]
              rfl
            dsimp only
            rw [Plan.run_go]
            rcases called : storage.updateSession now _ (.ofState (.begin now questionnaire
              (SessionIds.id (c.store.opened + 1)) first.id)) f with ⟨_ | _, g⟩
            · simp only [storage] at called
              exact .opens _ _ g (.inr ((Connection.store_of_error called).trans begun))
            · obtain ⟨_, impossible, -⟩ | ⟨-, record, found, saved⟩ :=
                Connection.updateSession_cases called
              · cases impossible
              · rw [begun] at found saved
                have own : some record = some _ :=
                  found.symm.trans (c.store.get?_createSession now questionnaire)
                refine .starts questionnaire _ q first rest record g rfl (there q rfl) questions
                  ?_ saved
                rw [Option.some.inj own]

theorem Operation.load_outcome (session : String) (now : Time.Instant) (live : Option Live)
    (c : Connection) :
    Outcome now live c (load session) ((load session).perform storage now ⟨live, c⟩).1
      ((load session).perform storage now ⟨live, c⟩).2.live
      ((load session).perform storage now ⟨live, c⟩).2.contents := by
  rw [run_load]
  rcases found : storage.loadSession session c with ⟨_ | record, d⟩
  · exact .fails _ _ d (Connection.loadSession_cases found).1
  · obtain ⟨same, present⟩ := Connection.loadSession_cases found
    dsimp only
    cases stored : storedState session record with
    | error => exact .fails _ _ d same
    | ok state =>
      dsimp only
      rcases loaded : storage.loadQuestionnaire state.questionnaire d with ⟨_ | q, e⟩
      · exact .fails _ _ e ((Connection.loadQuestionnaire_cases loaded).1.trans same)
      · obtain ⟨still, there⟩ := Connection.loadQuestionnaire_cases loaded
        have shelved := there q rfl
        rw [same] at still shelved
        dsimp only
        cases checked : corruption? q state with
        | some => exact .fails _ _ e still
        | none =>
          exact .loads session record state q e (present record rfl) stored shelved checked still

theorem Operation.outcome (op : Operation) (now : Time.Instant) (i : Interview Connection) :
    Outcome now i.live i.contents op (op.perform storage now i).1
      (op.perform storage now i).2.live (op.perform storage now i).2.contents := by
  obtain ⟨live, c⟩ := i
  cases op with
  | start questionnaire => exact start_outcome questionnaire now live c
  | load session => exact load_outcome session now live c
  | move m =>
    cases live with
    | none =>
      change Outcome now none c (.move m) (m.perform storage now ⟨none, c⟩).1
        (m.perform storage now ⟨none, c⟩).2.live (m.perform storage now ⟨none, c⟩).2.contents
      rw [Move.perform_none]
      exact .fails _ _ c rfl
    | some live => exact m.outcome now live c

/-- The answers with which a session is completed are those that it had before. -/
theorem Outcome.completed_answers {now : Time.Instant} {before after : Option Live}
    {c d : Connection} {op : Operation} {answers : Answers}
    (h : Outcome now before c op (.ok (.completed answers)) after d) :
    ∃ live, before = some live ∧ answers = live.state.answers := by
  cases h with
  | stays m live reply there planned =>
    cases (Move.eq_previous_of_stay planned).2
  | goes m live state note reply record mid there planned =>
    refine ⟨live, there, ?_⟩
    cases Move.noting planned with
    | nothing _ _ _ further => exact absurd rfl (further answers)
    | finish _ same => exact same

end Inquiry.Session
