import Inquiry.Proofs.Session.Durable
import Inquiry.Proofs.Session.Exposure
import Inquiry.Proofs.Session.Outcome
import Inquiry.Proofs.Session.Trail

/-!
What the tables hold of one session: its record against its log, and its log against the answers
that were to be recorded.

The log is written ahead: what an operation notes is noted before the state that goes with it is
saved. If a call fails in between, the log is left with a note that no record accounts for. Main
statement: `Books.outcome`, by which every operation keeps the books, whichever calls fail.
-/
namespace Inquiry.Session

open Interview
open Connection (storage)

/-- Every log is kept under the session that it names. -/
def Store.FiledLogs (s : Store) : Prop :=
  ∀ id log, s.logs.get? id = some log → log.session = id

/-- A log with all answers acknowledged in a session, and no others than were to be recorded. -/
structure Log.Ahead (log : Log) (session : String) (trail : List Attempt) (state : State) :
    Prop where
  noLess : (acknowledged session trail).Sublist log.entries
  noMore : log.entries.Sublist (attempted session trail)
  closed : state.completed = true → log.completed.isSome = true ∧ log.answered = state.answers.size

/-- A log with exactly the answers acknowledged in a session. -/
structure Log.Level (log : Log) (session : String) (trail : List Attempt) (state : State) :
    Prop where
  entries : log.entries = acknowledged session trail
  answered : log.answered = state.answers.size
  completed : log.completed.isSome = state.completed

/-- What the tables hold of a session with the answers that were to be recorded in it. Without
faults the log is level with the state. -/
inductive Standing (session : String) (faultless : Prop) (live : Option Live) (s : Store)
    (trail : List Attempt) : Prop
  /-- No state of the session was saved yet. -/
  | blank (record : ∀ r, s.sessions.get? session = some r → r.state = none ∧ r.status = .active)
      (log : ∀ l, s.logs.get? session = some l → l.entries = [])
      (silent : attempted session trail = [])
      (elsewhere : ∀ l ∈ live, l.state.session ≠ session)
  | saved (state : State) (record : Record) (log : Log) (own : state.session = session)
      (ends : ∀ id, state.current = some id → state.history.getLast? = some id)
      (recorded : s.sessions.get? session = some record) (tells : record.Tells state)
      (logged : s.logs.get? session = some log) (ahead : log.Ahead session trail state)
      (level : faultless → log.Level session trail state)
      (answers : state.answers = .ofEntries (acknowledged session trail))
      (here : ∀ l ∈ live, l.state.session = session → l.state = state)

variable {now : Time.Instant} {before after : Option Live} {live : Live} {state : State}
  {m : Move} {note : Option (Log → Log)} {reply : Reply} {log : Log} {session : String}
  {trail : List Attempt}

section Attempts

theorem Operation.attempts_of_silent (silent : ∀ id value, m ≠ .record id value)
    (before : Option Live) (answer : Except InterviewError Reply) :
    (Operation.move m).attempts now before answer = [] := by
  cases m with
  | record id value => exact absurd rfl (silent id value)
  | next | previous | jump | save => rfl

theorem Operation.attempts_next (before : Option Live) (answer : Except InterviewError Reply) :
    (Operation.move .next).attempts now before answer = [] := rfl

theorem attempted_record (here : live.state.session = session) (id : String) (value : Json)
    (answer : Except InterviewError Reply) :
    attempted session ((Operation.move (.record id value)).attempts now (some live) answer) =
      [⟨id, value, now⟩] := by
  simp [Operation.attempts, attempted, here]

theorem acknowledged_record (here : live.state.session = session) (id : String) (value : Json)
    (reply : Reply) :
    acknowledged session
      ((Operation.move (.record id value)).attempts now (some live) (.ok reply)) =
      [⟨id, value, now⟩] := by
  simp [Operation.attempts, acknowledged, here, Except.isOk, Except.toBool]

end Attempts

namespace Noting

/-- What is noted although the move fails was at least attempted. -/
theorem ahead_of_fails (h : Noting now live state m note reply)
    (here : live.state.session = session) (ahead : log.Ahead session trail live.state)
    (e : InterviewError) :
    ((note.getD id) log).Ahead session
      (trail ++ (Operation.move m).attempts now (some live) (.error e)) live.state := by
  cases h with
  | nothing _ _ silent =>
    rw [Operation.attempts_of_silent silent, List.append_nil]
    exact ahead
  | answer id value ongoing =>
    refine ⟨?_, ?_, fun completed => absurd completed (by simp [ongoing])⟩
    · rw [acknowledged_append, acknowledged_attempts, List.append_nil]
      exact ahead.noLess.trans (List.sublist_append_left _ _)
    · rw [attempted_append, attempted_record here]
      exact ahead.noMore.append_right _
  | finish ongoing =>
    rw [Operation.attempts_next, List.append_nil]
    exact ⟨ahead.noLess, ahead.noMore, fun completed => absurd completed (by simp [ongoing])⟩

theorem ahead (h : Noting now live state m note reply) (here : live.state.session = session)
    (ahead : log.Ahead session trail live.state) :
    ((note.getD id) log).Ahead session
      (trail ++ (Operation.move m).attempts now (some live) (.ok reply)) state := by
  cases h with
  | nothing _ _ silent _ answers completed =>
    rw [Operation.attempts_of_silent silent, List.append_nil]
    refine ⟨ahead.noLess, ahead.noMore, ?_⟩
    rw [completed, answers]
    exact ahead.closed
  | answer id value _ _ completed =>
    refine ⟨?_, ?_, fun closed => absurd closed (by simp [completed])⟩
    · rw [acknowledged_append, acknowledged_record here]
      exact ahead.noLess.append_right _
    · rw [attempted_append, attempted_record here]
      exact ahead.noMore.append_right _
  | finish =>
    rw [Operation.attempts_next, List.append_nil]
    exact ⟨ahead.noLess, ahead.noMore, fun _ => ⟨rfl, rfl⟩⟩

theorem level (h : Noting now live state m note reply) (here : live.state.session = session)
    (level : log.Level session trail live.state) :
    ((note.getD id) log).Level session
      (trail ++ (Operation.move m).attempts now (some live) (.ok reply)) state := by
  cases h with
  | nothing _ _ silent _ answers completed =>
    rw [Operation.attempts_of_silent silent, List.append_nil]
    exact ⟨level.entries, answers ▸ level.answered, completed ▸ level.completed⟩
  | answer id value ongoing _ completed =>
    refine ⟨?_, rfl, ?_⟩
    · rw [acknowledged_append, acknowledged_record here, ← level.entries]
      rfl
    · rw [completed, ← ongoing]
      exact level.completed
  | finish _ _ completed =>
    rw [Operation.attempts_next, List.append_nil]
    exact ⟨level.entries, rfl, completed.symm⟩

theorem answers (h : Noting now live state m note reply) (here : live.state.session = session)
    (answers : live.state.answers = .ofEntries (acknowledged session trail)) :
    state.answers = .ofEntries (acknowledged session
      (trail ++ (Operation.move m).attempts now (some live) (.ok reply))) := by
  cases h with
  | nothing _ _ silent _ same =>
    rw [Operation.attempts_of_silent silent, List.append_nil, same, answers]
  | answer id value _ recorded =>
    rw [acknowledged_append, acknowledged_record here, Answers.ofEntries_concat, ← answers,
      recorded]
  | finish _ same => rw [Operation.attempts_next, List.append_nil, same, answers]

end Noting

section Tables

variable {c mid : Connection} {s t : Store}

theorem Store.FiledLogs.saveLog (h : s.FiledLogs) (log : Log) : (s.saveLog log).FiledLogs := by
  intro id other found
  rw [Store.get?_logs_saveLog] at found
  split at found
  · rename_i eq
    cases found
    exact eq.symm
  · exact h id other found

/-- The record of a session that was just opened holds no state. -/
theorem Store.clear_createSession [SessionIds] (now : Time.Instant) (questionnaire : String)
    (new : session = SessionIds.id (s.opened + 1)) (record : Record)
    (found : (s.createSession now questionnaire).2.sessions.get? session = some record) :
    record.state = none ∧ record.status = .active := by
  rw [get?_sessions_createSession, if_pos new] at found
  cases found
  exact ⟨rfl, rfl⟩

theorem Connection.keeps_filed [SessionIds] : storage.Keeps fun c => c.store.FiledLogs := by
  intro r c filed
  rcases called : r.make storage c with ⟨answer, d⟩
  change d.store.FiledLogs
  cases r with
  | loadQuestionnaire id => exact (loadQuestionnaire_cases called).1 ▸ filed
  | loadSession id => exact (loadSession_cases called).1 ▸ filed
  | loadLog id => exact loadLog_cases called ▸ filed
  | createSession now questionnaire =>
    rcases createSession_cases called with ⟨_, -, same⟩ | ⟨-, same⟩ <;> rw [same] <;> exact filed
  | updateSession now id update =>
    rcases updateSession_cases called with ⟨_, -, same⟩ | ⟨-, record, -, same⟩ <;> rw [same] <;>
      exact filed
  | saveLog log =>
    cases answer with
    | error e =>
      simp only [Request.make, storage] at called
      rw [store_of_error called]
      exact filed
    | ok =>
      rw [saveLog_saved called]
      exact filed.saveLog log

theorem Connection.Noted.same (h : c.Noted session note mid) :
    mid.store.sessions = c.store.sessions ∧ mid.store.opened = c.store.opened ∧
      mid.faults = c.faults := by
  cases h <;> exact ⟨rfl, rfl, rfl⟩

/-- A note changes the log of its session, and no other one. -/
theorem Connection.Noted.get?_logs (h : c.Noted session note mid) (filed : c.store.FiledLogs)
    (keeps : ∀ f ∈ note, ∀ log : Log, (f log).session = log.session) (other : String) :
    mid.store.logs.get? other =
      if other = session then (c.store.logs.get? session).map (note.getD id)
      else c.store.logs.get? other := by
  cases h with
  | nothing =>
    split
    · rename_i eq
      simp [eq]
    · rfl
  | note f log found =>
    have own : (f log).session = session := (keeps f rfl log).trans (filed session log found)
    simp only [Connection.after, Store.get?_logs_saveLog, own, found]
    rfl

end Tables

namespace Standing

variable {faultless : Prop} {s t : Store} {more : List Attempt}

/-- What leaves the record and the log of a session alone, and acknowledges nothing, keeps its
standing. An answer can be refused only in the session under way. -/
theorem frame (h : Standing session faultless before s trail)
    (sessions : t.sessions.get? session = s.sessions.get? session)
    (logs : t.logs.get? session = s.logs.get? session)
    (here : ∀ l ∈ after, l.state.session = session → l ∈ before)
    (refused : acknowledged session more = [])
    (silent : (∀ l ∈ before, l.state.session ≠ session) → attempted session more = []) :
    Standing session faultless after t (trail ++ more) := by
  cases h with
  | blank record log nothing elsewhere =>
    refine .blank (sessions ▸ record) (logs ▸ log) ?_ ?_
    · rw [attempted_append, nothing, silent elsewhere]
      rfl
    · intro l mem own
      exact elsewhere l (here l mem own) own
  | saved state record log own ends recorded tells logged ahead level answers stands =>
    -- An attempt that is refused counts only among those that the log may have.
    have same : acknowledged session (trail ++ more) = acknowledged session trail := by
      rw [acknowledged_append, refused, List.append_nil]
    refine .saved state record log own ends (sessions.trans recorded) tells (logs.trans logged)
      ?_ ?_ (same ▸ answers) fun l mem own => stands l (here l mem own) own
    · refine ⟨same ▸ ahead.noLess, ?_, ahead.closed⟩
      rw [attempted_append]
      exact ahead.noMore.trans (List.sublist_append_left _ _)
    · intro works
      exact ⟨same ▸ (level works).entries, (level works).answered, (level works).completed⟩

/-- What happens to other sessions does not concern this one. -/
theorem others (h : Standing session faultless before s trail)
    (sessions : t.sessions.get? session = s.sessions.get? session)
    (logs : t.logs.get? session = s.logs.get? session)
    (here : ∀ l ∈ after, l.state.session = session → l ∈ before)
    (silent : attempted session more = []) :
    Standing session faultless after t (trail ++ more) := by
  refine h.frame sessions logs here ?_ fun _ => silent
  have none := acknowledged_sublist session more
  rwa [silent, List.sublist_nil] at none

theorem congr (h : Standing session faultless before s trail)
    (sessions : t.sessions.get? session = s.sessions.get? session)
    (logs : t.logs.get? session = s.logs.get? session)
    (here : ∀ l ∈ after, l.state.session = session → l ∈ before) :
    Standing session faultless after t trail := by
  have framed : Standing session faultless after t (trail ++ []) := h.others sessions logs here rfl
  rwa [List.append_nil] at framed

end Standing

variable [SessionIds]

/-- What the tables hold of a session, and that no session to be opened takes its place. -/
structure Books (session : String) (faultless : Prop) (live : Option Live) (s : Store)
    (trail : List Attempt) : Prop where
  numbered : ∀ record, s.sessions.get? session = some record →
    ∃ n ≤ s.opened, SessionIds.id n = session
  standing : Standing session faultless live s trail

namespace Books

variable {faultless : Prop} {before after : Option Live} {s : Store}

/-- Of a session that is yet to be opened there is no state. -/
theorem fresh (h : Books session faultless before s trail)
    (new : session = SessionIds.id (s.opened + 1)) :
    (∀ log, s.logs.get? session = some log → log.entries = []) ∧ attempted session trail = [] ∧
      ∀ l ∈ before, l.state.session ≠ session := by
  have absent : s.sessions.get? session = none := by
    cases found : s.sessions.get? session with
    | none => rfl
    | some record =>
      obtain ⟨n, le, number⟩ := h.numbered record found
      have := SessionIds.id_injective (number.trans new)
      omega
  cases h.standing with
  | blank record log silent elsewhere => exact ⟨log, silent, elsewhere⟩
  | saved state record log own ends recorded =>
    rw [absent] at recorded
    cases recorded

theorem numbered_createSession (h : Books session faultless before s trail) (now : Time.Instant)
    (questionnaire : String) (record : Record)
    (found : (s.createSession now questionnaire).2.sessions.get? session = some record) :
    ∃ n ≤ s.opened + 1, SessionIds.id n = session := by
  rw [Store.get?_sessions_createSession] at found
  split at found
  · rename_i new
    exact ⟨s.opened + 1, Nat.le_refl _, new.symm⟩
  · obtain ⟨n, le, number⟩ := h.numbered record found
    exact ⟨n, Nat.le_succ_of_le le, number⟩

theorem createSession (h : Books session faultless before s trail) (now : Time.Instant)
    (questionnaire : String) :
    Books session faultless before (s.createSession now questionnaire).2 trail := by
  refine ⟨h.numbered_createSession now questionnaire, ?_⟩
  by_cases new : session = SessionIds.id (s.opened + 1)
  · obtain ⟨log, silent, elsewhere⟩ := h.fresh new
    exact .blank (Store.clear_createSession now questionnaire new) log silent elsewhere
  · refine h.standing.congr ?_ rfl fun _ mem _ => mem
    rw [Store.get?_sessions_createSession, if_neg new]

theorem openLogged (h : Books session faultless before s trail) (now : Time.Instant)
    (questionnaire : String) :
    Books session faultless before (s.openLogged now questionnaire) trail := by
  refine ⟨h.numbered_createSession now questionnaire, ?_⟩
  by_cases new : session = SessionIds.id (s.opened + 1)
  · obtain ⟨-, silent, elsewhere⟩ := h.fresh new
    refine .blank (Store.clear_createSession now questionnaire new) ?_ silent elsewhere
    intro log found
    rw [Store.get?_logs_openLogged, if_pos new] at found
    cases found
    rfl
  · refine h.standing.congr ?_ ?_ fun _ mem _ => mem
    · exact (Store.get?_sessions_createSession ..).trans (if_neg new)
    · rw [Store.get?_logs_openLogged, if_neg new]

/-- A session that starts is the one opened, with an empty log. -/
theorem starts (h : Books session faultless before s trail) (now : Time.Instant)
    (questionnaire first : String) (q : Questionnaire) {record : Record}
    (own : record.questionnaire = questionnaire) :
    Books session faultless
      (some ⟨q, .begin now questionnaire (SessionIds.id (s.opened + 1)) first⟩)
      ((s.openLogged now questionnaire).saveState now record
        (.begin now questionnaire (SessionIds.id (s.opened + 1)) first)) trail := by
  have opened := h.openLogged now questionnaire
  refine ⟨?_, ?_⟩
  · intro other found
    rw [Store.get?_sessions_saveState] at found
    split at found
    · rename_i new
      exact ⟨s.opened + 1, Nat.le_refl _, new.symm⟩
    · exact opened.numbered other found
  · by_cases new : session = SessionIds.id (s.opened + 1)
    · obtain ⟨-, silent, -⟩ := h.fresh new
      -- No answer was acknowledged before there was a session to record it in.
      have nothing : acknowledged session trail = [] := by
        rw [← List.sublist_nil, ← silent]
        exact acknowledged_sublist session trail
      let state := State.begin now questionnaire (SessionIds.id (s.opened + 1)) first
      have tells : (record.update now (.ofState state)).Tells state := ⟨rfl, rfl, own⟩
      refine .saved state _ (.begin now (SessionIds.id (s.opened + 1)) questionnaire) new.symm ?_
        ?_ tells ?_ ⟨?_, List.nil_sublist _, fun closed : false = true => nomatch closed⟩ ?_ ?_ ?_
      · rintro _ ⟨⟩
        rfl
      · exact (Store.get?_sessions_saveState ..).trans (if_pos new)
      · exact (Store.get?_logs_openLogged ..).trans (if_pos new)
      · rw [nothing]
        exact List.nil_sublist _
      · exact fun _ => ⟨nothing.symm, rfl, rfl⟩
      · rw [nothing]
        rfl
      · rintro _ ⟨⟩ -
        rfl
    · refine opened.standing.congr ?_ rfl ?_
      · exact (Store.get?_sessions_saveState ..).trans (if_neg new)
      · rintro _ ⟨⟩ here
        exact absurd here.symm new

theorem loads (h : Books session faultless before s trail) {id : String} {record : Record}
    {state : State} (found : s.sessions.get? id = some record)
    (stored : storedState id record = .ok state) (q : Questionnaire) :
    Books session faultless (some ⟨q, state⟩) s trail := by
  obtain ⟨json, told, -, own⟩ := of_storedState stored
  refine ⟨h.numbered, ?_⟩
  by_cases here : id = session
  · subst here
    cases h.standing with
    | blank clear =>
      rw [(clear record found).1] at told
      cases told
    | saved state' record' log own' ends recorded tells logged ahead level answers =>
      rw [found, Option.some_inj] at recorded
      subst recorded
      -- What is read is what was saved, so the log goes with it as it did.
      have same := eq_of_storedState ends tells.state stored
      refine .saved state' record log own' ends found tells logged ahead level answers ?_
      rintro _ ⟨⟩ -
      exact same.symm
  · refine h.standing.congr rfl rfl ?_
    rintro _ ⟨⟩ other
    exact absurd (own.symm.trans other) here

variable {c mid d : Connection}

/-- If the state is not saved, the note stays, and the record is as it was. -/
theorem lags (h : Books session (∀ n k, c.faults n k = none) (some live) c.store trail)
    (filed : c.store.FiledLogs) (leads : Leads now live state)
    (noting : Noting now live state m note reply) (noted : c.Noted state.session note mid)
    {e : StorageError}
    (failed : storage.updateSession now state.session (.ofState state) mid = (.error e, d)) :
    Books session (∀ n k, c.faults n k = none) (some live) d.store
      (trail ++ (Operation.move m).attempts now (some live) (.error (.storage e))) := by
  obtain ⟨sessions, opened, faults⟩ := noted.same
  have logs := noted.get?_logs filed noting.filed session
  rw [Connection.updateSession_error failed]
  change Books session _ _ mid.store _
  refine ⟨by rw [sessions, opened]; exact h.numbered, ?_⟩
  by_cases here : live.state.session = session
  · have own : session = state.session := (leads.session.trans here).symm
    cases h.standing with
    | blank _ _ _ elsewhere => exact absurd here (elsewhere live rfl)
    | saved _ record log own' ends recorded tells logged ahead level answers under =>
      obtain rfl := under live rfl here
      rw [if_pos own, ← own, logged] at logs
      refine .saved live.state record ((note.getD id) log) here ends (sessions ▸ recorded) tells
        logs (noting.ahead_of_fails here ahead _) ?_ ?_ under
      · -- Without faults there is a record to save the state with, so that does not fail.
        intro works
        have saved := Connection.updateSession_ok now (.ofState state)
          (faults ▸ works _ _) (own ▸ sessions ▸ recorded)
        rw [failed] at saved
        cases saved
      · rw [acknowledged_append, acknowledged_attempts, List.append_nil]
        exact answers
  · have own : session ≠ state.session := fun eq => here (leads.session.symm.trans eq.symm)
    rw [if_neg own] at logs
    refine h.standing.others (by rw [sessions]) logs (fun _ mem _ => mem) ?_
    apply attempted_attempts
    rintro _ ⟨⟩
    exact here

theorem goes (h : Books session faultless (some live) c.store trail) (filed : c.store.FiledLogs)
    (leads : Leads now live state) (stands : state.Stands live.questionnaire)
    (noting : Noting now live state m note reply) (noted : c.Noted state.session note mid)
    {record : Record} (found : mid.store.sessions.get? state.session = some record) :
    Books session faultless (some ⟨live.questionnaire, state⟩)
      (mid.store.saveState now record state)
      (trail ++ (Operation.move m).attempts now (some live) (.ok reply)) := by
  obtain ⟨sessions, opened, -⟩ := noted.same
  have logs := noted.get?_logs filed noting.filed session
  have records := mid.store.get?_sessions_saveState now record state session
  refine ⟨?_, ?_⟩
  · intro other there
    rw [records] at there
    change ∃ n ≤ mid.store.opened, _
    rw [opened]
    split at there
    · rename_i own
      exact h.numbered record (own ▸ sessions ▸ found)
    · exact h.numbered other (sessions ▸ there)
  · by_cases here : live.state.session = session
    · have own : session = state.session := (leads.session.trans here).symm
      cases h.standing with
      | blank _ _ _ elsewhere => exact absurd here (elsewhere live rfl)
      | saved _ record' log own' ends recorded tells logged ahead level answers under =>
        obtain rfl := under live rfl here
        rw [← own, sessions, recorded, Option.some_inj] at found
        subst found
        rw [if_pos own] at records
        rw [if_pos own, ← own, logged] at logs
        refine .saved state _ ((note.getD id) log) own.symm
          (fun _ shown => (stands.shown _ shown).2) records
          ⟨rfl, rfl, tells.questionnaire.trans leads.questionnaire.symm⟩ logs
          (noting.ahead here ahead) (fun works => noting.level here (level works))
          (noting.answers here answers) ?_
        rintro _ ⟨⟩ -
        rfl
    · have own : session ≠ state.session := fun eq => here (leads.session.symm.trans eq.symm)
      rw [if_neg own, sessions] at records
      rw [if_neg own] at logs
      refine h.standing.others records logs ?_ ?_
      · rintro _ ⟨⟩ eq
        exact absurd eq.symm own
      · apply attempted_attempts
        rintro _ ⟨⟩
        exact here

/-- What an operation comes to keeps the books, with what it attempts to record. -/
theorem outcome (h : Books session (∀ n k, c.faults n k = none) before c.store trail)
    (filed : c.store.FiledLogs) (stand : ∀ l ∈ before, l.Stands) {op : Operation}
    {answer : Except InterviewError Reply}
    (outcome : Outcome now before c op answer after d) :
    Books session (∀ n k, c.faults n k = none) after d.store
      (trail ++ op.attempts now before answer) := by
  cases outcome with
  | fails op e d same =>
    rw [same]
    refine ⟨h.numbered, h.standing.frame rfl rfl (fun _ mem _ => mem) ?_ ?_⟩
    · exact acknowledged_attempts now before e op
    · exact fun elsewhere => attempted_attempts elsewhere now (.error e) op
  | opens questionnaire e d left =>
    change Books session _ _ _ (trail ++ [])
    rw [List.append_nil]
    rcases left with left | left <;> rw [left]
    · exact h.createSession now questionnaire
    · exact h.openLogged now questionnaire
  | starts questionnaire id q first rest record d fresh loaded questions own saved =>
    change Books session _ _ _ (trail ++ [])
    rw [List.append_nil, saved, fresh]
    exact h.starts now questionnaire first.id q own
  | loads id record state q d found stored loaded checked same =>
    change Books session _ _ _ (trail ++ [])
    rw [List.append_nil, same]
    exact h.loads found stored q
  | stays m live reply there planned =>
    obtain ⟨rfl, -⟩ := Move.eq_previous_of_stay planned
    change Books session _ _ _ (trail ++ [])
    rw [List.append_nil]
    exact h
  | lags m live state note reply e mid d there planned noted failed =>
    subst there
    exact h.lags filed (Move.leads planned) (Move.noting planned) noted failed
  | goes m live state note reply record mid there planned noted found =>
    subst there
    have leads := Move.leads planned
    exact h.goes filed leads (leads.stands (stand live rfl)) (Move.noting planned) noted found

end Books

end Inquiry.Session
