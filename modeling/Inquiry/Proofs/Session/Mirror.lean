import Inquiry.Proofs.Session.Renaming

/-!
Tables that several interviews use, beside the tables that one of them would have alone.

The two agree on the sessions of that interview, up to times and ids. A program of it reads and
writes in no other session, so the tables go on to agree as it goes on. Main statements:
`Program.Like.call`, by which both sides make the same call, and `Program.Like.frame`, by which the
call concerns nobody else.
-/
namespace Inquiry.Session

open Connection (storage)

namespace Request

/-- What a call comes to on tables if it is carried out. -/
def on [SessionIds] (s : Store) : (r : Request) → Except StorageError r.Answer × Store
  | loadQuestionnaire id => (s.loadQuestionnaire id, s)
  | createSession now questionnaire =>
    (.ok (s.createSession now questionnaire).1, (s.createSession now questionnaire).2)
  | loadSession session => (s.loadSession session, s)
  | updateSession now session update =>
    match s.updateSession now session update with
    | .ok t => (.ok (), t)
    | .error e => (.error e, s)
  | loadLog session => (s.loadLog session, s)
  | saveLog log => (.ok (), s.saveLog log)

/-- The session that a call opened, if it opened one. -/
def opened : (r : Request) → Except StorageError r.Answer → List String
  | createSession _ _, .ok session => [session]
  | _, _ => []

theorem on_questionnaires [SessionIds] (r : Request) (s : Store) :
    (r.on s).2.questionnaires = s.questionnaires := by
  cases r with
  | updateSession now session update =>
    simp only [on, Store.updateSession]
    cases s.sessions.get? session <;> rfl
  | loadQuestionnaire | createSession | loadSession | loadLog | saveLog => rfl

theorem on_opened [SessionIds] (r : Request) (s : Store) :
    (r.on s).2.opened = s.opened + (r.opened (r.on s).1).length := by
  cases r with
  | updateSession now session update =>
    simp only [on, Store.updateSession]
    cases s.sessions.get? session <;> rfl
  | loadQuestionnaire | createSession | loadSession | loadLog | saveLog => rfl

theorem opened_eq {r : Request} {answer : Except StorageError r.Answer} {session : String}
    (new : session ∈ r.opened answer) : r.opened answer = [session] := by
  cases r with
  | createSession =>
    cases answer with
    | error => cases new
    | ok => rw [List.mem_singleton.mp new]; rfl
  | loadQuestionnaire | loadSession | updateSession | loadLog | saveLog => cases new

/-- Sessions are opened in the order of their numbers. -/
theorem mem_opened [SessionIds] {r : Request} {s : Store} {session : String}
    (new : session ∈ r.opened (r.on s).1) :
    session = SessionIds.id (s.opened + 1) ∧ (r.on s).2.opened = s.opened + 1 := by
  cases r with
  | createSession => exact ⟨List.mem_singleton.mp new, rfl⟩
  | loadQuestionnaire | loadSession | updateSession | loadLog | saveLog => cases new

end Request

namespace Connection

def Works (c : Connection) : Prop := ∀ n k, c.faults n k = none

variable {α : Type} {c : Connection}

theorem call_works (works : c.Works) (k : Call)
    (operation : Store → Except StorageError (α × Store)) :
    call k operation c = match operation c.store with
      | .ok (a, store) => (.ok a, c.after k store)
      | .error e => (.error e, c.after k c.store) := by
  have answered := run_call k operation c
  rw [works c.calls.length k] at answered
  exact answered

theorem read_works (works : c.Works) (k : Call) (read : Store → Except StorageError α) :
    call k (fun s => return (← read s, s)) c = (read c.store, c.after k c.store) := by
  rw [call_works works]
  cases read c.store <;> rfl

/-- A call that does not fail answers what the tables say, and leaves what it makes of them. -/
theorem make_works [SessionIds] (works : c.Works) (r : Request) :
    ∃ k, r.make storage c = ((r.on c.store).1, c.after k (r.on c.store).2) := by
  cases r with
  | loadQuestionnaire id =>
    exact ⟨_, read_works works .loadQuestionnaire fun s => s.loadQuestionnaire id⟩
  | createSession now questionnaire =>
    exact ⟨_, call_works works .createSession fun s => .ok (s.createSession now questionnaire)⟩
  | loadSession session => exact ⟨_, read_works works .loadSession fun s => s.loadSession session⟩
  | updateSession now session update =>
    refine ⟨.updateSession, (call_works works .updateSession fun s =>
      return ((), ← s.updateSession now session update)).trans ?_⟩
    simp only [Request.on]
    cases c.store.updateSession now session update <;> rfl
  | loadLog session => exact ⟨_, read_works works .loadLog fun s => s.loadLog session⟩
  | saveLog log => exact ⟨_, call_works works .saveLog fun s => .ok ((), s.saveLog log)⟩

end Connection

def Store.Agree (session : String) (s t : Store) : Prop :=
  t.sessions.get? session = s.sessions.get? session ∧ t.logs.get? session = s.logs.get? session

theorem Store.Agree.trans {session : String} {s t u : Store} (h : s.Agree session t)
    (k : t.Agree session u) : s.Agree session u :=
  ⟨k.1.trans h.1, k.2.trans h.2⟩

/-- The tables `t` that an interview with sessions of its own would have alone, beside the tables
`s`, if both began as `base`. -/
structure Store.Mirrors (f : String → String) (own : List String) (base s t : Store) : Prop where
  questionnaires : t.questionnaires = s.questionnaires
  opened : t.opened = base.opened + own.length
  records : ∀ session ∈ own, ∃ record other, s.sessions.get? session = some record ∧
    t.sessions.get? (f session) = some other ∧ record.Like f session other
  logs : ∀ session ∈ own,
    Option.Rel (Log.Like f session) (s.logs.get? session) (t.logs.get? (f session))
  others : ∀ session ∉ own.map f, base.Agree session t

namespace Store.Mirrors

variable {f : String → String} {own : List String} {base s s' t : Store} {session : String}

theorem frame (h : Mirrors f own base s t) (questionnaires : s'.questionnaires = s.questionnaires)
    (same : ∀ session ∈ own, s.Agree session s') : Mirrors f own base s' t := by
  refine ⟨h.questionnaires.trans questionnaires.symm, h.opened, ?_, ?_, h.others⟩
  · intro session mem
    rw [(same session mem).1]
    exact h.records session mem
  · intro session mem
    rw [(same session mem).2]
    exact h.logs session mem

theorem createSession [SessionIds] (h : Mirrors f own base s t) (now later : Time.Instant)
    (questionnaire : String) (id : f (SessionIds.id (s.opened + 1)) = SessionIds.id (t.opened + 1))
    (new : SessionIds.id (s.opened + 1) ∉ own) (apart : SessionIds.id (t.opened + 1) ∉ own.map f)
    (left : s.logs.get? (SessionIds.id (s.opened + 1)) = none)
    (right : t.logs.get? (SessionIds.id (t.opened + 1)) = none) :
    Mirrors f (own ++ [SessionIds.id (s.opened + 1)]) base (s.createSession now questionnaire).2
      (t.createSession later questionnaire).2 := by
  have old : ∀ session ∈ own, session ≠ SessionIds.id (s.opened + 1) ∧
      f session ≠ SessionIds.id (t.opened + 1) := by
    intro session mem
    exact ⟨fun eq => new (eq ▸ mem), fun eq => apart (eq ▸ List.mem_map_of_mem mem)⟩
  refine ⟨h.questionnaires, ?_, ?_, ?_, ?_⟩
  · rw [List.length_append, ← Nat.add_assoc, ← h.opened]
    rfl
  · intro session mem
    rw [get?_sessions_createSession, get?_sessions_createSession]
    rcases List.mem_append.mp mem with mem | mem
    · rw [if_neg (old session mem).1, if_neg (old session mem).2]
      exact h.records session mem
    · cases List.mem_singleton.mp mem
      rw [id]
      exact ⟨_, _, if_pos rfl, if_pos rfl, ⟨rfl, id.symm⟩, rfl, rfl, .none⟩
  · intro session mem
    change Option.Rel _ (s.logs.get? session) (t.logs.get? (f session))
    rcases List.mem_append.mp mem with mem | mem
    · exact h.logs session mem
    · cases List.mem_singleton.mp mem
      rw [id, left, right]
      exact .none
  · intro session other
    rw [List.map_append, List.mem_append, not_or] at other
    rw [Agree, get?_sessions_createSession, if_neg fun eq => other.2 (by simp [eq, id])]
    exact h.others session other.1

/-- What is written in a session of its own is written alike on both sides. -/
theorem updateSession (h : Mirrors f own base s t)
    (apart : ∀ a ∈ own, ∀ b ∈ own, f a = f b → a = b) (mem : session ∈ own)
    {record other : Record} (found : s.sessions.get? session = some record)
    (there : t.sessions.get? (f session) = some other) (like : record.Like f session other)
    {u v : Update} (updates : u.Like f session v) (now later : Time.Instant) :
    Mirrors f own base
      { s with sessions := s.sessions.insert session (record.update now u) }
      { t with sessions := t.sessions.insert (f session) (other.update later v) } := by
  refine ⟨h.questionnaires, h.opened, ?_, h.logs, ?_⟩
  · intro id own
    simp only [Table.get?_insert]
    by_cases here : id = session
    · subst here
      obtain ⟨state, told, rfl, rfl, states, same, ends⟩ := updates
      refine ⟨_, _, if_pos rfl, if_pos rfl, like.id, like.questionnaire, ?_, ?_⟩
      · obtain ⟨started, updated, rfl⟩ := states
        rfl
      · exact .some ⟨state, told, rfl, rfl, states, same, ends⟩
    · rw [if_neg here, if_neg fun eq => here (apart id own session mem eq)]
      exact h.records id own
  · intro id other
    have elsewhere : id ≠ f session := fun eq => other (eq ▸ List.mem_map_of_mem mem)
    rw [Agree, Table.get?_insert, if_neg elsewhere]
    exact h.others id other

theorem saveLog (h : Mirrors f own base s t)
    (apart : ∀ a ∈ own, ∀ b ∈ own, f a = f b → a = b) (mem : session ∈ own) {l m : Log}
    (logs : l.Like f session m) : Mirrors f own base (s.saveLog l) (t.saveLog m) := by
  refine ⟨h.questionnaires, h.opened, h.records, ?_, ?_⟩
  · intro id own
    rw [get?_logs_saveLog, get?_logs_saveLog, logs.session.1, logs.session.2]
    by_cases here : id = session
    · rw [if_pos here, if_pos (congrArg f here), here]
      exact .some logs
    · rw [if_neg here, if_neg fun eq => here (apart id own session mem eq)]
      exact h.logs id own
  · intro id other
    have elsewhere : id ≠ m.session := by
      rw [logs.session.2]
      exact fun eq => other (eq ▸ List.mem_map_of_mem mem)
    rw [Agree, get?_logs_saveLog, if_neg elsewhere]
    exact h.others id other

end Store.Mirrors

namespace Program.Like

variable {f : String → String} {own : List String} {base s t : Store} {r : Request}
  {next : Except StorageError r.Answer → Program Result} {other : Program Result}

theorem answered_loadQuestionnaire (same : t.questionnaires = s.questionnaires) (id : String) :
    Answered f (fun q r : Questionnaire => r = q ∧ q.Distinct) (s.loadQuestionnaire id)
      (t.loadQuestionnaire id) := by
  unfold Store.loadQuestionnaire
  rw [same]
  cases s.questionnaires.get? id with
  | none => exact .error (.questionnaireNotFound id)
  | some q =>
    dsimp only
    cases repeated : q.repeatedId? with
    | none => exact .ok ⟨rfl, Questionnaire.repeatedId?_eq_none_iff.mp repeated⟩
    | some question => exact .error (.repeatedQuestion q.id question)

theorem answered_loadSession {session : String} (mem : session ∈ own)
    (mirrors : Store.Mirrors f own base s t) :
    Answered f (Record.LikeOwn f own session) (s.loadSession session)
      (t.loadSession (f session)) := by
  obtain ⟨record, other, found, there, like⟩ := mirrors.records session mem
  simp only [Store.loadSession, found, there]
  exact .ok ⟨like, fun _ => mem⟩

theorem answered_loadLog {session : String} (mem : session ∈ own)
    (mirrors : Store.Mirrors f own base s t) :
    Answered f (Log.Like f session) (s.loadLog session) (t.loadLog (f session)) := by
  have logs := mirrors.logs session mem
  unfold Store.loadLog
  generalize s.logs.get? session = log, t.logs.get? (f session) = other at logs
  cases logs with
  | none => exact .error (.logNotFound session)
  | some like => exact .ok like

/-- What a program has to find if it is to go on with a call. -/
structure Ready [SessionIds] (f : String → String) (own : List String) (s t : Store)
    (r : Request) : Prop where
  /-- A session that is opened is one that was told, and nothing is known of it yet. -/
  opens : ∀ session ∈ r.opened (r.on s).1, f session = SessionIds.id (t.opened + 1) ∧
    session ∉ own ∧ f session ∉ own.map f ∧ s.logs.get? session = none ∧
    t.logs.get? (f session) = none
  loads : ∀ session, r = .loadSession session →
    Answered f (Record.LikeOwn f own session) (s.loadSession session) (t.loadSession (f session))

/-- Like programs make the same call and go on alike, each on its own tables. -/
theorem call [SessionIds] (like : Like f own (.ask r next) other)
    (mirrors : Store.Mirrors f own base s t) (apart : ∀ a ∈ own, ∀ b ∈ own, f a = f b → a = b)
    (ready : Ready f own s t r) : ∃ r' next', other = .ask r' next' ∧
      Like f (own ++ r.opened (r.on s).1) (next (r.on s).1) (next' (r'.on t).1) ∧
      Store.Mirrors f (own ++ r.opened (r.on s).1) base (r.on s).2 (r'.on t).2 := by
  generalize opened : own ++ r.opened (r.on s).1 = owned
  have silent : r.opened (r.on s).1 = [] → owned = own := by
    intro none
    rw [← opened, none, List.append_nil]
  cases like with
  | loadQuestionnaire id further =>
    have answered := further _ _ (answered_loadQuestionnaire mirrors.questionnaires id)
    exact silent rfl ▸ ⟨_, _, rfl, answered, mirrors⟩
  | createSession now later questionnaire further =>
    obtain ⟨id, new, separate, left, right⟩ := ready.opens _ (List.mem_singleton_self _)
    have created : f (SessionIds.id (s.opened + 1)) = SessionIds.id (t.opened + 1) := id
    have onward := further (SessionIds.id (s.opened + 1))
    rw [created] at onward
    rw [id] at separate right
    exact opened ▸ ⟨_, _, rfl, onward,
      mirrors.createSession now later questionnaire created new separate left right⟩
  | loadSession session further =>
    exact silent rfl ▸ ⟨_, _, rfl, further _ _ (ready.loads session rfl), mirrors⟩
  | updateSession now later mem updates further =>
    obtain ⟨record, there, found, present, records⟩ := mirrors.records _ mem
    refine silent rfl ▸ ⟨_, _, rfl, further _ _ ?_, ?_⟩
    · simp only [Request.on, Store.updateSession, found, present]
      exact .ok rfl
    · simp only [Request.on, Store.updateSession, found, present]
      exact mirrors.updateSession apart mem found present records updates now later
  | loadLog mem further =>
    exact silent rfl ▸ ⟨_, _, rfl, further _ _ (answered_loadLog mem mirrors), mirrors⟩
  | saveLog mem logs further =>
    exact silent rfl ▸ ⟨_, _, rfl, further _ _ (.ok rfl), mirrors.saveLog apart mem logs⟩

/-- A call of a program concerns only sessions of its own. -/
theorem frame [SessionIds] (like : Like f own (.ask r next) other) {session : String}
    (elsewhere : session ∉ own ++ r.opened (r.on s).1) : s.Agree session (r.on s).2 := by
  rw [List.mem_append, not_or] at elsewhere
  obtain ⟨notOwn, notNew⟩ := elsewhere
  cases like with
  | loadQuestionnaire | loadSession | loadLog => exact ⟨rfl, rfl⟩
  | createSession now later questionnaire =>
    refine ⟨?_, rfl⟩
    have old : session ≠ SessionIds.id (s.opened + 1) :=
      fun eq => notNew (List.mem_singleton.mpr eq)
    exact (s.get?_sessions_createSession now questionnaire session).trans (if_neg old)
  | updateSession now later mem =>
    have other := ne_of_mem_of_not_mem mem notOwn
    simp only [Request.on, Store.updateSession]
    split
    · rename_i updated done
      split at done
      · cases done
        exact ⟨(Table.get?_insert ..).trans (if_neg other.symm), rfl⟩
      · cases done
    · exact ⟨rfl, rfl⟩
  | saveLog mem logs =>
    have other := ne_of_mem_of_not_mem mem notOwn
    refine ⟨rfl, (s.get?_logs_saveLog _ session).trans (if_neg ?_)⟩
    rw [logs.session.1]
    exact other.symm

end Program.Like

end Inquiry.Session
