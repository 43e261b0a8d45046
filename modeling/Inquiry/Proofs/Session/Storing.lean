import Inquiry.Proofs.Questionnaire.Position
import Inquiry.Proofs.Session.Operation
import Inquiry.Proofs.Table

namespace Inquiry.Session

theorem Store.get?_createSession [SessionIds] (s : Store) (now : Time.Instant)
    (questionnaire : String) :
    (s.createSession now questionnaire).2.sessions.get? (SessionIds.id (s.opened + 1)) =
      some ⟨SessionIds.id (s.opened + 1), questionnaire, .active, now, now, none⟩ := by
  simp only [createSession, Table.get?_insert, if_true]

/-- A record after an update. -/
def Record.update (r : Record) (now : Time.Instant) (u : Update) : Record :=
  { r with status := u.status.getD r.status, state := u.state <|> r.state, updated := now }

namespace Connection

variable {α : Type} {c d : Connection}

/-- The connection after a call that leaves these tables. -/
def after (c : Connection) (k : Call) (store : Store) : Connection :=
  ⟨store, k :: c.calls, c.faults⟩

theorem run_call (k : Call) (operation : Store → Except StorageError (α × Store))
    (c : Connection) :
    call k operation c = match c.faults c.calls.length k with
      | some e => (.error e, c.after k c.store)
      | none => match operation c.store with
        | .ok (a, store) => (.ok a, c.after k store)
        | .error e => (.error e, c.after k c.store) := by
  unfold call
  cases c.faults c.calls.length k with
  | some e => rfl
  | none =>
    dsimp only
    rcases operation c.store with _ | ⟨a, store⟩ <;> rfl

/-- A call fails without effect, or it succeeds. -/
theorem call_cases {k : Call} {operation : Store → Except StorageError (α × Store)}
    {answer : Except StorageError α} (h : call k operation c = (answer, d)) :
    (∃ e, answer = .error e ∧ d.store = c.store) ∨
      ∃ a, answer = .ok a ∧ operation c.store = .ok (a, d.store) := by
  rw [run_call] at h
  cases fault : c.faults c.calls.length k with
  | some e =>
    rw [fault] at h
    cases h
    exact .inl ⟨e, rfl, rfl⟩
  | none =>
    rw [fault] at h
    dsimp only at h
    rcases result : operation c.store with e | ⟨a, store⟩
    · rw [result] at h
      cases h
      exact .inl ⟨e, rfl, rfl⟩
    · rw [result] at h
      cases h
      exact .inr ⟨a, rfl, rfl⟩

/-- A call is counted, and the faults to come stay the same. -/
theorem eq_after {k : Call} {operation : Store → Except StorageError (α × Store)}
    {answer : Except StorageError α} (h : call k operation c = (answer, d)) :
    d = c.after k d.store := by
  rw [run_call] at h
  cases fault : c.faults c.calls.length k with
  | some e =>
    rw [fault] at h
    cases h
    rfl
  | none =>
    rw [fault] at h
    dsimp only at h
    rcases result : operation c.store with e | ⟨a, store⟩ <;> rw [result] at h <;> cases h <;> rfl

theorem store_of_error {k : Call} {operation : Store → Except StorageError (α × Store)}
    {e : StorageError} (h : call k operation c = (.error e, d)) : d.store = c.store := by
  rcases call_cases h with ⟨_, -, same⟩ | ⟨_, impossible, -⟩
  · exact same
  · cases impossible

/-- A call that only reads. -/
theorem read_cases {k : Call} {read : Store → Except StorageError α}
    {answer : Except StorageError α}
    (h : call k (fun s => return (← read s, s)) c = (answer, d)) :
    d.store = c.store ∧ ∀ a, answer = .ok a → read c.store = .ok a := by
  rcases call_cases h with ⟨e, rfl, same⟩ | ⟨a, rfl, done⟩
  · exact ⟨same, fun _ impossible => nomatch impossible⟩
  · cases result : read c.store with
    | error e => simp [result, bind, Except.bind] at done
    | ok b =>
      simp [result, bind, Except.bind, pure, Except.pure] at done
      refine ⟨done.2.symm, ?_⟩
      rintro _ ⟨⟩
      rw [done.1]

variable [SessionIds]

theorem loadQuestionnaire_cases {id : String} {answer : Except StorageError Questionnaire}
    (h : storage.loadQuestionnaire id c = (answer, d)) :
    d.store = c.store ∧
      ∀ q, answer = .ok q → c.store.questionnaires.get? id = some q ∧ q.Distinct := by
  simp only [storage] at h
  obtain ⟨same, read⟩ := read_cases h
  refine ⟨same, fun q ok => ?_⟩
  have found := read q ok
  unfold Store.loadQuestionnaire at found
  split at found
  · cases found
  · rename_i stored present
    split at found
    · cases found
    · rename_i distinct
      cases found
      exact ⟨present, Questionnaire.repeatedId?_eq_none_iff.mp distinct⟩

theorem loadSession_cases {session : String} {answer : Except StorageError Record}
    (h : storage.loadSession session c = (answer, d)) :
    d.store = c.store ∧
      ∀ record, answer = .ok record → c.store.sessions.get? session = some record := by
  simp only [storage] at h
  obtain ⟨same, read⟩ := read_cases h
  refine ⟨same, fun record ok => ?_⟩
  have found := read record ok
  unfold Store.loadSession at found
  split at found
  · rename_i stored present
    cases found
    exact present
  · cases found

theorem loadLog_cases {session : String} {answer : Except StorageError Log}
    (h : storage.loadLog session c = (answer, d)) : d.store = c.store := by
  simp only [storage] at h
  exact (read_cases h).1

theorem saveLog_cases {log : Log} {answer : Except StorageError Unit}
    (h : storage.saveLog log c = (answer, d)) :
    d.store.questionnaires = c.store.questionnaires ∧ d.store.sessions = c.store.sessions ∧
      d.store.opened = c.store.opened := by
  simp only [storage] at h
  rcases call_cases h with ⟨e, -, same⟩ | ⟨_, -, done⟩
  · rw [same]
    exact ⟨rfl, rfl, rfl⟩
  · rw [Except.ok.injEq, Prod.mk.injEq] at done
    rw [← done.2]
    exact ⟨rfl, rfl, rfl⟩

/-- The log that is loaded is the one that the session has. -/
theorem loadLog_found {session : String} {log : Log}
    (h : storage.loadLog session c = (.ok log, d)) :
    c.store.logs.get? session = some log ∧ d = c.after .loadLog c.store := by
  have same := loadLog_cases h
  simp only [storage] at h
  have found := (read_cases h).2 log rfl
  have whole := eq_after h
  rw [same] at whole
  refine ⟨?_, whole⟩
  unfold Store.loadLog at found
  split at found
  · rename_i stored present
    cases found
    exact present
  · cases found

theorem saveLog_saved {log : Log} {a : Unit} (h : storage.saveLog log c = (.ok a, d)) :
    d = c.after .saveLog (c.store.saveLog log) := by
  simp only [storage] at h
  have whole := eq_after h
  rcases call_cases h with ⟨e, impossible, -⟩ | ⟨_, -, done⟩
  · cases impossible
  · rw [Except.ok.injEq, Prod.mk.injEq] at done
    rw [whole, ← done.2]

theorem createSession_cases {now : Time.Instant} {questionnaire : String}
    {answer : Except StorageError String}
    (h : storage.createSession now questionnaire c = (answer, d)) :
    (∃ e, answer = .error e ∧ d.store = c.store) ∨
      (answer = .ok (SessionIds.id (c.store.opened + 1)) ∧
        d.store = (c.store.createSession now questionnaire).2) := by
  simp only [storage] at h
  rcases call_cases h with failed | ⟨session, rfl, done⟩
  · exact .inl failed
  · rw [Except.ok.injEq] at done
    have id : session = SessionIds.id (c.store.opened + 1) := congrArg Prod.fst done.symm
    exact .inr ⟨congrArg Except.ok id, congrArg Prod.snd done.symm⟩

/-- A session is updated if it exists, and no other one is. -/
theorem updateSession_cases {now : Time.Instant} {session : String} {update : Update}
    {answer : Except StorageError Unit}
    (h : storage.updateSession now session update c = (answer, d)) :
    (∃ e, answer = .error e ∧ d.store = c.store) ∨
      (answer = .ok () ∧ ∃ record, c.store.sessions.get? session = some record ∧
        d.store = { c.store with
          sessions := c.store.sessions.insert session (record.update now update) }) := by
  simp only [storage] at h
  rcases call_cases h with failed | ⟨_, rfl, done⟩
  · exact .inl failed
  · refine .inr ⟨rfl, ?_⟩
    unfold Store.updateSession at done
    cases present : c.store.sessions.get? session with
    | none => simp [present, bind, Except.bind] at done
    | some record =>
      rw [present] at done
      exact ⟨record, rfl, (congrArg Prod.snd (Except.ok.inj done)).symm⟩

theorem updateSession_error {now : Time.Instant} {session : String} {update : Update}
    {e : StorageError} (h : storage.updateSession now session update c = (.error e, d)) :
    d = c.after .updateSession c.store := by
  simp only [storage] at h
  have whole := eq_after h
  rwa [store_of_error h] at whole

theorem loadQuestionnaire_ok {id : String} {q : Questionnaire}
    (works : c.faults c.calls.length .loadQuestionnaire = none)
    (found : c.store.questionnaires.get? id = some q) (distinct : q.Distinct) :
    storage.loadQuestionnaire id c = (.ok q, c.after .loadQuestionnaire c.store) := by
  simp only [storage, run_call, works, Store.loadQuestionnaire, found,
    Questionnaire.repeatedId?_eq_none_iff.mpr distinct]
  rfl

theorem loadSession_ok {session : String} {record : Record}
    (works : c.faults c.calls.length .loadSession = none)
    (found : c.store.sessions.get? session = some record) :
    storage.loadSession session c = (.ok record, c.after .loadSession c.store) := by
  simp only [storage, run_call, works, Store.loadSession, found]
  rfl

theorem createSession_ok (now : Time.Instant) (questionnaire : String)
    (works : c.faults c.calls.length .createSession = none) :
    storage.createSession now questionnaire c =
      (.ok (SessionIds.id (c.store.opened + 1)),
        c.after .createSession (c.store.createSession now questionnaire).2) := by
  simp only [storage, run_call, works]
  rfl

theorem updateSession_ok {session : String} {record : Record} (now : Time.Instant)
    (update : Update) (works : c.faults c.calls.length .updateSession = none)
    (found : c.store.sessions.get? session = some record) :
    storage.updateSession now session update c =
      (.ok (), c.after .updateSession { c.store with
        sessions := c.store.sessions.insert session (record.update now update) }) := by
  simp only [storage, run_call, works, Store.updateSession, found]
  rfl

theorem loadLog_ok {session : String} {log : Log}
    (works : c.faults c.calls.length .loadLog = none)
    (found : c.store.logs.get? session = some log) :
    storage.loadLog session c = (.ok log, c.after .loadLog c.store) := by
  simp only [storage, run_call, works, Store.loadLog, found]
  rfl

theorem saveLog_ok (log : Log) (works : c.faults c.calls.length .saveLog = none) :
    storage.saveLog log c = (.ok (), c.after .saveLog (c.store.saveLog log)) := by
  simp only [storage, run_call, works]

end Connection

end Inquiry.Session
