import Inquiry.Proofs.Session.Storing

namespace Inquiry.Session

open Interview

/-- States that differ in their times only. -/
def State.Alike (s t : State) : Prop :=
  ∃ started updated, t = { s with started := started, updated := updated }

/-- Sessions under way that differ in the times of their states only. -/
structure Live.Alike (l m : Live) : Prop where
  questionnaire : l.questionnaire = m.questionnaire
  state : l.state.Alike m.state

/-- Plans that differ in times only. -/
inductive Plan.Alike : Plan → Plan → Prop
  | refuse (e : InterviewError) : Alike (.refuse e) (.refuse e)
  | stay (reply : Reply) : Alike (.stay reply) (.stay reply)
  | go {s t : State} (states : s.Alike t) (reply : Reply) :
      Alike (.go s none reply) (.go t none reply)
  | note {s t : State} {f g : Log → Log} (states : s.Alike t)
      (left : ∀ log, (f log).session = log.session)
      (right : ∀ log, (g log).session = log.session) (reply : Reply) :
      Alike (.go s (some f) reply) (.go t (some g) reply)

theorem Move.planOngoing_alike (m : Move) {l k : Live} (alike : l.Alike k)
    (now later : Time.Instant) :
    (m.planOngoing now l).Alike (m.planOngoing later k) := by
  obtain ⟨q, s⟩ := l
  obtain ⟨_, _⟩ := k
  obtain ⟨rfl, started, updated, rfl⟩ := alike
  cases m with
  | next =>
    simp only [planOngoing]
    cases shown : s.current with
    | none => exact .refuse _
    | some current =>
      dsimp only
      cases lookAhead s.answers (s.index + 1) (q.questions.drop (s.index + 1)) with
      | error bad => exact .refuse _
      | ok outlook =>
        obtain ⟨passed, _ | ⟨position, question⟩⟩ := outlook
        · simp only [moveOn, shown]
          refine .note ⟨started, later, rfl⟩ ?_ ?_ _ <;> exact fun _ => rfl
        · simp only [moveOn]
          exact .go ⟨started, later, rfl⟩ _
  | previous =>
    simp only [planOngoing]
    split
    · exact .stay _
    · have target : (stepBack ⟨q, s⟩ now).2 =
          (stepBack ⟨q, { s with started := started, updated := updated }⟩ later).2 := by
        simp only [stepBack]
        split <;> rfl
      rw [← target]
      refine .go ⟨started, later, ?_⟩ _
      simp only [stepBack]
      split <;> rfl
  | jump id =>
    simp only [planOngoing]
    split
    · exact .go ⟨started, later, rfl⟩ _
    · exact .refuse _
  | record id answer =>
    simp only [planOngoing]
    split
    · refine .note ⟨started, later, rfl⟩ ?_ ?_ _ <;> exact fun _ => rfl
    · exact .refuse _
  | save => exact .go ⟨started, updated, rfl⟩ _

theorem Move.plan_alike (m : Move) {l k : Live} (alike : l.Alike k) (now later : Time.Instant) :
    (m.plan now l).Alike (m.plan later k) := by
  have completed : k.state.completed = l.state.completed := by
    obtain ⟨-, _, _, eq⟩ := alike
    rw [eq]
  have session : k.state.session = l.state.session := by
    obtain ⟨-, _, _, eq⟩ := alike
    rw [eq]
  unfold plan
  rw [completed, session]
  split
  · exact .refuse _
  · exact m.planOngoing_alike alike now later

/-- Tables with the same sessions, and with logs of the same sessions under the same ids. -/
structure Store.Alike (s t : Store) : Prop where
  sessions : ∀ id, s.sessions.contains id = t.sessions.contains id
  logs : ∀ id, (s.logs.get? id).map (·.session) = (t.logs.get? id).map (·.session)

/-- Connections to such tables over which the same calls are going to fail. -/
structure Connection.Alike (c d : Connection) : Prop where
  stores : c.store.Alike d.store
  faults : ∀ n k, c.faults (c.calls.length + n) k = d.faults (d.calls.length + n) k

/-- Interviews that differ in times only. -/
structure Interview.Alike (i j : Interview Connection) : Prop where
  live : ∃ l m, i.live = some l ∧ j.live = some m ∧ l.Alike m
  contents : i.contents.Alike j.contents

namespace Connection

variable {α β : Type} {c d : Connection}

/-- Two calls that fail alike, or succeed with related answers. -/
inductive Agree (R : α → β → Prop) :
    Except StorageError α × Connection → Except StorageError β × Connection → Prop
  | error (e : StorageError) {c d : Connection} (alike : c.Alike d) :
      Agree R (.error e, c) (.error e, d)
  | ok {a : α} {b : β} {c d : Connection} (related : R a b) (alike : c.Alike d) :
      Agree R (.ok a, c) (.ok b, d)

theorem Alike.after (alike : c.Alike d) (k : Call) {s t : Store} (stores : s.Alike t) :
    (c.after k s).Alike (d.after k t) := by
  refine ⟨stores, ?_⟩
  intro n l
  have := alike.faults (n + 1) l
  simpa [Connection.after, Nat.add_comm, Nat.add_left_comm] using this

theorem call_agree {R : α → β → Prop} (k : Call)
    {left : Store → Except StorageError (α × Store)}
    {right : Store → Except StorageError (β × Store)} (alike : c.Alike d)
    (agree : (∃ e, left c.store = .error e ∧ right d.store = .error e) ∨
      ∃ a s b t, left c.store = .ok (a, s) ∧ right d.store = .ok (b, t) ∧ R a b ∧ s.Alike t) :
    Agree R (call k left c) (call k right d) := by
  rw [run_call, run_call, ← (show c.faults c.calls.length k = d.faults d.calls.length k from
    alike.faults 0 k)]
  cases c.faults c.calls.length k with
  | some e => exact .error e (alike.after k alike.stores)
  | none =>
    rcases agree with ⟨e, fails, fails'⟩ | ⟨a, s, b, t, answers, answers', related, stores⟩
    · simp only [fails, fails']
      exact .error e (alike.after k alike.stores)
    · simp only [answers, answers']
      exact .ok related (alike.after k stores)

variable [SessionIds]

theorem loadLog_agree (alike : c.Alike d) (session : String) :
    Agree (fun a b : Log => a.session = b.session) (storage.loadLog session c)
      (storage.loadLog session d) := by
  simp only [storage]
  apply call_agree .loadLog alike
  have logs := alike.stores.logs session
  unfold Store.loadLog
  cases left : c.store.logs.get? session with
  | none =>
    cases right : d.store.logs.get? session with
    | none => exact .inl ⟨_, rfl, rfl⟩
    | some b => simp [left, right] at logs
  | some a =>
    cases right : d.store.logs.get? session with
    | none => simp [left, right] at logs
    | some b =>
      simp [left, right] at logs
      exact .inr ⟨a, c.store, b, d.store, rfl, rfl, logs, alike.stores⟩

theorem saveLog_agree (alike : c.Alike d) {a b : Log} (session : a.session = b.session) :
    Agree (fun _ _ : Unit => True) (storage.saveLog a c) (storage.saveLog b d) := by
  simp only [storage]
  apply call_agree .saveLog alike
  refine .inr ⟨(), _, (), _, rfl, rfl, trivial, alike.stores.sessions, ?_⟩
  intro id
  simp only [Store.saveLog, Table.get?_insert, session]
  split
  · simp [session]
  · exact alike.stores.logs id

theorem updateSession_agree (alike : c.Alike d) {s t : State} (states : s.Alike t)
    (now later : Time.Instant) :
    Agree (fun _ _ : Unit => True) (storage.updateSession now s.session (.ofState s) c)
      (storage.updateSession later t.session (.ofState t) d) := by
  obtain ⟨started, updated, rfl⟩ := states
  simp only [storage]
  apply call_agree .updateSession alike
  have sessions := alike.stores.sessions s.session
  unfold Store.updateSession
  unfold Table.contains at sessions
  cases left : c.store.sessions.get? s.session with
  | none =>
    cases right : d.store.sessions.get? s.session with
    | none => exact .inl ⟨.sessionNotFound s.session, rfl, rfl⟩
    | some b => simp [left, right] at sessions
  | some a =>
    cases right : d.store.sessions.get? s.session with
    | none => simp [left, right] at sessions
    | some b =>
      refine .inr ⟨(), _, (), _, rfl, rfl, trivial, ?_, alike.stores.logs⟩
      intro id
      rw [Bool.eq_iff_iff, Table.contains_insert, Table.contains_insert, alike.stores.sessions]

end Connection

/-- The same replies, and interviews that differ in times only. -/
def Replies (x y : Except InterviewError Reply × Interview Connection) : Prop :=
  x.1 = y.1 ∧ x.2.Alike y.2

variable [SessionIds] {l m : Live} {c d : Connection} {s t : State}

theorem Plan.run_go_alike (lives : l.Alike m) (alike : c.Alike d) (states : s.Alike t)
    (q : Questionnaire) (reply : Reply) (now later : Time.Instant) :
    Replies ((go s none reply).run Connection.storage now q ⟨some l, c⟩)
      ((go t none reply).run Connection.storage later q ⟨some m, d⟩) := by
  rw [run_go, run_go]
  have saved := Connection.updateSession_agree alike states now later
  generalize Connection.storage.updateSession now s.session (.ofState s) c = left at saved ⊢
  generalize Connection.storage.updateSession later t.session (.ofState t) d = right at saved ⊢
  cases saved with
  | error e alike => exact ⟨rfl, ⟨l, m, rfl, rfl, lives⟩, alike⟩
  | ok _ alike => exact ⟨rfl, ⟨⟨q, s⟩, ⟨q, t⟩, rfl, rfl, rfl, states⟩, alike⟩

theorem Plan.run_alike {p r : Plan} (plans : p.Alike r) (lives : l.Alike m) (alike : c.Alike d)
    (q : Questionnaire) (now later : Time.Instant) :
    Replies (p.run Connection.storage now q ⟨some l, c⟩)
      (r.run Connection.storage later q ⟨some m, d⟩) := by
  cases plans with
  | refuse | stay => exact ⟨rfl, ⟨l, m, rfl, rfl, lives⟩, alike⟩
  | go states reply => exact run_go_alike lives alike states q reply now later
  | @note s t f g states left right reply =>
    rw [run_note, run_note]
    have session : t.session = s.session := by
      obtain ⟨_, _, rfl⟩ := states
      rfl
    have loaded := Connection.loadLog_agree alike s.session
    rw [session]
    generalize Connection.storage.loadLog s.session c = x at loaded ⊢
    generalize Connection.storage.loadLog s.session d = y at loaded ⊢
    cases loaded with
    | error e alike => exact ⟨rfl, ⟨l, m, rfl, rfl, lives⟩, alike⟩
    | @ok a b c d same alike =>
      have saved := Connection.saveLog_agree alike (a := f a) (b := g b) (by rw [left, right, same])
      dsimp only
      generalize Connection.storage.saveLog (f a) c = x at saved ⊢
      generalize Connection.storage.saveLog (g b) d = y at saved ⊢
      cases saved with
      | error e alike => exact ⟨rfl, ⟨l, m, rfl, rfl, lives⟩, alike⟩
      | ok _ alike => exact run_go_alike lives alike states q reply now later

theorem Move.perform_alike (move : Move) {i j : Interview Connection} (alike : i.Alike j)
    (now later : Time.Instant) :
    Replies (move.perform Connection.storage now i) (move.perform Connection.storage later j) := by
  obtain ⟨live, c⟩ := i
  obtain ⟨live', d⟩ := j
  obtain ⟨⟨l, m, rfl, rfl, lives⟩, connections⟩ := alike
  rw [perform_eq_run, perform_eq_run, ← lives.questionnaire]
  exact Plan.run_alike (move.plan_alike lives now later) lives connections l.questionnaire now later

/-- The same moves, made at any times, are answered alike. -/
theorem Move.performAll_alike {xs ys : List (Time.Instant × Move)}
    (moves : xs.map (·.2) = ys.map (·.2)) {i j : Interview Connection} (alike : i.Alike j) :
    performAll Connection.storage xs i = performAll Connection.storage ys j := by
  induction xs generalizing ys i j with
  | nil =>
    rw [List.map_nil, eq_comm, List.map_eq_nil_iff] at moves
    rw [moves]
    rfl
  | cons x xs ih =>
    cases ys with
    | nil => simp at moves
    | cons y ys =>
      obtain ⟨now, move⟩ := x
      obtain ⟨later, move'⟩ := y
      rw [List.map_cons, List.map_cons, List.cons.injEq] at moves
      obtain ⟨same, rest⟩ := moves
      subst same
      obtain ⟨reply, after⟩ := move.perform_alike alike now later
      unfold performAll
      rw [reply, ih rest after]

end Inquiry.Session
