import Inquiry.Proofs.Session.Ledger
import Inquiry.Proofs.Session.Canonical

/-!
Interviews over one storage that take turns, one whole operation at a time.

Whether a session is completed is decided by what is under way, and not by what is stored. So an
interview that resumed the session before it was completed can open it again. Main statement:
`Serial.completed_stays`, by which nobody else does.
-/
namespace Inquiry.Session

open Interview
open Connection (storage)

/-- A record that has no state yet, or one as an interview saves it. -/
inductive Record.Kept (r : Record) : Prop
  | blank (state : r.state = none) (status : r.status = .active)
  | told (state : State) (tells : r.state = some state.toJson) (status : r.status = .ofState state)
      (ends : ∀ id, state.current = some id → state.history.getLast? = some id)

/-- Tables as interviews leave them: no session to be opened takes the place of another one, and
every record and every log is kept as it should be. -/
structure Store.Tidy [SessionIds] (s : Store) : Prop where
  numbered : ∀ id record, s.sessions.get? id = some record →
    ∃ n ≤ s.opened, SessionIds.id n = id
  filed : s.FiledLogs
  records : ∀ id record, s.sessions.get? id = some record → record.Kept

variable {now : Time.Instant} {before after : Option Live} {c d mid : Connection} {live : Live}
  {state : State} {m : Move} {note : Option (Log → Log)} {reply : Reply} {op : Operation}
  {answer : Except InterviewError Reply} {session : String} {record : Record} {s : Store}

/-- In a session that is completed nothing but saving it anew goes on. -/
theorem Move.go_of_completed (completed : live.state.completed = true)
    (planned : m.plan now live = .go state note reply) :
    m = .save ∧ state = live.state ∧ note = none := by
  have goes := m.planned now live
  rw [planned] at goes
  cases goes with
  | save => exact ⟨rfl, rfl, rfl⟩
  | onward ongoing | finish ongoing | back ongoing | jump ongoing | record ongoing =>
    cases completed.symm.trans ongoing

/-- A completed session is saved with a completed state. -/
theorem Record.Kept.completed (kept : record.Kept) (completed : record.status = .completed)
    (tells : record.state = some state.toJson) : state.completed = true := by
  cases kept with
  | blank none => exact nomatch none.symm.trans tells
  | told told written status =>
    have same : told.Same state :=
      State.toJson_eq_iff.mp (Option.some.inj (written.symm.trans tells))
    rw [completed, same.eq, eq_comm] at status
    exact Status.ofState_eq_completed_iff.mp status

theorem Record.Kept.tells_of_stored (kept : record.Kept)
    (stored : storedState session record = .ok state) : record.state = some state.toJson := by
  cases kept with
  | blank none =>
    obtain ⟨json, told, -⟩ := of_storedState stored
    exact nomatch none.symm.trans told
  | told told tells status ends => exact eq_of_storedState ends tells stored ▸ tells

theorem Record.kept_update (record : Record) (now : Time.Instant)
    (ends : ∀ id, state.current = some id → state.history.getLast? = some id) :
    (record.update now (.ofState state)).Kept :=
  .told state rfl rfl ends

section

variable [SessionIds]

namespace Store.Tidy

theorem new_ne (h : s.Tidy) (found : s.sessions.get? session = some record) :
    session ≠ SessionIds.id (s.opened + 1) := by
  rintro new
  obtain ⟨n, le, number⟩ := h.numbered session record found
  have := SessionIds.id_injective (number.trans new)
  omega

theorem createSession (h : s.Tidy) (now : Time.Instant) (questionnaire : String) :
    (s.createSession now questionnaire).2.Tidy := by
  refine ⟨?_, h.filed, ?_⟩
  · intro id record found
    rw [get?_sessions_createSession] at found
    split at found
    · rename_i new
      exact ⟨s.opened + 1, Nat.le_refl _, new.symm⟩
    · obtain ⟨n, le, number⟩ := h.numbered id record found
      exact ⟨n, Nat.le_succ_of_le le, number⟩
  · intro id record found
    rw [get?_sessions_createSession] at found
    split at found
    · cases found
      exact .blank rfl rfl
    · exact h.records id record found

theorem saveLog (h : s.Tidy) (log : Log) : (s.saveLog log).Tidy :=
  ⟨h.numbered, h.filed.saveLog log, h.records⟩

theorem saveState (h : s.Tidy) (now : Time.Instant)
    (ends : ∀ id, state.current = some id → state.history.getLast? = some id)
    (number : ∃ n ≤ s.opened, SessionIds.id n = state.session) (record : Record) :
    (s.saveState now record state).Tidy := by
  refine ⟨?_, h.filed, ?_⟩
  · intro id other there
    rw [get?_sessions_saveState] at there
    split at there
    · rename_i own
      exact own ▸ number
    · exact h.numbered id other there
  · intro id other there
    rw [get?_sessions_saveState] at there
    split at there
    · cases there
      exact record.kept_update now ends
    · exact h.records id other there

theorem noted (h : c.store.Tidy) (noted : c.Noted session note mid) : mid.store.Tidy := by
  cases noted with
  | nothing => exact h
  | note f log found => exact h.saveLog (f log)

/-- Whichever calls fail, an operation leaves the tables tidy. -/
theorem outcome (h : c.store.Tidy) (stand : ∀ l ∈ before, l.Stands)
    (outcome : Outcome now before c op answer after d) : d.store.Tidy := by
  cases outcome with
  | fails op e d same => exact same ▸ h
  | opens questionnaire e d left =>
    rcases left with left | left <;> rw [left]
    · exact h.createSession now questionnaire
    · exact (h.createSession now questionnaire).saveLog _
  | starts questionnaire id q first rest record d fresh loaded questions own saved =>
    subst fresh
    rw [saved]
    refine ((h.createSession now questionnaire).saveLog _).saveState now ?_ ?_ record
    · rintro _ ⟨⟩
      rfl
    · exact ⟨c.store.opened + 1, Nat.le_refl _, rfl⟩
  | loads id record state q d found stored loaded checked same => exact same ▸ h
  | stays => exact h
  | lags m live state note reply e mid d there planned noted failed =>
    rw [Connection.updateSession_error failed]
    change mid.store.Tidy
    exact h.noted noted
  | goes m live state note reply record mid there planned noted found =>
    have stands := (Move.leads planned).stands (stand live there)
    have tidy := h.noted noted
    exact tidy.saveState now (fun id shown => (stands.shown id shown).2)
      (tidy.numbered _ record found) record

end Store.Tidy

/-- A session under way whose state is not the one that is stored. -/
def Store.Outdated (s : Store) (session : String) (live : Live) : Prop :=
  live.state.session = session ∧
    ∀ record, s.sessions.get? session = some record → record.state ≠ some live.state.toJson

/-- A session that is stored as completed, with its state and its log. -/
structure Store.Settled (s : Store) (session : String) (state : Option Json) (log : Option Log) :
    Prop where
  record : ∃ record, s.sessions.get? session = some record ∧ record.status = .completed ∧
    record.state = state
  log : s.logs.get? session = log

namespace Store.Settled

variable {json : Option Json} {log : Option Log} {t : Store}

omit [SessionIds] in
theorem congr (h : s.Settled session json log)
    (sessions : t.sessions.get? session = s.sessions.get? session)
    (logs : t.logs.get? session = s.logs.get? session) : t.Settled session json log :=
  ⟨sessions ▸ h.record, logs.trans h.log⟩

/-- What is under way of a completed session and up to date is completed, and is what is stored. -/
theorem completed_of_current (h : s.Settled session json log) (tidy : s.Tidy)
    (own : live.state.session = session) (current : ¬ s.Outdated session live) :
    live.state.completed = true ∧ json = some live.state.toJson := by
  obtain ⟨record, found, completed, told⟩ := h.record
  have tells : record.state = some live.state.toJson := by
    by_contra other
    refine current ⟨own, fun another there => ?_⟩
    rw [found, Option.some_inj] at there
    exact there ▸ other
  exact ⟨(tidy.records session record found).completed completed tells, told.symm.trans tells⟩

omit [SessionIds] in
theorem not_outdated (h : s.Settled session json log)
    (told : live.state.session = session → json = some live.state.toJson) :
    ¬ s.Outdated session live := by
  rintro ⟨own, other⟩
  obtain ⟨record, found, -, holds⟩ := h.record
  exact other record found (holds.trans (told own))

/-- What a move notes is noted in another session, if the move is not made on an outdated state. In
this one it can only save what is stored. -/
theorem noted (h : c.store.Settled session json log) (tidy : c.store.Tidy)
    (current : ¬ c.store.Outdated session live) (planned : m.plan now live = .go state note reply)
    (noted : c.Noted state.session note mid) :
    mid.store.Settled session json log ∧
      (state.session = session → state.completed = true ∧ json = some state.toJson) := by
  have moved := (Move.leads planned).session
  by_cases here : live.state.session = session
  · obtain ⟨completed, told⟩ := h.completed_of_current tidy here current
    obtain ⟨rfl, rfl, rfl⟩ := Move.go_of_completed completed planned
    cases noted
    exact ⟨h, fun _ => ⟨completed, told⟩⟩
  · have elsewhere : session ≠ state.session := fun eq => here (moved.symm.trans eq.symm)
    have logs := noted.get?_logs tidy.filed (Move.noting planned).filed session
    rw [if_neg elsewhere] at logs
    have sessions := congrArg (·.get? session) noted.same.1
    exact ⟨h.congr sessions logs, fun eq => absurd eq.symm elsewhere⟩

omit [SessionIds] in
theorem saveState (h : s.Settled session json log) (now : Time.Instant) (record : Record)
    (own : state.session = session → state.completed = true ∧ json = some state.toJson) :
    (s.saveState now record state).Settled session json log := by
  have sessions := s.get?_sessions_saveState now record state session
  by_cases here : session = state.session
  · obtain ⟨completed, told⟩ := own here.symm
    rw [if_pos here] at sessions
    exact ⟨⟨_, sessions, Status.ofState_eq_completed_iff.mpr completed, told.symm⟩, h.log⟩
  · rw [if_neg here] at sessions
    exact h.congr sessions rfl

theorem openLogged (h : s.Settled session json log) (tidy : s.Tidy) (now : Time.Instant)
    (questionnaire : String) :
    (s.createSession now questionnaire).2.Settled session json log ∧
      (s.openLogged now questionnaire).Settled session json log := by
  obtain ⟨record, found, -⟩ := h.record
  have old := tidy.new_ne found
  have sessions := s.get?_sessions_createSession now questionnaire session
  have logs := s.get?_logs_openLogged now questionnaire session
  rw [if_neg old] at sessions logs
  exact ⟨h.congr sessions rfl, h.congr sessions logs⟩

/-- An operation leaves a completed session as it is if it is no move on an outdated state of it. -/
theorem outcome (h : c.store.Settled session json log) (tidy : c.store.Tidy)
    (heeds : ∀ m, op = .move m → ∀ l ∈ before, ¬ c.store.Outdated session l)
    (outcome : Outcome now before c op answer after d) : d.store.Settled session json log := by
  cases outcome with
  | fails op e d same => exact same ▸ h
  | opens questionnaire e d left =>
    obtain ⟨created, logged⟩ := h.openLogged tidy now questionnaire
    rcases left with left | left <;> rw [left]
    · exact created
    · exact logged
  | starts questionnaire id q first rest record d fresh loaded questions own saved =>
    subst fresh
    rw [saved]
    obtain ⟨old, found, -⟩ := h.record
    refine (h.openLogged tidy now questionnaire).2.saveState now record fun here => ?_
    exact absurd here.symm (tidy.new_ne found)
  | loads id record state q d found stored loaded checked same => exact same ▸ h
  | stays => exact h
  | lags m live state note reply e mid d there planned noted failed =>
    rw [Connection.updateSession_error failed]
    change mid.store.Settled session json log
    exact (h.noted tidy (heeds m rfl live there) planned noted).1
  | goes m live state note reply record mid there planned noted found =>
    obtain ⟨settled, own⟩ := h.noted tidy (heeds m rfl live there) planned noted
    exact settled.saveState now record own

/-- What an operation leaves under way of a completed session is up to date, if what was under way
before is. -/
theorem outcome_current (h : c.store.Settled session json log) (tidy : c.store.Tidy)
    (current : ∀ l ∈ before, ¬ c.store.Outdated session l)
    (outcome : Outcome now before c op answer after d) :
    ∀ l ∈ after, l.state.session = session → json = some l.state.toJson := by
  have still : ∀ l ∈ before, l.state.session = session → json = some l.state.toJson :=
    fun l mem own => (h.completed_of_current tidy own (current l mem)).2
  cases outcome with
  | fails | opens | stays | lags => exact still
  | starts questionnaire id q first rest record d fresh loaded questions own saved =>
    subst fresh
    obtain ⟨old, found, -⟩ := h.record
    rintro _ ⟨⟩ here
    exact absurd here.symm (tidy.new_ne found)
  | loads id record state q d found stored loaded checked same =>
    rintro _ ⟨⟩ here
    obtain ⟨_, -, -, own⟩ := of_storedState stored
    obtain ⟨settled, there, -, told⟩ := h.record
    rw [← own, here, there, Option.some_inj] at found
    subst found
    rw [← told]
    exact (tidy.records session _ there).tells_of_stored stored
  | goes m live state note reply record mid there planned noted found =>
    rintro _ ⟨⟩ here
    exact ((h.noted tidy (current live there) planned noted).2 here).2

end Store.Settled

variable {ι : Type} [DecidableEq ι]

namespace World

def perform (w : World ι) (i : ι) (now : Time.Instant) (op : Operation) : World ι :=
  let interview := (op.perform storage now ⟨(w.desks i).live, w.shared⟩).2
  w.put i ⟨interview.live, none⟩ interview.contents

def performAll (w : World ι) (turns : List (ι × Time.Instant × Operation)) : World ι :=
  turns.foldl (fun w (i, now, op) => w.perform i now op) w

def Outdated (w : World ι) (session : String) (i : ι) : Prop :=
  ∃ live, (w.desks i).live = some live ∧ w.shared.store.Outdated session live

/-- No turn is a move on an outdated state of a session. -/
def Heeds (session : String) : World ι → List (ι × Time.Instant × Operation) → Prop
  | _, [] => True
  | w, (i, now, op) :: rest =>
    (∀ m, op = .move m → ¬ w.Outdated session i) ∧ Heeds session (w.perform i now op) rest

end World

/-- What interviews come to over tidy tables if they take turns. -/
inductive Serial : World ι → Prop
  | start (c : Connection) (tidy : c.store.Tidy) : Serial ⟨c, fun _ => ⟨none, none⟩⟩
  | perform {w : World ι} (before : Serial w) (i : ι) (now : Time.Instant) (op : Operation) :
    Serial (w.perform i now op)

namespace Serial

variable {w : World ι}

theorem performAll (h : Serial w) (turns : List (ι × Time.Instant × Operation)) :
    Serial (w.performAll turns) := by
  induction turns generalizing w with
  | nil => exact h
  | cons turn rest ih => exact ih (h.perform turn.1 turn.2.1 turn.2.2)

theorem exposed (h : Serial w) : Exposed w ∧ ∀ i, (w.desks i).pending = none := by
  induction h with
  | start c => exact ⟨.start c, fun _ => rfl⟩
  | @perform w before i now op ih =>
    obtain ⟨exposed, idle⟩ := ih
    have here : w.desks i = ⟨(w.desks i).live, none⟩ := by
      rw [← idle i]
    refine ⟨exposed.turn (.perform w i _ here op now), fun j => ?_⟩
    exact World.put_desks (P := fun desk => desk.pending = none) idle i rfl _ j

theorem tidy (h : Serial w) : w.shared.store.Tidy := by
  induction h with
  | start c tidy => exact tidy
  | perform before i now op ih =>
    exact ih.outcome ((before.exposed.1.stands i).live) (op.outcome now ⟨_, _⟩)

section Completed

variable {json : Option Json} {log : Option Log}

theorem settled_perform (h : Serial w) (settled : w.shared.store.Settled session json log) (i : ι)
    (now : Time.Instant) (op : Operation) (heeds : ∀ m, op = .move m → ¬ w.Outdated session i) :
    (w.perform i now op).shared.store.Settled session json log := by
  refine settled.outcome h.tidy ?_ (op.outcome now ⟨(w.desks i).live, w.shared⟩)
  intro m move live there outdated
  exact heeds m move ⟨live, there, outdated⟩

theorem settled_performAll (h : Serial w) (settled : w.shared.store.Settled session json log)
    (turns : List (ι × Time.Instant × Operation)) (heeds : w.Heeds session turns) :
    (w.performAll turns).shared.store.Settled session json log := by
  induction turns generalizing w with
  | nil => exact settled
  | cons turn rest ih =>
    obtain ⟨i, now, op⟩ := turn
    obtain ⟨here, later⟩ := heeds
    exact ih (h.perform i now op) (h.settled_perform settled i now op here) later

/-- Once a session is completed, no operation makes a state outdated or comes to an outdated one. -/
theorem current_perform (h : Serial w) (settled : w.shared.store.Settled session json log)
    (current : ∀ i, ¬ w.Outdated session i) (i : ι) (now : Time.Instant) (op : Operation) (j : ι) :
    ¬ (w.perform i now op).Outdated session j := by
  have after := h.settled_perform settled i now op fun _ _ => current i
  have before : ∀ k, ∀ l ∈ (w.desks k).live, ¬ w.shared.store.Outdated session l :=
    fun k l there outdated => current k ⟨l, there, outdated⟩
  have told : ∀ l ∈ ((w.perform i now op).desks j).live, l.state.session = session →
      json = some l.state.toJson := by
    refine World.put_desks (P := fun desk => ∀ l ∈ desk.live, l.state.session = session →
      json = some l.state.toJson) ?_ i ?_ _ j
    · exact fun k l there own => (settled.completed_of_current h.tidy own (before k l there)).2
    · exact settled.outcome_current h.tidy (before i) (op.outcome now ⟨(w.desks i).live, w.shared⟩)
  rintro ⟨live, there, outdated⟩
  exact after.not_outdated (told live there) outdated

theorem current_performAll (h : Serial w) (settled : w.shared.store.Settled session json log)
    (current : ∀ i, ¬ w.Outdated session i) (turns : List (ι × Time.Instant × Operation)) :
    w.Heeds session turns ∧ ∀ i, ¬ (w.performAll turns).Outdated session i := by
  induction turns generalizing w with
  | nil => exact ⟨trivial, current⟩
  | cons turn rest ih =>
    obtain ⟨i, now, op⟩ := turn
    have heeds : ∀ m, op = .move m → ¬ w.Outdated session i := fun _ _ => current i
    obtain ⟨careful, later⟩ := ih (h.perform i now op)
      (h.settled_perform settled i now op heeds) (h.current_perform settled current i now op)
    exact ⟨⟨heeds, careful⟩, later⟩

end Completed

/-- Once a session is stored as completed, it stays so, with its state and its log, for as long as
no interview makes a move on an outdated state of it. If none has such a state, none ever comes to
one, and so nothing that any interview does changes what is stored. -/
theorem completed_stays (h : Serial w) {record : Record}
    (found : w.shared.store.sessions.get? session = some record)
    (completed : record.status = .completed) :
    (∀ turns, w.Heeds session turns →
      ∃ later, (w.performAll turns).shared.store.sessions.get? session = some later ∧
        later.status = .completed ∧ later.state = record.state ∧
        (w.performAll turns).shared.store.logs.get? session =
          w.shared.store.logs.get? session) ∧
    ((∀ i, ¬ w.Outdated session i) →
      ∀ turns, w.Heeds session turns ∧ ∀ i, ¬ (w.performAll turns).Outdated session i) := by
  have settled : w.shared.store.Settled session record.state (w.shared.store.logs.get? session) :=
    ⟨⟨record, found, completed, rfl⟩, rfl⟩
  constructor
  · intro turns heeds
    obtain ⟨⟨later, there, still, same⟩, log⟩ := h.settled_performAll settled turns heeds
    exact ⟨later, there, still, same, log⟩
  · exact fun current => h.current_performAll settled current

end Serial

end

/-- Two interviews that take turns over one questionnaire, over a connection without faults. The
second resumes the session of the first, with which this one goes on as told. -/
def pairWorld (later : List (Bool × Operation)) : World Bool :=
  let begun : List (Bool × Operation) := [(false, .start "form"), (true, .load "$1")]
  World.performAll ⟨.sound brokenConnection.store, fun _ => ⟨none, none⟩⟩
    ((begun ++ later).map fun (i, op) => (i, .epoch, op))

theorem pairWorld_serial (later : List (Bool × Operation)) : Serial (pairWorld later) := by
  refine (Serial.start _ ⟨?_, ?_, ?_⟩).performAll _ <;> rintro _ _ ⟨⟩

/-- The session is completed, and the second interview resumes it once more. Whatever the two do
then, it stays completed. -/
theorem completed_stays_resumed :
    let w := pairWorld [(false, .move .next), (false, .move .next), (true, .load "$1")]
    (∀ i, (w.desks i).live.isSome) ∧ ∃ record, w.shared.store.sessions.get? "$1" = some record ∧
      ∀ turns, ∃ later, (w.performAll turns).shared.store.sessions.get? "$1" = some later ∧
        later.status = .completed ∧ later.state = record.state ∧
        (w.performAll turns).shared.store.logs.get? "$1" = w.shared.store.logs.get? "$1" := by
  intro w
  have status : (w.shared.store.sessions.get? "$1").map (·.status) = some .completed := by
    decide +kernel
  have told : ∀ i, (w.desks i).live.map (·.state.toJson) =
      (w.shared.store.sessions.get? "$1").bind (·.state) := by
    decide +kernel
  obtain ⟨record, found, completed⟩ := Option.map_eq_some_iff.mp status
  have current : ∀ i, ¬ w.Outdated "$1" i := by
    rintro i ⟨live, there, -, outdated⟩
    have same := told i
    rw [there, found] at same
    exact outdated record found same.symm
  obtain ⟨stays, heeds⟩ := (pairWorld_serial _).completed_stays found completed
  exact ⟨by decide +kernel, record, found, fun turns => stays turns (heeds current turns).1⟩

/-- The second interview still has the state that it resumed before the session was completed. It
records an answer, by which the session goes on, with another answer and another log. -/
theorem completed_reopened :
    let w := pairWorld [(false, .move .next), (false, .move .next)]
    let v := w.perform true .epoch (.move (.record "a" (.string "x")))
    Serial w ∧ (∀ n k, w.shared.faults n k = none) ∧
      (w.shared.store.sessions.get? "$1").map (·.status) = some .completed ∧
      (w.shared.store.sessions.get? "$1").bind (·.state >>= Json.field? "responses") =
        some (.array []) ∧
      (w.shared.store.logs.get? "$1").map (·.entries) = some [] ∧
      (v.shared.store.sessions.get? "$1").map (·.status) = some .active ∧
      (v.shared.store.sessions.get? "$1").bind (·.state >>= Json.field? "responses") =
        some (.array [.array [.string "a", .string "x"]]) ∧
      (v.shared.store.logs.get? "$1").map (·.entries) = some [⟨"a", .string "x", .epoch⟩] := by
  refine ⟨pairWorld_serial _, fun _ _ => rfl, ?_⟩
  decide +kernel

end Inquiry.Session
