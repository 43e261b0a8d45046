import Inquiry.Proofs.Session.Alike
import Inquiry.Proofs.Session.Excursion
import Inquiry.Proofs.Session.Renaming

/-!
Of the answers that are recorded one after the other, only the last one to each question counts.

Whatever was recorded in between leaves its traces in the log alone. What is left of a session and
its tables is told once for any answers (`Recording.settled`), so that two ways to record the same
last answers can be compared. Main statement: `Recording.latest_counts`.
-/
namespace Inquiry

def Json.without (name : String) : Json → Json
  | .object fields => .object (fields.filter (·.1 ≠ name))
  | value => value

namespace Session

open Interview
open Connection (storage)
open Excursion (skippedLive)

/-- The last value that is entered for a question, if one is. -/
def latest? (entries : List Entry) (id : String) : Option Json :=
  (entries.reverse.find? (·.question = id)).map (·.value)

theorem latest?_concat (entries : List Entry) (e : Entry) (id : String) :
    latest? (entries ++ [e]) id = if e.question = id then some e.value else latest? entries id := by
  unfold latest?
  rw [List.reverse_append, List.reverse_singleton, List.singleton_append, List.find?_cons]
  by_cases same : e.question = id <;> simp [same]

/-- An answer that is recorded counts before all others. -/
theorem get?_record_latest {answers base : Answers} {entries : List Entry}
    (known : ∀ id, answers.get? id = (latest? entries id).or (base.get? id)) (e : Entry)
    (id : String) : (answers.record e.question e.value).get? id =
      (latest? (entries ++ [e]) id).or (base.get? id) := by
  rw [Answers.record, Table.get?_insert, latest?_concat, known]
  by_cases same : id = e.question
  · simp [same]
  · simp [same, Ne.symm same]

theorem latest?_eq_none_iff {entries : List Entry} {id : String} :
    latest? entries id = none ↔ ∀ e ∈ entries, e.question ≠ id := by
  simp [latest?]

theorem eq_nil_of_latest? {entries : List Entry} (none : ∀ id, latest? entries id = none) :
    entries = [] := by
  refine List.eq_nil_iff_forall_not_mem.mpr fun e mem => ?_
  exact latest?_eq_none_iff.mp (none e.question) e mem rfl

/-- Answers that are recorded one after the other, each without an error. -/
inductive Recording [SessionIds] (i : Interview Connection) :
    List Entry → Interview Connection → Prop
  | start : Recording i [] i
  | record {entries : List Entry} {j k : Interview Connection} (earlier : Recording i entries j)
      (e : Entry) (done : Interview.record storage e.answered e.question e.value j = (.ok (), k)) :
      Recording i (entries ++ [e]) k

/-- A move, or a question about where a session stands. -/
inductive Action where
  | move (m : Move)
  | progress
  | isRequired
deriving DecidableEq

namespace Action

inductive Answer where
  | move (reply : Reply)
  | progress (figures : Progress)
  | isRequired (required : Bool)
deriving DecidableEq

def perform {σ : Type} (storage : Storage σ) (now : Time.Instant) : Action → Interviewing σ Answer
  | move m => do return .move (← m.perform storage now)
  | progress => do return .progress (← Interview.progress)
  | isRequired => do return .isRequired (← Interview.isRequired)

/-- Carry out actions one after the other, each at its time, whether those before fail or not. -/
def performAll {σ : Type} (storage : Storage σ) : List (Time.Instant × Action) → Interview σ →
    List (Except InterviewError Answer)
  | [], _ => []
  | (now, a) :: rest, i =>
    (a.perform storage now i).1 :: performAll storage rest (a.perform storage now i).2

end Action

/-- The snapshot that is stored of a session, but for the time of its last update. -/
def Store.snapshotOf (s : Store) (session : String) : Option Json :=
  ((s.sessions.get? session).bind (·.state)).map (·.without "lastUpdateTime")

def Store.answeredOf (s : Store) (session : String) : Option Nat :=
  (s.logs.get? session).map (·.answered)

section Alike

variable {i j : Interview Connection}

theorem Interview.isRequired_leaves {σ : Type} (live : Live) (c : σ) :
    (isRequired (⟨some live, c⟩ : Interview σ)).2 = ⟨some live, c⟩ := by
  simp only [isRequired, run_bind, run_active, run_get]
  cases (⟨some live, c⟩ : Interview σ).current? with
  | none => rfl
  | some q =>
    dsimp only
    cases q.isRequired live.state.answers <;> rfl

/-- An action is answered alike by interviews that differ in times only, and leaves them so. -/
theorem Action.perform_alike [SessionIds] (a : Action) (alike : i.Alike j)
    (now later : Time.Instant) :
    (a.perform storage now i).1 = (a.perform storage later j).1 ∧
      (a.perform storage now i).2.Alike (a.perform storage later j).2 := by
  obtain ⟨_, c⟩ := i
  obtain ⟨_, d⟩ := j
  obtain ⟨⟨⟨q, s⟩, ⟨_, _⟩, rfl, rfl, rfl, started, updated, rfl⟩, -⟩ := id alike
  cases a with
  | move m =>
    obtain ⟨reply, after⟩ := m.perform_alike alike now later
    simp only [perform, run_map]
    exact ⟨congrArg _ reply, after⟩
  | progress => exact ⟨rfl, alike⟩
  | isRequired =>
    simp only [perform, run_map, run_isRequired, isRequired_leaves, true_and]
    exact alike

theorem Action.performAll_alike [SessionIds] {xs ys : List (Time.Instant × Action)}
    (same : xs.map (·.2) = ys.map (·.2)) (alike : i.Alike j) :
    performAll storage xs i = performAll storage ys j := by
  induction xs generalizing ys i j with
  | nil =>
    rw [List.map_nil, eq_comm, List.map_eq_nil_iff] at same
    rw [same]
    rfl
  | cons x xs ih =>
    cases ys with
    | nil => simp at same
    | cons y ys =>
      obtain ⟨now, a⟩ := x
      obtain ⟨later, b⟩ := y
      rw [List.map_cons, List.map_cons, List.cons.injEq] at same
      obtain ⟨rfl, rest⟩ := same
      obtain ⟨answer, after⟩ := a.perform_alike alike now later
      unfold performAll
      rw [answer, ih rest after]

end Alike

namespace Store

variable {s : Store} {now later : Time.Instant} {record : Record} {state following : State}

theorem snapshotOf_saveState (s : Store) (now : Time.Instant) (record : Record) (state : State)
    (session : String) : (s.saveState now record state).snapshotOf session =
      if session = state.session then some (state.toJson.without "lastUpdateTime")
      else s.snapshotOf session := by
  unfold snapshotOf
  rw [get?_sessions_saveState]
  split <;> rfl

@[simp] theorem logs_saveState : (s.saveState now record state).logs = s.logs := rfl

@[simp] theorem answeredOf_saveState (session : String) :
    (s.saveState now record state).answeredOf session = s.answeredOf session := rfl

theorem answeredOf_saveLog (s : Store) (log : Log) (session : String) :
    (s.saveLog log).answeredOf session =
      if session = log.session then some log.answered else s.answeredOf session := by
  unfold answeredOf
  rw [get?_logs_saveLog]
  split <;> rfl

/-- What was saved of a session and its log is replaced by what is saved later. -/
theorem saveState_saveLog_again {log other : Log} (logs : log.session = other.session)
    (states : state.session = following.session) :
    ((((s.saveLog log).saveState now record state).saveLog other).saveState later
      (record.update now (.ofState state)) following) =
      (s.saveLog other).saveState later record following := by
  simp only [saveState, saveLog, logs, states, Table.insert_insert]
  rfl

end Store

section Recording

variable [SessionIds] {live : Live} {c : Connection} {entries : List Entry}
  {j : Interview Connection}

/-- What recording an answer comes to if it succeeds. -/
theorem Interview.record_done {now : Time.Instant} {id : String} {value : Json}
    (done : record storage now id value ⟨some live, c⟩ = (.ok (), j)) :
    ∃ (r : Record) (log : Log) (state : State),
      c.store.sessions.get? live.state.session = some r ∧
      c.store.logs.get? live.state.session = some log ∧
      state = { live.state with
        answers := live.state.answers.record id value
        updated := now } ∧
      j.live = some ⟨live.questionnaire, state⟩ ∧
      j.contents.store =
        (c.store.saveLog (log.add ⟨id, value, now⟩ state.answers.size)).saveState now r state ∧
      j.contents.faults = c.faults := by
  have performed : (Move.record id value).perform storage now ⟨some live, c⟩ = (.ok .done, j) := by
    rw [Move.perform, run_map, done]
    rfl
  have outcome := (Move.record id value).outcome now live c
  rw [performed] at outcome
  obtain ⟨after, d⟩ := j
  cases outcome with
  | stays _ live' reply there planned => cases (Move.eq_previous_of_stay planned).1
  | goes _ live' state note reply r mid there planned noted found =>
    cases there
    have goes := (Move.record id value).planned now live
    rw [planned] at goes
    cases goes with
    | record =>
      cases noted with
      | note f log logged => exact ⟨r, log, _, found, logged, rfl, rfl, rfl, rfl⟩

/-- What is left once answers are recorded, the last of them at some time: the session with these
answers on top, its record with that state, and its log with some entries and the number of answers.
All else is as it was. -/
inductive Settled (live : Live) (c : Connection) (entries : List Entry) :
    Interview Connection → Prop
  | settled (answers : Answers) (now : Time.Instant) (r : Record) (log : Log)
      (written : List Entry) (d : Connection)
      (known : ∀ id, answers.get? id = (latest? entries id).or (live.state.answers.get? id))
      (recorded : c.store.sessions.get? live.state.session = some r)
      (logged : c.store.logs.get? live.state.session = some log)
      (store : d.store = (c.store.saveLog { log with
          entries := written
          answered := answers.size }).saveState now r
        { live.state with answers, updated := now })
      (faults : d.faults = c.faults) :
      Settled live c entries
        ⟨some ⟨live.questionnaire, { live.state with answers, updated := now }⟩, d⟩

theorem Settled.record {e : Entry} {k : Interview Connection} (h : Settled live c entries j)
    (done : Interview.record storage e.answered e.question e.value j = (.ok (), k)) :
    Settled live c (entries ++ [e]) k := by
  obtain ⟨answers, now, r, log, written, d, known, recorded, logged, store, faults⟩ := h
  obtain ⟨r', log', state, recorded', logged', rfl, there, store', faults'⟩ :=
    Interview.record_done done
  obtain ⟨_, f⟩ := k
  cases there
  rw [store, Store.get?_sessions_saveState, if_pos rfl, Option.some_inj] at recorded'
  subst recorded'
  have found : log' = log ∨ log' = { log with entries := written, answered := answers.size } := by
    rw [store, Store.logs_saveState, Store.get?_logs_saveLog] at logged'
    split at logged'
    · exact .inr (Option.some.inj logged').symm
    · exact .inl (Option.some.inj (logged'.symm.trans logged))
  have noted : ∃ more, ∀ n, log'.add e n = { log with entries := more, answered := n } := by
    rcases found with rfl | rfl
    · exact ⟨_, fun n => rfl⟩
    · exact ⟨_, fun n => rfl⟩
  obtain ⟨more, noted⟩ := noted
  refine .settled _ e.answered r log more f (get?_record_latest known e) recorded logged ?_
    (faults'.trans faults)
  rw [store', noted, store]
  exact Store.saveState_saveLog_again rfl rfl

/-- Answers that are recorded leave nothing but what is told of the last ones. -/
theorem Recording.settled (h : Recording ⟨some live, c⟩ entries j) :
    entries = [] ∧ j = ⟨some live, c⟩ ∨ entries ≠ [] ∧ Settled live c entries j := by
  induction h with
  | start => exact .inl ⟨rfl, rfl⟩
  | @record entries j k earlier e done ih =>
    refine .inr ⟨List.concat_ne_nil e entries ∘ (List.concat_eq_append ▸ ·), ?_⟩
    rcases ih with ⟨rfl, rfl⟩ | ⟨-, settled⟩
    · obtain ⟨r, log, state, recorded, logged, rfl, there, store, faults⟩ :=
        Interview.record_done done
      obtain ⟨_, d⟩ := k
      cases there
      exact .settled _ e.answered r log _ d (get?_record_latest (fun _ => rfl) e) recorded logged
        store faults
    · exact settled.record done

/-- Interviews that differ in the time of the last update only: in what is under way, in what is
stored of any session, and in what is answered from then on, at whatever times. -/
structure Interview.SameButUpdated (i j : Interview Connection) : Prop where
  live : ∃ l m : Live, i.live = some l ∧ j.live = some m ∧ l.questionnaire = m.questionnaire ∧
    m.state = { l.state with updated := m.state.updated }
  snapshots : ∀ session, i.contents.store.snapshotOf session = j.contents.store.snapshotOf session
  answered : ∀ session, i.contents.store.answeredOf session = j.contents.store.answeredOf session
  onward : ∀ first second : List (Time.Instant × Action), first.map (·.2) = second.map (·.2) →
    Action.performAll storage first i = Action.performAll storage second j

theorem Interview.SameButUpdated.refl (live : Live) (c : Connection) :
    SameButUpdated ⟨some live, c⟩ ⟨some live, c⟩ := by
  refine ⟨⟨live, live, rfl, rfl, rfl, rfl⟩, fun _ => rfl, fun _ => rfl, fun first second same => ?_⟩
  have alike : live.Alike live := ⟨rfl, live.state.started, live.state.updated, rfl⟩
  exact Action.performAll_alike same
    ⟨⟨live, live, rfl, rfl, alike⟩, ⟨fun _ => rfl, fun _ => rfl⟩, fun _ _ => rfl⟩

omit [SessionIds] in
theorem State.toJson_without (s : State) (now : Time.Instant) :
    { s with updated := now }.toJson.without "lastUpdateTime" =
      s.toJson.without "lastUpdateTime" := by
  simp [toJson, snapshot, Snapshot.toJson, Json.without]

theorem Settled.sameButUpdated {others : List Entry} {k : Interview Connection}
    (works : ∀ n call, c.faults n call = none) (left : Settled live c entries j)
    (right : Settled live c others k) (same : ∀ id, latest? entries id = latest? others id) :
    j.SameButUpdated k := by
  obtain ⟨answers, now, r, log, written, d, known, recorded, logged, store, faults⟩ := left
  obtain ⟨answers', later, r', log', written', d', known', recorded', logged', store', faults'⟩ :=
    right
  -- Both found the same record and the same log.
  rw [recorded, Option.some_inj] at recorded'
  rw [logged, Option.some_inj] at logged'
  subst recorded' logged'
  have told : answers = answers' := by
    apply Table.ext
    intro id
    rw [known, known', same]
  subst told
  refine ⟨⟨_, _, rfl, rfl, rfl, rfl⟩, ?_, ?_, fun first second same => ?_⟩
  · intro session
    rw [store, store', Store.snapshotOf_saveState, Store.snapshotOf_saveState]
    refine if_congr Iff.rfl (congrArg some ?_) rfl
    exact State.toJson_without { live.state with answers, updated := later } now
  · intro session
    simp only [store, store', Store.answeredOf_saveState, Store.answeredOf_saveLog]
  · apply Action.performAll_alike same
    refine ⟨⟨_, _, rfl, rfl, rfl, live.state.started, later, rfl⟩, ⟨?_, ?_⟩, ?_⟩
    · intro id
      rw [store, store']
      unfold Table.contains
      rw [Store.get?_sessions_saveState, Store.get?_sessions_saveState]
      split <;> rfl
    · intro id
      simp only [store, store', Store.logs_saveState, Store.get?_logs_saveLog]
      split <;> rfl
    · intro n call
      rw [faults, faults', works, works]

/-- Answers are recorded in two ways, none of them refused, over a storage that works: in any order,
for any questions and as often as one likes, but with the same last answer to each question that is
answered at all. The interviews that come of it differ in the time of the last update only. Both
have the last answers on top of those from before, and what is stored is what is under way. -/
theorem Recording.latest_counts {others : List Entry} {k : Interview Connection}
    (works : ∀ n call, c.faults n call = none) (left : Recording ⟨some live, c⟩ entries j)
    (right : Recording ⟨some live, c⟩ others k)
    (same : ∀ id, latest? entries id = latest? others id) :
    j.SameButUpdated k ∧ ∃ l : Live, j.live = some l ∧
      (∀ id, l.state.answers.get? id = (latest? entries id).or (live.state.answers.get? id)) ∧
      (entries ≠ [] → j.contents.store.snapshotOf live.state.session =
        some (l.state.toJson.without "lastUpdateTime")) := by
  have empty_iff : entries = [] ↔ others = [] := by
    constructor <;> rintro rfl
    · exact eq_nil_of_latest? fun id => (same id).symm
    · exact eq_nil_of_latest? same
  rcases left.settled with ⟨none, rfl⟩ | ⟨some, settled⟩
  · rcases right.settled with ⟨-, rfl⟩ | ⟨some, -⟩
    · refine ⟨.refl live c, live, rfl, fun _ => ?_, absurd none⟩
      rw [none]
      rfl
    · exact absurd (empty_iff.mp none) some
  · rcases right.settled with ⟨none, -⟩ | ⟨-, settled'⟩
    · exact absurd (empty_iff.mpr none) some
    · refine ⟨settled.sameButUpdated works settled' same, ?_⟩
      obtain ⟨answers, now, r, log, written, d, known, recorded, logged, store, faults⟩ := settled
      refine ⟨_, rfl, known, fun _ => ?_⟩
      rw [store, Store.snapshotOf_saveState, if_pos rfl]

/-- Answers to questions that there are can be recorded in any number. -/
theorem Recording.exists_of_serves (serves : c.Serves live.state.session)
    (ongoing : live.state.completed = false) (entries : List Entry)
    (known : ∀ e ∈ entries, live.questionnaire.contains e.question = true) :
    ∃ (state : State) (d : Connection),
      Recording ⟨some live, c⟩ entries ⟨some ⟨live.questionnaire, state⟩, d⟩ ∧
      d.Serves state.session ∧ state.completed = false := by
  induction entries using List.reverseRecOn with
  | nil => exact ⟨live.state, c, .start, serves, ongoing⟩
  | append_singleton entries e ih =>
    rw [List.forall_mem_append, List.forall_mem_singleton] at known
    obtain ⟨state, d, earlier, serves, ongoing⟩ := ih known.1
    obtain ⟨f, done, serves⟩ := Interview.record_ok serves ongoing known.2 e.answered e.value
    exact ⟨_, f, earlier.record e done, serves, ongoing⟩

end Recording

/-- An answer that is thought better of. -/
def hesitant : List Entry :=
  [⟨"a", .string "y", .epoch⟩, ⟨"b", .string "z", .epoch⟩, ⟨"a", .string "x", .epoch⟩]

def direct : List Entry := [⟨"a", .string "x", .epoch⟩, ⟨"b", .string "z", .epoch⟩]

/-- Of the answer that was thought better of nothing is left. -/
theorem latest_counts_hesitant : ∃ (j k : Interview Connection) (l : Live),
    Recording ⟨some skippedLive, .serving skippedLive⟩ hesitant j ∧
    Recording ⟨some skippedLive, .serving skippedLive⟩ direct k ∧
    j.SameButUpdated k ∧ j.live = some l ∧
    l.state.answers.get? "a" = some (.string "x") ∧
    l.state.answers.get? "b" = some (.string "z") ∧
    k.contents.store.snapshotOf "$1" = some (l.state.toJson.without "lastUpdateTime") := by
  have serves := Connection.serves_serving skippedLive
  obtain ⟨_, _, left, -⟩ := Recording.exists_of_serves serves rfl hesitant (by decide)
  obtain ⟨_, _, right, -⟩ := Recording.exists_of_serves serves rfl direct (by decide)
  have same : ∀ id, latest? hesitant id = latest? direct id := by
    intro id
    by_cases a : "a" = id
    · subst a
      rfl
    · by_cases b : "b" = id <;> simp [latest?, hesitant, direct, a, b]
  obtain ⟨alike, l, there, known, stored⟩ :=
    Recording.latest_counts (fun _ _ => rfl) left right same
  have snapshot := stored (List.cons_ne_nil _ _)
  rw [alike.snapshots] at snapshot
  exact ⟨_, _, l, left, right, alike, there, known "a", known "b", snapshot⟩

end Session

end Inquiry
