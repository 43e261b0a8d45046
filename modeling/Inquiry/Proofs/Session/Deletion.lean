import Inquiry.Proofs.Session.Completion

/-!
Sessions that are deleted while interviews still have them under way.

The storage saves a log whether its session exists or not. That none comes back rests on what an
operation asks for first: it notes nothing in a log that is not there, and it begins a log only for
a session that it just opened. Main statements: `Outcome.registers`, by which no operation brings
back an id, and `World.deleted_stays`.
-/
namespace Inquiry.Session

open Interview
open Connection (storage)

section

variable [SessionIds]

namespace Store

/-- Tables in which every session was opened, and every log belongs to the session it names. -/
structure Housed (s : Store) : Prop where
  numbered : ∀ id, s.sessions.contains id = true → ∃ n ≤ s.opened, SessionIds.id n = id
  filed : s.FiledLogs
  housed : ∀ id, s.logs.contains id = true → s.sessions.contains id = true

/-- No session that is still to be opened gets the id. -/
def Spent (s : Store) (session : String) : Prop := ∀ n, SessionIds.id n = session → n ≤ s.opened

/-- There is no session of the id, and none will be opened with it. -/
structure Gone (s : Store) (session : String) : Prop where
  spent : s.Spent session
  absent : s.sessions.contains session = false

/-- What an operation does to the ids of sessions and logs: it leaves them, or opens a session. -/
inductive Registers (s t : Store) : Prop
  | keeps (opened : t.opened = s.opened)
      (sessions : ∀ id, t.sessions.contains id = s.sessions.contains id)
      (logs : ∀ id, t.logs.contains id = s.logs.contains id)
  | opens (opened : t.opened = s.opened + 1)
      (sessions : ∀ id, t.sessions.contains id = true ↔
        id = SessionIds.id t.opened ∨ s.sessions.contains id = true)
      (logs : ∀ id, t.logs.contains id = true →
        id = SessionIds.id t.opened ∨ s.logs.contains id = true)

variable {s t : Store} {session : String}

/-- Tables in which no session was opened yet. -/
theorem housed_of_clear (sessions : s.sessions = ∅) (logs : s.logs = ∅) : s.Housed := by
  refine ⟨?_, ?_, ?_⟩
  · rw [sessions]
    intro id there
    cases there
  · unfold FiledLogs
    rw [logs]
    intro id log found
    cases found
  · rw [logs]
    intro id there
    cases there

theorem registers_openLogged (s : Store) (now : Time.Instant) (questionnaire : String) :
    s.Registers (s.openLogged now questionnaire) :=
  .opens rfl (fun _ => Table.contains_insert ..) fun _ => (Table.contains_insert ..).mp

/-- A state is saved for a session that exists. -/
theorem Registers.saveState (h : s.Registers t) (now : Time.Instant) (record : Record)
    {state : State} (there : t.sessions.contains state.session = true) :
    s.Registers (t.saveState now record state) := by
  have same : ∀ id,
      (t.saveState now record state).sessions.contains id = t.sessions.contains id := by
    intro id
    rw [Bool.eq_iff_iff, Store.saveState, Table.contains_insert]
    constructor
    · rintro (rfl | other)
      · exact there
      · exact other
    · exact .inr
  cases h with
  | keeps opened sessions logs => exact .keeps opened (fun id => (same id).trans (sessions id)) logs
  | opens opened sessions logs =>
    exact .opens opened (fun id => (Bool.eq_iff_iff.mp (same id)).trans (sessions id)) logs

namespace Housed

theorem spent (h : s.Housed) (there : s.sessions.contains session = true) : s.Spent session := by
  obtain ⟨n, le, rfl⟩ := h.numbered session there
  intro m same
  exact SessionIds.id_injective same ▸ le

theorem registers (h : s.Housed) (step : s.Registers t) (filed : t.FiledLogs) : t.Housed := by
  cases step with
  | keeps opened sessions logs =>
    refine ⟨?_, filed, ?_⟩
    · intro id there
      rw [opened]
      exact h.numbered id (sessions id ▸ there)
    · intro id there
      rw [sessions]
      exact h.housed id (logs id ▸ there)
  | opens opened sessions logs =>
    refine ⟨?_, filed, ?_⟩
    · intro id there
      rcases (sessions id).mp there with rfl | old
      · exact ⟨t.opened, Nat.le_refl _, rfl⟩
      · obtain ⟨n, le, number⟩ := h.numbered id old
        exact ⟨n, by omega, number⟩
    · intro id there
      exact (sessions id).mpr ((logs id there).imp_right (h.housed id))

/-- A session is deleted together with its log. -/
theorem deleteSession (h : s.Housed) (session : String) :
    (s.deleteSession session).2.Housed := by
  refine ⟨?_, ?_, ?_⟩
  · intro id there
    exact h.numbered id ((Table.contains_erase ..).mp there).2
  · intro id log found
    change (s.logs.erase session).get? id = some log at found
    rw [Table.get?_erase] at found
    split at found
    · cases found
    · exact h.filed id log found
  · intro id there
    obtain ⟨other, there⟩ := (Table.contains_erase ..).mp there
    exact (Table.contains_erase ..).mpr ⟨other, h.housed id there⟩

theorem get?_of_gone (h : s.Housed) (gone : s.Gone session) :
    s.sessions.get? session = none ∧ s.logs.get? session = none := by
  have silent : s.logs.contains session = false := by
    by_contra there
    rw [Bool.not_eq_false] at there
    exact Bool.false_ne_true (gone.absent.symm.trans (h.housed session there))
  exact ⟨Option.not_isSome_iff_eq_none.mp (Bool.eq_false_iff.mp gone.absent),
    Option.not_isSome_iff_eq_none.mp (Bool.eq_false_iff.mp silent)⟩

end Housed

theorem gone_deleteSession (spent : s.Spent session) :
    (s.deleteSession session).2.Gone session := by
  refine ⟨spent, Bool.eq_false_iff.mpr fun there => ?_⟩
  exact ((Table.contains_erase ..).mp there).1 rfl

namespace Gone

theorem registers (h : s.Gone session) (step : s.Registers t) : t.Gone session := by
  cases step with
  | keeps opened sessions =>
    refine ⟨?_, (sessions session).trans h.absent⟩
    intro n number
    exact opened ▸ h.spent n number
  | opens opened sessions =>
    refine ⟨?_, Bool.eq_false_iff.mpr fun there => ?_⟩
    · intro n number
      have := h.spent n number
      omega
    · -- The session that is opened has an id that no session had before.
      rcases (sessions session).mp there with new | old
      · have := h.spent t.opened new.symm
        omega
      · exact Bool.false_ne_true (h.absent.symm.trans old)

theorem deleteSession (h : s.Gone session) (other : String) :
    (s.deleteSession other).2.Gone session := by
  refine ⟨h.spent, Bool.eq_false_iff.mpr fun there => ?_⟩
  exact Bool.false_ne_true (h.absent.symm.trans ((Table.contains_erase ..).mp there).2)

end Gone

end Store

variable {now : Time.Instant} {before after : Option Live} {c d mid : Connection} {live : Live}
  {note : Option (Log → Log)} {op : Operation} {answer : Except InterviewError Reply}
  {session : String}

/-- Only a log that is there is noted in. -/
theorem Connection.Noted.registers (h : c.Noted session note mid) (filed : c.store.FiledLogs)
    (keeps : ∀ f ∈ note, ∀ log : Log, (f log).session = log.session) :
    c.store.Registers mid.store := by
  obtain ⟨sessions, opened, -⟩ := h.same
  refine .keeps opened (fun id => congrArg (Table.contains · id) sessions) fun id => ?_
  unfold Table.contains
  rw [h.get?_logs filed keeps]
  split
  · rename_i here
    rw [here, Option.isSome_map]
  · rfl

/-- Whichever calls fail, an operation opens one session at most, and brings back no session and no
log. -/
theorem Outcome.registers (filed : c.store.FiledLogs)
    (h : Outcome now before c op answer after d) : c.store.Registers d.store := by
  cases h with
  | fails _ _ _ same | loads _ _ _ _ _ _ _ _ _ same =>
    rw [same]
    exact .keeps rfl (fun _ => rfl) fun _ => rfl
  | stays => exact .keeps rfl (fun _ => rfl) fun _ => rfl
  | opens questionnaire e d left =>
    rcases left with left | left <;> rw [left]
    · exact .opens rfl (fun _ => Table.contains_insert ..) fun _ => .inr
    · exact c.store.registers_openLogged now questionnaire
  | starts questionnaire id q first rest record d fresh loaded questions own saved =>
    subst fresh
    rw [saved]
    refine (c.store.registers_openLogged now questionnaire).saveState now record ?_
    exact (Table.contains_insert ..).mpr (.inl rfl)
  | lags m live state note reply e mid d there planned noted failed =>
    rw [Connection.updateSession_error failed]
    exact noted.registers filed (Move.noting planned).filed
  | goes m live state note reply record mid there planned noted found =>
    refine (noted.registers filed (Move.noting planned).filed).saveState now record ?_
    exact (Table.contains_eq_true_iff ..).mpr ⟨record, found⟩

/-- In a session that is not stored nothing goes on. Only stepping back from the first question does
not come to know of it. -/
theorem Move.refused_of_absent {m : Move} (now : Time.Instant)
    (record : c.store.sessions.get? live.state.session = none)
    (log : c.store.logs.get? live.state.session = none)
    (long : m = .previous → 2 ≤ live.state.history.length) :
    ∃ e d, m.perform storage now ⟨some live, c⟩ = (.error e, ⟨some live, d⟩) ∧
      d.store = c.store := by
  have outcome := m.outcome now live c
  generalize m.perform storage now ⟨some live, c⟩ = result at outcome ⊢
  obtain ⟨answer, after, d⟩ := result
  dsimp only at outcome
  cases outcome with
  | fails _ e d same => exact ⟨e, d, rfl, same⟩
  | stays _ _ reply there planned =>
    cases there
    have stays := m.planned now live
    rw [planned] at stays
    cases stays with
    | first _ short =>
      have := long rfl
      omega
  | lags _ _ state note reply e mid d there planned noted failed =>
    cases there
    refine ⟨.storage e, d, rfl, ?_⟩
    rw [Connection.updateSession_error failed]
    cases noted with
    | nothing => rfl
    | note f stored found =>
      rw [(leads planned).session, log] at found
      cases found
  | goes _ _ state note reply stored mid there planned noted found =>
    cases there
    rw [noted.same.1, (leads planned).session, record] at found
    cases found

end

/-- What happens to a storage that interviews share. -/
inductive Event (ι : Type) where
  | perform (i : ι) (now : Time.Instant) (op : Operation)
  | delete (session : String)

namespace World

variable {ι : Type} [DecidableEq ι] {w : World ι}

section

variable [SessionIds]

/-- Delete a session, whether or not an interview has it under way. -/
def delete (w : World ι) (session : String) : World ι :=
  { w with shared := { w.shared with store := (w.shared.store.deleteSession session).2 } }

def undergo (w : World ι) : Event ι → World ι
  | .perform i now op => w.perform i now op
  | .delete session => w.delete session

def undergoAll (w : World ι) (events : List (Event ι)) : World ι := events.foldl undergo w

theorem registers_perform (housed : w.shared.store.Housed) (i : ι) (now : Time.Instant)
    (op : Operation) : w.shared.store.Registers (w.perform i now op).shared.store :=
  (op.outcome now ⟨(w.desks i).live, w.shared⟩).registers housed.filed

theorem housed_undergo (housed : w.shared.store.Housed) (e : Event ι) :
    (w.undergo e).shared.store.Housed := by
  cases e with
  | perform i now op =>
    have filed : (w.perform i now op).shared.store.FiledLogs :=
      (op.arrives Connection.keeps_filed now (i := ⟨(w.desks i).live, w.shared⟩) housed.filed).1
    exact housed.registers (registers_perform housed i now op) filed
  | delete session => exact housed.deleteSession session

theorem gone_undergo (housed : w.shared.store.Housed) (gone : w.shared.store.Gone session)
    (e : Event ι) : (w.undergo e).shared.store.Gone session := by
  cases e with
  | perform i now op => exact gone.registers (registers_perform housed i now op)
  | delete other => exact gone.deleteSession other

theorem housed_undergoAll (housed : w.shared.store.Housed) (events : List (Event ι)) :
    (w.undergoAll events).shared.store.Housed := by
  induction events generalizing w with
  | nil => exact housed
  | cons e events ih => exact ih (housed_undergo housed e)

theorem gone_undergoAll (housed : w.shared.store.Housed) (gone : w.shared.store.Gone session)
    (events : List (Event ι)) : (w.undergoAll events).shared.store.Gone session := by
  induction events generalizing w with
  | nil => exact gone
  | cons e events ih => exact ih (housed_undergo housed e) (gone_undergo housed gone e)

/-- Interviews take turns over a storage from which sessions are deleted at any time. However that
goes and whichever calls fail, every log belongs to a session that exists. A session that was
deleted does not come back, and no log of it. An interview that still has it under way can only
step back from the first question to nowhere: every other move fails, and changes neither what is
under way nor what is stored. -/
theorem deleted_stays (w : World ι) (housed : w.shared.store.Housed) (events : List (Event ι)) :
    let v := w.undergoAll events
    (∀ id log, v.shared.store.logs.get? id = some log →
      log.session = id ∧ ∃ record, v.shared.store.sessions.get? id = some record) ∧
    (∀ id record, v.shared.store.sessions.get? id = some record → v.shared.store.Spent id) ∧
    ∀ session, v.shared.store.Spent session → ∀ later,
      let u := (v.delete session).undergoAll later
      u.shared.store.sessions.get? session = none ∧ u.shared.store.logs.get? session = none ∧
      ∀ i live, (u.desks i).live = some live → live.state.session = session →
        ∀ (m : Move) (now : Time.Instant), (m = .previous → 2 ≤ live.state.history.length) →
          ∃ e d, m.perform storage now ⟨some live, u.shared⟩ = (.error e, ⟨some live, d⟩) ∧
            d.store = u.shared.store := by
  intro v
  have kept : v.shared.store.Housed := housed_undergoAll housed events
  refine ⟨?_, ?_, ?_⟩
  · intro id log found
    have there := kept.housed id ((Table.contains_eq_true_iff ..).mpr ⟨log, found⟩)
    exact ⟨kept.filed id log found, (Table.contains_eq_true_iff ..).mp there⟩
  · intro id record found
    exact kept.spent ((Table.contains_eq_true_iff ..).mpr ⟨record, found⟩)
  · intro session spent later u
    have deleted := kept.deleteSession session
    have gone : u.shared.store.Gone session :=
      gone_undergoAll (w := v.delete session) deleted (Store.gone_deleteSession spent) later
    have still : u.shared.store.Housed := housed_undergoAll (w := v.delete session) deleted later
    obtain ⟨record, log⟩ := still.get?_of_gone gone
    refine ⟨record, log, ?_⟩
    rintro i live - rfl m now long
    exact Move.refused_of_absent now record log long

end

/-- One interview starts a session and goes on to the last question, and another one resumes the
session before that. -/
def pairEvents : List (Event Bool) :=
  [.perform false .epoch (.start "form"), .perform true .epoch (.load "$1"),
    .perform false .epoch (.move .next)]

def pairStart : World Bool := ⟨.sound brokenConnection.store, fun _ => ⟨none, none⟩⟩

/-- The session is deleted. The interview behind tries to go on, and then opens another session. -/
def pairDeleted : World Bool :=
  ((pairStart.undergoAll pairEvents).delete "$1").undergoAll
    [.perform true .epoch (.move .next), .perform true .epoch (.start "form")]

/-- The interview at the last question fails to complete the session once that is deleted. -/
theorem deleted_stays_refused :
    (pairStart.undergoAll pairEvents).shared.store.logs.contains "$1" = true ∧
      pairDeleted.shared.store.logs.contains "$2" = true ∧
      pairDeleted.shared.store.sessions.get? "$1" = none ∧
      pairDeleted.shared.store.logs.get? "$1" = none ∧
      ∃ live e d, (pairDeleted.desks false).live = some live ∧ live.state.index = 1 ∧
        Move.next.perform storage .epoch ⟨some live, pairDeleted.shared⟩ =
          (.error e, ⟨some live, d⟩) := by
  have housed : pairStart.shared.store.Housed := Store.housed_of_clear rfl rfl
  obtain ⟨-, spent, deleted⟩ := deleted_stays pairStart housed pairEvents
  have there :
      ((pairStart.undergoAll pairEvents).shared.store.sessions.get? "$1").isSome = true := by
    decide +kernel
  obtain ⟨record, found⟩ := Option.isSome_iff_exists.mp there
  obtain ⟨gone, silent, refused⟩ := deleted "$1" (spent "$1" record found)
    [.perform true .epoch (.move .next), .perform true .epoch (.start "form")]
  have stands : (pairDeleted.desks false).live.map (fun l => (l.state.session, l.state.index)) =
      some ("$1", 1) := by
    decide +kernel
  obtain ⟨live, active, stands⟩ := Option.map_eq_some_iff.mp stands
  obtain ⟨own, index⟩ := Prod.mk.inj stands
  obtain ⟨e, d, failed, -⟩ := refused false live active own .next .epoch nofun
  have logged : (pairStart.undergoAll pairEvents).shared.store.logs.contains "$1" = true := by
    decide +kernel
  have another : pairDeleted.shared.store.logs.contains "$2" = true := by decide +kernel
  exact ⟨logged, another, gone, silent, live, e, d, active, index, failed⟩

end World

end Inquiry.Session
