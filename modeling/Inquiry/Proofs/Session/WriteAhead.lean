import Inquiry.Proofs.Session.Ledger

/-!
Interviews over tables in which nobody else writes one session, from before it is opened.

The log of the session has all answers that were acknowledged, and no others than were to be
recorded. Main statements: `Tended.log_ahead`, whichever calls fail, and `Tended.log_level` if none
does.
-/
namespace Inquiry.Session

open Interview
open Connection (storage)

theorem Connection.keeps_faults [SessionIds] (faults : Nat → Call → Option StorageError) :
    storage.Keeps fun c => c.faults = faults := by
  intro r c holds
  rcases called : r.make storage c with ⟨answer, d⟩
  have whole : d.faults = c.faults := by
    cases r <;> simp only [Request.make, storage] at called <;> rw [eq_after called] <;> rfl
  exact whole.trans holds

def Store.entriesOf (s : Store) (session : String) : List Entry :=
  ((s.logs.get? session).map (·.entries)).getD []

/-- What is kept of a session while an interview goes on over tables with given faults. -/
structure Account [SessionIds] (session : String) (faults : Nat → Call → Option StorageError)
    (i : Interview Connection) (trail : List Attempt) : Prop where
  same : i.contents.faults = faults
  filed : i.contents.store.FiledLogs
  stands : ∀ l ∈ i.live, l.Stands
  books : Books session (∀ n k, faults n k = none) i.live i.contents.store trail

variable {session : String} {faults : Nat → Call → Option StorageError}
  {i : Interview Connection} {trail : List Attempt}

theorem Account.perform [SessionIds] (h : Account session faults i trail) (op : Operation)
    (now : Time.Instant) :
    Account session faults (op.perform storage now i).2
      (trail ++ op.attempts now i.live (op.perform storage now i).1) := by
  obtain ⟨same, filed, stands, books⟩ := h
  obtain ⟨kept, arrived⟩ := op.arrives (Connection.keeps_faults faults) now same
  refine ⟨kept, (op.arrives Connection.keeps_filed now filed).1, ?_, ?_⟩
  · intro l mem
    have distinct := fun id c (_ : c.faults = faults) =>
      Connection.distinct (.loadQuestionnaire id) c
    exact (arrived l mem).stands distinct stands
  · subst same
    exact books.outcome filed stands (op.outcome now i)

/-- What becomes of an interview over tables in which nobody else writes one session, from before it
was opened, with all that was to be recorded on the way. Others may change all else, but they open
sessions only under numbers of their own. -/
inductive Tended [SessionIds] (session : String)
    (faults : Nat → Call → Option StorageError) : Interview Connection → List Attempt → Prop
  | begin (c : Connection) (same : c.faults = faults) (filed : c.store.FiledLogs)
      (unopened : c.store.sessions.get? session = none)
      (unlogged : c.store.logs.get? session = none) : Tended session faults ⟨none, c⟩ []
  | perform {i : Interview Connection} {trail : List Attempt}
      (before : Tended session faults i trail) (op : Operation) (now : Time.Instant) :
      Tended session faults (op.perform storage now i).2
        (trail ++ op.attempts now i.live (op.perform storage now i).1)
  | others {live : Option Live} {c : Connection} {trail : List Attempt}
      (before : Tended session faults ⟨live, c⟩ trail) (d : Connection)
      (same : d.faults = c.faults) (filed : d.store.FiledLogs)
      (sessions : d.store.sessions.get? session = c.store.sessions.get? session)
      (logs : d.store.logs.get? session = c.store.logs.get? session)
      (opened : c.store.opened ≤ d.store.opened) : Tended session faults ⟨live, d⟩ trail

def Operation.trace [SessionIds] (run : Interview Connection × List Attempt)
    (steps : List (Time.Instant × Operation)) : Interview Connection × List Attempt :=
  steps.foldl (fun (i, trail) (now, op) =>
    ((op.perform storage now i).2,
      trail ++ op.attempts now i.live (op.perform storage now i).1)) run

def failingAt (numbers : List Nat) : Nat → Call → Option StorageError :=
  fun n _ => if n ∈ numbers then some .brokenOff else none

/-- A session that is started over a connection to one questionnaire, and led on by moves. -/
def formRun (faults : Nat → Call → Option StorageError) (moves : List Move) :
    Interview Connection × List Attempt :=
  Operation.trace (⟨none, { brokenConnection with faults }⟩, [])
    ((.epoch, .start "form") :: moves.map fun m => (.epoch, .move m))

namespace Tended

theorem trace [SessionIds] {run : Interview Connection × List Attempt}
    (h : Tended session faults run.1 run.2) (steps : List (Time.Instant × Operation)) :
    Tended session faults (Operation.trace run steps).1 (Operation.trace run steps).2 := by
  induction steps generalizing run with
  | nil => exact h
  | cons step steps ih => exact ih (h.perform step.2 step.1)

theorem formRun (faults : Nat → Call → Option StorageError) (moves : List Move) :
    Tended "$1" faults (formRun faults moves).1 (formRun faults moves).2 := by
  apply trace
  refine .begin _ rfl ?_ rfl rfl
  intro id log found
  cases found

theorem account [SessionIds] (h : Tended session faults i trail) :
    Account session faults i trail := by
  induction h with
  | begin c same filed unopened unlogged =>
    refine ⟨same, filed, by rintro _ ⟨⟩, ?_, .blank ?_ ?_ rfl (by rintro _ ⟨⟩)⟩
    · intro record found
      exact nomatch unopened.symm.trans found
    · intro record found
      exact nomatch unopened.symm.trans found
    · intro log found
      exact nomatch unlogged.symm.trans found
  | perform before op now ih => exact ih.perform op now
  | others before d same filed sessions logs opened ih =>
    refine ⟨same.trans ih.same, filed, ih.stands, ?_, ?_⟩
    · intro record found
      obtain ⟨n, le, number⟩ := ih.books.numbered record (sessions.symm.trans found)
      exact ⟨n, Nat.le_trans le opened, number⟩
    · exact ih.books.standing.congr sessions logs fun _ mem _ => mem

/-- Whatever happens to an interview, failed operations included: the log of a session of its own
has every answer that was acknowledged, and no others than were to be recorded, in order. The
stored state is read as it was saved, every answer in it was entered in the log, and the log of a
session that is stored as completed is closed with the number of its answers. -/
theorem log_ahead [SessionIds] (h : Tended session faults i trail) :
    (acknowledged session trail).Sublist (i.contents.store.entriesOf session) ∧
    (i.contents.store.entriesOf session).Sublist (attempted session trail) ∧
    ∀ record, i.contents.store.sessions.get? session = some record →
      (record.status = .completed → record.state ≠ none) ∧
      ∀ json, record.state = some json → ∃ state log,
        json = state.toJson ∧ State.ofJson json = .ok state ∧
        i.contents.store.logs.get? session = some log ∧
        (∀ id value, state.answers.get? id = some value →
          ∃ e ∈ log.entries, e.question = id ∧ e.value = value) ∧
        (record.status = .completed →
          log.completed.isSome = true ∧ log.answered = state.answers.size) := by
  cases h.account.books.standing with
  | blank clear empty silent =>
    have none : i.contents.store.entriesOf session = [] := by
      unfold Store.entriesOf
      cases logged : i.contents.store.logs.get? session with
      | none => rfl
      | some log => exact empty log logged
    rw [none, silent]
    refine ⟨silent ▸ acknowledged_sublist session trail, List.Sublist.refl _, ?_⟩
    intro record found
    obtain ⟨stateless, active⟩ := clear record found
    refine ⟨fun completed => (nomatch active.symm.trans completed), fun json told => ?_⟩
    exact nomatch stateless.symm.trans told
  | saved state record log own ends recorded tells logged ahead level answers =>
    have entries : i.contents.store.entriesOf session = log.entries := by
      simp [Store.entriesOf, logged]
    rw [entries]
    refine ⟨ahead.noLess, ahead.noMore, ?_⟩
    intro other found
    rw [recorded, Option.some_inj] at found
    subst found
    refine ⟨fun _ => by simp [tells.state], fun json told => ?_⟩
    rw [tells.state, Option.some_inj] at told
    subst told
    refine ⟨state, log, rfl, State.ofJson_toJson ends, logged, ?_, ?_⟩
    · intro id value given
      rw [answers] at given
      obtain ⟨e, mem, entered⟩ := Answers.exists_entry given
      exact ⟨e, ahead.noLess.subset mem, entered⟩
    · intro completed
      apply ahead.closed
      rwa [tells.status, Status.ofState_eq_completed_iff] at completed

/-- An answer is recorded twice, since the state is not saved the first time. -/
def repeatedRun : Interview Connection × List Attempt :=
  Session.formRun (failingAt [6]) [.record "a" (.string "x"), .record "a" (.string "x")]

theorem log_ahead_repeated :
    acknowledged "$1" repeatedRun.2 = [⟨"a", .string "x", .epoch⟩] ∧
      repeatedRun.1.contents.store.entriesOf "$1" =
        [⟨"a", .string "x", .epoch⟩, ⟨"a", .string "x", .epoch⟩] ∧
      (acknowledged "$1" repeatedRun.2).Sublist (repeatedRun.1.contents.store.entriesOf "$1") :=
  ⟨by decide +kernel, by decide +kernel, (formRun (failingAt [6]) _).log_ahead.1⟩

/-- If no call fails, the log of the session under way has exactly the answers acknowledged in it,
and these amount to the answers under way, of several to one question the last. It counts the
questions answered, it is closed just when the session is completed, in its record as well as under
way, and a session is completed with just these answers, however it was led there. -/
theorem log_level [SessionIds] {live : Live} (h : Tended live.state.session faults i trail)
    (works : ∀ n k, faults n k = none) (active : i.live = some live) :
    ∃ record log, i.contents.store.sessions.get? live.state.session = some record ∧
      i.contents.store.logs.get? live.state.session = some log ∧
      log.entries = acknowledged live.state.session trail ∧
      live.state.answers = .ofEntries log.entries ∧
      log.answered = (log.entries.map (·.question)).toFinset.card ∧
      (log.completed.isSome = true ↔ record.status = .completed) ∧
      (record.status = .completed ↔ live.state.completed = true) ∧
      ∀ now answers j, Interview.next storage now i = (.ok (.completed answers), j) →
        answers = .ofEntries (acknowledged live.state.session trail) := by
  cases h.account.books.standing with
  | blank _ _ _ elsewhere => exact absurd rfl (elsewhere live active)
  | saved state record log own ends recorded tells logged ahead level answers under =>
    obtain rfl := under live active rfl
    have even := level works
    have completed : record.status = .completed ↔ live.state.completed = true := by
      rw [tells.status, Status.ofState_eq_completed_iff]
    refine ⟨record, log, recorded, logged, even.entries, even.entries ▸ answers, ?_, ?_, completed,
      ?_⟩
    · rw [even.answered, answers, even.entries, Answers.size_ofEntries]
    · rw [completed, even.completed]
    · intro now given j returned
      have performed : (Operation.move .next).perform storage now i =
          (.ok (.completed given), j) := by
        change (Interview.next storage now >>= fun step => pure (Reply.ofStep step)) i = _
        rw [run_map, returned]
        rfl
      have outcome := (Operation.move .next).outcome now i
      rw [performed] at outcome
      obtain ⟨live', there, same⟩ := outcome.completed_answers
      rw [active, Option.some_inj] at there
      rw [same, ← there, answers]

/-- An answer is given, and another one after stepping back to its question. Then the session is
completed. -/
def completedRun : Interview Connection × List Attempt :=
  Session.formRun (failingAt []) [.record "a" (.string "x"), .next, .previous,
    .record "a" (.string "y"), .next, .next]

theorem log_level_completed :
    ∃ (live : Live) (record : Record) (log : Log),
      completedRun.1.live = some live ∧
      completedRun.1.contents.store.sessions.get? live.state.session = some record ∧
      completedRun.1.contents.store.logs.get? live.state.session = some log ∧
      log.entries.map (·.value) = [.string "x", .string "y"] ∧
      live.state.answers = .ofEntries log.entries ∧ log.answered = 1 ∧
      record.status = .completed ∧ log.completed.isSome = true := by
  obtain ⟨live, active⟩ : ∃ live, completedRun.1.live = some live := ⟨_, rfl⟩
  have reached : completedRun.1.live.map (fun l => (l.state.session, l.state.completed)) =
      some ("$1", true) := by
    decide +kernel
  obtain ⟨own, done⟩ : live.state.session = "$1" ∧ live.state.completed = true := by
    rw [active] at reached
    exact Prod.mk.inj (Option.some.inj reached)
  have tended : Tended live.state.session (failingAt []) completedRun.1 completedRun.2 := by
    rw [own]
    exact formRun _ _
  obtain ⟨record, log, recorded, logged, entries, answers, answered, closed, completed, -⟩ :=
    tended.log_level (fun _ _ => rfl) active
  have finished := completed.mpr done
  rw [own] at entries
  refine ⟨live, record, log, active, recorded, logged, ?_, answers, ?_, finished,
    closed.mpr finished⟩
  · rw [entries]
    decide +kernel
  · rw [answered, entries]
    decide +kernel

end Tended

/-- The only thing that a failed move can leave behind in the tables is a note in the log of its
session, and only if the note was saved and the error is that of the last call, which was to save
the state. The note is the answer that was to be recorded, or that the session is completed. -/
theorem Move.leftover [SessionIds] {m : Move} {now : Time.Instant} {live : Live} {c : Connection}
    {e : InterviewError} {j : Interview Connection} (filed : c.store.FiledLogs)
    (failed : m.perform storage now ⟨some live, c⟩ = (.error e, j)) :
    j.live = some live ∧ j.contents.store.sessions = c.store.sessions ∧
    (j.contents.store = c.store ∨
      ∃ log noted mid update err, c.store.logs.get? live.state.session = some log ∧
        noted.session = live.state.session ∧
        mid.store = c.store.saveLog noted ∧ mid.calls = .saveLog :: .loadLog :: c.calls ∧
        storage.updateSession now live.state.session update mid = (.error err, j.contents) ∧
        e = .storage err ∧ j.contents.store = c.store.saveLog noted ∧
        j.contents.calls = .updateSession :: .saveLog :: .loadLog :: c.calls ∧
        ((∃ id value, m = .record id value ∧
            noted = log.add ⟨id, value, now⟩ (live.state.answers.record id value).size) ∨
          (m = .next ∧ noted = log.close now live.state.answers.size))) := by
  have outcome := m.outcome now live c
  rw [failed] at outcome
  obtain ⟨after, d⟩ := j
  cases outcome with
  | fails _ _ _ same => exact ⟨rfl, congrArg Store.sessions same, .inl same⟩
  | lags _ live' state note reply e mid d there planned noted fails =>
    cases there
    have own : state.session = live.state.session := (leads planned).session
    obtain rfl := Connection.updateSession_error fails
    cases noted with
    | nothing => exact ⟨rfl, rfl, .inl rfl⟩
    | note f log found =>
      have named := ((noting planned).filed f rfl log).trans ((filed _ log found).trans own)
      refine ⟨rfl, rfl, .inr ⟨log, f log, _, _, e, own ▸ found, named, rfl, rfl, own ▸ fails, rfl,
        rfl, rfl, ?_⟩⟩
      cases noting planned with
      | answer id value _ answers => exact .inl ⟨id, value, rfl, by rw [answers]⟩
      | finish _ answers => exact .inr ⟨rfl, by rw [answers]⟩

/-- The state with an answer is not saved, and the answer stays in the log. -/
theorem Move.leftover_answer :
    ∃ (live : Live) (c mid : Connection) (j : Interview Connection) (log : Log) (update : Update),
      (formRun (failingAt [6]) []).1 = ⟨some live, c⟩ ∧
      c.store.logs.get? live.state.session = some log ∧
      (Move.record "a" (.string "x")).perform storage .epoch ⟨some live, c⟩ =
        (.error (.storage .brokenOff), j) ∧
      storage.updateSession .epoch live.state.session update mid = (.error .brokenOff, j.contents) ∧
      j.contents.store.sessions = c.store.sessions ∧
      j.contents.store = c.store.saveLog (log.add ⟨"a", .string "x", .epoch⟩ 1) := by
  have answers : (formRun (failingAt [6]) []).1.live.map (·.state.answers) = some ∅ := by
    decide +kernel
  have failed : ((Move.record "a" (.string "x")).perform storage .epoch
      (formRun (failingAt [6]) []).1).1 = .error (.storage .brokenOff) := by
    decide +kernel
  have changed : ((Move.record "a" (.string "x")).perform storage .epoch
      (formRun (failingAt [6]) []).1).2.contents.store ≠
      (formRun (failingAt [6]) []).1.contents.store := by
    decide +kernel
  have filed := (Tended.formRun (failingAt [6]) []).account.filed
  generalize (formRun (failingAt [6]) []).1 = i at answers failed changed filed ⊢
  obtain ⟨_ | live, c⟩ := i
  · cases answers
  · have none : live.state.answers = ∅ := Option.some.inj answers
    obtain ⟨-, sessions, same | ⟨log, noted, mid, update, err, found, -, -, -, last, strikes, saved,
      -, recorded | completed⟩⟩ := Move.leftover filed (Prod.ext failed rfl)
    · exact absurd same changed
    · obtain ⟨id, value, answer, rfl⟩ := recorded
      cases answer
      cases strikes
      rw [none] at saved
      exact ⟨live, c, mid, _, log, update, rfl, found, Prod.ext failed rfl, last, sessions, saved⟩
    · cases completed.1

/-- A move that leaves the record and the log of its session as they were whenever it fails,
whatever led there and whichever calls fail. -/
def Move.Atomic [SessionIds] (m : Move) : Prop :=
  ∀ (faults : Nat → Call → Option StorageError) (i j : Interview Connection) (trail : List Attempt)
    (live : Live) (now : Time.Instant) (e : InterviewError),
    Tended live.state.session faults i trail → i.live = some live →
    m.perform storage now i = (.error e, j) →
    j.contents.store.sessions.get? live.state.session =
      i.contents.store.sessions.get? live.state.session ∧
    j.contents.store.logs.get? live.state.session = i.contents.store.logs.get? live.state.session

theorem Move.not_atomic_of_changed {m : Move} (faults : Nat → Call → Option StorageError)
    (moves : List Move) (e : InterviewError)
    (active : (formRun faults moves).1.live.map (·.state.session) = some "$1")
    (failed : (m.perform storage .epoch (formRun faults moves).1).1 = .error e)
    (changed : (m.perform storage .epoch (formRun faults moves).1).2.contents.store.logs.get? "$1" ≠
      (formRun faults moves).1.contents.store.logs.get? "$1") : ¬ m.Atomic := by
  intro atomic
  obtain ⟨live, there, own⟩ := Option.map_eq_some_iff.mp active
  have tended := own ▸ Tended.formRun faults moves
  have same := (atomic faults _ _ _ live .epoch e tended there (Prod.ext failed rfl)).2
  rw [own] at same
  exact changed same

/-- An answer that could not be saved stays in the log, and comes a second time when it is recorded
again. Then the session could not be completed, and its log is closed although it goes on. -/
theorem not_atomic :
    ¬ (Move.record "a" (.string "x")).Atomic ∧ ¬ Move.next.Atomic ∧
    let answer := Move.record "a" (.string "x")
    let run := formRun (failingAt [6, 13]) [answer, answer, .next, .next]
    (run.1.contents.store.sessions.get? "$1").map (·.status) = some .active ∧
      (run.1.contents.store.logs.get? "$1").map (·.completed) = some (some .epoch) ∧
      run.1.contents.store.entriesOf "$1" =
        [⟨"a", .string "x", .epoch⟩, ⟨"a", .string "x", .epoch⟩] ∧
      acknowledged "$1" run.2 = [⟨"a", .string "x", .epoch⟩] := by
  have unsaved : ¬ (Move.record "a" (.string "x")).Atomic := by
    apply Move.not_atomic_of_changed (failingAt [6, 13]) [] (.storage .brokenOff)
    all_goals decide +kernel
  have unfinished : ¬ Move.next.Atomic := by
    apply Move.not_atomic_of_changed (failingAt [6, 13])
      [.record "a" (.string "x"), .record "a" (.string "x"), .next] (.storage .brokenOff)
    all_goals decide +kernel
  refine ⟨unsaved, unfinished, ?_⟩
  decide +kernel

end Inquiry.Session
