import Inquiry.Proofs.Session.Alike
import Inquiry.Proofs.Session.Terms

namespace Inquiry.Session

open Interview

theorem Status.ofState_eq_completed_iff {state : State} :
    Status.ofState state = .completed ↔ state.completed = true := by
  unfold ofState
  cases state.completed <;> simp

structure Record.Tells (r : Record) (s : State) : Prop where
  state : r.state = some s.toJson
  status : r.status = .ofState s
  questionnaire : r.questionnaire = s.questionnaire

section

variable [SessionIds]

/-- Tables in which all states were saved by interviews, and last the one that is under way. -/
structure Store.Linked (shelf : Table Questionnaire) (live : Option Live) (s : Store) : Prop where
  shelved : s.questionnaires = shelf
  written : ∀ id record, s.sessions.get? id = some record → record.state ≠ none →
    ∃ state q n, record.Tells state ∧ state.session = id ∧
      shelf.get? state.questionnaire = some q ∧ state.Fits q ∧ n ≤ s.opened ∧ SessionIds.id n = id
  stored : ∀ l ∈ live, ∃ record, s.sessions.get? l.state.session = some record ∧
    record.Tells l.state

namespace Store.Linked

variable {shelf : Table Questionnaire} {live : Option Live} {s t : Store}

theorem congr (h : s.Linked shelf live) (questionnaires : t.questionnaires = s.questionnaires)
    (sessions : t.sessions = s.sessions) (opened : s.opened ≤ t.opened) : t.Linked shelf live := by
  constructor
  · rw [questionnaires, h.shelved]
  · intro id record found holds
    rw [sessions] at found
    obtain ⟨state, q, n, tells, own, shelved, fits, le, number⟩ := h.written id record found holds
    exact ⟨state, q, n, tells, own, shelved, fits, Nat.le_trans le opened, number⟩
  · rw [sessions]
    exact h.stored

theorem numbered {l : Live} (h : s.Linked shelf (some l)) :
    ∃ record n, s.sessions.get? l.state.session = some record ∧
      record.questionnaire = l.state.questionnaire ∧ n ≤ s.opened ∧
      SessionIds.id n = l.state.session := by
  obtain ⟨record, found, tells⟩ := h.stored l rfl
  have holds : record.state ≠ none := by simp [tells.state]
  obtain ⟨_, _, n, -, -, -, -, le, number⟩ := h.written _ record found holds
  exact ⟨record, n, found, tells.questionnaire, le, number⟩

/-- A session that is opened takes the place of no other one. -/
theorem createSession (h : s.Linked shelf live) (now : Time.Instant) (questionnaire : String) :
    (s.createSession now questionnaire).2.Linked shelf live := by
  constructor
  · exact h.shelved
  · intro id record found holds
    simp only [Store.createSession, Table.get?_insert] at found
    split at found
    · cases found
      exact absurd rfl holds
    · obtain ⟨state, q, n, tells, own, shelved, fits, le, number⟩ := h.written id record found holds
      exact ⟨state, q, n, tells, own, shelved, fits, Nat.le_succ_of_le le, number⟩
  · intro l active
    obtain ⟨record, found, tells⟩ := h.stored l active
    refine ⟨record, ?_, tells⟩
    have holds : record.state ≠ none := by simp [tells.state]
    obtain ⟨_, _, n, -, -, -, -, le, number⟩ := h.written _ record found holds
    have other : l.state.session ≠ SessionIds.id (s.opened + 1) := by
      intro eq
      have := SessionIds.id_injective (number.trans eq)
      omega
    simp only [Store.createSession, Table.get?_insert, if_neg other]
    exact found

theorem updateSession (h : s.Linked shelf live) {next : Live} {record : Record} {n : Nat}
    (now : Time.Instant) (sound : next.Sound shelf)
    (questionnaire : record.questionnaire = next.state.questionnaire) (le : n ≤ s.opened)
    (number : SessionIds.id n = next.state.session) :
    Linked shelf (some next) { s with
      sessions := s.sessions.insert next.state.session
        (record.update now (.ofState next.state)) } := by
  have tells : (record.update now (.ofState next.state)).Tells next.state :=
    ⟨rfl, rfl, questionnaire⟩
  constructor
  · exact h.shelved
  · intro id other found holds
    simp only [Table.get?_insert] at found
    split at found
    · rename_i eq
      cases found
      exact ⟨next.state, next.questionnaire, n, tells, eq.symm, sound.shelved, sound.fits, le,
        number.trans eq.symm⟩
    · exact h.written id other found holds
  · rintro _ ⟨⟩
    refine ⟨_, ?_, tells⟩
    simp only [Table.get?_insert, if_true]

theorem storedState (h : s.Linked shelf live) {session : String} {record : Record} {state : State}
    (found : s.sessions.get? session = some record)
    (stored : Interview.storedState session record = .ok state) :
    record.Tells state ∧ state.session = session ∧
      ∃ q, shelf.get? state.questionnaire = some q ∧ state.Fits q := by
  have holds : record.state ≠ none := by
    intro absent
    simp [Interview.storedState, absent] at stored
  obtain ⟨told, q, n, tells, own, shelved, fits, -, -⟩ := h.written session record found holds
  have same := fits.eq_of_storedState tells.state stored
  subst same
  exact ⟨tells, own, q, shelved, fits⟩

end Store.Linked

/-- The terms of a storage whose sessions nobody else writes. -/
def Terms.linked (shelf : Table Questionnaire) : Terms Connection where
  holds live c := c.store.Linked shelf live
  opened session questionnaire c := ∃ record n, c.store.sessions.get? session = some record ∧
    record.questionnaire = questionnaire ∧ n ≤ c.store.opened ∧ SessionIds.id n = session

theorem Terms.linked_keptBy (shelf : Table Questionnaire) :
    (Terms.linked shelf).KeptBy shelf Connection.storage where
  loadQuestionnaire {live c d id answer} := by
    intro holds called
    obtain ⟨same, found⟩ := Connection.loadQuestionnaire_cases called
    refine ⟨?_, fun q ok => ?_⟩
    · simpa only [linked, same] using holds
    · rw [← (show c.store.questionnaires = shelf from holds.shelved)]
      exact found q ok
  createSession {live c d now questionnaire answer} := by
    intro holds called
    rcases Connection.createSession_cases called with ⟨e, rfl, same⟩ | ⟨rfl, created⟩
    · refine ⟨?_, fun _ impossible => nomatch impossible⟩
      simpa only [linked, same] using holds
    · simp only [linked, created]
      refine ⟨holds.createSession now questionnaire, ?_⟩
      rintro _ ⟨⟩
      exact ⟨_, c.store.opened + 1, c.store.get?_createSession now questionnaire, rfl,
        Nat.le_refl _, rfl⟩
  loadSession {live c d session answer} := by
    intro holds called
    obtain ⟨same, found⟩ := Connection.loadSession_cases called
    have linked : d.store.Linked shelf live := by rw [same]; exact holds
    refine ⟨linked, ?_⟩
    intro record state q ok stored shelved checked
    have present : d.store.sessions.get? session = some record := same ▸ found record ok
    obtain ⟨tells, own, r, shelved', fits⟩ := linked.storedState present stored
    rw [shelved, Option.some_inj] at shelved'
    subst shelved'
    refine ⟨⟨linked.shelved, linked.written, ?_⟩, fits⟩
    rintro _ ⟨⟩
    exact ⟨record, own ▸ present, tells⟩
  updateSession {live next c d now answer} := by
    intro holds opened sound called
    rcases Connection.updateSession_cases called with ⟨e, rfl, same⟩ | ⟨rfl, record, found, saved⟩
    · refine ⟨fun _ _ => ?_, fun _ impossible => nomatch impossible⟩
      simpa only [linked, same] using holds
    · refine ⟨fun _ impossible => (nomatch impossible), fun _ _ => ?_⟩
      obtain ⟨record', n, found', questionnaire, le, number⟩ := opened
      rw [found, Option.some_inj] at found'
      subst found'
      simp only [linked, saved]
      exact holds.updateSession now sound questionnaire le number
  loadLog {live c d session answer} := by
    intro holds called
    have same := Connection.loadLog_cases called
    simp only [linked, same]
    exact ⟨holds, fun _ _ still => still⟩
  saveLog {live c d log answer} := by
    intro holds called
    obtain ⟨questionnaires, sessions, opened⟩ := Connection.saveLog_cases called
    simp only [linked, sessions, opened]
    exact ⟨holds.congr questionnaires sessions (Nat.le_of_eq opened.symm), fun _ _ still => still⟩
  opened_of_holds holds := holds.numbered

/-- What becomes of an interview that alone writes the sessions of its storage, from one without
any state on. Others may call the storage, too, and change its logs; the questionnaires stay. -/
inductive Alone (shelf : Table Questionnaire) : Interview Connection → Prop
  | begin (c : Connection) (questionnaires : c.store.questionnaires = shelf)
      (clear : ∀ id record, c.store.sessions.get? id = some record → record.state = none) :
      Alone shelf ⟨none, c⟩
  | perform {i : Interview Connection} (before : Alone shelf i) (op : Operation)
      (now : Time.Instant) : Alone shelf (op.perform Connection.storage now i).2
  | others {live : Option Live} {c : Connection} (before : Alone shelf ⟨live, c⟩) (d : Connection)
      (questionnaires : d.store.questionnaires = c.store.questionnaires)
      (sessions : d.store.sessions = c.store.sessions) (opened : c.store.opened ≤ d.store.opened) :
      Alone shelf ⟨live, d⟩

variable {shelf : Table Questionnaire}

theorem Alone.hold {i : Interview Connection} (alone : Alone shelf i) :
    (Terms.linked shelf).Hold shelf i := by
  induction alone with
  | begin c questionnaires clear =>
    refine ⟨⟨questionnaires, ?_, ?_⟩, ?_⟩
    · intro id record found holds
      exact absurd (clear id record found) holds
    · rintro _ ⟨⟩
    · rintro _ ⟨⟩
  | perform before op now ih => exact op.keeps (Terms.linked_keptBy shelf) now ih
  | others before d questionnaires sessions opened ih =>
    exact ⟨ih.contents.congr questionnaires sessions opened, ih.sound⟩

/-- A session whose record tells a sound state is resumed with that state. -/
theorem Operation.load_ok {live : Live} {record : Record} {d : Connection}
    (sound : live.Sound shelf)
    (questionnaires : d.store.questionnaires = shelf)
    (found : d.store.sessions.get? live.state.session = some record)
    (tells : record.Tells live.state) (before : Option Live) (now : Time.Instant)
    (session_works : d.faults d.calls.length .loadSession = none)
    (questionnaire_works : d.faults (d.calls.length + 1) .loadQuestionnaire = none) :
    (load live.state.session).perform Connection.storage now ⟨before, d⟩ =
      (.ok .done,
        ⟨some live, (d.after .loadSession d.store).after .loadQuestionnaire d.store⟩) := by
  have stored : storedState live.state.session record = .ok live.state := by
    simp [Interview.storedState, tells.state, sound.fits.ofJson_toJson, tells.questionnaire, bind,
      Except.bind]
    rfl
  have shelved : (d.after .loadSession d.store).store.questionnaires.get?
      live.state.questionnaire = some live.questionnaire := by
    rw [show (d.after .loadSession d.store).store.questionnaires = shelf from questionnaires]
    exact sound.shelved
  rw [run_load, Connection.loadSession_ok session_works found]
  dsimp only
  rw [stored]
  dsimp only
  rw [Connection.loadQuestionnaire_ok questionnaire_works shelved sound.distinct]
  dsimp only
  rw [sound.fits.corruption?_eq_none]
  rfl

/-- Whatever happens to an interview that alone writes its sessions, failed operations included:
the record of the session under way tells its state, and whether it is completed. So another
interview can resume it over a storage that works then, and the same moves, made at any times
while the same calls fail, are answered there as here. -/
theorem Alone.durable {i : Interview Connection} (alone : Alone shelf i) {live : Live}
    (active : i.live = some live) :
    (∃ record, i.contents.store.sessions.get? live.state.session = some record ∧
      record.state = some live.state.toJson ∧
      (record.status = .completed ↔ live.state.completed = true)) ∧
    ∀ (d : Connection) (before : Option Live) (now : Time.Instant),
      d.store = i.contents.store →
      d.faults d.calls.length .loadSession = none →
      d.faults (d.calls.length + 1) .loadQuestionnaire = none →
      ∃ after : Connection,
        (Operation.load live.state.session).perform Connection.storage now ⟨before, d⟩ =
          (.ok .done, ⟨some live, after⟩) ∧
        ∀ xs ys : List (Time.Instant × Move), xs.map (·.2) = ys.map (·.2) →
          (∀ n call, i.contents.faults (i.contents.calls.length + n) call =
            d.faults (d.calls.length + 2 + n) call) →
          Move.performAll Connection.storage xs i =
            Move.performAll Connection.storage ys ⟨some live, after⟩ := by
  have hold := alone.hold
  obtain ⟨record, found, tells⟩ := hold.contents.stored live active
  have sound := hold.sound live active
  refine ⟨⟨record, found, tells.state, ?_⟩, ?_⟩
  · rw [tells.status, Status.ofState]
    cases live.state.completed <;> simp
  · intro d before now same session_works questionnaire_works
    refine ⟨_, Operation.load_ok sound (same ▸ hold.contents.shelved) (same ▸ found) tells before
      now session_works questionnaire_works, ?_⟩
    intro xs ys moves faults
    apply Move.performAll_alike moves
    have alike : live.Alike live := ⟨rfl, live.state.started, live.state.updated, rfl⟩
    have stores : i.contents.store.Alike d.store := by
      rw [same]
      exact ⟨fun _ => rfl, fun _ => rfl⟩
    exact ⟨⟨live, live, active, rfl, alike⟩, stores, faults⟩

end

/-- A connection to one questionnaire, over which the fifth call fails. -/
def brokenConnection : Connection :=
  { Connection.sound (.ofQuestionnaires [⟨"form", "", "", [.plain "a" .text, .plain "b" .text]⟩])
    with faults := fun n _ => if n = 4 then some .brokenOff else none }

def brokenInterview : Interview Connection :=
  let started := ((Operation.start "form").perform Connection.storage .epoch
    ⟨none, brokenConnection⟩).2
  ((Operation.move (.record "a" (.string "x"))).perform Connection.storage .epoch started).2

theorem brokenInterview_alone : Alone brokenConnection.store.questionnaires brokenInterview := by
  apply Alone.perform
  apply Alone.perform
  apply Alone.begin _ rfl
  intro id record found
  cases found

/-- The interview goes on to the second question here, and there after it is resumed. -/
theorem durable_broken : ∃ live, brokenInterview.live = some live ∧
    (∃ record, brokenInterview.contents.store.sessions.get? live.state.session = some record ∧
      record.state = some live.state.toJson ∧
      (record.status = .completed ↔ live.state.completed = true)) ∧
    ∃ after : Connection,
      (Operation.load live.state.session).perform Connection.storage .epoch
        ⟨none, .sound brokenInterview.contents.store⟩ = (.ok .done, ⟨some live, after⟩) ∧
      Move.performAll Connection.storage [(.epoch, .next)] brokenInterview =
        Move.performAll Connection.storage [(.epoch, .next)] ⟨some live, after⟩ := by
  obtain ⟨live, active⟩ : ∃ live, brokenInterview.live = some live := ⟨_, rfl⟩
  obtain ⟨stored, resumes⟩ := brokenInterview_alone.durable active
  obtain ⟨after, loaded, same⟩ :=
    resumes (.sound brokenInterview.contents.store) none .epoch rfl rfl rfl
  refine ⟨live, active, stored, after, loaded, same _ _ rfl ?_⟩
  intro n call
  have five : brokenInterview.contents.calls.length = 5 := rfl
  have late : ¬ 5 + n = 4 := by omega
  rw [five]
  exact if_neg late

end Inquiry.Session
