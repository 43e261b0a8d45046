import Inquiry.Proofs.Session.Outcome

namespace Inquiry.Session

open Connection (storage)

/-- A connection over which no call fails, to tables that have a session and its log. -/
structure Connection.Serves (c : Connection) (session : String) : Prop where
  works : ∀ n k, c.faults n k = none
  record : ∃ record, c.store.sessions.get? session = some record
  log : ∃ log, c.store.logs.get? session = some log ∧ log.session = session

/-- A sound connection to tables in which a session under way was saved. -/
def Connection.serving (live : Live) : Connection :=
  let state := live.state
  .sound { Store.ofQuestionnaires [live.questionnaire] with
    sessions := .ofList [(state.session, ⟨state.session, state.questionnaire, .active,
      state.started, state.updated, some state.toJson⟩)]
    logs := .ofList [(state.session, .begin state.started state.session state.questionnaire)] }

theorem Connection.serves_serving (live : Live) : (serving live).Serves live.state.session := by
  have found : ∀ {α : Type} (a : α), (Table.ofList [(live.state.session, a)]).get?
      live.state.session = some a := fun _ => (Table.get?_ofList _ _).trans (if_pos rfl)
  exact ⟨fun _ _ => rfl, ⟨_, found _⟩, _, found _, rfl⟩

variable [SessionIds] {c : Connection} {live : Option Live} {q : Questionnaire} {state : State}

theorem Plan.run_go_ok (serves : c.Serves state.session) (now : Time.Instant) (reply : Reply) :
    ∃ d : Connection, (go state none reply).run storage now q ⟨live, c⟩ =
      (.ok reply, ⟨some ⟨q, state⟩, d⟩) ∧ d.Serves state.session := by
  obtain ⟨record, found⟩ := serves.record
  rw [run_go, Connection.updateSession_ok now (.ofState state) (serves.works _ _) found]
  refine ⟨_, rfl, serves.works, ?_, serves.log⟩
  refine ⟨record.update now (.ofState state), ?_⟩
  simp only [Connection.after, Table.get?_insert, if_true]

theorem Plan.run_note_ok (serves : c.Serves state.session) (now : Time.Instant)
    {note : Log → Log} (keeps : ∀ log, (note log).session = log.session) (reply : Reply) :
    ∃ d : Connection, (go state (some note) reply).run storage now q ⟨live, c⟩ =
      (.ok reply, ⟨some ⟨q, state⟩, d⟩) ∧ d.Serves state.session := by
  obtain ⟨log, found, own⟩ := serves.log
  have saved := Connection.saveLog_ok (c := c.after .loadLog c.store) (note log)
    (serves.works _ _)
  rw [run_note, Connection.loadLog_ok (serves.works _ _) found]
  dsimp only
  rw [saved]
  apply run_go_ok
  refine ⟨serves.works, serves.record, note log, ?_, ?_⟩
  · simp only [Connection.after, Store.saveLog, Table.get?_insert, keeps, own, if_true]
  · rw [keeps, own]

theorem Move.perform_ok {m : Move} {now : Time.Instant} {before : Live}
    {note : Option (Log → Log)} {reply : Reply} (serves : c.Serves before.state.session)
    (planned : m.plan now before = .go state note reply) :
    ∃ d : Connection, m.perform storage now ⟨some before, c⟩ =
      (.ok reply, ⟨some ⟨before.questionnaire, state⟩, d⟩) ∧ d.Serves state.session := by
  rw [← (leads planned).session] at serves
  rw [perform_eq_run, planned]
  cases note with
  | none => exact Plan.run_go_ok serves now reply
  | some note => exact Plan.run_note_ok serves now ((noting planned).filed note rfl) reply

namespace Interview

theorem start_ok {questionnaire : String} {first : Question} {rest : List Question}
    (works : ∀ n k, c.faults n k = none)
    (found : c.store.questionnaires.get? questionnaire = some q) (distinct : q.Distinct)
    (questions : q.questions = first :: rest) (now : Time.Instant) :
    ∃ (session : String) (d : Connection),
      start storage now questionnaire ⟨live, c⟩ =
        (.ok first, ⟨some ⟨q, .begin now questionnaire session first.id⟩, d⟩) ∧
      d.Serves session := by
  let loaded := c.after .loadQuestionnaire c.store
  let session := SessionIds.id (c.store.opened + 1)
  let opened := loaded.after .createSession (c.store.createSession now questionnaire).2
  let log := Log.begin now session questionnaire
  let state := State.begin now questionnaire session first.id
  have created : storage.createSession now questionnaire loaded = (.ok session, opened) :=
    Connection.createSession_ok now questionnaire (works _ _)
  have saved : storage.saveLog log opened =
      (.ok (), opened.after .saveLog (opened.store.saveLog log)) :=
    Connection.saveLog_ok log (works _ _)
  have serves : (opened.after .saveLog (opened.store.saveLog log)).Serves state.session := by
    refine ⟨works, ⟨_, c.store.get?_createSession now questionnaire⟩, log, ?_, rfl⟩
    simp only [Connection.after, Store.saveLog, log, Log.begin, state, State.begin,
      Table.get?_insert, if_true]
  obtain ⟨d, committed, served⟩ := Plan.run_go_ok serves now (.question first)
  refine ⟨session, d, of_run_map (fun _ _ => Reply.question.inj) ?_, served⟩
  change (Operation.start questionnaire).perform storage now ⟨live, c⟩ = _
  rw [Operation.run_start, Connection.loadQuestionnaire_ok (works _ _) found distinct]
  dsimp only
  rw [questions]
  dsimp only
  rw [created]
  dsimp only
  rw [saved]
  exact committed

theorem record_ok (serves : c.Serves state.session) (ongoing : state.completed = false)
    {id : String} (known : q.contains id = true) (now : Time.Instant) (answer : Json) :
    ∃ d : Connection, record storage now id answer ⟨some ⟨q, state⟩, c⟩ =
        (.ok (), ⟨some ⟨q, { state with
          answers := state.answers.record id answer
          updated := now }⟩, d⟩) ∧
      d.Serves state.session := by
  have planned : (Move.record id answer).plan now ⟨q, state⟩ = _ :=
    (Move.plan_of_ongoing ongoing).trans (if_pos known)
  obtain ⟨d, done, served⟩ := Move.perform_ok serves planned
  exact ⟨d, of_run_map (f := fun _ => Reply.done) (fun _ _ _ => rfl) done, served⟩

/-- Going on leads to the question that the look ahead finds, or to the end. -/
theorem next_ok (serves : c.Serves state.session) (ongoing : state.completed = false)
    {current : String} (shown : state.current = some current) {outlook : Outlook}
    (ahead : lookAhead state.answers (state.index + 1) (q.questions.drop (state.index + 1)) =
      .ok outlook) (now : Time.Instant) :
    ∃ d : Connection, next storage now ⟨some ⟨q, state⟩, c⟩ =
        (.ok (match outlook.found with
          | some (_, following) => .question following
          | none => .completed state.answers),
          ⟨some ⟨q, moveOn state now current outlook⟩, d⟩) ∧
      d.Serves state.session := by
  have planned : Move.next.plan now ⟨q, state⟩ = _ := Move.plan_of_ongoing ongoing
  simp only [Move.planOngoing, shown, ahead] at planned
  obtain ⟨passed, _ | ⟨position, following⟩⟩ := outlook
  · obtain ⟨d, done, served⟩ := Move.perform_ok serves planned
    exact ⟨d, of_run_map (f := Reply.ofStep) Reply.ofStep_injective done, served⟩
  · obtain ⟨d, done, served⟩ := Move.perform_ok serves planned
    exact ⟨d, of_run_map (f := Reply.ofStep) Reply.ofStep_injective done, served⟩

omit [SessionIds] in
theorem isRequired_ok {question : Question} {required : Bool}
    (shown : (⟨some ⟨q, state⟩, c⟩ : Interview Connection).current? = some question)
    (decided : question.isRequired state.answers = .ok required) :
    isRequired (⟨some ⟨q, state⟩, c⟩ : Interview Connection) =
      (.ok required, ⟨some ⟨q, state⟩, c⟩) := by
  unfold isRequired
  rw [run_bind, run_active]
  dsimp only
  rw [run_bind, run_get]
  dsimp only
  rw [shown]
  dsimp only
  rw [decided]
  rfl

end Interview

end Inquiry.Session
