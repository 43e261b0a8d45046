import Mathlib.Data.List.Basic
import Inquiry.Proofs.Session.Exposure

/-!
What is known of a session once it is resumed.

The checks on a stored state look at its place, its current question and its history. The ids that
were visited, passed over or answered are taken as they were saved, whatever has become of the
questionnaire since. Main statement: `Operation.load_closed_iff`.
-/
namespace Inquiry.Session

open Interview

/-- A state that names only questions of its questionnaire. -/
structure State.Closed (q : Questionnaire) (s : State) : Prop where
  current : ∀ id, s.current = some id → q.contains id = true
  history : ∀ id ∈ s.history, q.contains id = true
  visited : ∀ id, s.visited.contains id = true → q.contains id = true
  skipped : ∀ id, s.skipped.contains id = true → q.contains id = true
  answers : ∀ id, s.answers.contains id = true → q.contains id = true

namespace State

def strayAnswers (q : Questionnaire) (s : State) : List String :=
  s.answers.keys.filter (!q.contains ·)

/-- The ids that were answered, visited or passed over, but are no questions. -/
def strays (q : Questionnaire) (s : State) : List String :=
  s.strayAnswers q ++ (s.visited.keys ++ s.skipped.keys).filter (!q.contains ·)

variable {q : Questionnaire} {s : State}

theorem strays_eq_nil_iff : s.strays q = [] ↔
    (∀ id, s.visited.contains id = true → q.contains id = true) ∧
    (∀ id, s.skipped.contains id = true → q.contains id = true) ∧
    ∀ id, s.answers.contains id = true → q.contains id = true := by
  simp only [strays, strayAnswers, List.append_eq_nil_iff, List.filter_eq_nil_iff,
    List.forall_mem_append, Table.mem_keys_iff, Bool.not_eq_true', Bool.not_eq_false]
  constructor
  · rintro ⟨answers, visited, skipped⟩
    exact ⟨visited, skipped, answers⟩
  · rintro ⟨visited, skipped, answers⟩
    exact ⟨answers, visited, skipped⟩

theorem Closed.strays_eq_nil (h : s.Closed q) : s.strays q = [] :=
  strays_eq_nil_iff.mpr ⟨h.visited, h.skipped, h.answers⟩

/-- Of a state that stands, only the ids that no check looks at can be unknown. -/
theorem Stands.closed_iff (h : s.Stands q) : s.Closed q ↔ s.strays q = [] := by
  constructor
  · exact Closed.strays_eq_nil
  · intro none
    obtain ⟨visited, skipped, answers⟩ := strays_eq_nil_iff.mp none
    have current : ∀ id, s.current = some id → q.contains id = true :=
      fun id shown => Questionnaire.contains_of_position? (h.shown id shown).1
    exact ⟨current, h.history, visited, skipped, answers⟩

/-- There are no more answers than questions and stray answers together. -/
theorem size_answers_le (q : Questionnaire) (s : State) :
    s.answers.size ≤ q.size + (s.strayAnswers q).length := by
  have known : (s.answers.keys.filter (q.contains ·)).length ≤ q.size := by
    have subset : s.answers.keys.filter (q.contains ·) ⊆ q.questions.map (·.id) :=
      fun id mem => Questionnaire.contains_iff.mp (List.mem_filter.mp mem).2
    have distinct : (s.answers.keys.filter (q.contains ·)).Nodup := s.answers.nodup_keys.filter _
    have := distinct.length_le_of_subset subset
    rwa [List.length_map] at this
  have split : s.answers.keys.length =
      (s.answers.keys.filter (q.contains ·)).length + (s.strayAnswers q).length :=
    List.length_eq_length_filter_add _
  have keys : s.answers.keys.length = s.answers.size := List.length_map _
  omega

theorem Closed.size_answers_le (h : s.Closed q) : s.answers.size ≤ q.size := by
  have none : s.strayAnswers q = [] := (List.append_eq_nil_iff.mp h.strays_eq_nil).1
  have bound := State.size_answers_le q s
  rwa [none] at bound

end State

variable {σ : Type} {storage : Storage σ} {now : Time.Instant} {session : String}
  {before : Option Live} {c : σ} {j : Interview σ}

/-- A session is resumed with the state of its record and the questionnaire that is stored then. -/
theorem Operation.load_done
    (resumed : (load session).perform storage now ⟨before, c⟩ = (.ok .done, j)) :
    ∃ record state q d, storage.loadSession session c = (.ok record, d) ∧
      storedState session record = .ok state ∧
      storage.loadQuestionnaire state.questionnaire d = (.ok q, j.contents) ∧
      corruption? q state = none ∧ j.live = some ⟨q, state⟩ := by
  rw [run_load] at resumed
  rcases found : storage.loadSession session c with ⟨e | record, d⟩
  · rw [found] at resumed
    cases resumed
  · rw [found] at resumed
    dsimp only at resumed
    cases stored : storedState session record with
    | error =>
      rw [stored] at resumed
      cases resumed
    | ok state =>
      rw [stored] at resumed
      dsimp only at resumed
      rcases loaded : storage.loadQuestionnaire state.questionnaire d with ⟨e | q, k⟩
      · rw [loaded] at resumed
        cases resumed
      · rw [loaded] at resumed
        dsimp only at resumed
        cases checked : corruption? q state with
        | some =>
          rw [checked] at resumed
          cases resumed
        | none =>
          rw [checked] at resumed
          cases resumed
          exact ⟨record, state, q, d, rfl, stored, loaded, checked, rfl⟩

/-- A session that is resumed stands in the questionnaire that is stored then, and names only
questions of it just if no answer, no id visited and no id passed over is stray. In that case no
more answers are told than questions; else there can be as many more as there are stray answers. The
checks let a state through with any answers and any ids visited and passed over, if they do with
none. -/
theorem Operation.load_closed_iff
    (resumed : (load session).perform storage now ⟨before, c⟩ = (.ok .done, j)) :
    ∃ record state q d p, storage.loadSession session c = (.ok record, d) ∧
      storedState session record = .ok state ∧
      storage.loadQuestionnaire state.questionnaire d = (.ok q, j.contents) ∧
      j.live = some ⟨q, state⟩ ∧ state.Stands q ∧
      (state.Closed q ↔ state.strays q = []) ∧
      Interview.progress j = (.ok p, j) ∧ p.total = q.size ∧ p.answered = state.answers.size ∧
      p.answered ≤ p.total + (state.strayAnswers q).length ∧
      (state.Closed q → p.answered ≤ p.total) ∧
      ∀ answers visited skipped,
        corruption? q { state with answers, visited, skipped } = corruption? q state := by
  obtain ⟨record, state, q, d, found, stored, loaded, checked, there⟩ := load_done resumed
  obtain ⟨live, contents⟩ := j
  cases there
  have stands := State.stands_of_checked stored checked
  exact ⟨record, state, q, d, _, found, stored, loaded, rfl, stands, stands.closed_iff, rfl, rfl,
    rfl, state.size_answers_le q, State.Closed.size_answers_le, fun _ _ _ => rfl⟩

def passedOver (id : String) : Question :=
  { Question.plain id .text with rules := some { Rules.none with hideIf := some (.all []) } }

/-- A session in which everything was answered, and which was led on and back again. After that its
questionnaire is saved anew with other questions. -/
def resavedConnection (questions : List Question) : Connection :=
  let form : Questionnaire :=
    ⟨"form", "", "", [.plain "a" .text, passedOver "b", .plain "c" .text, .plain "d" .text]⟩
  let moves := (["a", "b", "c", "d"].map fun id => Move.record id (.string "x")) ++
    [Move.next, Move.next, Move.previous, Move.previous]
  let steps := (.start "form" :: moves.map .move).map fun op => (Time.Instant.epoch, op)
  let run := Operation.performAll Connection.storage steps ⟨none, .sound (.ofQuestionnaires [form])⟩
  .sound (run.2.contents.store.saveQuestionnaire { form with questions })

def resavedInterview (questions : List Question) : Interview Connection :=
  ((Operation.load "$1").perform Connection.storage .epoch ⟨none, resavedConnection questions⟩).2

/-- If it is resumed at all. -/
theorem perform_resaved (questions : List Question)
    (done : ((Operation.load "$1").perform Connection.storage .epoch
      ⟨none, resavedConnection questions⟩).1 = .ok .done) :
    (Operation.load "$1").perform Connection.storage .epoch ⟨none, resavedConnection questions⟩ =
      (.ok .done, resavedInterview questions) :=
  Prod.ext done rfl

/-- A questionnaire that was saved anew with its questions in another order and with a further one
still has all that the session names. -/
theorem load_closed_reordered :
    let questions := ["a", "d", "e", "c", "b"].map (Question.plain · .text)
    ∃ q state p, (resavedInterview questions).live = some ⟨q, state⟩ ∧ state.Closed q ∧
      Interview.progress (resavedInterview questions) = (.ok p, resavedInterview questions) ∧
      p.answered = 4 ∧ p.total = 5 := by
  intro questions
  have resumed := perform_resaved questions (by decide +kernel)
  have figures : (resavedInterview questions).live.map (fun l =>
      (l.state.strays l.questionnaire, l.state.answers.size, l.questionnaire.size)) =
      some ([], 4, 5) := by
    decide +kernel
  obtain ⟨record, state, q, d, p, -, -, -, active, -, closed, progress, total, answered, -⟩ :=
    Operation.load_closed_iff resumed
  rw [active] at figures
  simp only [Option.map_some, Option.some_inj, Prod.mk.injEq] at figures
  obtain ⟨strays, size, questions⟩ := figures
  exact ⟨q, state, p, active, closed.mpr strays, progress, answered.trans size,
    total.trans questions⟩

/-- A session is resumed although its questionnaire was saved anew with its first question only. It
names three questions that are not there any more, and tells four answers to one question. -/
theorem load_not_closed :
    let questions := [Question.plain "a" .text]
    ∃ q state p,
      (Operation.load "$1").perform Connection.storage .epoch
        ⟨none, resavedConnection questions⟩ = (.ok .done, resavedInterview questions) ∧
      (resavedInterview questions).live = some ⟨q, state⟩ ∧
      state.answers.keys = ["a", "b", "c", "d"] ∧ state.visited.keys = ["a", "c"] ∧
      state.skipped.keys = ["b"] ∧ ¬ state.Closed q ∧
      Interview.progress (resavedInterview questions) = (.ok p, resavedInterview questions) ∧
      p.answered = 4 ∧ p.total = 1 := by
  intro questions
  have resumed := perform_resaved questions (by decide +kernel)
  have figures : (resavedInterview questions).live.map (fun l =>
      (l.state.answers.keys, l.state.visited.keys, l.state.skipped.keys,
        l.state.strays l.questionnaire, l.state.answers.size, l.questionnaire.size)) =
      some (["a", "b", "c", "d"], ["a", "c"], ["b"], ["b", "c", "d", "c", "b"], 4, 1) := by
    decide +kernel
  obtain ⟨record, state, q, d, -, -, -, -, active⟩ := Operation.load_done resumed
  rw [active] at figures
  simp only [Option.map_some, Option.some_inj, Prod.mk.injEq] at figures
  obtain ⟨answers, visited, skipped, strays, size, total⟩ := figures
  have unclosed : ¬ state.Closed q := by
    intro closed
    rw [closed.strays_eq_nil] at strays
    cases strays
  generalize resavedInterview questions = interview at resumed active
  obtain ⟨live, c⟩ := interview
  cases active
  exact ⟨q, state, _, resumed, rfl, answers, visited, skipped, unclosed, rfl, size, total⟩

end Inquiry.Session
