import Inquiry.Proofs.Questionnaire.Position
import Inquiry.Proofs.Session.Operation
import Inquiry.Proofs.Session.Snapshot

namespace Inquiry.Session

open Interview

/-- A state that its questionnaire accounts for. -/
structure State.Fits (q : Questionnaire) (s : State) : Prop where
  shown : ∃ id, s.current = some id ∧ q.position? id = some s.index ∧
    s.history.getLast? = some id
  history : ∀ id ∈ s.history, q.contains id = true
  visited : ∀ id, s.visited.contains id = true → q.contains id = true
  skipped : ∀ id, s.skipped.contains id = true → q.contains id = true
  answers : ∀ id, s.answers.contains id = true → q.contains id = true

/-- A look ahead passes over questions that are not visible, up to one that is or to the end. -/
theorem Interview.lookAhead_split {answers : Answers} {position : Nat} {questions : List Question}
    {outlook : Outlook} (h : lookAhead answers position questions = .ok outlook) :
    ∃ hidden rest, questions = hidden ++ rest ∧ outlook.passed = hidden.map (·.id) ∧
      (∀ p ∈ hidden, p.isVisible answers = .ok false) ∧
      (∀ q ∈ rest.head?, q.isVisible answers = .ok true) ∧
      outlook.found = rest.head?.map fun q => (position + hidden.length, q) := by
  induction questions generalizing position outlook with
  | nil =>
    cases h
    exact ⟨[], [], rfl, rfl, by simp, by simp, rfl⟩
  | cons q questions ih =>
    simp only [lookAhead] at h
    cases decided : q.isVisible answers with
    | error bad => simp [decided, bind, Except.bind] at h
    | ok visible =>
      cases visible with
      | true =>
        simp [decided, bind, Except.bind, pure, Except.pure] at h
        subst h
        exact ⟨[], q :: questions, rfl, rfl, by simp, by simp [decided], rfl⟩
      | false =>
        simp only [decided, bind, Except.bind] at h
        cases ahead : lookAhead answers (position + 1) questions with
        | error bad => simp [ahead] at h
        | ok further =>
          simp [ahead, pure, Except.pure] at h
          subst h
          obtain ⟨hidden, rest, split, passed, all, next, found⟩ := ih ahead
          refine ⟨q :: hidden, rest, by simp [split], by simp [passed], ?_, next, ?_⟩
          · intro p mem
            rcases List.mem_cons.mp mem with rfl | mem
            · exact decided
            · exact all p mem
          · rw [found, List.length_cons, Nat.add_right_comm, Nat.add_assoc]

/-- A look ahead that fails does so at a question that cannot be decided, and only questions that
are not visible stand before it. -/
theorem Interview.exists_undecided {answers : Answers} {position : Nat} {questions : List Question}
    {bad : BadPattern} (h : lookAhead answers position questions = .error bad) :
    ∃ passed q rest, questions = passed ++ q :: rest ∧
      (∀ p ∈ passed, p.isVisible answers = .ok false) ∧ q.isVisible answers = .error bad := by
  induction questions generalizing position with
  | nil => cases h
  | cons q questions ih =>
    simp only [lookAhead] at h
    cases decided : q.isVisible answers with
    | error other =>
      simp [decided, bind, Except.bind] at h
      subst h
      exact ⟨[], q, questions, rfl, by simp, decided⟩
    | ok visible =>
      cases visible with
      | true => simp [decided, bind, Except.bind, pure, Except.pure] at h
      | false =>
        simp only [decided, bind, Except.bind] at h
        cases ahead : lookAhead answers (position + 1) questions with
        | ok outlook => simp [ahead, pure, Except.pure] at h
        | error other =>
          simp [ahead] at h
          subst h
          obtain ⟨passed, p, rest, split, hidden, undecided⟩ := ih ahead
          refine ⟨q :: passed, p, rest, by simp [split], ?_, undecided⟩
          exact List.forall_mem_cons.mpr ⟨decided, hidden⟩

theorem Interview.position?_of_lookAhead {q : Questionnaire} {answers : Answers} {position : Nat}
    {outlook : Outlook} (distinct : q.Distinct)
    (ahead : lookAhead answers position (q.questions.drop position) = .ok outlook)
    {found : Nat} {question : Question} (finds : outlook.found = some (found, question)) :
    q.position? question.id = some found := by
  obtain ⟨hidden, rest, split, -, -, -, first⟩ := lookAhead_split ahead
  rw [finds] at first
  cases rest with
  | nil => cases first
  | cons next rest =>
    cases first
    exact Questionnaire.position?_of_getElem? distinct (Questionnaire.getElem?_of_drop split)

/-- The question stepped back to is found by its id, since the state does not keep positions. -/
theorem Interview.exists_stepBack {live : Live}
    (known : ∀ id ∈ live.state.history, live.questionnaire.contains id = true)
    (long : 1 < live.state.history.length) :
    ∃ id position q, live.state.history.dropLast.getLast? = some id ∧
      live.questionnaire.position? id = some position ∧
      (live.questionnaire.questions[position]? = some q ∧ q.id = id) ∧
      ∀ now, stepBack live now = ({ live.state with
        history := live.state.history.dropLast
        updated := now
        index := position
        current := some id }, some q) := by
  have remains : live.state.history.dropLast ≠ [] := by
    intro empty
    have := congrArg List.length empty
    simp at this
    omega
  obtain ⟨id, last⟩ : ∃ id, live.state.history.dropLast.getLast? = some id :=
    ⟨_, List.getLast?_eq_some_getLast remains⟩
  have among : id ∈ live.state.history := List.dropLast_subset _ (List.mem_of_getLast? last)
  obtain ⟨position, stands⟩ := Questionnaire.exists_position? (known id among)
  obtain ⟨q, found, named⟩ := Questionnaire.getElem?_of_position? stands
  have target : (do
      let id ← live.state.history.dropLast.getLast?
      let position ← live.questionnaire.position? id
      let q ← live.questionnaire.questions[position]?
      return (position, id, q)) = some (position, id, q) := by
    simp [last, stands, found]
  refine ⟨id, position, q, last, stands, ⟨found, named⟩, ?_⟩
  intro now
  simp only [stepBack, target]

/-- What a move can lead to. -/
inductive Leads (now : Time.Instant) (live : Live) : State → Prop
  | moveOn (current : String) (outlook : Outlook)
      (shown : live.state.current = some current)
      (ahead : lookAhead live.state.answers (live.state.index + 1)
        (live.questionnaire.questions.drop (live.state.index + 1)) = .ok outlook) :
      Leads now live (moveOn live.state now current outlook)
  | stepBack (shown : 1 < live.state.history.length) : Leads now live (stepBack live now).1
  | jump (id : String) (position : Nat) (found : live.questionnaire.position? id = some position) :
      Leads now live { live.state with
        index := position
        current := some id
        history := live.state.history ++ [id]
        updated := now }
  | record (id : String) (answer : Json) (known : live.questionnaire.contains id = true) :
      Leads now live { live.state with
        answers := live.state.answers.record id answer
        updated := now }
  | save : Leads now live live.state

theorem Move.leads {m : Move} {now : Time.Instant} {live : Live} {state : State}
    {note : Option (Log → Log)} {reply : Reply} (planned : m.plan now live = .go state note reply) :
    Leads now live state := by
  have goes := m.planned now live
  rw [planned] at goes
  cases goes with
  | onward _ current passed position q shown ahead => exact .moveOn current _ shown ahead
  | finish _ current passed shown ahead => exact .moveOn current _ shown ahead
  | back _ long => exact .stepBack long
  | jump _ id position q stands => exact .jump id position stands
  | record _ id answer known => exact .record id answer known
  | save => exact .save

variable {now : Time.Instant} {live : Live} {state : State}

theorem Leads.session (h : Leads now live state) : state.session = live.state.session := by
  cases h with
  | moveOn current outlook => unfold Interview.moveOn; split <;> rfl
  | stepBack => unfold Interview.stepBack; dsimp only; split <;> rfl
  | jump | record | save => rfl

theorem Leads.questionnaire (h : Leads now live state) :
    state.questionnaire = live.state.questionnaire := by
  cases h with
  | moveOn current outlook => unfold Interview.moveOn; split <;> rfl
  | stepBack => unfold Interview.stepBack; dsimp only; split <;> rfl
  | jump | record | save => rfl

theorem State.fits_begin {q : Questionnaire} {first : Question} {rest : List Question}
    (questions : q.questions = first :: rest) (now : Time.Instant)
    (questionnaire session : String) :
    (State.begin now questionnaire session first.id).Fits q := by
  have stands : q.position? first.id = some 0 := by
    simp [Questionnaire.position?, questions, Questionnaire.positionIn]
  have known := Questionnaire.contains_of_position? stands
  constructor
  · exact ⟨first.id, rfl, stands, rfl⟩
  · simp [begin, known]
  all_goals
    intro id mem
    simp [begin] at mem

namespace State.Fits

theorem known {q : Questionnaire} (h : state.Fits q) {id : String}
    (shown : state.current = some id) : q.contains id = true := by
  obtain ⟨current, shown', stands, -⟩ := h.shown
  rw [shown, Option.some_inj] at shown'
  exact Questionnaire.contains_of_position? (shown' ▸ stands)

theorem moveOn (h : live.state.Fits live.questionnaire) (distinct : live.questionnaire.Distinct)
    {current : String} {outlook : Outlook} (shown : live.state.current = some current)
    (ahead : lookAhead live.state.answers (live.state.index + 1)
      (live.questionnaire.questions.drop (live.state.index + 1)) = .ok outlook) :
    (Interview.moveOn live.state now current outlook).Fits live.questionnaire := by
  obtain ⟨hidden, rest, split, passed, -⟩ := lookAhead_split ahead
  have visited : ∀ id, (live.state.visited.add current).contains id = true →
      live.questionnaire.contains id = true := by
    intro id mem
    rcases (IdSet.contains_add _ _ _).mp mem with rfl | mem
    · exact h.known shown
    · exact h.visited id mem
  have skipped : ∀ id, (outlook.passed.foldl IdSet.add live.state.skipped).contains id = true →
      live.questionnaire.contains id = true := by
    intro id mem
    rcases (IdSet.contains_foldl_add _ _ _).mp mem with mem | mem
    · rw [passed] at mem
      obtain ⟨p, among, rfl⟩ := List.mem_map.mp mem
      have ahead : p ∈ live.questionnaire.questions.drop (live.state.index + 1) :=
        split ▸ List.mem_append_left _ among
      exact Questionnaire.contains_iff.mpr (List.mem_map_of_mem (List.mem_of_mem_drop ahead))
    · exact h.skipped id mem
  cases found : outlook.found with
  | none =>
    simp only [Interview.moveOn, found]
    exact ⟨h.shown, h.history, visited, skipped, h.answers⟩
  | some next =>
    obtain ⟨position, q⟩ := next
    have stands := position?_of_lookAhead distinct ahead found
    simp only [Interview.moveOn, found]
    refine ⟨⟨q.id, rfl, stands, by simp⟩, ?_, visited, ?_, h.answers⟩
    · intro id mem
      rcases List.mem_append.mp mem with mem | mem
      · exact h.history id mem
      · rw [List.mem_singleton.mp mem]
        exact Questionnaire.contains_of_position? stands
    · intro id mem
      exact skipped id ((Table.contains_erase _ _ _).mp mem).2

theorem stepBack (h : live.state.Fits live.questionnaire) (long : 1 < live.state.history.length) :
    (Interview.stepBack live now).1.Fits live.questionnaire := by
  obtain ⟨id, position, q, last, stands, -, back⟩ := exists_stepBack h.history long
  have history : ∀ id ∈ live.state.history.dropLast, live.questionnaire.contains id = true :=
    fun id mem => h.history id (List.dropLast_subset _ mem)
  rw [back]
  exact ⟨⟨id, rfl, stands, last⟩, history, h.visited, h.skipped, h.answers⟩

theorem jump (h : live.state.Fits live.questionnaire) {id : String} {position : Nat}
    (stands : live.questionnaire.position? id = some position) :
    State.Fits live.questionnaire { live.state with
      index := position
      current := some id
      history := live.state.history ++ [id]
      updated := now } := by
  refine ⟨⟨id, rfl, stands, by simp⟩, ?_, h.visited, h.skipped, h.answers⟩
  intro other mem
  rcases List.mem_append.mp mem with mem | mem
  · exact h.history other mem
  · rw [List.mem_singleton.mp mem]
    exact Questionnaire.contains_of_position? stands

theorem record (h : live.state.Fits live.questionnaire) {id : String} {answer : Json}
    (known : live.questionnaire.contains id = true) :
    State.Fits live.questionnaire { live.state with
      answers := live.state.answers.record id answer
      updated := now } := by
  refine ⟨h.shown, h.history, h.visited, h.skipped, ?_⟩
  intro other mem
  rcases (Table.contains_insert _ _ _ _).mp mem with rfl | mem
  · exact known
  · exact h.answers other mem

end State.Fits

theorem Leads.fits (h : Leads now live state) (distinct : live.questionnaire.Distinct)
    (fits : live.state.Fits live.questionnaire) : state.Fits live.questionnaire := by
  cases h with
  | moveOn current outlook shown ahead => exact fits.moveOn distinct shown ahead
  | stepBack long => exact fits.stepBack long
  | jump id position stands => exact fits.jump stands
  | record id answer known => exact fits.record known
  | save => exact fits

theorem Interview.of_storedState {session : String} {record : Record} {read : State}
    (stored : storedState session record = .ok read) :
    ∃ json, record.state = some json ∧ State.ofJson json = .ok read ∧ read.session = session := by
  unfold storedState at stored
  split at stored
  · cases stored
  · rename_i json told
    cases result : State.ofJson json with
    | error e => simp [result, bind, Except.bind] at stored
    | ok state =>
      simp only [result, bind, Except.bind] at stored
      split at stored
      · rename_i own
        cases stored
        exact ⟨json, told, result, own.1⟩
      · cases stored

/-- What is read from a record that tells a state is that state, if its history ends with its
current question. -/
theorem Interview.eq_of_storedState {session : String} {record : Record} {read : State}
    (ends : ∀ id, state.current = some id → state.history.getLast? = some id)
    (told : record.state = some state.toJson) (stored : storedState session record = .ok read) :
    state = read := by
  obtain ⟨json, told', result, -⟩ := of_storedState stored
  rw [told, Option.some_inj] at told'
  rw [← told', State.ofJson_toJson ends] at result
  exact Except.ok.inj result

namespace State.Fits

variable {q : Questionnaire}

/-- The history of a state that fits ends with its current question. -/
theorem ends (h : state.Fits q) (id : String) (shown : state.current = some id) :
    state.history.getLast? = some id := by
  obtain ⟨current, shown', -, last⟩ := h.shown
  rw [shown, Option.some_inj] at shown'
  rw [shown', last]

theorem ofJson_toJson (h : state.Fits q) : State.ofJson state.toJson = .ok state :=
  State.ofJson_toJson h.ends

theorem eq_of_storedState (h : state.Fits q) {session : String} {record : Record} {read : State}
    (told : record.state = some state.toJson) (stored : storedState session record = .ok read) :
    state = read :=
  Interview.eq_of_storedState h.ends told stored

theorem corruption?_eq_none (h : state.Fits q) : corruption? q state = none := by
  obtain ⟨id, shown, stands, -⟩ := h.shown
  have within : ¬ q.size ≤ state.index := Nat.not_le.mpr (Questionnaire.position?_lt stands)
  have history : state.history.find? (fun id => !q.contains id) = none := by
    rw [List.find?_eq_none]
    intro id mem
    simp [h.history id mem]
  have current : state.current.filter (fun id => q.position? id ≠ some state.index) = none := by
    simp [shown, Option.filter, stands]
  unfold corruption?
  rw [if_neg within, current, history]
  rfl

/-- The current question has a number between one and the number of questions. -/
theorem index_lt (h : state.Fits q) : state.index < q.size := by
  obtain ⟨id, -, stands, -⟩ := h.shown
  exact Questionnaire.position?_lt stands

/-- There are no more answers than questions. -/
theorem answers_le (h : state.Fits q) : state.answers.size ≤ q.size := by
  have named : ∀ id, state.answers.contains id = true → id ∈ q.questions.map (·.id) :=
    fun id mem => Questionnaire.contains_iff.mp (h.answers id mem)
  have := Table.size_le_length named
  rwa [List.length_map] at this

/-- In a state that fits there is a question to go on from. -/
theorem next_ne_noCurrentQuestion {σ : Type} (h : live.state.Fits live.questionnaire)
    (storage : Storage σ) (now : Time.Instant) (c : σ) :
    (Interview.next storage now ⟨some live, c⟩).1 ≠ .error .noCurrentQuestion := by
  intro failed
  have performed :
      (Move.next.perform storage now ⟨some live, c⟩).1 = .error .noCurrentQuestion := by
    change ((Interview.next storage now >>= fun step => pure (Reply.ofStep step)) _).1 = _
    rw [run_map, failed]
    rfl
  obtain ⟨id, shown, -⟩ := h.shown
  rw [Move.perform_eq_run] at performed
  rcases Plan.run_error performed with refused | ⟨s, impossible⟩
  · have planned := Move.next.planned now live
    rw [refused] at planned
    cases planned with
    | lost _ nowhere => cases shown.symm.trans nowhere
  · cases impossible

end State.Fits

end Inquiry.Session
