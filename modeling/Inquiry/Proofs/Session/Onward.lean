import Inquiry.Proofs.Decision
import Inquiry.Proofs.Session.Serving

namespace Inquiry

namespace Questionnaire

variable {q : Questionnaire} {answers : Answers} {i j k : Nat}

/-- A position behind `i`, where all questions between are hidden. -/
structure Reaches (q : Questionnaire) (answers : Answers) (i j : Nat) : Prop where
  later : i < j
  hidden : ∀ k question, i < k → k < j → q.questions[k]? = some question → question.Hidden answers

/-- All questions behind `i` are hidden. -/
def Exhausted (q : Questionnaire) (answers : Answers) (i : Nat) : Prop :=
  ∀ k question, i < k → q.questions[k]? = some question → question.Hidden answers

/-- Only one position that is not hidden comes first. -/
theorem Reaches.eq (h : q.Reaches answers i j) (h' : q.Reaches answers i k) {p r : Question}
    (found : q.questions[j]? = some p) (stops : ¬ p.Hidden answers)
    (found' : q.questions[k]? = some r) (stops' : ¬ r.Hidden answers) : j = k := by
  by_contra differ
  by_cases before : j < k
  · exact stops (h'.hidden j p h.later before found)
  · have after : k < j := by omega
    exact stops' (h.hidden k r h'.later after found')

/-- The questions passed over first are those of the next positions. -/
theorem mem_passed_iff {n : Nat} {passed rest : List Question}
    (ahead : q.questions.drop n = passed ++ rest) {p : Question} :
    p ∈ passed ↔ ∃ k, n ≤ k ∧ k < n + passed.length ∧ q.questions[k]? = some p := by
  have same : ∀ m, m < passed.length → q.questions[n + m]? = passed[m]? := by
    intro m inside
    rw [← List.getElem?_drop, ahead, List.getElem?_append_left inside]
  rw [List.mem_iff_getElem?]
  constructor
  · rintro ⟨m, found⟩
    have inside : m < passed.length := (List.getElem?_eq_some_iff.mp found).1
    exact ⟨n + m, by omega, by omega, (same m inside).trans found⟩
  · rintro ⟨k, least, inside, found⟩
    have here : n + (k - n) = k := by omega
    refine ⟨k - n, ?_⟩
    rw [← same (k - n) (by omega), here, found]

theorem mem_passed_ids_iff {passed rest : List Question}
    (ahead : q.questions.drop (i + 1) = passed ++ rest) {id : String} :
    id ∈ passed.map (·.id) ↔
      ∃ k p, i < k ∧ k < i + 1 + passed.length ∧ q.questions[k]? = some p ∧ p.id = id := by
  rw [List.mem_map]
  constructor
  · rintro ⟨p, mem, named⟩
    obtain ⟨k, later, before, found⟩ := (mem_passed_iff ahead).mp mem
    exact ⟨k, p, later, before, found, named⟩
  · rintro ⟨k, p, later, before, found, named⟩
    exact ⟨p, (mem_passed_iff ahead).mpr ⟨k, later, before, found⟩, named⟩

/-- Behind hidden questions stands the next position that is reached. -/
theorem reaches_of_drop {passed rest : List Question}
    (ahead : q.questions.drop (i + 1) = passed ++ rest) (hidden : ∀ p ∈ passed, p.Hidden answers) :
    q.Reaches answers i (i + 1 + passed.length) := by
  refine ⟨by omega, fun k question later before found => hidden question ?_⟩
  exact (mem_passed_iff ahead).mpr ⟨k, later, before, found⟩

/-- If no question is left behind those passed over, all positions ahead are theirs. -/
theorem lt_of_drop {passed : List Question} (ahead : q.questions.drop (i + 1) = passed ++ [])
    {p : Question} (found : q.questions[k]? = some p) : k < i + 1 + passed.length := by
  have inside := (List.getElem?_eq_some_iff.mp found).1
  have length := congrArg List.length ahead
  rw [List.append_nil, List.length_drop] at length
  omega

theorem exhausted_of_drop {passed : List Question}
    (ahead : q.questions.drop (i + 1) = passed ++ []) (hidden : ∀ p ∈ passed, p.Hidden answers) :
    q.Exhausted answers i :=
  fun k question later found =>
    (reaches_of_drop ahead hidden).hidden k question later (lt_of_drop ahead found) found

end Questionnaire

namespace Session

open Connection (storage)

/-- What going on changes in any case: the question left becomes one of those visited. -/
structure State.Leaves (s t : State) (now : Time.Instant) : Prop where
  questionnaire : t.questionnaire = s.questionnaire
  session : t.session = s.session
  answers : t.answers = s.answers
  visited : ∀ id, t.visited.contains id = true ↔
    s.current = some id ∨ s.visited.contains id = true
  started : t.started = s.started
  updated : t.updated = now

/-- The state after going on to the question `p` at the position `j`, past all those between. -/
structure State.MovesTo (q : Questionnaire) (s t : State) (now : Time.Instant) (j : Nat)
    (p : Question) : Prop extends s.Leaves t now where
  index : t.index = j
  current : t.current = some p.id
  history : t.history = s.history ++ [p.id]
  skipped : ∀ id, t.skipped.contains id = true ↔ id ≠ p.id ∧ (s.skipped.contains id = true ∨
    ∃ k r, s.index < k ∧ k < j ∧ q.questions[k]? = some r ∧ r.id = id)
  ongoing : t.completed = false

/-- The state after going on past all questions that are left. -/
structure State.Finishes (q : Questionnaire) (s t : State) (now : Time.Instant) : Prop
    extends s.Leaves t now where
  index : t.index = s.index
  current : t.current = s.current
  history : t.history = s.history
  skipped : ∀ id, t.skipped.contains id = true ↔ s.skipped.contains id = true ∨
    ∃ k r, s.index < k ∧ q.questions[k]? = some r ∧ r.id = id
  completed : t.completed = true

/-- All that going on can come to. -/
inductive Onward (now : Time.Instant) (q : Questionnaire) (s : State) :
    Except InterviewError Step → State → Prop
  | further (j : Nat) (p : Question) (t : State) (reached : q.Reaches s.answers s.index j)
      (found : q.questions[j]? = some p) (visible : p.Visible s.answers)
      (moves : s.MovesTo q t now j p) : Onward now q s (.ok (.question p)) t
  | finished (t : State) (exhausted : q.Exhausted s.answers s.index)
      (finishes : s.Finishes q t now) : Onward now q s (.ok (.completed s.answers)) t
  | stuck (j : Nat) (p : Question) (bad : BadPattern) (reached : q.Reaches s.answers s.index j)
      (found : q.questions[j]? = some p) (undecided : p.Undecided s.answers bad) :
      Onward now q s (.error (.pattern bad)) s

variable {q : Questionnaire} {s : State} {now : Time.Instant} {c : Connection} {current : String}

namespace Onward

variable {answer : Except InterviewError Step} {t : State} {j : Nat} {p : Question}

theorem stops (h : Onward now q s answer t) (reached : q.Reaches s.answers s.index j)
    (found : q.questions[j]? = some p) (stops : ¬ p.Hidden s.answers) :
    p.isVisible s.answers = .ok true ∧ answer = .ok (.question p) ∧ s.MovesTo q t now j p ∨
      ∃ bad, p.isVisible s.answers = .error bad ∧ answer = .error (.pattern bad) := by
  cases h with
  | further k r _ reached' found' visible moves =>
    have same := reached.eq reached' found stops found' visible.not_hidden
    subst same
    cases Option.some.inj (found.symm.trans found')
    exact .inl ⟨Question.isVisible_eq_true_iff.mpr visible, rfl, moves⟩
  | finished _ exhausted => exact absurd (exhausted j p reached.later found) stops
  | stuck k r bad reached' found' undecided =>
    have same := reached.eq reached' found stops found' undecided.not_hidden
    subst same
    cases Option.some.inj (found.symm.trans found')
    exact .inr ⟨bad, Question.isVisible_eq_error_iff.mpr undecided, rfl⟩

theorem moves (h : Onward now q s answer t) (reached : q.Reaches s.answers s.index j)
    (found : q.questions[j]? = some p) (visible : p.Visible s.answers) :
    answer = .ok (.question p) ∧ s.MovesTo q t now j p := by
  have decided := Question.isVisible_eq_true_iff.mpr visible
  rcases h.stops reached found visible.not_hidden with ⟨-, moved⟩ | ⟨bad, undecided, -⟩
  · exact moved
  · cases decided.symm.trans undecided

theorem fails (h : Onward now q s answer t) (reached : q.Reaches s.answers s.index j)
    (found : q.questions[j]? = some p) {bad : BadPattern} (undecided : p.Undecided s.answers bad) :
    answer = .error (.pattern bad) := by
  have decided := Question.isVisible_eq_error_iff.mpr undecided
  rcases h.stops reached found undecided.not_hidden with ⟨visible, -⟩ | ⟨other, failed, same⟩
  · cases decided.symm.trans visible
  · cases decided.symm.trans failed
    exact same

theorem ends (h : Onward now q s answer t) (exhausted : q.Exhausted s.answers s.index) :
    answer = .ok (.completed s.answers) ∧ s.Finishes q t now := by
  cases h with
  | further j p _ reached found visible =>
    exact absurd (exhausted j p reached.later found) visible.not_hidden
  | finished _ _ finishes => exact ⟨rfl, finishes⟩
  | stuck j p bad reached found undecided =>
    exact absurd (exhausted j p reached.later found) undecided.not_hidden

theorem question_iff (h : Onward now q s answer t) : answer = .ok (.question p) ↔
    ∃ j, q.Reaches s.answers s.index j ∧ q.questions[j]? = some p ∧ p.Visible s.answers := by
  constructor
  · rintro rfl
    cases h with
    | further j _ _ reached found visible => exact ⟨j, reached, found, visible⟩
  · rintro ⟨j, reached, found, visible⟩
    exact (h.moves reached found visible).1

theorem completed_iff (h : Onward now q s answer t) {answers : Answers} :
    answer = .ok (.completed answers) ↔ answers = s.answers ∧ q.Exhausted s.answers s.index := by
  constructor
  · rintro rfl
    cases h with
    | finished _ exhausted => exact ⟨rfl, exhausted⟩
  · rintro ⟨rfl, exhausted⟩
    exact (h.ends exhausted).1

theorem pattern_iff (h : Onward now q s answer t) {bad : BadPattern} :
    answer = .error (.pattern bad) ↔ ∃ j p, q.Reaches s.answers s.index j ∧
      q.questions[j]? = some p ∧ p.Undecided s.answers bad := by
  constructor
  · rintro rfl
    cases h with
    | stuck j p _ reached found undecided => exact ⟨j, p, reached, found, undecided⟩
  · rintro ⟨j, p, reached, found, undecided⟩
    exact h.fails reached found undecided

/-- Going on fails through patterns only, and then the state stays as it is. -/
theorem of_error (h : Onward now q s answer t) {e : InterviewError} (failed : answer = .error e) :
    (∃ bad, e = .pattern bad) ∧ t = s := by
  cases h with
  | further | finished => cases failed
  | stuck j p bad =>
    cases failed
    exact ⟨⟨bad, rfl⟩, rfl⟩

end Onward

namespace Interview

theorem leaves_moveOn (shown : s.current = some current) (outlook : Outlook) :
    s.Leaves (moveOn s now current outlook) now := by
  have visited : ∀ id, (s.visited.add current).contains id = true ↔
      s.current = some id ∨ s.visited.contains id = true := by
    intro id
    rw [IdSet.contains_add, shown, Option.some_inj, eq_comm]
  obtain ⟨passed, _ | ⟨position, p⟩⟩ := outlook <;> exact ⟨rfl, rfl, rfl, visited, rfl, rfl⟩

theorem movesTo_moveOn (ongoing : s.completed = false) (shown : s.current = some current)
    {passed rest : List Question} {p : Question}
    (ahead : q.questions.drop (s.index + 1) = passed ++ p :: rest) :
    let j := s.index + 1 + passed.length
    s.MovesTo q (moveOn s now current ⟨passed.map (·.id), some (j, p)⟩) now j p := by
  refine ⟨leaves_moveOn shown _, rfl, rfl, rfl, ?_, ongoing⟩
  intro id
  simp only [moveOn]
  rw [Table.contains_erase, IdSet.contains_foldl_add, Questionnaire.mem_passed_ids_iff ahead,
    or_comm]

theorem finishes_moveOn (shown : s.current = some current) {passed : List Question}
    (ahead : q.questions.drop (s.index + 1) = passed ++ []) :
    s.Finishes q (moveOn s now current ⟨passed.map (·.id), none⟩) now := by
  refine ⟨leaves_moveOn shown _, rfl, rfl, rfl, ?_, rfl⟩
  intro id
  simp only [moveOn]
  rw [IdSet.contains_foldl_add, Questionnaire.mem_passed_ids_iff ahead, or_comm]
  apply or_congr_right
  constructor
  · rintro ⟨k, r, later, -, found, named⟩
    exact ⟨k, r, later, found, named⟩
  · rintro ⟨k, r, later, found, named⟩
    exact ⟨k, r, later, Questionnaire.lt_of_drop ahead found, found, named⟩

theorem next_stuck [SessionIds] (ongoing : s.completed = false) (shown : s.current = some current)
    {bad : BadPattern}
    (ahead : lookAhead s.answers (s.index + 1) (q.questions.drop (s.index + 1)) = .error bad)
    (now : Time.Instant) :
    next storage now ⟨some ⟨q, s⟩, c⟩ = (.error (.pattern bad), ⟨some ⟨q, s⟩, c⟩) := by
  unfold next
  rw [run_ongoing_bind c ongoing]
  simp only [shown, ahead]
  rfl

/-- In a session that has a current question and is served by its storage, going on comes to one of
these, and it leaves all as it is if it fails. -/
theorem next_onward [SessionIds] (serves : c.Serves s.session) (ongoing : s.completed = false)
    (shown : s.current = some current) (now : Time.Instant) :
    ∃ answer t d, next storage now ⟨some ⟨q, s⟩, c⟩ = (answer, ⟨some ⟨q, t⟩, d⟩) ∧
      Onward now q s answer t ∧ d.Serves t.session ∧ ∀ e, answer = .error e → d = c := by
  cases ahead : lookAhead s.answers (s.index + 1) (q.questions.drop (s.index + 1)) with
  | error bad =>
    obtain ⟨passed, p, rest, split, invisible, undecided⟩ := exists_undecided ahead
    have hidden := fun r mem => Question.isVisible_eq_false_iff.mp (invisible r mem)
    have reached := Questionnaire.reaches_of_drop split hidden
    have found := Questionnaire.getElem?_of_drop split
    have undecided := Question.isVisible_eq_error_iff.mp undecided
    exact ⟨_, s, c, next_stuck ongoing shown ahead now, .stuck _ p bad reached found undecided,
      serves, fun _ _ => rfl⟩
  | ok outlook =>
    obtain ⟨d, done, served⟩ := next_ok serves ongoing shown ahead now
    obtain ⟨passed, rest, split, ids, invisible, visible, finds⟩ := lookAhead_split ahead
    have hidden := fun r mem => Question.isVisible_eq_false_iff.mp (invisible r mem)
    have leaves : s.Leaves (moveOn s now current outlook) now := leaves_moveOn shown outlook
    rw [← leaves.session] at served
    obtain ⟨_, _⟩ := outlook
    subst ids finds
    cases rest with
    | nil =>
      have exhausted := Questionnaire.exhausted_of_drop split hidden
      exact ⟨_, _, d, done, .finished _ exhausted (finishes_moveOn shown split), served, nofun⟩
    | cons p rest =>
      have reached := Questionnaire.reaches_of_drop split hidden
      have found := Questionnaire.getElem?_of_drop split
      have visible := Question.isVisible_eq_true_iff.mp (visible p rfl)
      exact ⟨_, _, d, done, .further _ p _ reached found visible
        (movesTo_moveOn ongoing shown split), served, nofun⟩

/-- In a session that has a current question and is served by its storage, the questions behind the
current one decide what going on comes to. It leads to the first that is visible, with nothing but
hidden ones before it. It completes the session just if all are hidden. It fails just if one cannot
be decided and only hidden ones stand before it, and then nothing is changed. -/
theorem next_verdict [SessionIds] (serves : c.Serves s.session) (ongoing : s.completed = false)
    (shown : s.current = some current) (now : Time.Instant) :
    ∃ answer t d, next storage now ⟨some ⟨q, s⟩, c⟩ = (answer, ⟨some ⟨q, t⟩, d⟩) ∧
      (∀ p, answer = .ok (.question p) ↔
        ∃ j, q.Reaches s.answers s.index j ∧ q.questions[j]? = some p ∧ p.Visible s.answers) ∧
      (∀ j p, q.Reaches s.answers s.index j → q.questions[j]? = some p → p.Visible s.answers →
        s.MovesTo q t now j p) ∧
      (∀ answers, answer = .ok (.completed answers) ↔
        answers = s.answers ∧ q.Exhausted s.answers s.index) ∧
      (q.Exhausted s.answers s.index → s.Finishes q t now) ∧
      (∀ bad, answer = .error (.pattern bad) ↔ ∃ j p, q.Reaches s.answers s.index j ∧
        q.questions[j]? = some p ∧ p.Undecided s.answers bad) ∧
      ∀ e, answer = .error e → (∃ bad, e = .pattern bad) ∧ t = s ∧ d = c := by
  obtain ⟨answer, t, d, done, onward, -, unchanged⟩ := next_onward serves ongoing shown now
  refine ⟨answer, t, d, done, fun p => onward.question_iff, ?_, fun _ => onward.completed_iff, ?_,
    fun _ => onward.pattern_iff, ?_⟩
  · intro j p reached found visible
    exact (onward.moves reached found visible).2
  · intro exhausted
    exact (onward.ends exhausted).2
  · intro e failed
    obtain ⟨pattern, same⟩ := onward.of_error failed
    exact ⟨pattern, same, unchanged e failed⟩

/-- A question with rules on the answer to the first one. -/
def forkedQuestion (id : String) (rules : (Operator → String → Option Guard) → Rules) : Question :=
  { Question.plain id .text with
    rules := some (rules fun operator operand =>
      some (.one (.compare "a" operator (.string operand)))) }

/-- A form whose second question is skipped, and whose last one reads a pattern that cannot be used,
if the first one is answered with `x`. -/
def forkedForm : Questionnaire :=
  ⟨"form", "", "", [.plain "a" .text,
    forkedQuestion "b" fun when => { Rules.none with skipIf := when .equals "x" },
    forkedQuestion "c" fun when => { Rules.none with showIf := when .matchesPattern "x" },
    forkedQuestion "d" fun when => { Rules.none with hideIf := when .matchesPattern "(" }]⟩

/-- A session at the first question, in which the third was passed over once. -/
def forkedState : State :=
  { State.begin .epoch "form" "$1" "a" with
    answers := .ofList [("a", .string "x")]
    skipped := .ofIds ["c"] }

def forkedStuck : State := { forkedState with
  index := 2
  current := some "c"
  history := ["a", "c"] }

def forkedConnection : Connection := .serving ⟨forkedForm, forkedState⟩

/-- Going on leads past the second question to the third, which counts as passed over no longer.
From there it leads nowhere. -/
theorem next_verdict_forked :
    (∃ p t d, next storage .epoch ⟨some ⟨forkedForm, forkedState⟩, forkedConnection⟩ =
        (.ok (.question p), ⟨some ⟨forkedForm, t⟩, d⟩) ∧
      p.id = "c" ∧ t.index = 2 ∧ t.history = ["a", "c"] ∧ t.skipped.contains "b" = true ∧
      t.skipped.contains "c" = false) ∧
    ∃ bad, next storage .epoch ⟨some ⟨forkedForm, forkedStuck⟩, forkedConnection⟩ =
      (.error (.pattern bad), ⟨some ⟨forkedForm, forkedStuck⟩, forkedConnection⟩) := by
  have serves : forkedConnection.Serves "$1" := Connection.serves_serving _
  constructor
  · obtain ⟨answer, t, d, done, question, moves, -⟩ :=
      next_verdict (q := forkedForm) (s := forkedState) serves rfl rfl .epoch
    have reached : forkedForm.Reaches forkedState.answers 0 2 := by
      refine ⟨by decide, fun k p later before found => ?_⟩
      have here : k = 1 := by omega
      subst here
      cases found
      exact .inl (by decide +kernel)
    obtain ⟨third, found, named, visible⟩ : ∃ p, forkedForm.questions[2]? = some p ∧
        p.id = "c" ∧ p.Visible forkedState.answers :=
      ⟨_, rfl, rfl, by decide +kernel, by decide +kernel⟩
    have moved := moves 2 third reached found visible
    rw [(question third).mpr ⟨2, reached, found, visible⟩] at done
    refine ⟨third, t, d, done, named, moved.index, named ▸ moved.history, ?_, ?_⟩
    · exact (moved.skipped "b").mpr
        ⟨by rw [named]; decide, .inr ⟨1, _, by decide, by decide, rfl, rfl⟩⟩
    · rw [Bool.eq_false_iff]
      exact fun mem => ((moved.skipped "c").mp mem).1 named.symm
  · obtain ⟨answer, t, d, done, -, -, -, -, pattern, unchanged⟩ :=
      next_verdict (q := forkedForm) (s := forkedStuck) serves rfl rfl .epoch
    have reached : forkedForm.Reaches forkedStuck.answers 2 3 :=
      ⟨by decide, fun k p later before => by omega⟩
    obtain ⟨last, bad, found, undecided⟩ : ∃ p bad, forkedForm.questions[3]? = some p ∧
        p.isSkipped forkedStuck.answers = .ok false ∧
        p.isShown forkedStuck.answers = .error bad :=
      ⟨_, _, rfl, rfl, rfl⟩
    have failed := (pattern bad).mpr ⟨3, last, reached, found, .inr undecided⟩
    obtain ⟨-, rfl, rfl⟩ := unchanged _ failed
    rw [failed] at done
    exact ⟨bad, done⟩

end Interview

end Session

end Inquiry
