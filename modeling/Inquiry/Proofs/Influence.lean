import Inquiry.Proofs.Questionnaire.Dependencies
import Inquiry.Proofs.Session.Arrival
import Inquiry.Proofs.Session.Outcome

namespace Inquiry

variable {s t : Answers}

theorem Condition.holds_congr {c : Condition} (agree : s.get? c.question = t.get? c.question) :
    c.holds s = c.holds t := by
  unfold holds
  rw [agree]

theorem allHold_congr {conditions : List Condition}
    (agree : ∀ c ∈ conditions, s.get? c.question = t.get? c.question) :
    allHold s conditions = allHold t conditions := by
  induction conditions with
  | nil => rfl
  | cons c rest ih =>
    have first := Condition.holds_congr (agree c (List.mem_cons_self ..))
    have others := ih fun d mem => agree d (List.mem_cons_of_mem _ mem)
    unfold allHold
    rw [first, others]

theorem Guard.holdsOr_congr (absent : Bool) {guard : Option Guard}
    (agree : ∀ g ∈ guard, ∀ c ∈ g.conditions, s.get? c.question = t.get? c.question) :
    Guard.holdsOr absent guard s = Guard.holdsOr absent guard t := by
  cases guard with
  | none => rfl
  | some g => exact allHold_congr (agree g rfl)

namespace Question

variable {q : Question}

/-- All that is decided about a question comes to the same by either answers, failures included. -/
structure DecidedAlike (q : Question) (s t : Answers) : Prop where
  shown : q.isShown s = q.isShown t
  skipped : q.isSkipped s = q.isSkipped t
  required : q.isRequired s = q.isRequired t

theorem dependsOn_of_ruleSet {g : Guard} (has : q.ruleSet.Has g) {c : Condition}
    (mem : c ∈ g.conditions) : q.DependsOn c.question := by
  unfold ruleSet at has
  cases own : q.rules with
  | none =>
    rw [own] at has
    rcases has with absent | absent | absent | absent <;> cases absent
  | some rules =>
    rw [own] at has
    exact ⟨rules, g, c, own, has, mem, rfl⟩

/-- Answers that are the same to all questions that a question depends on decide alike about it. -/
theorem decidedAlike (agree : ∀ id, q.DependsOn id → s.get? id = t.get? id) :
    q.DecidedAlike s t := by
  have reads : ∀ g, q.ruleSet.Has g → ∀ c ∈ g.conditions,
      s.get? c.question = t.get? c.question :=
    fun g has c mem => agree c.question (dependsOn_of_ruleSet has mem)
  have shows := Guard.holdsOr_congr true fun g here => reads g (.inl here)
  have hides := Guard.holdsOr_congr false fun g here => reads g (.inr (.inl here))
  have skips := Guard.holdsOr_congr false fun g here => reads g (.inr (.inr (.inl here)))
  have requires := Guard.holdsOr_congr false fun g here => reads g (.inr (.inr (.inr here)))
  constructor
  · unfold isShown
    rw [shows, hides]
  · exact skips
  · unfold isRequired
    rw [requires]

end Question

namespace Session

open Interview

variable {σ : Type}

theorem Move.answers_of_record {id : String} {answer : Json} {now : Time.Instant} {live : Live}
    {state : State} {note : Option (Log → Log)} {reply : Reply}
    (planned : (record id answer).plan now live = .go state note reply) :
    state.answers = live.state.answers.record id answer := by
  cases noting planned with
  | nothing _ _ silent => exact absurd rfl (silent id answer)
  | answer _ _ _ recorded => exact recorded

theorem Interview.get?_record (storage : Storage σ) (now : Time.Instant) (id : String)
    (answer : Json) (live : Live) (c : σ) :
    ∃ state, (record storage now id answer ⟨some live, c⟩).2.live =
        some ⟨live.questionnaire, state⟩ ∧
      ∀ other, other ≠ id → state.answers.get? other = live.state.answers.get? other := by
  have same : (record storage now id answer ⟨some live, c⟩).2 =
      ((Move.record id answer).perform storage now ⟨some live, c⟩).2 := by
    change _ = ((record storage now id answer >>= fun _ => pure Reply.done) _).2
    rw [run_map]
  rw [same, Move.perform_eq_run]
  rcases Plan.run_live ((Move.record id answer).plan now live) storage now live.questionnaire
    (some live) c with there | ⟨state, note, reply, planned, there⟩
  · exact ⟨live.state, there, fun _ _ => rfl⟩
  · refine ⟨state, there, fun other differ => ?_⟩
    rw [Move.answers_of_record planned, Answers.record, Table.get?_insert, if_neg differ]

end Session

/-- What is decided about a question of a questionnaire depends only on the answers to its
dependencies in the graph: where two sets of answers have the same ones to those, or none, it is the
same. So an answer that is recorded in a session, whatever the storage does, changes it only for the
dependents of the question answered. -/
theorem Questionnaire.decisions_noninterference (q : Questionnaire) :
    (∀ question ∈ q.questions, ∀ s t : Answers,
      (∀ id ∈ q.dependencies.dependencies question.id, s.get? id = t.get? id) →
      question.DecidedAlike s t) ∧
    ∀ (σ : Type) (storage : Session.Storage σ) (now : Time.Instant) (id : String) (answer : Json)
        (state : Session.State) (c : σ),
      ∃ after : Session.State,
        (Session.Interview.record storage now id answer ⟨some ⟨q, state⟩, c⟩).2.live =
          some ⟨q, after⟩ ∧
        ∀ question ∈ q.questions, ¬ question.DecidedAlike state.answers after.answers →
          question.id ∈ q.dependencies.dependents id := by
  have decided : ∀ question ∈ q.questions, ∀ s t : Answers,
      (∀ id ∈ q.dependencies.dependencies question.id, s.get? id = t.get? id) →
      question.DecidedAlike s t := by
    intro question mem s t agree
    refine Question.decidedAlike fun id reads => agree id ?_
    exact reads_dependencies_iff.mpr ⟨question, mem, rfl, reads⟩
  refine ⟨decided, ?_⟩
  intro σ storage now id answer state c
  obtain ⟨after, live, others⟩ :=
    Session.Interview.get?_record storage now id answer ⟨q, state⟩ c
  refine ⟨after, live, fun question mem changed => ?_⟩
  by_contra independent
  rw [sound_dependencies.mem_dependents_iff] at independent
  refine changed (decided question mem _ _ fun other reads => (others other ?_).symm)
  rintro rfl
  exact independent reads

/-- A form whose second question is skipped by the first, and whose third one is shown by a pattern
that cannot be used. -/
def chained : Questionnaire :=
  let second := { Question.plain "b" .text with
    rules := some { Rules.none with skipIf := some (.one (.compare "a" .equals (.string "x"))) } }
  let third := { Question.plain "c" .text with
    rules := some { Rules.none with
      showIf := some (.one (.compare "b" .matchesPattern (.string "("))) } }
  ⟨"form", "", "", [.plain "a" .text, second, third]⟩

/-- The third question cannot be decided, whatever the first answer is; the second is skipped as
soon as that answer is recorded. -/
theorem noninterference_chained :
    (∃ third bad, chained.find? "c" = some third ∧
      third.isShown (.ofList [("b", .string "y")]) = .error bad ∧
      third.DecidedAlike (.ofList [("b", .string "y")])
        (.ofList [("a", .string "x"), ("b", .string "y")])) ∧
    ∃ (second : Question) (after : Session.State), chained.find? "b" = some second ∧
      ¬ second.DecidedAlike ∅ after.answers ∧
      second.id ∈ chained.dependencies.dependents "a" := by
  obtain ⟨alike, recorded⟩ := chained.decisions_noninterference
  refine ⟨⟨_, _, rfl, rfl, alike _ (by simp [chained]) _ _ (by decide +kernel)⟩, ?_⟩
  let started := ((Session.Operation.start "form").perform Session.Connection.storage .epoch
    ⟨none, .sound (.ofQuestionnaires [chained])⟩).2.contents
  let state := Session.State.begin .epoch "form" "$1" "a"
  obtain ⟨after, live, only⟩ := recorded _ Session.Connection.storage .epoch "a" (.string "x")
    state started
  obtain ⟨second, found, among⟩ : ∃ second, chained.find? "b" = some second ∧
      second ∈ chained.questions := ⟨_, rfl, by simp [chained]⟩
  have skips : ((Session.Interview.record Session.Connection.storage .epoch "a" (.string "x")
      ⟨some ⟨chained, state⟩, started⟩).2.live.bind fun l =>
        (chained.find? "b").map fun q => (q.isSkipped ∅, q.isSkipped l.state.answers)) =
      some (.ok false, .ok true) := by
    decide +kernel
  rw [live, found] at skips
  simp only [Option.bind_some, Option.map_some, Option.some.injEq, Prod.mk.injEq] at skips
  have changed : ¬ second.DecidedAlike ∅ after.answers := by
    intro same
    have := same.skipped
    rw [skips.1, skips.2] at this
    cases this
  exact ⟨second, after, found, changed, only second among changed⟩

end Inquiry
