import Inquiry.Proofs.Session.Operation

namespace Inquiry.Session

open Interview

variable {σ : Type}

theorem Plan.run_go_live_of_error (storage : Storage σ) (now : Time.Instant) (q : Questionnaire)
    (state : State) (reply : Reply) (live : Option Live) (c : σ) (e : InterviewError) :
    ((go state none reply).run storage now q ⟨live, c⟩).1 = .error e →
      ((go state none reply).run storage now q ⟨live, c⟩).2.live = live := by
  rw [run_go]
  rcases storage.updateSession now state.session (.ofState state) c with ⟨_ | _, c⟩
  · exact fun _ => rfl
  · exact fun failed => nomatch failed

/-- A plan takes over its state in its last step, after everything that can fail. -/
theorem Plan.run_live_of_error (plan : Plan) (storage : Storage σ) (now : Time.Instant)
    (q : Questionnaire) (live : Option Live) (c : σ) (e : InterviewError) :
    (plan.run storage now q ⟨live, c⟩).1 = .error e →
      (plan.run storage now q ⟨live, c⟩).2.live = live := by
  cases plan with
  | refuse | stay => exact fun _ => rfl
  | go state note reply =>
    cases note with
    | none => exact run_go_live_of_error storage now q state reply live c e
    | some note =>
      rw [run_note]
      rcases storage.loadLog state.session c with ⟨_ | log, c⟩
      · exact fun _ => rfl
      · dsimp only
        rcases storage.saveLog (note log) c with ⟨_ | _, c⟩
        · exact fun _ => rfl
        · exact run_go_live_of_error storage now q state reply live c e

theorem Operation.start_live_of_error (storage : Storage σ) (now : Time.Instant)
    (questionnaire : String) (live : Option Live) (c : σ) (e : InterviewError) :
    ((start questionnaire).perform storage now ⟨live, c⟩).1 = .error e →
      ((start questionnaire).perform storage now ⟨live, c⟩).2.live = live := by
  rw [run_start]
  rcases storage.loadQuestionnaire questionnaire c with ⟨_ | q, c⟩
  · exact fun _ => rfl
  · dsimp only
    cases q.questions with
    | nil => exact fun _ => rfl
    | cons first rest =>
      dsimp only
      rcases storage.createSession now questionnaire c with ⟨_ | session, c⟩
      · exact fun _ => rfl
      · dsimp only
        rcases storage.saveLog (.begin now session questionnaire) c with ⟨_ | _, c⟩
        · exact fun _ => rfl
        · exact Plan.run_go_live_of_error storage now q _ _ live c e

theorem Operation.load_live_of_error (storage : Storage σ) (now : Time.Instant) (session : String)
    (live : Option Live) (c : σ) (e : InterviewError) :
    ((load session).perform storage now ⟨live, c⟩).1 = .error e →
      ((load session).perform storage now ⟨live, c⟩).2.live = live := by
  rw [run_load]
  rcases storage.loadSession session c with ⟨_ | record, c⟩
  · exact fun _ => rfl
  · dsimp only
    cases storedState session record with
    | error => exact fun _ => rfl
    | ok state =>
      dsimp only
      rcases storage.loadQuestionnaire state.questionnaire c with ⟨_ | q, c⟩
      · exact fun _ => rfl
      · dsimp only
        cases corruption? q state with
        | some => exact fun _ => rfl
        | none => exact fun failed => nomatch failed

theorem Operation.live_of_error (op : Operation) (storage : Storage σ) (now : Time.Instant)
    (i : Interview σ) (e : InterviewError) (failed : (op.perform storage now i).1 = .error e) :
    (op.perform storage now i).2.live = i.live := by
  obtain ⟨live, c⟩ := i
  cases op with
  | start questionnaire => exact start_live_of_error storage now questionnaire live c e failed
  | load session => exact load_live_of_error storage now session live c e failed
  | move m =>
    change (m.perform storage now ⟨live, c⟩).1 = _ at failed
    change (m.perform storage now ⟨live, c⟩).2.live = live
    cases live with
    | none => rw [Move.perform_none]
    | some live =>
      rw [Move.perform_eq_run] at failed ⊢
      exact Plan.run_live_of_error _ storage now live.questionnaire (some live) c e failed

/-- A look ahead stops at the first question that cannot be decided, past any that are not
visible. -/
theorem Interview.lookAhead_error {answers : Answers} {q : Question} {rest : List Question}
    {bad : BadPattern} (undecided : q.isVisible answers = .error bad) (passed : List Question)
    (hidden : ∀ p ∈ passed, p.isVisible answers = .ok false) (position : Nat) :
    lookAhead answers position (passed ++ q :: rest) = .error bad := by
  induction passed generalizing position with
  | nil => simp [lookAhead, undecided, bind, Except.bind]
  | cons p passed ih =>
    have first := hidden p (List.mem_cons_self ..)
    have others := ih (fun p mem => hidden p (List.mem_cons_of_mem _ mem)) (position + 1)
    simp [lookAhead, first, others, bind, Except.bind]

/-- An operation that fails leaves what is under way as it was, whatever the storage does. In
particular, going on from a question fails without any effect at the first question ahead that
cannot be decided, past any that are not visible. -/
theorem Operation.perform_atomic (storage : Storage σ) (now : Time.Instant) (i : Interview σ) :
    (∀ (op : Operation) (e : InterviewError), (op.perform storage now i).1 = .error e →
      (op.perform storage now i).2.live = i.live) ∧
    (∀ (live : Live) (current : String) (passed : List Question) (q : Question)
        (rest : List Question) (bad : BadPattern),
      i.live = some live → live.state.completed = false → live.state.current = some current →
      live.questionnaire.questions.drop (live.state.index + 1) = passed ++ q :: rest →
      (∀ p ∈ passed, p.isVisible live.state.answers = .ok false) →
      q.isVisible live.state.answers = .error bad →
      (move .next).perform storage now i = (.error (.pattern bad), i)) := by
  refine ⟨fun op e failed => op.live_of_error storage now i e failed, ?_⟩
  intro live current passed q rest bad active ongoing shown ahead hidden undecided
  obtain ⟨_, c⟩ := i
  subst active
  have stuck : lookAhead live.state.answers _ (passed ++ q :: rest) = .error bad :=
    lookAhead_error undecided passed hidden (live.state.index + 1)
  rw [Operation.perform, Move.perform_ongoing storage now c ongoing]
  simp only [Move.planOngoing, shown, ahead, stuck]
  rfl

/-- An interview at the first of three questions, of which the second is skipped and the third
reads a pattern that cannot be used. The fourth call of its storage fails. -/
def stuckInterview : Interview Connection :=
  let skipped := { Question.plain "b" .text with
    rules := some { Rules.none with skipIf := some (.one (.compare "a" .equals (.string "x"))) } }
  let undecided := { Question.plain "c" .text with
    rules := some { Rules.none with
      showIf := some (.one (.compare "a" .matchesPattern (.string "("))) } }
  let form : Questionnaire := ⟨"form", "", "", [.plain "a" .text, skipped, undecided]⟩
  let state := State.begin .epoch "form" "$1" "a"
  let store := Store.ofQuestionnaires [form]
  { live := some ⟨form, { state with answers := state.answers.record "a" (.string "x") }⟩
    contents := { Connection.sound store with
      faults := fun n _ => if n = 3 then some .brokenOff else none } }

/-- Opening another session fails at its last call, and going on fails at the third question. -/
theorem perform_atomic_stuck :
    (((Operation.start "form").perform Connection.storage .epoch stuckInterview).1 =
        .error (.storage .brokenOff) ∧
      ((Operation.start "form").perform Connection.storage .epoch stuckInterview).2.live =
        stuckInterview.live) ∧
    (Operation.move .next).perform Connection.storage .epoch stuckInterview =
      (.error (.pattern ⟨.compare "a" .matchesPattern (.string "("), .malformed⟩),
        stuckInterview) := by
  have atomic := Operation.perform_atomic Connection.storage .epoch stuckInterview
  have failed : ((Operation.start "form").perform Connection.storage .epoch stuckInterview).1 =
      .error (.storage .brokenOff) := by rfl
  refine ⟨⟨failed, atomic.1 _ _ failed⟩, ?_⟩
  refine atomic.2 _ "a" [_] _ [] _ rfl rfl rfl rfl ?_ rfl
  intro p mem
  rw [List.mem_singleton.mp mem]
  rfl

end Inquiry.Session
