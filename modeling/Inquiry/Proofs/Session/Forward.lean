import Inquiry.Proofs.Session.Onward
import Inquiry.Proofs.Session.Sharing

namespace Inquiry.Session

open Connection (storage)

/-- Going on from a session and from whatever that leads to, and what it answers each time. In
between, answers are recorded, and the storage may change as long as it serves the session. -/
inductive Forward [SessionIds] (live : Live) :
    List (Except InterviewError Step) → Interview Connection → Prop
  | start (c : Connection) (serves : c.Serves live.state.session) : Forward live [] ⟨some live, c⟩
  | next {heard : List (Except InterviewError Step)} {i : Interview Connection}
      (before : Forward live heard i) (now : Time.Instant) :
      Forward live (heard ++ [(Interview.next storage now i).1]) (Interview.next storage now i).2
  | record {heard : List (Except InterviewError Step)} {i : Interview Connection}
      (before : Forward live heard i) (now : Time.Instant) (id : String) (answer : Json) :
      Forward live heard (Interview.record storage now id answer i).2
  | others {heard : List (Except InterviewError Step)} {l : Option Live} {c : Connection}
      (before : Forward live heard ⟨l, c⟩) (d : Connection)
      (serves : d.Serves live.state.session) : Forward live heard ⟨l, d⟩

def reportsCompletion : Except InterviewError Step → Bool
  | .ok (.completed _) => true
  | _ => false

/-- What was heard by the time a state is reached: questions, one behind the other, then at most
once that the session is completed, and from then on only that it already is. -/
inductive Heard (live : Live) (t : State) : List (Except InterviewError Step) → Prop
  | ongoing (shown : List Question) (further : live.state.index + shown.length ≤ t.index)
      (ongoing : t.completed = false) : Heard live t (shown.map fun p => .ok (.question p))
  | completed (shown : List Question) (answers : Answers) (n : Nat)
      (completed : t.completed = true) :
      Heard live t ((shown.map fun p => .ok (.question p)) ++ .ok (.completed answers) ::
        List.replicate n (.error (.alreadyCompleted live.state.session)))

namespace Heard

variable {live : Live} {s t : State} {heard : List (Except InterviewError Step)}

theorem stays (h : Heard live s heard) (index : t.index = s.index)
    (completed : t.completed = s.completed) : Heard live t heard := by
  cases h with
  | ongoing shown further ongoing =>
    exact .ongoing shown (index ▸ further) (completed.trans ongoing)
  | completed shown answers n ended =>
    exact .completed shown answers n (completed.trans ended)

theorem next {now : Time.Instant} {q : Questionnaire} {step : Step} (h : Heard live s heard)
    (ongoing : s.completed = false) (onward : Onward now q s (.ok step) t) :
    Heard live t (heard ++ [.ok step]) := by
  cases h with
  | completed shown answers n ended => cases ongoing.symm.trans ended
  | ongoing shown further =>
    cases onward with
    | further j p _ reached found visible moves =>
      have later := reached.later
      have further : live.state.index + (shown ++ [p]).length ≤ t.index := by
        rw [List.length_append, List.length_singleton, moves.index]
        omega
      have longer := Heard.ongoing _ further moves.ongoing
      rwa [List.map_append] at longer
    | finished _ exhausted finishes =>
      exact .completed shown s.answers 0 finishes.completed

theorem refused (h : Heard live s heard) (ended : s.completed = true) :
    Heard live s (heard ++ [.error (.alreadyCompleted live.state.session)]) := by
  cases h with
  | ongoing shown further ongoing => cases ongoing.symm.trans ended
  | completed shown answers n =>
    have longer : Heard live s _ := .completed shown answers (n + 1) ended
    rwa [List.replicate_succ', ← List.cons_append, ← List.append_assoc] at longer

/-- Completion is reported once if the session is completed, and else not at all. -/
theorem countP (h : Heard live t heard) :
    heard.countP reportsCompletion = t.completed.toNat := by
  have questions : ∀ shown : List Question, (shown.map fun p =>
      (.ok (.question p) : Except InterviewError Step)).countP reportsCompletion = 0 := by
    intro shown
    simp [List.countP_eq_zero, reportsCompletion]
  cases h with
  | ongoing shown further ongoing => rw [questions, ongoing, Bool.toNat_false]
  | completed shown answers n ended =>
    rw [List.countP_append, questions, List.countP_cons, List.countP_replicate, ended]
    rfl

theorem completed_of_length (h : Heard live t heard) (inside : t.index < live.questionnaire.size)
    (long : live.questionnaire.size - live.state.index ≤ heard.length) : t.completed = true := by
  cases h with
  | ongoing shown further =>
    rw [List.length_map] at long
    omega
  | completed _ _ _ ended => exact ended

end Heard

namespace Interview

variable {q : Questionnaire} {s : State} {c : Connection}

theorem next_usable [SessionIds] (serves : c.Serves s.session) (ongoing : s.completed = false)
    {current : String} (shown : s.current = some current)
    (usable : ∀ p ∈ q.questions, p.Usable) (now : Time.Instant) :
    ∃ step t d, next storage now ⟨some ⟨q, s⟩, c⟩ = (.ok step, ⟨some ⟨q, t⟩, d⟩) ∧
      Onward now q s (.ok step) t ∧ d.Serves t.session := by
  obtain ⟨answer, t, d, done, onward, served, -⟩ :=
    next_onward (q := q) serves ongoing shown now
  cases answer with
  | ok step => exact ⟨step, t, d, done, onward, served⟩
  | error e =>
    cases onward with
    | stuck j p bad reached found undecided =>
      exact absurd undecided ((usable p (List.mem_of_getElem? found)).not_undecided s.answers bad)

theorem next_completed [SessionIds] (ended : s.completed = true) (now : Time.Instant) :
    next storage now ⟨some ⟨q, s⟩, c⟩ =
      (.error (.alreadyCompleted s.session), ⟨some ⟨q, s⟩, c⟩) := by
  unfold next
  rw [run_bind, run_ongoing, if_pos ended]

/-- Recording an answer, even one that is refused, changes nothing of where the session stands. -/
theorem record_stays [SessionIds] (serves : c.Serves s.session) (now : Time.Instant) (id : String)
    (answer : Json) : ∃ (answers : Answers) (updated : Time.Instant) (d : Connection),
      (record storage now id answer ⟨some ⟨q, s⟩, c⟩).2 =
        ⟨some ⟨q, { s with answers, updated }⟩, d⟩ ∧ d.Serves s.session := by
  by_cases ended : s.completed = true
  · refine ⟨s.answers, s.updated, c, ?_, serves⟩
    unfold record
    rw [run_bind, run_ongoing, if_pos ended]
  · have ongoing := Bool.eq_false_iff.mpr ended
    by_cases known : q.contains id = true
    · obtain ⟨d, done, served⟩ := record_ok serves ongoing known now answer
      exact ⟨_, _, d, congrArg Prod.snd done, served⟩
    · refine ⟨s.answers, s.updated, c, ?_, serves⟩
      unfold record
      rw [run_ongoing_bind c ongoing]
      simp only [Bool.eq_false_iff.mpr known, Bool.not_false, if_true]
      rfl

end Interview

/-- A state that was led on to: it is of the same session and stands at a question. -/
structure Led (live : Live) (t : State) : Prop where
  session : t.session = live.state.session
  shown : ∃ id, t.current = some id
  inside : t.index < live.questionnaire.size

theorem Led.next {live : Live} {s t : State} {now : Time.Instant} {step : Step}
    (led : Led live s) (onward : Onward now live.questionnaire s (.ok step) t) : Led live t := by
  cases onward with
  | further j p _ reached found visible moves =>
    refine ⟨moves.session.trans led.session, ⟨p.id, moves.current⟩, ?_⟩
    rw [moves.index]
    exact (List.getElem?_eq_some_iff.mp found).1
  | finished _ exhausted finishes =>
    exact ⟨finishes.session.trans led.session, finishes.current ▸ led.shown,
      finishes.index ▸ led.inside⟩

theorem Forward.led [SessionIds] {live : Live} {heard : List (Except InterviewError Step)}
    {i : Interview Connection} (h : Forward live heard i)
    (fits : live.state.Fits live.questionnaire) (ongoing : live.state.completed = false)
    (usable : ∀ p ∈ live.questionnaire.questions, p.Usable) :
    ∃ t c, i = ⟨some ⟨live.questionnaire, t⟩, c⟩ ∧ c.Serves live.state.session ∧ Led live t ∧
      Heard live t heard := by
  induction h with
  | start c serves =>
    obtain ⟨id, shown, -⟩ := fits.shown
    exact ⟨live.state, c, rfl, serves, ⟨rfl, ⟨id, shown⟩, fits.index_lt⟩,
      .ongoing [] (Nat.le_refl _) ongoing⟩
  | next before now ih =>
    obtain ⟨s, c, rfl, serves, led, heard⟩ := ih
    by_cases ended : s.completed = true
    · rw [Interview.next_completed ended, led.session]
      exact ⟨s, c, rfl, serves, led, heard.refused ended⟩
    · have underway := Bool.eq_false_iff.mpr ended
      obtain ⟨id, shown⟩ := led.shown
      obtain ⟨step, t, d, done, onward, served⟩ :=
        Interview.next_usable (led.session ▸ serves) underway shown usable now
      have led := led.next onward
      rw [done]
      exact ⟨t, d, rfl, led.session ▸ served, led, heard.next underway onward⟩
  | record before now id answer ih =>
    obtain ⟨s, c, rfl, serves, led, heard⟩ := ih
    obtain ⟨answers, updated, d, done, served⟩ :=
      Interview.record_stays (q := live.questionnaire) (led.session ▸ serves) now id answer
    exact ⟨_, d, done, led.session ▸ served, ⟨led.session, led.shown, led.inside⟩,
      heard.stays rfl rfl⟩
  | others before d serves ih =>
    obtain ⟨t, c, same, -, led, heard⟩ := ih
    cases same
    exact ⟨t, d, rfl, serves, led, heard⟩

variable {ι : Type} [DecidableEq ι] {shelf : Table Questionnaire} {w : World ι}

/-- Where all patterns can be used, every session under way can be led to its end, whatever came
before and whatever is answered on the way. As long as it is not completed, going on succeeds, with
a later question or with completion. It is completed by the time going on was called as often as
there are questions from the first one on, and completion is reported once. -/
theorem Reachable.forward_progress [SessionIds] (h : Reachable shelf w) {i : ι} {live : Live}
    (active : (w.desks i).live = some live) (ongoing : live.state.completed = false)
    (usable : ∀ p ∈ live.questionnaire.questions, p.Usable)
    {heard : List (Except InterviewError Step)} {k : Interview Connection}
    (forward : Forward live heard k) :
    ∃ t c, k = ⟨some ⟨live.questionnaire, t⟩, c⟩ ∧
      (t.completed = false → ∀ now, ∃ step u d,
        Interview.next storage now k = (.ok step, ⟨some ⟨live.questionnaire, u⟩, d⟩) ∧
        (∀ p, step = .question p →
          t.index < u.index ∧ u.current = some p.id ∧ u.completed = false) ∧
        ∀ answers, step = .completed answers → answers = t.answers ∧ u.completed = true) ∧
      (live.questionnaire.size - live.state.index ≤ heard.length → t.completed = true) ∧
      heard.countP reportsCompletion = t.completed.toNat := by
  have fits := ((h.sound.desks i).live live active).fits
  obtain ⟨t, c, rfl, serves, led, told⟩ := forward.led fits ongoing usable
  refine ⟨t, c, rfl, ?_, told.completed_of_length led.inside, told.countP⟩
  intro underway now
  obtain ⟨id, shown⟩ := led.shown
  obtain ⟨step, u, d, done, onward, -⟩ :=
    Interview.next_usable (led.session ▸ serves) underway shown usable now
  refine ⟨step, u, d, done, ?_, ?_⟩
  · rintro p rfl
    cases onward with
    | further j _ _ reached found visible moves =>
      exact ⟨moves.index ▸ reached.later, moves.current, moves.ongoing⟩
  · rintro answers rfl
    cases onward with
    | finished _ exhausted finishes => exact ⟨rfl, finishes.completed⟩

/-- A form whose later questions depend on the answer to the first one, one of them by a pattern. -/
def patternForm : Questionnaire :=
  ⟨"form", "", "", [.plain "a" .text,
    Interview.forkedQuestion "b" fun when => { Rules.none with skipIf := when .equals "x" },
    Interview.forkedQuestion "c" fun when =>
      { Rules.none with showIf := when .matchesPattern "x" }]⟩

def patternConnection : Connection := .sound (.ofQuestionnaires [patternForm])

/-- A session went on and back again. An answer makes it pass over the second question then, and
another one comes too late to hide the third. The third time that it goes on is the one too many. -/
theorem forward_progress_patterns :
    ∃ (w : World Unit) (live : Live) (heard : List (Except InterviewError Step))
      (k : Interview Connection) (t : State) (c : Connection),
      Reachable patternConnection.store.questionnaires w ∧ (w.desks ()).live = some live ∧
      Forward live heard k ∧ heard.length = 3 ∧ k = ⟨some ⟨live.questionnaire, t⟩, c⟩ ∧
      t.completed = true ∧ heard.countP reportsCompletion = 1 := by
  have start : Reachable patternConnection.store.questionnaires
      (⟨patternConnection, fun _ => ⟨none, none⟩⟩ : World Unit) :=
    .start patternConnection rfl (by rintro _ _ ⟨⟩)
  have started := start.next (.perform _ () none rfl (.start "form") .epoch)
  have further := started.next (.perform _ () _ rfl (.move .next) .epoch)
  obtain ⟨w, reached, live, active, ongoing, left, usable⟩ :
      ∃ w : World Unit, Reachable patternConnection.store.questionnaires w ∧
        ∃ live ∈ (w.desks ()).live, live.state.completed = false ∧
          live.questionnaire.size - live.state.index = 3 ∧
          ∀ p ∈ live.questionnaire.questions, p.Usable :=
    ⟨_, further.next (.perform _ () _ rfl (.move .previous) .epoch), by decide +kernel⟩
  have start := Forward.start _ (Connection.serves_serving live)
  have shown := (start.record .epoch "a" (.string "x")).next .epoch
  have forward := ((shown.record .epoch "a" (.string "y")).next .epoch).next .epoch
  obtain ⟨t, c, same, -, ended, once⟩ := reached.forward_progress active ongoing usable forward
  have completed : t.completed = true := ended (Nat.le_of_eq left)
  rw [completed] at once
  exact ⟨w, live, _, _, t, c, reached, active, forward, rfl, same, completed, once⟩

end Inquiry.Session
