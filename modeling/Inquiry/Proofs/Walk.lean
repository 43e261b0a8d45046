import Inquiry.Proofs.Questionnaire.OnePass
import Inquiry.Proofs.Session.Invariant
import Inquiry.Proofs.Session.Serving
import Inquiry.Walk

namespace Inquiry.Walk

open Questionnaire Session Interview

/-- Where a walk stands that has shown the position `i` last and has the answers to the positions
below `n`. -/
structure StandsAt (q : Questionnaire) (script : Script) (shown : Nat → Bool) (i n : Nat)
    (question : Question) (s : State) : Prop where
  found : q.questions[i]? = some question
  kept : shown i = true
  index : s.index = i
  current : s.current = some question.id
  ongoing : s.completed = false
  answers : s.answers = q.answersBelow script shown n
  visited : s.visited = .ofIds (q.idsWhere shown i)
  skipped : s.skipped = .ofIds (q.idsWhere (!shown ·) i)

structure Ended (q : Questionnaire) (script : Script) (shown : Nat → Bool) (s : State) : Prop where
  completed : s.completed = true
  answers : s.answers = q.answersBelow script shown q.size
  visited : s.visited = .ofIds (q.idsWhere shown q.size)
  skipped : s.skipped = .ofIds (q.idsWhere (!shown ·) q.size)

variable {q : Questionnaire} {script : Script} {shown : Nat → Bool} {i : Nat}
variable {question : Question} {s : State}

theorem exists_lookAhead {questions : List Question} (usable : ∀ p ∈ questions, p.Usable)
    (answers : Answers) (position : Nat) :
    ∃ outlook, lookAhead answers position questions = .ok outlook := by
  cases ahead : lookAhead answers position questions with
  | ok outlook => exact ⟨outlook, rfl⟩
  | error bad =>
    obtain ⟨passed, p, rest, rfl, -, undecided⟩ := exists_undecided ahead
    obtain ⟨visible, decided⟩ := Question.exists_isVisible (usable p (by simp)) answers
    cases decided.symm.trans undecided

namespace StandsAt

theorem left (stands : StandsAt q script shown i (i + 1) question s) :
    s.visited.add question.id = .ofIds (q.idsWhere shown (i + 1)) := by
  rw [stands.visited, idsWhere_succ_of_kept stands.found stands.kept, IdSet.ofIds_append]
  rfl

theorem passed (stands : StandsAt q script shown i (i + 1) question s)
    (pass : q.OnePass script shown) {hidden rest : List Question}
    (ahead : q.questions.drop (i + 1) = hidden ++ rest)
    (invisible : ∀ p ∈ hidden, p.isVisible s.answers = .ok false) :
    (hidden.map (·.id)).foldl IdSet.add s.skipped =
      .ofIds (q.idsWhere (!shown ·) (i + 1 + hidden.length)) := by
  rw [stands.answers] at invisible
  have dropped := pass.passes (Nat.succ_pos i) ahead invisible
  have kept : ∀ j, i + 1 ≤ j → j < i + 1 + hidden.length → (!shown j) = true := by
    intro j le lt
    rw [dropped j le lt]
    rfl
  have here : (!shown i) = false := by
    rw [stands.kept]
    rfl
  rw [idsWhere_add_of_kept ahead kept, idsWhere_succ_of_dropped here, stands.skipped,
    IdSet.ofIds_append]

/-- Where a question is left to come, the walk goes on to the next position shown. -/
theorem goesOn (stands : StandsAt q script shown i (i + 1) question s) (distinct : q.Distinct)
    (pass : q.OnePass script shown) {hidden rest : List Question} {following : Question}
    (ahead : q.questions.drop (i + 1) = hidden ++ following :: rest)
    (invisible : ∀ p ∈ hidden, p.isVisible s.answers = .ok false)
    (visible : following.isVisible s.answers = .ok true) (now : Time.Instant) :
    StandsAt q script shown (i + 1 + hidden.length) (i + 1 + hidden.length) following
        (moveOn s now question.id
          ⟨hidden.map (·.id), some (i + 1 + hidden.length, following)⟩) ∧
      q.idsWhere shown (i + 1 + hidden.length) = q.idsWhere shown i ++ [question.id] := by
  have skipped := stands.passed pass ahead invisible
  have visited := stands.left
  rw [stands.answers] at invisible visible
  have dropped := pass.passes (Nat.succ_pos i) ahead invisible
  obtain ⟨found, kept⟩ := pass.stops (Nat.succ_pos i) ahead invisible visible
  have unseen : following.id ∉ q.idsWhere (!shown ·) (i + 1 + hidden.length) := by
    intro mem
    have := ((mem_idsWhere_iff distinct found).mp mem).1
    omega
  constructor
  · refine ⟨found, kept, rfl, rfl, stands.ongoing, ?_, ?_, ?_⟩
    · rw [answersBelow_add_of_dropped dropped]
      exact stands.answers
    · rw [idsWhere_add_of_dropped dropped]
      exact visited
    · simp only [moveOn]
      rw [skipped, IdSet.erase_ofIds unseen]
  · rw [idsWhere_add_of_dropped dropped, idsWhere_succ_of_kept stands.found stands.kept]

theorem ends (stands : StandsAt q script shown i (i + 1) question s)
    (pass : q.OnePass script shown) {hidden : List Question}
    (ahead : q.questions.drop (i + 1) = hidden)
    (invisible : ∀ p ∈ hidden, p.isVisible s.answers = .ok false) (now : Time.Instant) :
    Ended q script shown (moveOn s now question.id ⟨hidden.map (·.id), none⟩) ∧
      q.idsWhere shown q.size = q.idsWhere shown i ++ [question.id] := by
  have size : q.size = i + 1 + hidden.length := by
    have := (List.getElem?_eq_some_iff.mp stands.found).1
    rw [← ahead, List.length_drop, size]
    omega
  have ahead : q.questions.drop (i + 1) = hidden ++ [] := by rw [ahead, List.append_nil]
  have skipped := stands.passed pass ahead invisible
  have visited := stands.left
  rw [stands.answers] at invisible
  have dropped := pass.passes (Nat.succ_pos i) ahead invisible
  rw [size]
  constructor
  · refine ⟨rfl, ?_, ?_, ?_⟩
    · rw [size, answersBelow_add_of_dropped dropped]
      exact stands.answers
    · rw [size, idsWhere_add_of_dropped dropped]
      exact visited
    · rw [size]
      exact skipped
  · rw [idsWhere_add_of_dropped dropped, idsWhere_succ_of_kept stands.found stands.kept]

end StandsAt

/-- What going on from the position `i` comes to. -/
inductive Arrives (q : Questionnaire) (script : Script) (shown : Nat → Bool) (i : Nat)
    (question : Question) : Step → State → Prop
  | further {j : Nat} {following : Question} {t : State} (later : i < j)
      (stands : StandsAt q script shown j j following t)
      (route : q.idsWhere shown j = q.idsWhere shown i ++ [question.id]) :
      Arrives q script shown i question (.question following) t
  | ended {t : State} (ended : Ended q script shown t)
      (route : q.idsWhere shown q.size = q.idsWhere shown i ++ [question.id]) :
      Arrives q script shown i question (.completed t.answers) t

/-- What a walk tells that shows these positions: it went to the end, and its route, the questions
passed over and visited, and the answers are those of the positions shown. -/
structure Tells (w : Walk) (q : Questionnaire) (script : Script) (shown : Nat → Bool) : Prop where
  completed : w.state.completed = true
  route : w.route = q.idsWhere shown q.size
  skipped : w.state.skipped = .ofIds (q.idsWhere (!shown ·) q.size)
  visited : w.state.visited = .ofIds (q.idsWhere shown q.size)
  answers : w.answers = script.restrict fun id => id ∈ q.idsWhere shown q.size
  recorded : w.state.answers = w.answers

variable {c : Connection}

theorem respond_ok [SessionIds] (stands : StandsAt q script shown i i question s)
    (distinct : q.Distinct) (usable : question.Usable) (serves : c.Serves s.session)
    (now : Time.Instant) :
    ∃ (t : State) (d : Connection),
      respond Connection.storage now script question ⟨some ⟨q, s⟩, c⟩ =
        (.ok (), ⟨some ⟨q, t⟩, d⟩) ∧
      d.Serves t.session ∧ StandsAt q script shown i (i + 1) question t := by
  have stood := position?_of_getElem? distinct stands.found
  unfold respond
  cases scripted : script.get? question.id with
  | some answer =>
    have answers := answersBelow_succ_of_answered stands.found stands.kept scripted
    rw [← stands.answers] at answers
    obtain ⟨d, done, served⟩ :=
      record_ok serves stands.ongoing (contains_of_position? stood) now answer
    exact ⟨_, d, done, served, { stands with answers := answers.symm }⟩
  | none =>
    have answers := answersBelow_succ_of_unanswered stands.found stands.kept scripted
    rw [← stands.answers] at answers
    obtain ⟨required, decided⟩ := Question.exists_isRequired usable s.answers
    have current : (⟨some ⟨q, s⟩, c⟩ : Interview Connection).current? = some question := by
      simp [current?, stands.current, find?_of_position? stood, stands.found]
    refine ⟨s, c, ?_, serves, { stands with answers := answers.symm }⟩
    dsimp only
    rw [run_bind, isRequired_ok current decided]
    rfl

section

variable [SessionIds] (distinct : q.Distinct) (usable : ∀ p ∈ q.questions, p.Usable)
variable (pass : q.OnePass script shown) (now : Time.Instant)
include distinct usable pass

/-- Going on from a position shown leads to the next one, or to the end. -/
theorem next_ok (stands : StandsAt q script shown i (i + 1) question s)
    (serves : c.Serves s.session) :
    ∃ (step : Step) (t : State) (d : Connection),
      Interview.next Connection.storage now ⟨some ⟨q, s⟩, c⟩ = (.ok step, ⟨some ⟨q, t⟩, d⟩) ∧
      d.Serves t.session ∧ Arrives q script shown i question step t := by
  obtain ⟨outlook, ahead⟩ := exists_lookAhead
    (fun p mem => usable p (List.mem_of_mem_drop mem)) s.answers (s.index + 1)
  obtain ⟨hidden, rest, split, passed, invisible, visible, found⟩ := lookAhead_split ahead
  obtain ⟨d, done, served⟩ := Interview.next_ok serves stands.ongoing stands.current ahead now
  rw [stands.index] at split found
  obtain ⟨_, _⟩ := outlook
  subst passed found
  cases rest with
  | nil =>
    rw [List.append_nil] at split
    obtain ⟨ended, route⟩ := stands.ends pass split invisible now
    exact ⟨_, _, d, done, served, .ended ended route⟩
  | cons following rest =>
    obtain ⟨stands', route⟩ := stands.goesOn distinct pass split invisible (visible _ rfl) now
    exact ⟨_, _, d, done, served, .further (by omega) stands' route⟩

/-- A stride leads from a position shown to the next one, or to the end. -/
theorem stride_ok (stands : StandsAt q script shown i i question s)
    (serves : c.Serves s.session) :
    ∃ (step : Step) (t : State) (d : Connection),
      stride Connection.storage now script question ⟨some ⟨q, s⟩, c⟩ =
        (.ok step, ⟨some ⟨q, t⟩, d⟩) ∧
      d.Serves t.session ∧ Arrives q script shown i question step t := by
  have own := usable question (List.mem_of_getElem? stands.found)
  obtain ⟨s', c', responded, serves, stands⟩ := respond_ok stands distinct own serves now
  obtain ⟨step, t, d, gone, serves, arrives⟩ := next_ok distinct usable pass now stands serves
  refine ⟨step, t, d, ?_, serves, arrives⟩
  unfold stride
  rw [run_bind, responded]
  exact gone

/-- The rest of a walk shows the positions that are left to be shown. -/
theorem follow_ok {fuel : Nat} (enough : q.size ≤ i + fuel + 1)
    (stands : StandsAt q script shown i i question s) (serves : c.Serves s.session) :
    ∃ (route : List String) (t : State) (d : Connection),
      follow Connection.storage now script fuel question ⟨some ⟨q, s⟩, c⟩ =
        (.ok (route, t.answers), ⟨some ⟨q, t⟩, d⟩) ∧
      q.idsWhere shown q.size = q.idsWhere shown i ++ route ∧ Ended q script shown t := by
  -- There are at most as many positions ahead as there is fuel.
  induction fuel generalizing i question s c with
  | zero =>
    obtain ⟨step, t, d, gone, -, arrives⟩ := stride_ok distinct usable pass now stands serves
    unfold follow
    rw [run_bind, gone]
    cases arrives with
    | further later stands' =>
      have within : _ < q.size := (List.getElem?_eq_some_iff.mp stands'.found).1
      omega
    | ended ended route => exact ⟨[question.id], t, d, rfl, route, ended⟩
  | succ fuel ih =>
    obtain ⟨step, t, d, gone, serves, arrives⟩ :=
      stride_ok distinct usable pass now stands serves
    unfold follow
    rw [run_bind, gone]
    cases arrives with
    | further later stands' route =>
      obtain ⟨further, u, e, followed, rest, ended⟩ := ih (by omega) stands' serves
      refine ⟨question.id :: further, u, e, ?_, ?_, ended⟩
      · dsimp only
        rw [run_bind, followed]
        rfl
      · rw [rest, route, List.append_assoc]
        rfl
    | ended ended route => exact ⟨[question.id], t, d, rfl, route, ended⟩

theorem tells_onePass (asks : q.questions ≠ []) (works : ∀ n k, c.faults n k = none)
    {questionnaire : String} (stored : c.store.questionnaires.get? questionnaire = some q)
    (live : Option Live) :
    ∃ (walk : Walk) (after : Interview Connection),
      run Connection.storage now script questionnaire ⟨live, c⟩ = (.ok walk, after) ∧
      walk.Tells q script shown := by
  obtain ⟨first, rest, questions⟩ := List.exists_cons_of_ne_nil asks
  obtain ⟨session, d, started, serves⟩ := start_ok works stored distinct questions now
  have stands : StandsAt q script shown 0 0 first (.begin now questionnaire session first.id) := by
    have found : q.questions[0]? = some first := by
      rw [questions]
      rfl
    have answers := (q.answersBelow_zero script shown).symm
    exact ⟨found, pass.first, rfl, rfl, rfl, answers, rfl, rfl⟩
  have enough : q.size ≤ 0 + q.size + 1 := by omega
  obtain ⟨route, t, e, followed, passed, ended⟩ :=
    follow_ok distinct usable pass now enough stands serves
  let progress := Progress.of t.index q.size t.answers.size t.completed
  refine ⟨⟨route, t.answers, t, progress⟩, ⟨some ⟨q, t⟩, e⟩, ?_, ended.completed, passed.symm,
    ended.skipped, ended.visited, ended.answers, rfl⟩
  unfold run
  rw [run_bind, started]
  dsimp only
  rw [run_bind, run_active]
  dsimp only
  rw [run_bind, followed]
  rfl

end

/-- Whatever is scripted, a walk comes to its end and tells what the one pass shows: the first
question, and each further one that is not skipped and is shown by the answers to those shown
before it. Answers to questions that are never shown have no effect. -/
theorem run_onePass [SessionIds] (distinct : q.Distinct) (asks : q.questions ≠ [])
    (usable : ∀ p ∈ q.questions, p.Usable) (works : ∀ n k, c.faults n k = none)
    {questionnaire : String} (stored : c.store.questionnaires.get? questionnaire = some q)
    (script : Script) (now : Time.Instant) (live : Option Live) :
    ∃ shown, q.OnePass script shown ∧ (∀ other, q.OnePass script other → other = shown) ∧
      ∃ (walk : Walk) (after : Interview Connection),
        run Connection.storage now script questionnaire ⟨live, c⟩ = (.ok walk, after) ∧
        walk.Tells q script shown ∧ walk.route.Nodup ∧
        ∀ more : Script, (∀ id ∈ walk.route, more.get? id = script.get? id) →
          ∃ (same : Walk) (after : Interview Connection),
            run Connection.storage now more questionnaire ⟨live, c⟩ = (.ok same, after) ∧
            same.route = walk.route ∧ same.state.skipped = walk.state.skipped ∧
            same.state.visited = walk.state.visited ∧ same.answers = walk.answers := by
  obtain ⟨shown, pass⟩ := exists_onePass q asks script
  obtain ⟨walk, after, ran, tells⟩ :=
    tells_onePass distinct usable pass now asks works stored live
  refine ⟨shown, pass, fun other h => h.unique pass, walk, after, ran, tells, ?_, ?_⟩
  · rw [tells.route]
    exact nodup_idsWhere distinct shown q.size
  · intro more agree
    rw [tells.route] at agree
    obtain ⟨same, after, again, tells'⟩ :=
      tells_onePass distinct usable (pass.of_agree agree) now asks works stored live
    refine ⟨same, after, again, ?_, ?_, ?_, ?_⟩
    · rw [tells'.route, tells.route]
    · rw [tells'.skipped, tells.skipped]
    · rw [tells'.visited, tells.visited]
    · rw [tells'.answers, tells.answers]
      exact Table.restrict_congr fun id mem => agree id (of_decide_eq_true mem)

/-- A form whose second question is skipped and whose third one is shown if the second has no
answer. -/
def detour : Questionnaire :=
  let skipped := { Question.plain "b" .text with
    rules := some { Rules.none with skipIf := some (.one (.compare "a" .equals (.string "x"))) } }
  let further := { Question.plain "c" .text with
    rules := some { Rules.none with
      showIf := some (.all [.unary "b" .isEmpty, .compare "a" .matchesPattern (.string "x")]) } }
  ⟨"form", "", "", [.plain "a" .text, skipped, further]⟩

def detourScript : Script := .ofList [("a", .string "x"), ("b", .string "y"), ("c", .string "z")]

/-- The answer to the question skipped counts for nothing. -/
theorem run_detour :
    ∃ (walk : Walk) (after : Interview Connection),
      run Connection.storage .epoch detourScript "form"
        ⟨none, .sound (.ofQuestionnaires [detour])⟩ = (.ok walk, after) ∧
      walk.route = ["a", "c"] ∧ walk.state.skipped = .ofIds ["b"] ∧
      walk.answers = .ofList [("a", .string "x"), ("c", .string "z")] ∧
      ∃ shown, detour.OnePass detourScript shown ∧ walk.Tells detour detourScript shown := by
  let c := Connection.sound (.ofQuestionnaires [detour])
  have stored : c.store.questionnaires.get? "form" = some detour := by rfl
  have usable : ∀ p ∈ detour.questions, p.Usable := by decide +kernel
  obtain ⟨shown, pass, -, walk, after, ran, tells, -⟩ :=
    run_onePass (by decide) (by decide) usable (fun _ _ => rfl) stored detourScript .epoch none
  have told : ((run Connection.storage .epoch detourScript "form" ⟨none, c⟩).1.toOption.map
      fun w => (w.route, w.state.skipped, w.answers)) =
      some (["a", "c"], .ofIds ["b"], .ofList [("a", .string "x"), ("c", .string "z")]) := by
    decide +kernel
  rw [ran] at told
  simp only [Except.toOption, Option.map_some, Option.some.injEq, Prod.mk.injEq] at told
  exact ⟨walk, after, ran, told.1, told.2.1, told.2.2, shown, pass, tells⟩

end Inquiry.Walk
