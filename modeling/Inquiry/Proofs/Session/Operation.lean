import Inquiry.Session.Interview

/-!
The operations of an interview as data, and what each comes to before the storage is asked.

A move of an interview under way is planned from what is under way alone: it is refused, or it
leaves all as it is, or it leads to a state that is saved and then becomes the one under way.
Main statements: `Move.perform_eq_run` and `Move.planned`, from which later modules derive what
moves keep.
-/
namespace Inquiry.Session

/-- A move of an interview under way. -/
inductive Move where
  | next
  | previous
  | jump (id : String)
  | record (id : String) (answer : Json)
  | save
deriving DecidableEq

inductive Operation where
  | start (questionnaire : String)
  | load (session : String)
  | move (m : Move)
deriving DecidableEq

/-- What an operation answers. -/
inductive Reply where
  | question (q : Question)
  /-- There is nothing to step back to. -/
  | nowhere
  | completed (answers : Answers)
  | done
deriving DecidableEq

def Reply.ofStep : Step → Reply
  | .question q => question q
  | .completed answers => completed answers

theorem Reply.ofStep_injective : Function.Injective ofStep := by
  intro a b same
  cases a <;> cases b <;> cases same <;> rfl

def Reply.ofPrevious : Option Question → Reply
  | some q => question q
  | none => nowhere

/-- What is stored of a state. -/
def Update.ofState (s : State) : Update := ⟨some (.ofState s), some s.toJson⟩

variable {σ : Type}

/-- Carry out a move. -/
def Move.perform (storage : Storage σ) (now : Time.Instant) : Move → Interviewing σ Reply
  | next => do return .ofStep (← Interview.next storage now)
  | previous => do return .ofPrevious (← Interview.previous storage now)
  | jump id => do return .question (← Interview.jump storage now id)
  | record id answer => do
    Interview.record storage now id answer
    return .done
  | save => do
    Interview.save storage now
    return .done

/-- Carry out an operation. -/
def Operation.perform (storage : Storage σ) (now : Time.Instant) :
    Operation → Interviewing σ Reply
  | start questionnaire => do return .question (← Interview.start storage now questionnaire)
  | load session => do
    Interview.load storage session
    return .done
  | move m => m.perform storage now

/-- Carry out moves one after the other, each at its time. One that fails does not keep the others
from being tried. -/
def Move.performAll (storage : Storage σ) : List (Time.Instant × Move) → Interview σ →
    List (Except InterviewError Reply)
  | [], _ => []
  | (now, m) :: rest, i =>
    (m.perform storage now i).1 :: performAll storage rest (m.perform storage now i).2

/-- Carry out operations one after the other, each at its time, whether those before fail or not. -/
def Operation.performAll (storage : Storage σ) : List (Time.Instant × Operation) → Interview σ →
    List (Except InterviewError Reply) × Interview σ
  | [], i => ([], i)
  | (now, op) :: rest, i =>
    let (answer, i) := op.perform storage now i
    let (answers, i) := performAll storage rest i
    (answer :: answers, i)

theorem Operation.performAll_concat (storage : Storage σ) (xs : List (Time.Instant × Operation))
    (now : Time.Instant) (op : Operation) (i : Interview σ) :
    performAll storage (xs ++ [(now, op)]) i =
      ((performAll storage xs i).1 ++ [(op.perform storage now (performAll storage xs i).2).1],
        (op.perform storage now (performAll storage xs i).2).2) := by
  induction xs generalizing i with
  | nil => rfl
  | cons x xs ih =>
    obtain ⟨earlier, first⟩ := x
    rcases performed : first.perform storage earlier i with ⟨answer, j⟩
    simp only [List.cons_append, performAll, performed, ih]

/-- What a move comes to. -/
inductive Plan where
  | refuse (error : InterviewError)
  | stay (reply : Reply)
  /-- Go on to a state. What is noted in the log, if anything, is noted before. -/
  | go (state : State) (note : Option (Log → Log)) (reply : Reply)

/-- Carry out a plan. -/
def Plan.run (storage : Storage σ) (now : Time.Instant) (questionnaire : Questionnaire) :
    Plan → Interviewing σ Reply
  | refuse error => throw error
  | stay reply => return reply
  | go state none reply => do
    Interview.commit storage now ⟨questionnaire, state⟩
    return reply
  | go state (some note) reply => do
    let log ← Interview.ask (storage.loadLog state.session)
    Interview.ask (storage.saveLog (note log))
    Interview.commit storage now ⟨questionnaire, state⟩
    return reply

namespace Move

/-- What a move comes to in a session that is not completed. -/
def planOngoing (now : Time.Instant) (live : Live) : Move → Plan
  | next =>
    match live.state.current with
    | none => .refuse .noCurrentQuestion
    | some current =>
      match Interview.lookAhead live.state.answers (live.state.index + 1)
          (live.questionnaire.questions.drop (live.state.index + 1)) with
      | .error bad => .refuse (.pattern bad)
      | .ok outlook =>
        let moved := Interview.moveOn live.state now current outlook
        match outlook.found with
        | some (_, q) => .go moved none (.question q)
        | none => .go moved (some fun log =>
            { log with completed := some now, answered := moved.answers.size })
            (.completed moved.answers)
  | previous =>
    if live.state.history.length ≤ 1 then .stay .nowhere
    else .go (Interview.stepBack live now).1 none (.ofPrevious (Interview.stepBack live now).2)
  | jump id =>
    match live.questionnaire.position? id, live.questionnaire.find? id with
    | some position, some q => .go { live.state with
        index := position
        current := some id
        history := live.state.history ++ [id]
        updated := now } none (.question q)
    | _, _ => .refuse (.questionNotFound id)
  | record id answer =>
    if live.questionnaire.contains id then
      let answers := live.state.answers.record id answer
      .go { live.state with answers, updated := now } (some fun log =>
        { log with
          entries := log.entries ++ [⟨id, answer, now⟩]
          answered := answers.size }) .done
    else .refuse (.questionNotFound id)
  | save => .go live.state none .done

/-- What a move comes to. Only saving is left once a session is completed. -/
def plan (now : Time.Instant) (live : Live) (m : Move) : Plan :=
  if live.state.completed ∧ m ≠ save then .refuse (.alreadyCompleted live.state.session)
  else m.planOngoing now live

end Move

namespace Interview

variable {α β : Type}

theorem run_get (i : Interview σ) : (get : Interviewing σ (Interview σ)) i = (.ok i, i) := rfl

theorem run_throw (e : InterviewError) (i : Interview σ) :
    (throw e : Interviewing σ α) i = (.error e, i) := rfl

theorem run_bind (x : Interviewing σ α) (f : α → Interviewing σ β) (i : Interview σ) :
    (x >>= f) i = match x i with
      | (.ok a, j) => f a j
      | (.error e, j) => (.error e, j) := by
  change ExceptT.bindCont f (x i).1 (x i).2 = _
  rcases x i with ⟨_ | a, j⟩ <;> rfl

theorem run_map (f : α → β) (x : Interviewing σ α) (i : Interview σ) :
    (x >>= fun a => pure (f a)) i = ((x i).1.map f, (x i).2) := by
  rw [run_bind]
  rcases x i with ⟨_ | a, j⟩ <;> rfl

/-- What a computation answers is known by what is made of it. -/
theorem of_run_map {f : α → β} (injective : Function.Injective f) {x : Interviewing σ α}
    {i j : Interview σ} {a : α} (h : (x >>= fun a => pure (f a)) i = (.ok (f a), j)) :
    x i = (.ok a, j) := by
  rw [run_map] at h
  rcases result : x i with ⟨e | b, k⟩
  · rw [result] at h
    cases h
  · rw [result] at h
    obtain ⟨answer, rfl⟩ := Prod.mk.inj h
    rw [injective (Except.ok.inj answer)]

theorem run_tryCatch (x : Interviewing σ α) (f : InterviewError → Interviewing σ α)
    (i : Interview σ) :
    (tryCatch x f) i = match x i with
      | (.ok a, j) => (.ok a, j)
      | (.error e, j) => f e j := by
  simp only [tryCatch, tryCatchThe, MonadExceptOf.tryCatch, ExceptT.tryCatch, ExceptT.mk, bind,
    StateT.bind]
  rcases x i with ⟨_ | a, j⟩ <;> rfl

theorem run_ask (call : ExceptT StorageError (StateM σ) α) (live : Option Live) (c : σ) :
    ask call ⟨live, c⟩ = match call c with
      | (.ok a, c) => (.ok a, ⟨live, c⟩)
      | (.error e, c) => (.error (.storage e), ⟨live, c⟩) := rfl

theorem run_ask_bind (call : ExceptT StorageError (StateM σ) α) (f : α → Interviewing σ β)
    (live : Option Live) (c : σ) :
    (ask call >>= f) ⟨live, c⟩ = match call c with
      | (.ok a, c) => f a ⟨live, c⟩
      | (.error e, c) => (.error (.storage e), ⟨live, c⟩) := by
  rw [run_bind, run_ask]
  rcases call c with ⟨_ | a, c⟩ <;> rfl

theorem run_active (live : Live) (c : σ) :
    (active : Interviewing σ Live) ⟨some live, c⟩ = (.ok live, ⟨some live, c⟩) := rfl

theorem run_ongoing (live : Live) (c : σ) :
    (ongoing : Interviewing σ Live) ⟨some live, c⟩ =
      if live.state.completed then (.error (.alreadyCompleted live.state.session), ⟨some live, c⟩)
      else (.ok live, ⟨some live, c⟩) := by
  unfold ongoing
  rw [run_bind, run_active]
  dsimp only
  split <;> rfl

theorem run_ongoing_bind {live : Live} (c : σ) (h : live.state.completed = false)
    (f : Live → Interviewing σ α) : (ongoing >>= f) ⟨some live, c⟩ = f live ⟨some live, c⟩ := by
  simp [run_bind, run_ongoing, h]

theorem run_persist_bind (storage : Storage σ) (now : Time.Instant) (state : State)
    (f : Unit → Interviewing σ β) (live : Option Live) (c : σ) :
    (persist storage now state >>= f) ⟨live, c⟩ =
      match storage.updateSession now state.session (.ofState state) c with
      | (.ok a, c) => f a ⟨live, c⟩
      | (.error e, c) => (.error (.storage e), ⟨live, c⟩) := by
  change (ask (storage.updateSession now state.session (.ofState state)) >>= f) _ = _
  rw [run_ask_bind]
  rcases storage.updateSession now state.session (.ofState state) c with ⟨_ | _, c⟩ <;> rfl

/-- The state under way is the one that was saved. -/
theorem run_commit_bind (storage : Storage σ) (now : Time.Instant) (next : Live)
    (f : Unit → Interviewing σ β) (live : Option Live) (c : σ) :
    (commit storage now next >>= f) ⟨live, c⟩ =
      match storage.updateSession now next.state.session (.ofState next.state) c with
      | (.ok _, c) => f () ⟨some next, c⟩
      | (.error e, c) => (.error (.storage e), ⟨live, c⟩) := by
  unfold commit
  rw [bind_assoc, run_persist_bind]
  rfl

/-- Why a session is not resumed whose record could not be loaded. -/
def refusal : StorageError → InterviewError
  | .sessionNotFound id => .unknownSession id
  | other => .storage other

theorem run_loadRecord (storage : Storage σ) (session : String) (live : Option Live) (c : σ) :
    loadRecord storage session ⟨live, c⟩ =
      match storage.loadSession session c with
      | (.ok record, c) => (.ok record, ⟨live, c⟩)
      | (.error e, c) => (.error (refusal e), ⟨live, c⟩) := by
  unfold loadRecord
  rw [run_tryCatch, run_ask]
  rcases storage.loadSession session c with ⟨e | record, c⟩
  · cases e <;> rfl
  · rfl

end Interview

open Interview

theorem Plan.run_go (storage : Storage σ) (now : Time.Instant) (q : Questionnaire) (state : State)
    (reply : Reply) (live : Option Live) (c : σ) :
    (go state none reply).run storage now q ⟨live, c⟩ =
      match storage.updateSession now state.session (.ofState state) c with
      | (.error e, c) => (.error (.storage e), ⟨live, c⟩)
      | (.ok _, c) => (.ok reply, ⟨some ⟨q, state⟩, c⟩) := by
  change (commit storage now ⟨q, state⟩ >>= fun _ => pure reply) _ = _
  rw [run_commit_bind]
  dsimp only
  rcases storage.updateSession now state.session (.ofState state) c with ⟨_ | _, c⟩ <;> rfl

theorem Plan.run_note (storage : Storage σ) (now : Time.Instant) (q : Questionnaire) (state : State)
    (note : Log → Log) (reply : Reply) (live : Option Live) (c : σ) :
    (go state (some note) reply).run storage now q ⟨live, c⟩ =
      match storage.loadLog state.session c with
      | (.error e, c) => (.error (.storage e), ⟨live, c⟩)
      | (.ok log, c) =>
        match storage.saveLog (note log) c with
        | (.error e, c) => (.error (.storage e), ⟨live, c⟩)
        | (.ok _, c) => (go state none reply).run storage now q ⟨live, c⟩ := by
  change (ask (storage.loadLog state.session) >>= _) _ = _
  rw [run_ask_bind]
  rcases storage.loadLog state.session c with ⟨_ | log, c⟩
  · rfl
  · dsimp only
    rw [run_ask_bind]
    rcases storage.saveLog (note log) c with ⟨_ | _, c⟩ <;> rfl

/-- A plan fails only if it refuses, or the storage does. -/
theorem Plan.run_error {plan : Plan} {storage : Storage σ} {now : Time.Instant} {q : Questionnaire}
    {live : Option Live} {c : σ} {e : InterviewError} :
    (plan.run storage now q ⟨live, c⟩).1 = .error e → plan = .refuse e ∨ ∃ s, e = .storage s := by
  have going : ∀ state reply c, ((go state none reply).run storage now q ⟨live, c⟩).1 = .error e →
      ∃ s, e = .storage s := by
    intro state reply c
    rw [run_go]
    rcases storage.updateSession now state.session (.ofState state) c with ⟨s | _, c⟩
    · rintro ⟨⟩
      exact ⟨s, rfl⟩
    · exact fun failed => nomatch failed
  cases plan with
  | refuse error =>
    rintro ⟨⟩
    exact .inl rfl
  | stay reply => exact fun failed => nomatch failed
  | go state note reply =>
    cases note with
    | none => exact fun failed => .inr (going state reply c failed)
    | some note =>
      rw [run_note]
      rcases storage.loadLog state.session c with ⟨s | log, c⟩
      · rintro ⟨⟩
        exact .inr ⟨s, rfl⟩
      · dsimp only
        rcases storage.saveLog (note log) c with ⟨s | _, c⟩
        · rintro ⟨⟩
          exact .inr ⟨s, rfl⟩
        · exact fun failed => .inr (going state reply c failed)

/-- A session starts with its first question once it is opened and its log is saved. -/
theorem Operation.run_start (storage : Storage σ) (now : Time.Instant) (questionnaire : String)
    (live : Option Live) (c : σ) :
    (start questionnaire).perform storage now ⟨live, c⟩ =
      match storage.loadQuestionnaire questionnaire c with
      | (.error e, c) => (.error (.storage e), ⟨live, c⟩)
      | (.ok q, c) =>
        match q.questions with
        | [] => (.error (.noQuestions questionnaire), ⟨live, c⟩)
        | first :: _ =>
          match storage.createSession now questionnaire c with
          | (.error e, c) => (.error (.storage e), ⟨live, c⟩)
          | (.ok session, c) =>
            match storage.saveLog (.begin now session questionnaire) c with
            | (.error e, c) => (.error (.storage e), ⟨live, c⟩)
            | (.ok _, c) =>
              (Plan.go (.begin now questionnaire session first.id) none (.question first)).run
                storage now q ⟨live, c⟩ := by
  simp only [perform, Interview.start, bind_assoc]
  rw [run_ask_bind]
  rcases storage.loadQuestionnaire questionnaire c with ⟨_ | q, c⟩
  · rfl
  · dsimp only
    cases q.questions with
    | nil => rfl
    | cons first rest =>
      simp only [bind_assoc, pure_bind]
      rw [run_ask_bind]
      rcases storage.createSession now questionnaire c with ⟨_ | session, c⟩
      · rfl
      · dsimp only
        rw [run_ask_bind]
        rcases storage.saveLog (.begin now session questionnaire) c with ⟨_ | _, c⟩ <;> rfl

/-- What is under way gives place only to a state that passed every check. -/
theorem Operation.run_load (storage : Storage σ) (now : Time.Instant) (session : String)
    (live : Option Live) (c : σ) :
    (load session).perform storage now ⟨live, c⟩ =
      match storage.loadSession session c with
      | (.error e, c) => (.error (refusal e), ⟨live, c⟩)
      | (.ok record, c) =>
        match storedState session record with
        | .error corruption => (.error (.corrupted corruption), ⟨live, c⟩)
        | .ok state =>
          match storage.loadQuestionnaire state.questionnaire c with
          | (.error e, c) => (.error (.storage e), ⟨live, c⟩)
          | (.ok q, c) =>
            match corruption? q state with
            | some corruption => (.error (.corrupted corruption), ⟨live, c⟩)
            | none => (.ok .done, ⟨some ⟨q, state⟩, c⟩) := by
  simp only [perform, Interview.load, bind_assoc]
  rw [run_bind, run_loadRecord]
  rcases storage.loadSession session c with ⟨_ | record, c⟩
  · rfl
  · dsimp only
    cases storedState session record with
    | error => rfl
    | ok state =>
      simp only [bind_assoc]
      rw [run_ask_bind]
      rcases storage.loadQuestionnaire state.questionnaire c with ⟨_ | q, c⟩
      · rfl
      · dsimp only
        cases corruption? q state <;> rfl

theorem Move.perform_none (m : Move) (storage : Storage σ) (now : Time.Instant) (c : σ) :
    m.perform storage now ⟨none, c⟩ = (.error .notLoaded, ⟨none, c⟩) := by
  cases m <;> rfl

/-- Saving leaves the state under way as it is, which is what going on to that state does. -/
theorem Move.perform_save (storage : Storage σ) (now : Time.Instant) (live : Live) (c : σ) :
    save.perform storage now ⟨some live, c⟩ =
      (plan now live save).run storage now live.questionnaire ⟨some live, c⟩ := by
  have saves : plan now live save = .go live.state none .done := by simp [plan, planOngoing]
  rw [saves, Plan.run_go]
  simp only [perform, Interview.save, bind_assoc]
  rw [run_bind, run_active]
  dsimp only
  rw [run_persist_bind]
  rcases storage.updateSession now live.state.session (.ofState live.state) c with ⟨_ | _, c⟩ <;>
    rfl

theorem Move.plan_of_ongoing {m : Move} {now : Time.Instant} {live : Live}
    (ongoing : live.state.completed = false) : m.plan now live = m.planOngoing now live := by
  simp [plan, ongoing]

/-- All that a move can be planned to do. -/
inductive Planned (now : Time.Instant) (live : Live) : Move → Plan → Prop
  | completed (m : Move) (ended : live.state.completed = true) (other : m ≠ .save) :
      Planned now live m (.refuse (.alreadyCompleted live.state.session))
  | lost (ongoing : live.state.completed = false) (nowhere : live.state.current = none) :
      Planned now live .next (.refuse .noCurrentQuestion)
  | stuck (ongoing : live.state.completed = false) (current : String) (bad : BadPattern)
      (shown : live.state.current = some current)
      (ahead : lookAhead live.state.answers (live.state.index + 1)
        (live.questionnaire.questions.drop (live.state.index + 1)) = .error bad) :
      Planned now live .next (.refuse (.pattern bad))
  | onward (ongoing : live.state.completed = false) (current : String) (passed : List String)
      (position : Nat) (q : Question) (shown : live.state.current = some current)
      (ahead : lookAhead live.state.answers (live.state.index + 1)
        (live.questionnaire.questions.drop (live.state.index + 1)) =
          .ok ⟨passed, some (position, q)⟩) :
      Planned now live .next
        (.go (moveOn live.state now current ⟨passed, some (position, q)⟩) none (.question q))
  | finish (ongoing : live.state.completed = false) (current : String) (passed : List String)
      (shown : live.state.current = some current)
      (ahead : lookAhead live.state.answers (live.state.index + 1)
        (live.questionnaire.questions.drop (live.state.index + 1)) = .ok ⟨passed, none⟩) :
      Planned now live .next (.go (moveOn live.state now current ⟨passed, none⟩)
        (some fun log =>
          { log with completed := some now, answered := live.state.answers.size })
        (.completed live.state.answers))
  | first (ongoing : live.state.completed = false) (short : live.state.history.length ≤ 1) :
      Planned now live .previous (.stay .nowhere)
  | back (ongoing : live.state.completed = false) (long : 1 < live.state.history.length) :
      Planned now live .previous
        (.go (stepBack live now).1 none (.ofPrevious (stepBack live now).2))
  | jump (ongoing : live.state.completed = false) (id : String) (position : Nat) (q : Question)
      (stands : live.questionnaire.position? id = some position)
      (found : live.questionnaire.find? id = some q) :
      Planned now live (.jump id) (.go { live.state with
        index := position
        current := some id
        history := live.state.history ++ [id]
        updated := now } none (.question q))
  | missed (ongoing : live.state.completed = false) (id : String)
      (absent : live.questionnaire.position? id = none ∨ live.questionnaire.find? id = none) :
      Planned now live (.jump id) (.refuse (.questionNotFound id))
  | record (ongoing : live.state.completed = false) (id : String) (answer : Json)
      (known : live.questionnaire.contains id = true) :
      Planned now live (.record id answer) (.go { live.state with
        answers := live.state.answers.record id answer
        updated := now }
        (some fun log => { log with
          entries := log.entries ++ [⟨id, answer, now⟩]
          answered := (live.state.answers.record id answer).size }) .done)
  | unknown (ongoing : live.state.completed = false) (id : String) (answer : Json)
      (absent : live.questionnaire.contains id = false) :
      Planned now live (.record id answer) (.refuse (.questionNotFound id))
  | save : Planned now live .save (.go live.state none .done)

theorem Move.planned (m : Move) (now : Time.Instant) (live : Live) :
    Planned now live m (m.plan now live) := by
  by_cases saves : m = .save
  · subst saves
    have plain : plan now live save = .go live.state none .done := by simp [plan, planOngoing]
    exact plain ▸ .save
  cases completed : live.state.completed with
  | true =>
    rw [plan, if_pos ⟨completed, saves⟩]
    exact .completed m completed saves
  | false =>
    rw [plan_of_ongoing completed]
    cases m with
    | save => exact absurd rfl saves
    | next =>
      simp only [planOngoing]
      split
      · rename_i nowhere
        exact .lost completed nowhere
      · rename_i current shown
        split
        · rename_i bad ahead
          exact .stuck completed current bad shown ahead
        · rename_i outlook ahead
          obtain ⟨passed, _ | ⟨position, q⟩⟩ := outlook
          · exact .finish completed current passed shown ahead
          · exact .onward completed current passed position q shown ahead
    | previous =>
      simp only [planOngoing]
      split
      · rename_i short
        exact .first completed short
      · exact .back completed (by omega)
    | jump id =>
      simp only [planOngoing]
      cases stands : live.questionnaire.position? id with
      | none => exact .missed completed id (.inl stands)
      | some position =>
        cases found : live.questionnaire.find? id with
        | none => exact .missed completed id (.inr found)
        | some q => exact .jump completed id position q stands found
    | record id answer =>
      simp only [planOngoing]
      split
      · rename_i known
        exact .record completed id answer known
      · rename_i absent
        exact .unknown completed id answer (Bool.eq_false_iff.mpr absent)

/-- What a move does in a session that is not completed. -/
theorem Move.perform_ongoing {m : Move} (storage : Storage σ) (now : Time.Instant) {live : Live}
    (c : σ) (ongoing : live.state.completed = false) :
    m.perform storage now ⟨some live, c⟩ =
      (m.planOngoing now live).run storage now live.questionnaire ⟨some live, c⟩ := by
  cases m with
  | save => rw [perform_save, plan_of_ongoing ongoing]
  | next =>
    simp only [perform, Interview.next, bind_assoc, run_ongoing_bind c ongoing, planOngoing]
    refine congrFun ?_ _
    cases live.state.current with
    | none => rfl
    | some current =>
      dsimp only
      cases lookAhead live.state.answers (live.state.index + 1)
          (live.questionnaire.questions.drop (live.state.index + 1)) with
      | error bad => rfl
      | ok outlook =>
        obtain ⟨passed, _ | ⟨position, q⟩⟩ := outlook
        · simp [moveOn, stampCompletion, Plan.run, Reply.ofStep]
        · simp [moveOn, ongoing, Plan.run, Reply.ofStep]
  | previous =>
    simp only [perform, Interview.previous, bind_assoc, run_ongoing_bind c ongoing, planOngoing]
    refine congrFun ?_ _
    split
    · rfl
    · simp [Plan.run]
  | jump id =>
    simp only [perform, Interview.jump, bind_assoc, run_ongoing_bind c ongoing, planOngoing]
    refine congrFun ?_ _
    cases live.questionnaire.position? id with
    | none => rfl
    | some position =>
      cases live.questionnaire.find? id with
      | none => rfl
      | some q => simp [Plan.run]
  | record id answer =>
    simp only [perform, Interview.record, bind_assoc, run_ongoing_bind c ongoing, planOngoing]
    refine congrFun ?_ _
    cases live.questionnaire.contains id with
    | true => simp [Plan.run]
    | false => rfl

/-- A move of an interview under way carries out its plan. -/
theorem Move.perform_eq_run (m : Move) (storage : Storage σ) (now : Time.Instant) (live : Live)
    (c : σ) :
    m.perform storage now ⟨some live, c⟩ =
      (m.plan now live).run storage now live.questionnaire ⟨some live, c⟩ := by
  cases h : live.state.completed with
  | false => rw [perform_ongoing storage now c h, plan_of_ongoing h]
  | true =>
    cases m with
    | save => exact perform_save ..
    | next | previous | jump | record =>
      simp [perform, plan, h, Plan.run, run_bind, run_ongoing, run_throw, Interview.next,
        Interview.previous, Interview.jump, Interview.record]

end Inquiry.Session
