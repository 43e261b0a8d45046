import Inquiry.Proofs.Session.Exchange

namespace Inquiry.Session

open Interview

variable {σ : Type}

/-- Calls of a storage, whether they fail or not, keep a property of its contents. -/
def Storage.Keeps (storage : Storage σ) (P : σ → Prop) : Prop :=
  ∀ (r : Request) (c : σ), P c → P (r.make storage c).2

/-- What an operation can leave under way. What it reads, it reads from contents of a kind. -/
inductive Arrives (storage : Storage σ) (P : σ → Prop) (now : Time.Instant)
    (before : Option Live) : Operation → Live → Prop
  | stay (op : Operation) (live : Live) (there : before = some live) :
      Arrives storage P now before op live
  | start (questionnaire session : String) (q : Questionnaire) (first : Question)
      (rest : List Question) (c : σ) (holds : P c)
      (loaded : (storage.loadQuestionnaire questionnaire c).1 = .ok q)
      (questions : q.questions = first :: rest) :
      Arrives storage P now before (.start questionnaire)
        ⟨q, .begin now questionnaire session first.id⟩
  | load (session : String) (record : Record) (state : State) (q : Questionnaire) (c d : σ)
      (holds : P c) (found : (storage.loadSession session c).1 = .ok record)
      (stored : storedState session record = .ok state) (still : P d)
      (loaded : (storage.loadQuestionnaire state.questionnaire d).1 = .ok q)
      (checked : corruption? q state = none) :
      Arrives storage P now before (.load session) ⟨q, state⟩
  | move (m : Move) (live : Live) (state : State) (note : Option (Log → Log)) (reply : Reply)
      (there : before = some live) (planned : m.plan now live = .go state note reply) :
      Arrives storage P now before (.move m) ⟨live.questionnaire, state⟩

variable {storage : Storage σ} {P : σ → Prop} {now : Time.Instant} {c d : σ}

theorem Storage.Keeps.after (keeps : storage.Keeps P) (holds : P c) (r : Request)
    {answer : Except StorageError r.Answer} (made : r.make storage c = (answer, d)) : P d := by
  have kept := keeps r c holds
  rwa [made] at kept

theorem Plan.run_go_live (storage : Storage σ) (now : Time.Instant) (q : Questionnaire)
    (state : State) (reply : Reply) (live : Option Live) (c : σ) :
    ((go state none reply).run storage now q ⟨live, c⟩).2.live = live ∨
      ((go state none reply).run storage now q ⟨live, c⟩).2.live = some ⟨q, state⟩ := by
  rw [run_go]
  rcases storage.updateSession now state.session (.ofState state) c with ⟨_ | _, d⟩
  · exact .inl rfl
  · exact .inr rfl

/-- A plan leaves what was there, or the state that it goes to. -/
theorem Plan.run_live (plan : Plan) (storage : Storage σ) (now : Time.Instant)
    (q : Questionnaire) (live : Option Live) (c : σ) :
    (plan.run storage now q ⟨live, c⟩).2.live = live ∨ ∃ state note reply,
      plan = .go state note reply ∧
        (plan.run storage now q ⟨live, c⟩).2.live = some ⟨q, state⟩ := by
  cases plan with
  | refuse | stay => exact .inl rfl
  | go state note reply =>
    have going := run_go_live storage now q state reply live
    cases note with
    | none => exact (going c).imp_right fun there => ⟨state, none, reply, rfl, there⟩
    | some note =>
      rw [run_note]
      rcases storage.loadLog state.session c with ⟨_ | log, d⟩
      · exact .inl rfl
      · dsimp only
        rcases storage.saveLog (note log) d with ⟨_ | _, e⟩
        · exact .inl rfl
        · exact (going e).imp_right fun there => ⟨state, some note, reply, rfl, there⟩

theorem Plan.run_keeps (keeps : storage.Keeps P) (holds : P c) (plan : Plan)
    (now : Time.Instant) (q : Questionnaire) (live : Option Live) :
    P (plan.run storage now q ⟨live, c⟩).2.contents := by
  cases plan with
  | refuse | stay => exact holds
  | go state note reply =>
    have going : ∀ c, P c → P ((go state none reply).run storage now q ⟨live, c⟩).2.contents := by
      intro c holds
      rw [run_go]
      rcases saved : storage.updateSession now state.session (.ofState state) c with ⟨_ | _, d⟩ <;>
        exact keeps.after holds (.updateSession now _ _) saved
    cases note with
    | none => exact going c holds
    | some note =>
      rw [run_note]
      rcases loaded : storage.loadLog state.session c with ⟨_ | log, d⟩
      · exact keeps.after holds (.loadLog _) loaded
      · have holds := keeps.after holds (.loadLog _) loaded
        dsimp only
        rcases saved : storage.saveLog (note log) d with ⟨_ | _, e⟩
        · exact keeps.after holds (.saveLog _) saved
        · exact going e (keeps.after holds (.saveLog _) saved)

theorem Move.arrives (keeps : storage.Keeps P) (m : Move) (live : Live) (holds : P c) :
    P (m.perform storage now ⟨some live, c⟩).2.contents ∧
      ∀ l ∈ (m.perform storage now ⟨some live, c⟩).2.live,
        Arrives storage P now (some live) (.move m) l := by
  rw [perform_eq_run]
  refine ⟨Plan.run_keeps keeps holds (m.plan now live) now live.questionnaire (some live), ?_⟩
  intro l mem
  rcases Plan.run_live (m.plan now live) storage now live.questionnaire (some live) c with
    there | ⟨state, note, reply, planned, there⟩
  · rw [there] at mem
    exact .stay _ l mem
  · rw [there] at mem
    cases mem
    exact .move m live state note reply rfl planned

theorem Operation.start_arrives (keeps : storage.Keeps P) (questionnaire : String)
    (live : Option Live) (holds : P c) :
    P ((start questionnaire).perform storage now ⟨live, c⟩).2.contents ∧
      ∀ l ∈ ((start questionnaire).perform storage now ⟨live, c⟩).2.live,
        Arrives storage P now live (start questionnaire) l := by
  rw [run_start]
  rcases loaded : storage.loadQuestionnaire questionnaire c with ⟨_ | q, d⟩
  · exact ⟨keeps.after holds (.loadQuestionnaire _) loaded, fun l there => .stay _ l there⟩
  · have kept := keeps.after holds (.loadQuestionnaire _) loaded
    have answered := congrArg Prod.fst loaded
    dsimp only
    cases questions : q.questions with
    | nil => exact ⟨kept, fun l there => .stay _ l there⟩
    | cons first rest =>
      dsimp only
      rcases created : storage.createSession now questionnaire d with ⟨_ | session, e⟩
      · exact ⟨keeps.after kept (.createSession now _) created, fun l there => .stay _ l there⟩
      · have kept := keeps.after kept (.createSession now _) created
        dsimp only
        rcases logged : storage.saveLog (.begin now session questionnaire) e with ⟨_ | _, f⟩
        · exact ⟨keeps.after kept (.saveLog _) logged, fun l there => .stay _ l there⟩
        · have kept := keeps.after kept (.saveLog _) logged
          refine ⟨Plan.run_keeps keeps kept _ now q live, fun l mem => ?_⟩
          rcases Plan.run_go_live storage now q
            (.begin now questionnaire session first.id) (.question first) live f with there | there
          · rw [there] at mem
            exact .stay _ l mem
          · rw [there] at mem
            cases mem
            exact .start questionnaire session q first rest c holds answered questions

theorem Operation.load_arrives (keeps : storage.Keeps P) (session : String)
    (live : Option Live) (holds : P c) :
    P ((load session).perform storage now ⟨live, c⟩).2.contents ∧
      ∀ l ∈ ((load session).perform storage now ⟨live, c⟩).2.live,
        Arrives storage P now live (load session) l := by
  rw [run_load]
  rcases found : storage.loadSession session c with ⟨_ | record, d⟩
  · exact ⟨keeps.after holds (.loadSession _) found, fun l there => .stay _ l there⟩
  · have kept := keeps.after holds (.loadSession _) found
    dsimp only
    cases stored : storedState session record with
    | error => exact ⟨kept, fun l there => .stay _ l there⟩
    | ok state =>
      dsimp only
      rcases loaded : storage.loadQuestionnaire state.questionnaire d with ⟨_ | q, e⟩
      · exact ⟨keeps.after kept (.loadQuestionnaire _) loaded, fun l there => .stay _ l there⟩
      · have after := keeps.after kept (.loadQuestionnaire _) loaded
        dsimp only
        cases checked : corruption? q state with
        | some => exact ⟨after, fun l there => .stay _ l there⟩
        | none =>
          refine ⟨after, ?_⟩
          rintro _ ⟨⟩
          exact .load session record state q c d holds (congrArg Prod.fst found) stored kept
            (congrArg Prod.fst loaded) checked

/-- What an operation leaves under way was there before, or is a session that begins, a stored
state that passed every check, or what a move was planned to lead to. -/
theorem Operation.arrives (keeps : storage.Keeps P) (op : Operation) (now : Time.Instant)
    {i : Interview σ} (holds : P i.contents) :
    P (op.perform storage now i).2.contents ∧
      ∀ l ∈ (op.perform storage now i).2.live, Arrives storage P now i.live op l := by
  obtain ⟨live, c⟩ := i
  cases op with
  | start questionnaire => exact start_arrives keeps questionnaire live holds
  | load session => exact load_arrives keeps session live holds
  | move m =>
    cases live with
    | none =>
      change P (m.perform storage now ⟨none, c⟩).2.contents ∧
        ∀ l ∈ (m.perform storage now ⟨none, c⟩).2.live, _
      rw [Move.perform_none]
      exact ⟨holds, fun l there => .stay _ l there⟩
    | some live => exact m.arrives keeps live holds

end Inquiry.Session
