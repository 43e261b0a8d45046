import Inquiry.Proofs.Session.Invariant

/-!
What an interview and its storage may rely on of each other.

An interview saves nothing but states that fit a questionnaire of the shelf. `Terms` tell what
stands of the contents of a storage in return, and `Terms.KeptBy` that every call keeps it. Main
statement: `Operation.keeps`, one step of any interview over any storage that keeps its terms.
-/
namespace Inquiry.Session

open Interview

/-- A session whose questionnaire stands on the shelf and accounts for its state. -/
structure Live.Sound (shelf : Table Questionnaire) (live : Live) : Prop where
  shelved : shelf.get? live.state.questionnaire = some live.questionnaire
  distinct : live.questionnaire.Distinct
  fits : live.state.Fits live.questionnaire

structure Terms (σ : Type) where
  /-- While a session is under way, or none. -/
  holds : Option Live → σ → Prop
  /-- Once a session is opened on a questionnaire. -/
  opened : String → String → σ → Prop

variable {σ : Type}

/-- The calls of a storage keep terms, whether they fail or not. -/
structure Terms.KeptBy (t : Terms σ) (shelf : Table Questionnaire) (storage : Storage σ) :
    Prop where
  loadQuestionnaire {live : Option Live} {c d : σ} {id : String}
    {answer : Except StorageError Questionnaire} :
    t.holds live c → storage.loadQuestionnaire id c = (answer, d) →
    t.holds live d ∧ ∀ q, answer = .ok q → shelf.get? id = some q ∧ q.Distinct
  createSession {live : Option Live} {c d : σ} {now : Time.Instant} {questionnaire : String}
    {answer : Except StorageError String} :
    t.holds live c → storage.createSession now questionnaire c = (answer, d) →
    t.holds live d ∧ ∀ session, answer = .ok session → t.opened session questionnaire d
  /-- A stored state that passes all checks can take the place of what is under way. -/
  loadSession {live : Option Live} {c d : σ} {session : String}
    {answer : Except StorageError Record} :
    t.holds live c → storage.loadSession session c = (answer, d) →
    t.holds live d ∧ ∀ record state q, answer = .ok record →
      storedState session record = .ok state → shelf.get? state.questionnaire = some q →
      corruption? q state = none → t.holds (some ⟨q, state⟩) d ∧ state.Fits q
  updateSession {live : Option Live} {next : Live} {c d : σ} {now : Time.Instant}
    {answer : Except StorageError Unit} :
    t.holds live c → t.opened next.state.session next.state.questionnaire c → next.Sound shelf →
    storage.updateSession now next.state.session (.ofState next.state) c = (answer, d) →
    (∀ e, answer = .error e → t.holds live d) ∧ (∀ a, answer = .ok a → t.holds (some next) d)
  loadLog {live : Option Live} {c d : σ} {session : String} {answer : Except StorageError Log} :
    t.holds live c → storage.loadLog session c = (answer, d) →
    t.holds live d ∧ ∀ s questionnaire, t.opened s questionnaire c → t.opened s questionnaire d
  saveLog {live : Option Live} {c d : σ} {log : Log} {answer : Except StorageError Unit} :
    t.holds live c → storage.saveLog log c = (answer, d) →
    t.holds live d ∧ ∀ s questionnaire, t.opened s questionnaire c → t.opened s questionnaire d
  opened_of_holds {live : Live} {c : σ} :
    t.holds (some live) c → t.opened live.state.session live.state.questionnaire c

structure Terms.Hold (t : Terms σ) (shelf : Table Questionnaire) (i : Interview σ) : Prop where
  contents : t.holds i.live i.contents
  sound : ∀ live ∈ i.live, live.Sound shelf

variable {t : Terms σ} {shelf : Table Questionnaire} {storage : Storage σ} {c : σ}

theorem Plan.run_go_keeps (kept : t.KeptBy shelf storage) {live : Option Live} {q : Questionnaire}
    {state : State} (now : Time.Instant) (reply : Reply) (hold : t.Hold shelf ⟨live, c⟩)
    (opened : t.opened state.session state.questionnaire c) (sound : Live.Sound shelf ⟨q, state⟩) :
    t.Hold shelf ((go state none reply).run storage now q ⟨live, c⟩).2 := by
  rw [run_go]
  rcases saved : storage.updateSession now state.session (.ofState state) c with ⟨e | a, d⟩
  · exact ⟨(kept.updateSession hold.contents opened sound saved).1 e rfl, hold.sound⟩
  · refine ⟨(kept.updateSession hold.contents opened sound saved).2 a rfl, ?_⟩
    rintro _ ⟨⟩
    exact sound

theorem Plan.run_note_keeps (kept : t.KeptBy shelf storage) {live : Option Live}
    {q : Questionnaire} {state : State} (now : Time.Instant) (note : Log → Log) (reply : Reply)
    (hold : t.Hold shelf ⟨live, c⟩) (opened : t.opened state.session state.questionnaire c)
    (sound : Live.Sound shelf ⟨q, state⟩) :
    t.Hold shelf ((go state (some note) reply).run storage now q ⟨live, c⟩).2 := by
  rw [run_note]
  rcases loaded : storage.loadLog state.session c with ⟨_ | log, c⟩
  · exact ⟨(kept.loadLog hold.contents loaded).1, hold.sound⟩
  · obtain ⟨holds, still⟩ := kept.loadLog hold.contents loaded
    have opened := still _ _ opened
    dsimp only
    rcases saved : storage.saveLog (note log) c with ⟨_ | _, c⟩
    · exact ⟨(kept.saveLog holds saved).1, hold.sound⟩
    · obtain ⟨holds, still⟩ := kept.saveLog holds saved
      exact run_go_keeps kept now reply ⟨holds, hold.sound⟩ (still _ _ opened) sound

theorem Move.keeps (kept : t.KeptBy shelf storage) (m : Move) (now : Time.Instant) {live : Live}
    (hold : t.Hold shelf ⟨some live, c⟩) :
    t.Hold shelf (m.perform storage now ⟨some live, c⟩).2 := by
  rw [perform_eq_run]
  cases planned : m.plan now live with
  | refuse | stay => exact hold
  | go state note reply =>
    have leads := leads planned
    have before := hold.sound live rfl
    have sound : Live.Sound shelf ⟨live.questionnaire, state⟩ := by
      refine ⟨?_, before.distinct, leads.fits before.distinct before.fits⟩
      rw [leads.questionnaire]
      exact before.shelved
    have opened : t.opened state.session state.questionnaire c := by
      rw [leads.session, leads.questionnaire]
      exact kept.opened_of_holds hold.contents
    cases note with
    | none => exact Plan.run_go_keeps kept now reply hold opened sound
    | some note => exact Plan.run_note_keeps kept now note reply hold opened sound

theorem Operation.start_keeps (kept : t.KeptBy shelf storage) (now : Time.Instant)
    (questionnaire : String) {live : Option Live} (hold : t.Hold shelf ⟨live, c⟩) :
    t.Hold shelf ((start questionnaire).perform storage now ⟨live, c⟩).2 := by
  rw [run_start]
  rcases loaded : storage.loadQuestionnaire questionnaire c with ⟨_ | q, c⟩
  · exact ⟨(kept.loadQuestionnaire hold.contents loaded).1, hold.sound⟩
  · obtain ⟨holds, found⟩ := kept.loadQuestionnaire hold.contents loaded
    obtain ⟨shelved, distinct⟩ := found q rfl
    dsimp only
    cases questions : q.questions with
    | nil => exact ⟨holds, hold.sound⟩
    | cons first rest =>
      dsimp only
      rcases created : storage.createSession now questionnaire c with ⟨_ | session, c⟩
      · exact ⟨(kept.createSession holds created).1, hold.sound⟩
      · obtain ⟨holds, opens⟩ := kept.createSession holds created
        have opened := opens session rfl
        dsimp only
        rcases logged : storage.saveLog (.begin now session questionnaire) c with ⟨_ | _, c⟩
        · exact ⟨(kept.saveLog holds logged).1, hold.sound⟩
        · obtain ⟨holds, still⟩ := kept.saveLog holds logged
          have fits := State.fits_begin questions now questionnaire session
          exact Plan.run_go_keeps kept now _ ⟨holds, hold.sound⟩ (still _ _ opened)
            ⟨shelved, distinct, fits⟩

theorem Operation.load_keeps (kept : t.KeptBy shelf storage) (now : Time.Instant)
    (session : String) {live : Option Live} (hold : t.Hold shelf ⟨live, c⟩) :
    t.Hold shelf ((load session).perform storage now ⟨live, c⟩).2 := by
  rw [run_load]
  rcases loaded : storage.loadSession session c with ⟨_ | record, c⟩
  · exact ⟨(kept.loadSession hold.contents loaded).1, hold.sound⟩
  · obtain ⟨holds, resumes⟩ := kept.loadSession hold.contents loaded
    dsimp only
    cases stored : storedState session record with
    | error => exact ⟨holds, hold.sound⟩
    | ok state =>
      dsimp only
      rcases found : storage.loadQuestionnaire state.questionnaire c with ⟨_ | q, d⟩
      · exact ⟨(kept.loadQuestionnaire holds found).1, hold.sound⟩
      · obtain ⟨shelved, distinct⟩ := (kept.loadQuestionnaire holds found).2 q rfl
        dsimp only
        cases checked : corruption? q state with
        | some => exact ⟨(kept.loadQuestionnaire holds found).1, hold.sound⟩
        | none =>
          obtain ⟨resumed, fits⟩ := resumes record state q rfl stored shelved checked
          refine ⟨(kept.loadQuestionnaire resumed found).1, ?_⟩
          rintro _ ⟨⟩
          exact ⟨shelved, distinct, fits⟩

/-- Every operation, failed or not, keeps the terms and leaves only a sound session under way. -/
theorem Operation.keeps (kept : t.KeptBy shelf storage) (op : Operation) (now : Time.Instant)
    {i : Interview σ} (hold : t.Hold shelf i) : t.Hold shelf (op.perform storage now i).2 := by
  obtain ⟨live, c⟩ := i
  cases op with
  | start questionnaire => exact start_keeps kept now questionnaire hold
  | load session => exact load_keeps kept now session hold
  | move m =>
    cases live with
    | none =>
      change t.Hold shelf (m.perform storage now ⟨none, c⟩).2
      rw [Move.perform_none]
      exact hold
    | some live => exact m.keeps kept now hold

end Inquiry.Session
