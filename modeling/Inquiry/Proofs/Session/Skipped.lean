import Inquiry.Proofs.Session.Excursion
import Inquiry.Proofs.Session.Onward

/-!
Which questions are listed as skipped in the course of a session.

Going on lists the questions that it passes over, and takes the one that it comes to off the list.
No other move does either, so a question that is jumped or stepped back to stays listed. Main
statements: `Move.lists`, what a move does to the list, and `Excursion.shown_listed`.
-/
namespace Inquiry.Session

open Interview

/-- Some item is of one kind, and all behind it are of another. -/
def Since {α : Type} (P Q : α → Prop) (items : List α) : Prop :=
  ∃ earlier a later, items = earlier ++ a :: later ∧ P a ∧ ∀ b ∈ later, Q b

theorem not_since_nil {α : Type} {P Q : α → Prop} : ¬ Since P Q [] := by
  rintro ⟨earlier, a, later, split, -⟩
  exact absurd split.symm (by simp)

theorem since_concat_iff {α : Type} {P Q : α → Prop} {items : List α} {a : α} :
    Since P Q (items ++ [a]) ↔ P a ∨ Since P Q items ∧ Q a := by
  constructor
  · rintro ⟨earlier, b, later, split, kind, others⟩
    cases later using List.reverseRecOn with
    | nil =>
      obtain ⟨-, same⟩ := List.append_inj' split rfl
      cases same
      exact .inl kind
    | append_singleton later c =>
      rw [← List.cons_append, ← List.append_assoc] at split
      obtain ⟨rfl, same⟩ := List.append_inj' split rfl
      cases same
      have last := others a (List.mem_append_right _ (List.mem_singleton_self a))
      exact .inr ⟨⟨earlier, b, later, rfl, kind, fun d mem => others d (by simp [mem])⟩, last⟩
  · rintro (kind | ⟨⟨earlier, b, later, rfl, kind, others⟩, last⟩)
    · exact ⟨items, a, [], rfl, kind, by simp⟩
    · refine ⟨earlier, b, later ++ [a], by simp, kind, ?_⟩
      exact List.forall_mem_append.mpr ⟨others, List.forall_mem_singleton.mpr last⟩

structure Stride where
  move : Move
  before : State
  after : State

/-- The strides of moves, by what is under way before, between and after them. -/
def strides : List Move → List Live → List Stride
  | m :: moves, before :: after :: rest =>
    ⟨m, before.state, after.state⟩ :: strides moves (after :: rest)
  | _, _ => []

theorem strides_concat {moves : List Move} {passed : List Live} {before : Live} (m : Move)
    (after : Live) (length : passed.length = moves.length) :
    strides (moves ++ [m]) (passed ++ [before, after]) =
      strides moves (passed ++ [before]) ++ [⟨m, before.state, after.state⟩] := by
  induction moves generalizing passed with
  | nil =>
    cases List.length_eq_zero_iff.mp length
    rfl
  | cons first moves ih =>
    cases passed with
    | nil => cases length
    | cons live passed =>
      have rest := @ih passed (Nat.succ.inj length)
      cases passed with
      | nil => exact congrArg (_ :: ·) rest
      | cons next passed => exact congrArg (_ :: ·) rest

namespace Stride

def PassesOver (q : Questionnaire) (id : String) (s : Stride) : Prop :=
  s.move = .next ∧ ∃ k, q.position? id = some k ∧ s.before.index < k ∧ k < s.after.index

def GoesOnTo (id : String) (s : Stride) : Prop := s.move = .next ∧ s.after.current = some id

/-- Jumping or stepping back comes to the question of an id. -/
def TurnsTo (id : String) (s : Stride) : Prop :=
  (s.move = .previous ∨ s.move = .jump id) ∧ s.after.current = some id

end Stride

/-- What a move that succeeds does to the questions listed as skipped, and to the current one. -/
inductive Lists (q : Questionnaire) (now : Time.Instant) (s : State) : Move → State → Prop
  | onward (j : Nat) (p : Question) (t : State) (found : q.questions[j]? = some p)
      (moves : s.MovesTo q t now j p) : Lists q now s .next t
  | turn (m : Move) (t : State) (turns : m = .previous ∨ ∃ id, m = .jump id ∧ t.current = some id)
      (skipped : t.skipped = s.skipped) : Lists q now s m t
  | stay (m : Move) (t : State) (stays : m ≠ .next) (skipped : t.skipped = s.skipped)
      (current : t.current = s.current) : Lists q now s m t

variable {σ : Type} {storage : Storage σ} {now : Time.Instant} {q : Questionnaire}

theorem Move.lists_of_go {m : Move} {live : Live} {state : State} {note : Option (Log → Log)}
    {reply : Reply} (planned : m.plan now live = .go state note reply)
    (further : ∀ answers, reply ≠ .completed answers) :
    Lists live.questionnaire now live.state m state := by
  have goes := m.planned now live
  rw [planned] at goes
  cases goes with
  | onward ongoing current passed position p shown ahead =>
    obtain ⟨hidden, rest, split, ids, -, -, finds⟩ := lookAhead_split ahead
    cases rest with
    | nil => cases finds
    | cons first rest =>
      cases finds
      cases ids
      exact .onward _ p _ (Questionnaire.getElem?_of_drop split)
        (movesTo_moveOn ongoing shown split)
  | finish => exact absurd rfl (further _)
  | back =>
    refine .turn _ _ (.inl rfl) ?_
    unfold stepBack
    dsimp only
    split <;> rfl
  | jump _ id => exact .turn _ _ (.inr ⟨id, rfl, rfl⟩) rfl
  | record => exact .stay _ _ (by simp) rfl rfl
  | save => exact .stay _ _ (by simp) rfl rfl

theorem Move.lists {m : Move} {before after : Live} {c d : σ} {reply : Reply}
    (done : m.perform storage now ⟨some before, c⟩ = (.ok reply, ⟨some after, d⟩))
    (further : ∀ answers, reply ≠ .completed answers) :
    after.questionnaire = before.questionnaire ∧
      Lists before.questionnaire now before.state m after.state := by
  rw [perform_eq_run] at done
  rcases Plan.run_ok done with ⟨planned, there⟩ | ⟨state, note, planned, there⟩
  · cases there
    obtain ⟨rfl, -⟩ := eq_previous_of_stay planned
    exact ⟨rfl, .stay _ _ (by simp) rfl rfl⟩
  · cases there
    exact ⟨rfl, lists_of_go planned further⟩

namespace Lists

variable {s t : State} {m : Move} {id : String}

/-- Of distinct questions, those that going on passes over are listed, and the one that it comes to
is not. Other moves leave the list as it is. -/
theorem contains_iff (h : Lists q now s m t) (distinct : q.Distinct) :
    t.skipped.contains id = true ↔ Stride.PassesOver q id ⟨m, s, t⟩ ∨
      s.skipped.contains id = true ∧ ¬ Stride.GoesOnTo id ⟨m, s, t⟩ := by
  have other : m ≠ .next → t.skipped = s.skipped →
      (t.skipped.contains id = true ↔ Stride.PassesOver q id ⟨m, s, t⟩ ∨
        s.skipped.contains id = true ∧ ¬ Stride.GoesOnTo id ⟨m, s, t⟩) := by
    intro stays skipped
    simp [Stride.PassesOver, Stride.GoesOnTo, stays, skipped]
  cases h with
  | turn _ _ turns skipped =>
    refine other ?_ skipped
    rcases turns with rfl | ⟨_, rfl, -⟩ <;> simp
  | stay _ _ stays skipped => exact other stays skipped
  | onward j p _ found moves =>
    have stands := Questionnaire.position?_of_getElem? distinct found
    -- Questions passed over are told by their positions, those listed by their ids.
    have between : (∃ k r, s.index < k ∧ k < j ∧ q.questions[k]? = some r ∧ r.id = id) ↔
        ∃ k, q.position? id = some k ∧ s.index < k ∧ k < j := by
      simp only [Questionnaire.position?_eq_some_iff distinct]
      exact exists_congr fun k => by tauto
    have apart : (∃ k, q.position? id = some k ∧ s.index < k ∧ k < j) → id ≠ p.id := by
      rintro ⟨k, here, -, before⟩ rfl
      rw [stands, Option.some_inj] at here
      omega
    rw [moves.skipped, between]
    simp only [Stride.PassesOver, Stride.GoesOnTo, moves.index, moves.current, Option.some_inj,
      true_and]
    constructor
    · rintro ⟨differ, listed | passed⟩
      · exact .inr ⟨listed, differ.symm⟩
      · exact .inl passed
    · rintro (passed | ⟨listed, differ⟩)
      · exact ⟨apart passed, .inr passed⟩
      · exact ⟨fun same => differ same.symm, .inl listed⟩

/-- Only a question that is turned to, or that was the current one before, is current and listed. -/
theorem turnsTo (h : Lists q now s m t) (shown : t.current = some id)
    (listed : t.skipped.contains id = true) :
    Stride.TurnsTo id ⟨m, s, t⟩ ∨
      (s.current = some id ∧ s.skipped.contains id = true) ∧ m ≠ .next := by
  cases h with
  | onward j p _ found moves =>
    obtain ⟨differ, -⟩ := (moves.skipped id).mp listed
    rw [moves.current, Option.some_inj] at shown
    exact absurd shown.symm differ
  | turn _ _ turns skipped =>
    refine .inl ⟨?_, shown⟩
    rcases turns with rfl | ⟨other, rfl, there⟩
    · exact .inl rfl
    · rw [shown, Option.some_inj] at there
      exact .inr (there ▸ rfl)
  | stay _ _ stays skipped current =>
    exact .inr ⟨⟨current ▸ shown, skipped ▸ listed⟩, stays⟩

end Lists

/-- A session that starts is under way with nothing listed. -/
theorem Interview.begun_of_start {questionnaire : String} {i : Interview σ} {first : Question}
    {live : Live} {c : σ} (started : start storage now questionnaire i =
      (.ok first, ⟨some live, c⟩)) :
    ∃ session id, live.state = .begin now questionnaire session id := by
  obtain ⟨before, d⟩ := i
  have done : (Operation.start questionnaire).perform storage now ⟨before, d⟩ =
      (.ok (.question first), ⟨some live, c⟩) := by
    rw [Operation.perform, run_map, started]
    rfl
  rw [Operation.run_start] at done
  rcases loaded : storage.loadQuestionnaire questionnaire d with ⟨_ | q, d⟩ <;> rw [loaded] at done
  · cases done
  · dsimp only at done
    cases questions : q.questions with
    | nil =>
      rw [questions] at done
      cases done
    | cons front rest =>
      rw [questions] at done
      dsimp only at done
      rcases created : storage.createSession now questionnaire d with ⟨_ | session, d⟩ <;>
        rw [created] at done
      · cases done
      · dsimp only at done
        rcases saved : storage.saveLog (.begin now session questionnaire) d with ⟨_ | _, d⟩ <;>
          rw [saved] at done
        · cases done
        · rcases Plan.run_ok done with ⟨impossible, -⟩ | ⟨state, note, planned, there⟩
          · cases impossible
          · cases planned
            cases there
            exact ⟨session, first.id, rfl⟩

namespace Excursion

variable {live final : Live} {moves : List Move} {passed : List Live}

theorem questionnaire_eq (h : Excursion storage live moves passed final) :
    final.questionnaire = live.questionnaire := by
  induction h with
  | start => rfl
  | step earlier done further ih => exact (Move.lists done further).1.trans ih

theorem exists_passed (h : Excursion storage live moves passed final) :
    ∃ init, passed = init ++ [final] ∧ init.length = moves.length := by
  induction h with
  | start => exact ⟨[], rfl, rfl⟩
  | @step moves passed before after m reply now c d earlier done further ih =>
    obtain ⟨init, rfl, length⟩ := ih
    exact ⟨init ++ [before], rfl, by rw [List.length_append, List.length_append, length]; rfl⟩

theorem strides_step {before : Live} (h : Excursion storage live moves passed before) (m : Move)
    (after : Live) : strides (moves ++ [m]) (passed ++ [after]) =
      strides moves passed ++ [⟨m, before.state, after.state⟩] := by
  obtain ⟨init, rfl, length⟩ := h.exists_passed
  rw [List.append_assoc]
  exact strides_concat m after length

theorem lists {before after : Live} {m : Move} {reply : Reply} {c d : σ}
    (earlier : Excursion storage live moves passed before)
    (done : m.perform storage now ⟨some before, c⟩ = (.ok reply, ⟨some after, d⟩))
    (further : ∀ answers, reply ≠ .completed answers) :
    Lists live.questionnaire now before.state m after.state :=
  earlier.questionnaire_eq ▸ (Move.lists done further).2

/-- A question is listed just if it was passed over and not gone on to since. -/
theorem listed_iff (h : Excursion storage live moves passed final)
    (distinct : live.questionnaire.Distinct) (empty : live.state.skipped = ∅) (id : String) :
    final.state.skipped.contains id = true ↔
      Since (Stride.PassesOver live.questionnaire id) (fun s => ¬ s.GoesOnTo id)
        (strides moves passed) := by
  induction h with
  | start =>
    rw [empty]
    exact iff_of_false Bool.false_ne_true not_since_nil
  | @step moves passed before after m reply now c d earlier done further ih =>
    rw [earlier.strides_step, since_concat_iff, ← ih]
    exact (earlier.lists done further).contains_iff distinct

theorem turned (h : Excursion storage live moves passed final) (empty : live.state.skipped = ∅)
    {id : String} (shown : final.state.current = some id)
    (listed : final.state.skipped.contains id = true) :
    Since (Stride.TurnsTo id) (fun s => s.move ≠ .next) (strides moves passed) := by
  induction h with
  | start =>
    rw [empty] at listed
    cases listed
  | @step moves passed before after m reply now c d earlier done further ih =>
    rw [earlier.strides_step, since_concat_iff]
    rcases (earlier.lists done further).turnsTo shown listed with turns | ⟨⟨here, before⟩, other⟩
    · exact .inl turns
    · exact .inr ⟨ih here before, other⟩

/-- In the course of a session a question is listed as skipped from where it is passed over up to
where going on comes to it. The current question is among those listed only if, since the session
last went on, it was jumped or stepped back to. -/
theorem shown_listed {questionnaire : String} {i : Interview σ} {first : Question} {c : σ}
    (started : Interview.start storage now questionnaire i = (.ok first, ⟨some live, c⟩))
    (distinct : live.questionnaire.Distinct)
    (h : Excursion storage live moves passed final) :
    (∀ id, final.state.skipped.contains id = true ↔
      Since (Stride.PassesOver live.questionnaire id) (fun s => ¬ s.GoesOnTo id)
        (strides moves passed)) ∧
    ∀ id, final.state.current = some id → final.state.skipped.contains id = true →
      Since (Stride.TurnsTo id) (fun s => s.move ≠ .next) (strides moves passed) := by
  obtain ⟨session, front, begins⟩ := begun_of_start started
  have empty : live.state.skipped = ∅ := congrArg State.skipped begins
  exact ⟨h.listed_iff distinct empty, fun _ => h.turned empty⟩

def skippedStart : Interview Connection := ⟨none, .sound (.ofQuestionnaires [skippedForm])⟩

theorem exists_skippedStart : ∃ first session c,
    Interview.start Connection.storage .epoch "form" skippedStart =
      (.ok first, ⟨some ⟨skippedForm, .begin .epoch "form" session "a"⟩, c⟩) ∧
    c.Serves session := by
  have found : skippedStart.contents.store.questionnaires.get? "form" = some skippedForm := by
    decide +kernel
  exact ⟨_, start_ok (fun _ _ => rfl) found (by decide) rfl .epoch⟩

/-- After the second question was shown, an answer hides it. Going on then passes over it, and
stepping back twice leads to it. -/
def skippedBack : List Move :=
  [.next, .jump "a", .record "a" (.string "x"), .next, .previous, .previous]

/-- The session stands at the second question, which is listed because it was passed over before it
was stepped back to. -/
theorem shown_listed_back : ∃ first live c passed final,
    Interview.start Connection.storage .epoch "form" skippedStart = (.ok first, ⟨some live, c⟩) ∧
      Excursion Connection.storage live skippedBack passed final ∧
      final.state.current = some "b" ∧ final.state.completed = false ∧
      Since (Stride.PassesOver skippedForm "b") (fun s => ¬ s.GoesOnTo "b")
        (strides skippedBack passed) ∧
      Since (Stride.TurnsTo "b") (fun s => s.move ≠ .next) (strides skippedBack passed) := by
  obtain ⟨first, session, c, started, serves⟩ := exists_skippedStart
  let live : Live := ⟨skippedForm, .begin .epoch "form" session "a"⟩
  have begun : Excursion Connection.storage live [] [live] live := .start
  have onward := begun.go (m := .next) serves .epoch rfl nofun
  have jumped := onward.go (m := .jump "a") serves .epoch rfl nofun
  have answered := jumped.go (m := .record "a" (.string "x")) serves .epoch rfl nofun
  have past := answered.go (m := .next) serves .epoch rfl nofun
  have back := past.go (m := .previous) serves .epoch rfl nofun
  have excursion := back.go (m := .previous) serves .epoch rfl nofun
  have distinct : skippedForm.Distinct := by decide
  obtain ⟨listed, turned⟩ := shown_listed started distinct excursion
  exact ⟨_, _, _, _, _, started, excursion, rfl, rfl, (listed "b").mp rfl, turned "b" rfl rfl⟩

/-- A question that was passed over and is jumped to is shown and still listed as skipped. -/
theorem skipped_shown : ∃ first live c moves passed final id,
    Interview.start Connection.storage .epoch "form" skippedStart = (.ok first, ⟨some live, c⟩) ∧
      live.questionnaire.Distinct ∧ moves = [.record "a" (.string "x"), .next, .jump id] ∧
      Excursion Connection.storage live moves passed final ∧
      final.state.completed = false ∧ final.state.current = some id ∧
      final.state.skipped.contains id = true := by
  obtain ⟨first, session, c, started, serves⟩ := exists_skippedStart
  let live : Live := ⟨skippedForm, .begin .epoch "form" session "a"⟩
  have begun : Excursion Connection.storage live [] [live] live := .start
  have answered := begun.go (m := .record "a" (.string "x")) serves .epoch rfl nofun
  have past := answered.go (m := .next) serves .epoch rfl nofun
  have excursion := past.go (m := .jump "b") serves .epoch rfl nofun
  have distinct : skippedForm.Distinct := by decide
  exact ⟨_, _, _, _, _, _, "b", started, distinct, rfl, excursion, rfl, rfl, rfl⟩

end Excursion

end Inquiry.Session
