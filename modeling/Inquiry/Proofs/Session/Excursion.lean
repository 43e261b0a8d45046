import Mathlib.Data.List.Infix
import Inquiry.Proofs.Session.Serving

/-!
The history as a stack: going on and jumping put a question on top, stepping back takes one off.

Only the position of the current question is kept, so stepping back finds positions by ids.
Main statement: `Excursion.returns`, by which moves that are undone one by one lead back to where
they began, whatever is answered on the way.
-/
namespace Inquiry.Session

open Interview

namespace Move

/-- Whether a move puts a question on top of the history. -/
def advances : Move → Bool
  | next | jump _ => true
  | _ => false

def retreats : Move → Bool
  | previous => true
  | _ => false

def recorded? : Move → Option (String × Json)
  | record id answer => some (id, answer)
  | _ => none

end Move

/-- Moves of which none steps back behind the beginning, and which end as deep as they began. -/
structure Balanced (moves : List Move) : Prop where
  never : ∀ earlier, earlier <+: moves →
    earlier.countP Move.retreats ≤ earlier.countP Move.advances
  even : moves.countP Move.retreats = moves.countP Move.advances

instance (moves : List Move) : Decidable (Balanced moves) :=
  decidable_of_iff ((∀ earlier ∈ moves.inits,
      earlier.countP Move.retreats ≤ earlier.countP Move.advances) ∧
    moves.countP Move.retreats = moves.countP Move.advances)
    ⟨fun h => ⟨fun earlier mem => h.1 earlier ((List.mem_inits _ _).mpr mem), h.2⟩,
      fun h => ⟨fun earlier mem => h.never earlier ((List.mem_inits _ _).mp mem), h.even⟩⟩

variable {σ : Type}

/-- Moves that succeed one after the other without completing the session, what is under way before
and after each of them, and at the end. The storage may change in any way in between. -/
inductive Excursion (storage : Storage σ) (live : Live) : List Move → List Live → Live → Prop
  | start : Excursion storage live [] [live] live
  | step {moves : List Move} {passed : List Live} {before after : Live} {m : Move} {reply : Reply}
      {now : Time.Instant} {c d : σ} (earlier : Excursion storage live moves passed before)
      (done : m.perform storage now ⟨some before, c⟩ = (.ok reply, ⟨some after, d⟩))
      (further : ∀ answers, reply ≠ .completed answers) :
      Excursion storage live (moves ++ [m]) (passed ++ [after]) after

def Live.VisitedIn (before after : Live) : Prop :=
  ∀ id, before.state.visited.contains id = true → after.state.visited.contains id = true

/-- What a move that succeeds does to the history, the answers and the questions visited. -/
inductive Shifts (s : State) : Move → State → Prop
  | push (m : Move) (t : State) (id : String) (advances : m.advances = true)
      (history : t.history = s.history ++ [id]) (answers : t.answers = s.answers)
      (visited : ∀ k, s.visited.contains k = true → t.visited.contains k = true) : Shifts s m t
  | pop (t : State) (long : 1 < s.history.length) (history : t.history = s.history.dropLast)
      (answers : t.answers = s.answers) (visited : t.visited = s.visited) : Shifts s .previous t
  | nowhere (short : s.history.length ≤ 1) : Shifts s .previous s
  | record (id : String) (answer : Json) (t : State) (history : t.history = s.history)
      (answers : t.answers = s.answers.record id answer) (visited : t.visited = s.visited) :
      Shifts s (.record id answer) t
  | save : Shifts s .save s

theorem Plan.run_ok {plan : Plan} {storage : Storage σ} {now : Time.Instant} {q : Questionnaire}
    {live : Option Live} {c : σ} {reply : Reply} {i : Interview σ}
    (done : plan.run storage now q ⟨live, c⟩ = (.ok reply, i)) :
    plan = .stay reply ∧ i.live = live ∨
      ∃ state note, plan = .go state note reply ∧ i.live = some ⟨q, state⟩ := by
  have going : ∀ {state : State} {answer : Reply} {c : σ},
      (go state none answer).run storage now q ⟨live, c⟩ = (.ok reply, i) →
      answer = reply ∧ i.live = some ⟨q, state⟩ := by
    intro state answer c done
    rw [run_go] at done
    split at done <;> cases done
    exact ⟨rfl, rfl⟩
  cases plan with
  | refuse => cases done
  | stay =>
    cases done
    exact .inl ⟨rfl, rfl⟩
  | go state note answer =>
    right
    cases note with
    | none =>
      obtain ⟨rfl, there⟩ := going done
      exact ⟨state, none, rfl, there⟩
    | some note =>
      rw [run_note] at done
      split at done
      · cases done
      · split at done
        · cases done
        · obtain ⟨rfl, there⟩ := going done
          exact ⟨state, some note, rfl, there⟩

theorem Move.shifts_of_go {m : Move} {now : Time.Instant} {live : Live} {state : State}
    {note : Option (Log → Log)} {reply : Reply} (planned : m.plan now live = .go state note reply)
    (further : ∀ answers, reply ≠ .completed answers) : Shifts live.state m state := by
  have goes := m.planned now live
  rw [planned] at goes
  cases goes with
  | onward _ current passed position q =>
    refine .push _ _ q.id rfl rfl rfl ?_
    intro id mem
    exact (IdSet.contains_add _ _ _).mpr (.inr mem)
  | finish => exact absurd rfl (further _)
  | back _ long =>
    unfold stepBack
    dsimp only
    split <;> exact .pop _ long rfl rfl rfl
  | jump _ id => exact .push _ _ id rfl rfl rfl fun _ mem => mem
  | record _ id answer => exact .record id answer _ rfl rfl rfl
  | save => exact .save

theorem Move.shifts_of_stay {m : Move} {now : Time.Instant} {live : Live} {reply : Reply}
    (planned : m.plan now live = .stay reply) : Shifts live.state m live.state := by
  have stays := m.planned now live
  rw [planned] at stays
  cases stays with
  | first _ short => exact .nowhere short

theorem Move.shifts {m : Move} {storage : Storage σ} {now : Time.Instant} {before after : Live}
    {c d : σ} {reply : Reply}
    (done : m.perform storage now ⟨some before, c⟩ = (.ok reply, ⟨some after, d⟩))
    (further : ∀ answers, reply ≠ .completed answers) (distinct : before.questionnaire.Distinct)
    (fits : before.state.Fits before.questionnaire) :
    after.questionnaire = before.questionnaire ∧ after.state.Fits before.questionnaire ∧
      Shifts before.state m after.state := by
  rw [perform_eq_run] at done
  rcases Plan.run_ok done with ⟨planned, there⟩ | ⟨state, note, planned, there⟩
  · cases there
    exact ⟨rfl, fits, shifts_of_stay planned⟩
  · cases there
    exact ⟨rfl, (leads planned).fits distinct fits, shifts_of_go planned further⟩

namespace Shifts

variable {s t : State} {m : Move}

theorem get?_answers (h : Shifts s m t) (id : String) :
    t.answers.get? id = (Table.find id m.recorded?.toList).or (s.answers.get? id) := by
  cases h with
  | push m _ _ advances _ answers =>
    rw [answers]
    cases m with
    | next | jump => rfl
    | previous | record | save => cases advances
  | pop _ _ _ answers => exact answers ▸ rfl
  | record question answer _ _ answers =>
    rw [answers, Answers.record, Table.get?_insert]
    simp only [Move.recorded?, Option.toList, Table.find]
    split <;> rfl
  | nowhere | save => rfl

theorem visited (h : Shifts s m t) (id : String) (mem : s.visited.contains id = true) :
    t.visited.contains id = true := by
  cases h with
  | push _ _ _ _ _ _ visited => exact visited id mem
  | pop _ _ _ _ visited | record _ _ _ _ _ visited => exact visited ▸ mem
  | nowhere | save => exact mem

/-- What was put on top of the history goes first. Only stepping back where nothing was put there
would reach what lies below. -/
theorem history (h : Shifts s m t) {base extra : List String} (base_ne : base ≠ [])
    (stacked : s.history = base ++ extra) (above : m.retreats = true → extra ≠ []) :
    ∃ more, t.history = base ++ more ∧
      more.length + [m].countP Move.retreats = extra.length + [m].countP Move.advances := by
  cases h with
  | push m _ id advances history =>
    refine ⟨extra ++ [id], by rw [history, stacked, List.append_assoc], ?_⟩
    cases m with
    | next | jump => rw [List.length_append]; rfl
    | previous | record | save => cases advances
  | pop _ _ history =>
    have above := above rfl
    have pos := List.length_pos_iff.mpr above
    refine ⟨extra.dropLast, by rw [history, stacked, List.dropLast_append_of_ne_nil above], ?_⟩
    rw [List.length_dropLast]
    change extra.length - 1 + 1 = extra.length + 0
    omega
  | nowhere short =>
    have pos := List.length_pos_iff.mpr (above rfl)
    have base_pos := List.length_pos_iff.mpr base_ne
    rw [stacked, List.length_append] at short
    omega
  | record _ _ _ history => exact ⟨extra, history.trans stacked, rfl⟩
  | save => exact ⟨extra, stacked, rfl⟩

end Shifts

namespace Excursion

variable {storage : Storage σ} {live final : Live} {moves : List Move} {passed : List Live}

theorem fits (h : Excursion storage live moves passed final)
    (distinct : live.questionnaire.Distinct) (fits : live.state.Fits live.questionnaire) :
    final.questionnaire = live.questionnaire ∧ final.state.Fits live.questionnaire := by
  induction h with
  | start => exact ⟨rfl, fits⟩
  | step earlier done further ih =>
    obtain ⟨same, fits⟩ := ih
    obtain ⟨still, fits, -⟩ := Move.shifts done further (same ▸ distinct) (same ▸ fits)
    exact ⟨still.trans same, same ▸ fits⟩

theorem shifts {before after : Live} {m : Move} {reply : Reply} {now : Time.Instant} {c d : σ}
    (earlier : Excursion storage live moves passed before)
    (done : m.perform storage now ⟨some before, c⟩ = (.ok reply, ⟨some after, d⟩))
    (further : ∀ answers, reply ≠ .completed answers) (distinct : live.questionnaire.Distinct)
    (fits : live.state.Fits live.questionnaire) : Shifts before.state m after.state := by
  obtain ⟨same, still⟩ := earlier.fits distinct fits
  exact (Move.shifts done further (same ▸ distinct) (same ▸ still)).2.2

/-- Above the history from before stand as many questions as were gone on to and not left again by
stepping back. -/
theorem history (h : Excursion storage live moves passed final)
    (distinct : live.questionnaire.Distinct) (fits : live.state.Fits live.questionnaire)
    (never : ∀ earlier, earlier <+: moves →
      earlier.countP Move.retreats ≤ earlier.countP Move.advances) :
    ∃ extra, final.state.history = live.state.history ++ extra ∧
      extra.length + moves.countP Move.retreats = moves.countP Move.advances := by
  have base : live.state.history ≠ [] := by
    obtain ⟨id, -, -, last⟩ := fits.shown
    intro empty
    simp [empty] at last
  induction h with
  | start => exact ⟨[], (List.append_nil _).symm, rfl⟩
  | @step moves passed before after m reply now c d earlier done further ih =>
    obtain ⟨extra, stacked, height⟩ :=
      ih fun others mem => never others (mem.trans (List.prefix_append _ _))
    have depth := never _ (List.prefix_refl _)
    rw [List.countP_append, List.countP_append] at depth ⊢
    have above : m.retreats = true → extra ≠ [] := by
      rintro retreats rfl
      cases m <;> cases retreats
      rw [List.length_nil] at height
      change moves.countP Move.retreats + 1 ≤ moves.countP Move.advances + 0 at depth
      omega
    obtain ⟨more, stacked, shifted⟩ :=
      (earlier.shifts done further distinct fits).history base stacked above
    exact ⟨more, stacked, by omega⟩

theorem get?_answers (h : Excursion storage live moves passed final)
    (distinct : live.questionnaire.Distinct) (fits : live.state.Fits live.questionnaire)
    (id : String) : final.state.answers.get? id =
      ((Table.ofList (moves.filterMap Move.recorded?)).get? id).or
        (live.state.answers.get? id) := by
  rw [Table.get?_ofList]
  induction h with
  | start => rfl
  | @step moves passed before after m reply now c d earlier done further ih =>
    have recorded : ([m].filterMap Move.recorded?).reverse = m.recorded?.toList := by
      cases told : m.recorded? with
      | none => simp [told]
      | some answer => simp [told]
    rw [(earlier.shifts done further distinct fits).get?_answers id, ih, List.filterMap_append,
      List.reverse_append, recorded, Table.find_append, Option.or_assoc]

theorem visited (h : Excursion storage live moves passed final)
    (distinct : live.questionnaire.Distinct) (fits : live.state.Fits live.questionnaire) :
    passed.Pairwise Live.VisitedIn ∧ ∀ earlier ∈ passed, earlier.VisitedIn final := by
  induction h with
  | start => exact ⟨List.pairwise_singleton _ _, List.forall_mem_singleton.mpr fun _ mem => mem⟩
  | @step moves passed before after m reply now c d earlier done further ih =>
    obtain ⟨grows, below⟩ := ih
    have shifts := earlier.shifts done further distinct fits
    have below : ∀ earlier ∈ passed, earlier.VisitedIn after :=
      fun earlier mem id visited => shifts.visited id (below earlier mem id visited)
    constructor
    · rw [List.pairwise_append]
      refine ⟨grows, List.pairwise_singleton _ _, fun earlier mem later last => ?_⟩
      cases List.mem_singleton.mp last
      exact below earlier mem
    · refine List.forall_mem_append.mpr ⟨below, ?_⟩
      exact List.forall_mem_singleton.mpr fun _ visited => visited

/-- Moves of which each one that goes on or jumps is undone by stepping back lead to the question,
the position and the history from which they began, whatever is answered on the way and whichever
questions that hides. Meanwhile the last answer to a question counts, and no question that was
visited is forgotten. -/
theorem returns (h : Excursion storage live moves passed final)
    (distinct : live.questionnaire.Distinct) (fits : live.state.Fits live.questionnaire)
    (balanced : Balanced moves) :
    final.questionnaire = live.questionnaire ∧ final.state.current = live.state.current ∧
      final.state.index = live.state.index ∧ final.state.history = live.state.history ∧
      (∀ id, final.state.answers.get? id =
        ((Table.ofList (moves.filterMap Move.recorded?)).get? id).or
          (live.state.answers.get? id)) ∧
      passed.Pairwise Live.VisitedIn := by
  obtain ⟨same, still⟩ := h.fits distinct fits
  obtain ⟨extra, stacked, height⟩ := h.history distinct fits balanced.never
  have none : extra = [] := by
    rw [balanced.even] at height
    exact List.length_eq_zero_iff.mp (by omega)
  have history : final.state.history = live.state.history := by
    rw [stacked, none, List.append_nil]
  -- The history ends with the current question, and that has only one position.
  obtain ⟨id, shown, stands, last⟩ := fits.shown
  obtain ⟨id', shown', stands', last'⟩ := still.shown
  rw [history, last, Option.some_inj] at last'
  subst last'
  refine ⟨same, shown'.trans shown.symm, ?_, history, h.get?_answers distinct fits,
    (h.visited distinct fits).1⟩
  exact Option.some.inj (stands'.symm.trans stands)

/-- Over a storage that serves the session, a move that is planned to go on can be made. -/
theorem go [SessionIds] {c : Connection} {before : Live} {m : Move} {state : State}
    {note : Option (Log → Log)} {reply : Reply}
    (earlier : Excursion Connection.storage live moves passed before)
    (serves : c.Serves before.state.session) (now : Time.Instant)
    (planned : m.plan now before = .go state note reply)
    (further : ∀ answers, reply ≠ .completed answers) :
    Excursion Connection.storage live (moves ++ [m])
      (passed ++ [⟨before.questionnaire, state⟩]) ⟨before.questionnaire, state⟩ := by
  obtain ⟨d, done, -⟩ := Move.perform_ok serves planned
  exact earlier.step done further

/-- A form whose second question is skipped if the first one is answered with `x`. -/
def skippedForm : Questionnaire :=
  ⟨"form", "", "", [.plain "a" .text, { Question.plain "b" .text with
    rules := some { Rules.none with
      skipIf := some (.one (.compare "a" .equals (.string "x"))) } }, .plain "c" .text]⟩

def skippedLive : Live := ⟨skippedForm, { State.begin .epoch "form" "$1" "a" with
  index := 1
  current := some "b"
  history := ["a", "b"] }⟩

def skippedMoves : List Move :=
  [.next, .record "a" (.string "x"), .jump "c", .previous, .previous]

/-- The question gone back to is one that would be skipped by then. -/
theorem returns_skipped :
    ∃ (passed : List Live) (final : Live),
      Excursion Connection.storage skippedLive skippedMoves passed final ∧
      final.state.current = some "b" ∧ final.state.index = 1 ∧ final.state.history = ["a", "b"] ∧
      final.state.answers.get? "a" = some (.string "x") ∧
      (∀ q ∈ skippedForm.questions[1]?, q.isVisible (.ofList [("a", .string "x")]) = .ok false) ∧
      passed.length = 6 := by
  have serves := Connection.serves_serving skippedLive
  have begun : Excursion Connection.storage skippedLive [] [skippedLive] skippedLive := .start
  have onward := begun.go (m := .next) serves .epoch rfl nofun
  have answered := onward.go (m := .record "a" (.string "x")) serves .epoch rfl nofun
  have jumped := answered.go (m := .jump "c") serves .epoch rfl nofun
  have back := jumped.go (m := .previous) serves .epoch rfl nofun
  have excursion := back.go (m := .previous) serves .epoch rfl nofun
  let first : Live := ⟨skippedForm, .begin .epoch "form" "$1" "a"⟩
  have begins : first.state.Fits first.questionnaire :=
    State.fits_begin (q := skippedForm) rfl .epoch "form" "$1"
  have fits : skippedLive.state.Fits skippedLive.questionnaire := begins.jump rfl
  obtain ⟨-, current, index, history, answers, -⟩ :=
    excursion.returns (by decide) fits (by decide)
  exact ⟨_, _, excursion, current, index, history, answers "a", by decide +kernel, rfl⟩

end Excursion

end Inquiry.Session
