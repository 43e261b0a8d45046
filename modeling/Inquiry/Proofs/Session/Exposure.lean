import Inquiry.Proofs.Session.Arrival
import Inquiry.Proofs.Session.Sharing

/-!
Interviews over tables that anybody may write to at any time, states and questionnaires included.

Nothing stored can be relied on. What is resumed is as good as the checks on it, which ask less
than what an interview itself saves: there need not be a current question. Main statements:
`Arrives.stands`, by which operations keep what the checks ask, and `Exposed.in_range`.
-/
namespace Inquiry.Session

open Interview

/-- A state all of whose places lie in a questionnaire. -/
structure State.Stands (q : Questionnaire) (s : State) : Prop where
  within : s.index < q.size
  history : ∀ id ∈ s.history, q.contains id = true
  shown : ∀ id, s.current = some id → q.position? id = some s.index ∧ s.history.getLast? = some id

structure Live.Stands (live : Live) : Prop where
  distinct : live.questionnaire.Distinct
  state : live.state.Stands live.questionnaire

/-- A state with a current question stands if that is where it says and ends its history. -/
theorem State.stands_at {q : Questionnaire} {s : State} {id : String}
    (shown : s.current = some id) (stands : q.position? id = some s.index)
    (history : ∀ other ∈ s.history, q.contains other = true)
    (last : s.history.getLast? = some id) : s.Stands q := by
  refine ⟨Questionnaire.position?_lt stands, history, ?_⟩
  intro other current
  rw [shown, Option.some_inj] at current
  exact current ▸ ⟨stands, last⟩

theorem State.stands_begin {q : Questionnaire} {first : Question} {rest : List Question}
    (questions : q.questions = first :: rest) (now : Time.Instant)
    (questionnaire session : String) :
    (State.begin now questionnaire session first.id).Stands q := by
  have fits := State.fits_begin questions now questionnaire session
  obtain ⟨_, shown, stands, last⟩ := fits.shown
  exact State.stands_at shown stands fits.history last

theorem Interview.last_of_storedState {session : String} {record : Record} {state : State}
    (stored : storedState session record = .ok state) {id : String}
    (shown : state.current = some id) : state.history.getLast? = some id := by
  obtain ⟨_, -, read, -⟩ := of_storedState stored
  obtain ⟨_, -, -, ends⟩ := State.of_ofJson read
  exact ends id shown

/-- What the checks on a state that is to be resumed find out. -/
theorem Interview.corruption?_eq_none_iff {q : Questionnaire} {state : State} :
    corruption? q state = none ↔ state.index < q.size ∧
      (∀ id, state.current = some id → q.position? id = some state.index) ∧
      ∀ id ∈ state.history, q.contains id = true := by
  unfold corruption?
  by_cases beyond : q.size ≤ state.index
  · simp [beyond, Nat.not_lt.mpr beyond]
  · have within : state.index < q.size := Nat.lt_of_not_le beyond
    rw [if_neg beyond]
    cases shown : state.current with
    | none => simp [within]
    | some id =>
      by_cases stands : q.position? id = some state.index
      · simp [stands, within, Option.filter]
      · simp [stands, Option.filter]

/-- A stored state that passes every check stands in its questionnaire. -/
theorem State.stands_of_checked {q : Questionnaire} {session : String} {record : Record}
    {state : State} (stored : storedState session record = .ok state)
    (checked : corruption? q state = none) : state.Stands q := by
  obtain ⟨within, stands, known⟩ := corruption?_eq_none_iff.mp checked
  exact ⟨within, known, fun id shown => ⟨stands id shown, last_of_storedState stored shown⟩⟩

namespace State.Stands

variable {now : Time.Instant} {live : Live}

theorem moveOn (h : live.state.Stands live.questionnaire) (distinct : live.questionnaire.Distinct)
    (current : String) {outlook : Outlook}
    (ahead : lookAhead live.state.answers (live.state.index + 1)
      (live.questionnaire.questions.drop (live.state.index + 1)) = .ok outlook) :
    (Interview.moveOn live.state now current outlook).Stands live.questionnaire := by
  cases found : outlook.found with
  | none =>
    simp only [Interview.moveOn, found]
    exact ⟨h.within, h.history, h.shown⟩
  | some next =>
    obtain ⟨position, q⟩ := next
    have stands := position?_of_lookAhead distinct ahead found
    simp only [Interview.moveOn, found]
    have known := Questionnaire.contains_of_position? stands
    have history := List.forall_mem_append.mpr ⟨h.history, List.forall_mem_singleton.mpr known⟩
    exact State.stands_at rfl stands history List.getLast?_concat

/-- Stepping back gives a state a current question, whether it had one or not. -/
theorem stepBack (h : live.state.Stands live.questionnaire)
    (long : 1 < live.state.history.length) :
    (Interview.stepBack live now).1.Stands live.questionnaire := by
  obtain ⟨id, position, q, last, stands, -, back⟩ := exists_stepBack h.history long
  rw [back]
  exact State.stands_at rfl stands (fun other mem => h.history other (List.dropLast_subset _ mem))
    last

theorem jump (h : live.state.Stands live.questionnaire) {id : String} {position : Nat}
    (stands : live.questionnaire.position? id = some position) :
    State.Stands live.questionnaire { live.state with
      index := position
      current := some id
      history := live.state.history ++ [id]
      updated := now } := by
  have known := Questionnaire.contains_of_position? stands
  have history := List.forall_mem_append.mpr ⟨h.history, List.forall_mem_singleton.mpr known⟩
  exact State.stands_at rfl stands history List.getLast?_concat

end State.Stands

theorem Leads.stands {now : Time.Instant} {live : Live} {state : State} (h : Leads now live state)
    (stands : live.Stands) : state.Stands live.questionnaire := by
  cases h with
  | moveOn current outlook _ ahead => exact stands.state.moveOn stands.distinct current ahead
  | stepBack long => exact stands.state.stepBack long
  | jump id position place => exact stands.state.jump place
  | record | save => exact ⟨stands.state.within, stands.state.history, stands.state.shown⟩

variable {σ : Type}

/-- A questionnaire that is handed out has no repeated ids. -/
def Exchange.Distinct : Exchange → Prop
  | ⟨.loadQuestionnaire _, answer⟩ => ∀ q, answer = .ok q → q.Distinct
  | _ => True

theorem Exchange.distinct_error (r : Request) (e : StorageError) :
    Exchange.Distinct ⟨r, .error e⟩ := by
  cases r with
  | loadQuestionnaire => exact fun _ impossible => nomatch impossible
  | createSession | loadSession | updateSession | loadLog | saveLog => trivial

/-- Whatever is stored, an operation leaves only a session under way that stands in its
questionnaire, if questionnaires that are handed out have no repeated ids. -/
theorem Arrives.stands {storage : Storage σ} {P : σ → Prop} {now : Time.Instant}
    {before : Option Live} {op : Operation} {live : Live}
    (distinct : ∀ id c, P c →
      Exchange.Distinct ⟨.loadQuestionnaire id, (storage.loadQuestionnaire id c).1⟩)
    (stands : ∀ l ∈ before, l.Stands) (h : Arrives storage P now before op live) :
    live.Stands := by
  cases h with
  | stay _ _ there => exact stands live there
  | start questionnaire session q first rest c holds loaded questions =>
    exact ⟨distinct _ c holds q loaded, State.stands_begin questions now questionnaire session⟩
  | load session record state q c d holds found stored still loaded checked =>
    exact ⟨distinct _ d still q loaded, State.stands_of_checked stored checked⟩
  | move m live state note reply there planned =>
    have before := stands live there
    exact ⟨before.distinct, (Move.leads planned).stands before⟩

theorem Connection.distinct [SessionIds] (r : Request) (c : Connection) :
    Exchange.Distinct ⟨r, (r.make storage c).1⟩ := by
  cases r with
  | loadQuestionnaire id =>
    intro q ok
    rcases called : storage.loadQuestionnaire id c with ⟨answer, d⟩
    refine ((loadQuestionnaire_cases called).2 q ?_).2
    exact (congrArg Prod.fst called).symm.trans ok
  | createSession | loadSession | updateSession | loadLog | saveLog => trivial

namespace Transcript

theorem keeps_ahead (Q : Exchange → Prop) : storage.Keeps fun t => ∀ e ∈ t.ahead, Q e := by
  intro r t holds
  rcases replay_cases r t with ⟨answer, rest, ahead, made⟩ | made
  · rw [made]
    exact (List.forall_mem_cons.mp (ahead ▸ holds)).2
  · rw [made]
    exact holds

theorem distinct (r : Request) (t : Transcript) (heard : ∀ e ∈ t.ahead, e.Distinct) :
    Exchange.Distinct ⟨r, (r.make storage t).1⟩ := by
  rcases replay_cases r t with ⟨answer, rest, ahead, made⟩ | made
  · rw [made]
    exact (List.forall_mem_cons.mp (ahead ▸ heard)).1
  · rw [made]
    exact Exchange.distinct_error r .brokenOff

end Transcript

variable {ι : Type} [DecidableEq ι]

/-- What interviews come to over one storage whose contents, and whose failures, are changed in any
way between any two calls. -/
inductive Exposed [SessionIds] : World ι → Prop
  | start (c : Connection) : Exposed ⟨c, fun _ => ⟨none, none⟩⟩
  | turn {w v : World ι} (before : Exposed w) (turn : Turn w v) : Exposed v
  | change {w : World ι} (before : Exposed w) (d : Connection) : Exposed { w with shared := d }

/-- What is under way at a desk stands in its questionnaire, and the questionnaires heard of there
have no repeated ids. -/
structure Desk.Stands (d : Desk) : Prop where
  live : ∀ l ∈ d.live, l.Stands
  heard : ∀ p ∈ d.pending, ∀ e ∈ p.heard, e.Distinct

theorem Desk.stands_idle {live : Option Live} (stands : ∀ l ∈ live, l.Stands) :
    Desk.Stands ⟨live, none⟩ :=
  ⟨stands, by rintro _ ⟨⟩⟩

theorem Desk.follow_stands {live : Option Live} {p : Pending}
    (stands : Desk.Stands ⟨live, some p⟩) : ∀ l ∈ (Desk.follow live p).live, l.Stands := by
  intro l mem
  have arrived := (p.operation.arrives (Transcript.keeps_ahead Exchange.Distinct) p.now
    (stands.heard p rfl : ∀ e ∈ (⟨p.heard, none⟩ : Transcript).ahead, e.Distinct)).2 l mem
  exact arrived.stands (fun id => Transcript.distinct (.loadQuestionnaire id)) stands.live

theorem Turn.stands [SessionIds] {w v : World ι} (turn : Turn w v)
    (h : ∀ j, (w.desks j).Stands) : ∀ j, (v.desks j).Stands := by
  cases turn with
  | perform i live idle op now =>
    have desk := idle ▸ h i
    refine World.put_desks h i (Desk.stands_idle fun l mem => ?_) _
    have keeps : Connection.storage.Keeps fun _ => True := fun _ _ _ => trivial
    have arrived := (op.arrives keeps now trivial).2 l mem
    exact arrived.stands (fun id c _ => Connection.distinct (.loadQuestionnaire id) c) desk.live
  | begin i live idle op now =>
    have desk := idle ▸ h i
    have stands : Desk.Stands ⟨live, some ⟨op, now, []⟩⟩ :=
      ⟨desk.live, by rintro _ ⟨⟩ e mem; cases mem⟩
    exact World.put_desks h i stands _
  | ask i live p r busy waits =>
    have desk := busy ▸ h i
    have stands : Desk.Stands ⟨live, some { p with
        heard := p.heard ++ [⟨r, (r.make Connection.storage w.shared).1⟩] }⟩ := by
      refine ⟨desk.live, ?_⟩
      rintro _ ⟨⟩
      exact List.forall_mem_append.mpr
        ⟨desk.heard p rfl, List.forall_mem_singleton.mpr (Connection.distinct r w.shared)⟩
    exact World.put_desks h i stands _
  | finish i live p busy done =>
    have desk := busy ▸ h i
    exact World.put_desks h i (Desk.stands_idle (Desk.follow_stands desk)) _
  | others d questionnaires states => exact h

theorem Exposed.stands [SessionIds] {w : World ι} (h : Exposed w) :
    ∀ j, (w.desks j).Stands := by
  induction h with
  | start c => exact fun _ => Desk.stands_idle (by rintro _ ⟨⟩)
  | turn before turn ih => exact turn.stands ih
  | change before d ih => exact ih

/-- Stepping back from a state that stands comes to a question as soon as it is saved. -/
theorem Live.Stands.previous_ok {live : Live} (h : live.Stands)
    (ongoing : live.state.completed = false) (long : 2 ≤ live.state.history.length) :
    ∃ q, live.state.history.dropLast.getLast? = some q.id ∧
      ∀ (σ : Type) (storage : Storage σ) (now : Time.Instant) (c d : σ),
        storage.updateSession now live.state.session (.ofState (stepBack live now).1) c =
          (.ok (), d) →
        previous storage now ⟨some live, c⟩ =
          (.ok (some q), ⟨some { live with state := (stepBack live now).1 }, d⟩) := by
  obtain ⟨id, position, q, last, stands, ⟨found, rfl⟩, back⟩ :=
    exists_stepBack h.state.history long
  refine ⟨q, last, fun σ storage now c d saved => ?_⟩
  have further : ¬ live.state.history.length ≤ 1 := Nat.not_le.mpr long
  unfold previous
  rw [run_ongoing_bind c ongoing, if_neg further]
  simp only [back] at saved ⊢
  change (commit storage now _ >>= fun _ => _) _ = _
  rw [run_commit_bind]
  dsimp only
  rw [saved]
  rfl

/-- However what is stored is changed, and whichever calls fail: what is under way stands at a
position of its questionnaire, its history names only its questions, and its current question, if
it has one, stands at that position and ends the history. So the position behind it is no larger
than any bound on the number of questions, every position that an id is found at holds its
question, and stepping back comes to a question, once it is saved. -/
theorem Exposed.in_range [SessionIds] {w : World ι} (h : Exposed w) {i : ι} {live : Live}
    (active : (w.desks i).live = some live) :
    live.state.index < live.questionnaire.size ∧
    (∀ id ∈ live.state.history, ∃ position, live.questionnaire.position? id = some position) ∧
    (∀ id, live.state.current = some id →
      live.questionnaire.position? id = some live.state.index ∧
      live.state.history.getLast? = some id) ∧
    (∀ limit, live.questionnaire.size ≤ limit → live.state.index + 1 ≤ limit) ∧
    (∀ id position, live.questionnaire.position? id = some position →
      ∃ q, live.questionnaire.questions[position]? = some q ∧
        live.questionnaire.find? id = some q) ∧
    (live.state.completed = false → 2 ≤ live.state.history.length →
      ∃ q, live.state.history.dropLast.getLast? = some q.id ∧
        ∀ (σ : Type) (storage : Storage σ) (now : Time.Instant) (c d : σ),
          storage.updateSession now live.state.session (.ofState (stepBack live now).1) c =
            (.ok (), d) →
          Interview.previous storage now ⟨some live, c⟩ =
            (.ok (some q), ⟨some { live with state := (stepBack live now).1 }, d⟩)) := by
  have stands := (h.stands i).live live active
  have within := stands.state.within
  refine ⟨within, fun id mem => Questionnaire.exists_position? (stands.state.history id mem),
    stands.state.shown, fun limit bound => Nat.le_trans within bound, ?_, ?_⟩
  · intro id position found
    obtain ⟨q, there, -⟩ := Questionnaire.getElem?_of_position? found
    exact ⟨q, there, (Questionnaire.find?_of_position? found).trans there⟩
  · exact stands.previous_ok

/-- A snapshot that no interview has saved: it is nowhere, and tells an answer twice. -/
def forgedSnapshot : Snapshot where
  questionnaire := "form"
  session := "$1"
  index := 1
  current := none
  answers := [("b", .null), ("b", .bool true)]
  visited := ["c"]
  skipped := []
  history := ["a", "b"]
  completed := false
  started := .epoch
  updated := .epoch

def forgedQuestionnaire : Questionnaire :=
  ⟨"form", "", "", [.plain "a" .text, .plain "b" .text]⟩

/-- A questionnaire, and a session with the forged snapshot. -/
def forgedConnection : Connection :=
  let record : Record := ⟨"$1", "form", .active, .epoch, .epoch, some forgedSnapshot.toJson⟩
  .sound { Store.ofQuestionnaires [forgedQuestionnaire] with sessions := .ofList [("$1", record)] }

/-- The forged snapshot is resumed, and then its questionnaire is taken away. Stepping back comes
to the first question all the same. -/
theorem in_range_forged :
    ∃ (w : World Unit) (live : Live), Exposed w ∧ (w.desks ()).live = some live ∧
      w.shared.store.questionnaires.get? "form" = none ∧
      live.state.current = none ∧ live.state.index < live.questionnaire.size ∧
      ∃ q d, q.id = "a" ∧
        Interview.previous Connection.storage .epoch ⟨some live, w.shared⟩ = (.ok (some q), d) := by
  have start : Exposed (⟨.sound .empty, fun _ => ⟨none, none⟩⟩ : World Unit) := .start _
  have forged := start.change forgedConnection
  have resumed := forged.turn (.perform _ () none rfl (.load "$1") .epoch)
  have taken := resumed.change (.sound { forgedConnection.store with questionnaires := ∅ })
  let live : Live := ⟨forgedQuestionnaire, .ofSnapshot forgedSnapshot⟩
  have active : ((Operation.load "$1").perform Connection.storage .epoch
      ⟨none, forgedConnection⟩).2.live = some live := by
    decide +kernel
  obtain ⟨within, -, -, -, -, back⟩ := taken.in_range (i := ()) active
  obtain ⟨q, last, steps⟩ := back rfl (by decide)
  have first : q.id = "a" := (Option.some.inj last).symm
  have stepped := steps Connection Connection.storage .epoch
    (.sound { forgedConnection.store with questionnaires := ∅ }) _
    (Connection.updateSession_ok _ _ rfl rfl)
  exact ⟨_, live, taken, active, rfl, rfl, within, q, _, first, stepped⟩

end Inquiry.Session
