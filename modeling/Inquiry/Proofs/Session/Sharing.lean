import Inquiry.Proofs.Session.Exchange
import Inquiry.Proofs.Session.Storing

namespace Inquiry.Session

/-- Tables in which every stored state is accounted for. -/
structure Store.Accounts (shelf : Table Questionnaire) (s : Store) : Prop where
  shelved : s.questionnaires = shelf
  states : ∀ id record json, s.sessions.get? id = some record → record.state = some json →
    Accounted shelf json

namespace Store.Accounts

variable {shelf : Table Questionnaire} {s : Store}

theorem createSession [SessionIds] (h : s.Accounts shelf) (now : Time.Instant)
    (questionnaire : String) :
    (s.createSession now questionnaire).2.Accounts shelf := by
  refine ⟨h.shelved, ?_⟩
  intro id record json found holds
  simp only [Store.createSession, Table.get?_insert] at found
  split at found
  · cases found
    cases holds
  · exact h.states id record json found holds

theorem updateSession (h : s.Accounts shelf) {session : String} {record : Record}
    {update : Update} (now : Time.Instant)
    (sound : ∀ json, update.state = some json → Accounted shelf json)
    (found : s.sessions.get? session = some record) :
    Accounts shelf { s with
      sessions := s.sessions.insert session (record.update now update) } := by
  refine ⟨h.shelved, ?_⟩
  intro id other json found' holds
  simp only [Table.get?_insert] at found'
  split at found'
  · cases found'
    cases new : update.state with
    | none =>
      have old : record.state = some json := by simpa [Record.update, new] using holds
      exact h.states session record json found old
    | some state =>
      have same : state = json := by simpa [Record.update, new] using holds
      exact sound json (same ▸ new)
  · exact h.states id other json found' holds

end Store.Accounts

/-- A connection to tables in which every stored state is accounted for is honest. -/
theorem Connection.honest [SessionIds] (shelf : Table Questionnaire) :
    Honest shelf storage fun c => c.store.Accounts shelf := by
  intro r c asked accounts
  cases r with
  | loadQuestionnaire id =>
    simp only [Request.make]
    rcases called : storage.loadQuestionnaire id c with ⟨answer, d⟩
    obtain ⟨same, found⟩ := loadQuestionnaire_cases called
    refine ⟨same ▸ accounts, fun q ok => ?_⟩
    rw [← accounts.shelved]
    exact found q ok
  | createSession now questionnaire =>
    simp only [Request.make]
    rcases called : storage.createSession now questionnaire c with ⟨answer, d⟩
    rcases createSession_cases called with ⟨e, rfl, same⟩ | ⟨rfl, created⟩
    · exact ⟨same ▸ accounts, trivial⟩
    · exact ⟨created ▸ accounts.createSession now questionnaire, trivial⟩
  | loadSession session =>
    simp only [Request.make]
    rcases called : storage.loadSession session c with ⟨answer, d⟩
    obtain ⟨same, found⟩ := loadSession_cases called
    refine ⟨same ▸ accounts, fun record ok json holds => ?_⟩
    exact accounts.states session record json (found record ok) holds
  | updateSession now session update =>
    simp only [Request.make]
    rcases called : storage.updateSession now session update c with ⟨answer, d⟩
    rcases updateSession_cases called with ⟨e, rfl, same⟩ | ⟨rfl, record, found, saved⟩
    · exact ⟨same ▸ accounts, trivial⟩
    · exact ⟨saved ▸ accounts.updateSession now asked found, trivial⟩
  | loadLog session =>
    simp only [Request.make]
    rcases called : storage.loadLog session c with ⟨answer, d⟩
    have same := loadLog_cases called
    exact ⟨same ▸ accounts, trivial⟩
  | saveLog log =>
    simp only [Request.make]
    rcases called : storage.saveLog log c with ⟨answer, d⟩
    obtain ⟨questionnaires, sessions, -⟩ := saveLog_cases called
    refine ⟨⟨questionnaires.trans accounts.shelved, ?_⟩, trivial⟩
    rw [sessions]
    exact accounts.states

/-- An operation that is under way: its time, and what its calls came to so far. -/
structure Pending where
  operation : Operation
  now : Time.Instant
  heard : List Exchange

/-- One interview, and the operation of it that is under way, if there is one. -/
structure Desk where
  live : Option Live
  pending : Option Pending

/-- What comes of an operation with what it heard so far. -/
def Desk.follow (live : Option Live) (p : Pending) : Interview Transcript :=
  (p.operation.perform Transcript.storage p.now ⟨live, ⟨p.heard, none⟩⟩).2

structure World (ι : Type) where
  shared : Connection
  desks : ι → Desk

variable {ι : Type} [DecidableEq ι]

def World.put (w : World ι) (i : ι) (desk : Desk) (shared : Connection) : World ι :=
  ⟨shared, fun j => if j = i then desk else w.desks j⟩

theorem World.put_desks {P : Desk → Prop} {w : World ι} (h : ∀ j, P (w.desks j)) (i : ι)
    {desk : Desk} (here : P desk) (shared : Connection) (j : ι) :
    P ((w.put i desk shared).desks j) := by
  simp only [World.put]
  split
  · exact here
  · exact h j

/-- One step of one interview, or of somebody else who writes neither questionnaires nor states.
Operations are carried out at a stretch, or call by call with other steps in between. Any call may
fail, as the connection has it. -/
inductive Turn [SessionIds] : World ι → World ι → Prop
  | perform (w : World ι) (i : ι) (live : Option Live) (idle : w.desks i = ⟨live, none⟩)
      (op : Operation) (now : Time.Instant) :
      Turn w (w.put i ⟨(op.perform Connection.storage now ⟨live, w.shared⟩).2.live, none⟩
        (op.perform Connection.storage now ⟨live, w.shared⟩).2.contents)
  | begin (w : World ι) (i : ι) (live : Option Live) (idle : w.desks i = ⟨live, none⟩)
      (op : Operation) (now : Time.Instant) :
      Turn w (w.put i ⟨live, some ⟨op, now, []⟩⟩ w.shared)
  | ask (w : World ι) (i : ι) (live : Option Live) (p : Pending) (r : Request)
      (busy : w.desks i = ⟨live, some p⟩)
      (waits : (Desk.follow live p).contents.waiting = some r) :
      Turn w (w.put i
        ⟨live, some { p with heard := p.heard ++ [⟨r, (r.make Connection.storage w.shared).1⟩] }⟩
        (r.make Connection.storage w.shared).2)
  | finish (w : World ι) (i : ι) (live : Option Live) (p : Pending)
      (busy : w.desks i = ⟨live, some p⟩) (done : (Desk.follow live p).contents.waiting = none) :
      Turn w (w.put i ⟨(Desk.follow live p).live, none⟩ w.shared)
  | others (w : World ι) (d : Connection)
      (questionnaires : d.store.questionnaires = w.shared.store.questionnaires)
      (states : ∀ id record json, d.store.sessions.get? id = some record →
        record.state = some json →
        ∃ before, w.shared.store.sessions.get? id = some before ∧ before.state = some json) :
      Turn w { w with shared := d }

/-- What interviews come to over a storage that begins without any state. -/
inductive Reachable [SessionIds] (shelf : Table Questionnaire) : World ι → Prop
  | start (c : Connection) (questionnaires : c.store.questionnaires = shelf)
      (clear : ∀ id record, c.store.sessions.get? id = some record → record.state = none) :
      Reachable shelf ⟨c, fun _ => ⟨none, none⟩⟩
  | next {w v : World ι} (before : Reachable shelf w) (turn : Turn w v) : Reachable shelf v

/-- What is under way at a desk is sound, and so is what was heard there. -/
structure Desk.Sound (shelf : Table Questionnaire) (d : Desk) : Prop where
  live : ∀ l ∈ d.live, l.Sound shelf
  heard : ∀ p ∈ d.pending, ∀ e ∈ p.heard, e.Sound shelf

structure World.Sound (shelf : Table Questionnaire) (w : World ι) : Prop where
  shared : w.shared.store.Accounts shelf
  desks : ∀ i, (w.desks i).Sound shelf

variable {shelf : Table Questionnaire} {w v : World ι}

theorem World.Sound.put (h : w.Sound shelf) (i : ι) {desk : Desk} {shared : Connection}
    (accounts : shared.store.Accounts shelf) (sound : desk.Sound shelf) :
    (w.put i desk shared).Sound shelf :=
  ⟨accounts, World.put_desks h.desks i sound shared⟩

theorem Desk.follow_sound {live : Option Live} {p : Pending}
    (sound : Desk.Sound shelf ⟨live, some p⟩) :
    (Desk.follow live p).contents.Sound shelf ∧ ∀ l ∈ (Desk.follow live p).live, l.Sound shelf := by
  have hold : (Terms.plain (Transcript.Sound shelf)).Hold shelf
      (⟨live, ⟨p.heard, none⟩⟩ : Interview Transcript) :=
    ⟨⟨sound.heard p rfl, by rintro _ ⟨⟩⟩, sound.live⟩
  have after := p.operation.keeps (Transcript.honest shelf).keptBy p.now hold
  exact ⟨after.contents, after.sound⟩

theorem Turn.sound [SessionIds] (turn : Turn w v) (h : w.Sound shelf) : v.Sound shelf := by
  cases turn with
  | perform i live idle op now =>
    have desk := idle ▸ h.desks i
    have hold : (Terms.plain fun c : Connection => c.store.Accounts shelf).Hold shelf
        ⟨live, w.shared⟩ := ⟨h.shared, desk.live⟩
    have after := op.keeps (Connection.honest shelf).keptBy now hold
    exact h.put i after.contents ⟨after.sound, by rintro _ ⟨⟩⟩
  | begin i live idle op now =>
    have desk := idle ▸ h.desks i
    refine h.put i h.shared ⟨desk.live, ?_⟩
    rintro _ ⟨⟩ e mem
    cases mem
  | ask i live p r busy waits =>
    have desk := busy ▸ h.desks i
    have asked := (Desk.follow_sound desk).1.waiting r waits
    obtain ⟨accounts, answered⟩ := Connection.honest shelf r w.shared asked h.shared
    refine h.put i accounts ⟨desk.live, ?_⟩
    rintro _ ⟨⟩
    exact List.forall_mem_append.mpr ⟨desk.heard p rfl, List.forall_mem_singleton.mpr answered⟩
  | finish i live p busy done =>
    have desk := busy ▸ h.desks i
    exact h.put i h.shared ⟨(Desk.follow_sound desk).2, by rintro _ ⟨⟩⟩
  | others d questionnaires states =>
    refine ⟨⟨questionnaires.trans h.shared.shelved, ?_⟩, h.desks⟩
    intro id record json found holds
    obtain ⟨before, found', holds'⟩ := states id record json found holds
    exact h.shared.states id before json found' holds'

theorem Reachable.sound [SessionIds] (h : Reachable shelf w) : w.Sound shelf := by
  induction h with
  | start c questionnaires clear =>
    refine ⟨⟨questionnaires, ?_⟩, fun _ => ⟨by rintro _ ⟨⟩, by rintro _ ⟨⟩⟩⟩
    intro id record json found holds
    rw [clear id record found] at holds
    cases holds
  | next before turn ih => exact turn.sound ih

/-- However operations of any number of interviews are mixed, and whichever calls fail: what is
under way has distinct questions, stands at its current question, which ends its history, and names
only its own questions. So its progress is in bounds, and it can always be tried to go on. -/
theorem Reachable.session_invariant [SessionIds] (h : Reachable shelf w) {i : ι} {live : Live}
    (active : (w.desks i).live = some live) :
    live.questionnaire.Distinct ∧
    (∃ id, live.state.current = some id ∧
      live.questionnaire.position? id = some live.state.index ∧
      live.state.history ≠ [] ∧ live.state.history.getLast? = some id) ∧
    (∀ id, id ∈ live.state.history ∨ live.state.visited.contains id = true ∨
        live.state.skipped.contains id = true ∨ live.state.answers.contains id = true →
      live.questionnaire.contains id = true) ∧
    (∀ (σ : Type) (c : σ), ∃ p : Progress,
      Interview.progress ⟨some live, c⟩ = (.ok p, ⟨some live, c⟩) ∧
      p.total = live.questionnaire.size ∧ 1 ≤ p.current ∧ p.current ≤ p.total ∧
      p.answered ≤ p.total) ∧
    ∀ (σ : Type) (storage : Storage σ) (now : Time.Instant) (c : σ),
      (Interview.next storage now ⟨some live, c⟩).1 ≠ .error .noCurrentQuestion := by
  have sound := (h.sound.desks i).live live active
  have fits := sound.fits
  refine ⟨sound.distinct, ?_, ?_, ?_, fun _ => fits.next_ne_noCurrentQuestion⟩
  · obtain ⟨id, shown, stands, last⟩ := fits.shown
    refine ⟨id, shown, stands, ?_, last⟩
    intro empty
    simp [empty] at last
  · rintro id (mem | mem | mem | mem)
    · exact fits.history id mem
    · exact fits.visited id mem
    · exact fits.skipped id mem
    · exact fits.answers id mem
  · intro σ c
    exact ⟨_, rfl, rfl, Nat.succ_pos _, fits.index_lt, fits.answers_le⟩

/-- A connection to one questionnaire, over which the sixth call fails. -/
def sharedConnection : Connection :=
  { Connection.sound (.ofQuestionnaires [⟨"form", "", "", [.plain "a" .text, .plain "b" .text]⟩])
    with faults := fun n _ => if n = 5 then some .brokenOff else none }

/-- One interview is started; while another one resumes its session call by call, the first cannot
save that it goes on. -/
theorem session_invariant_mixed :
    ∃ (w : World Bool) (live : Live), Reachable sharedConnection.store.questionnaires w ∧
      (w.desks true).live = some live ∧ live.questionnaire.Distinct ∧
      ∃ id, live.state.current = some id ∧
        live.questionnaire.position? id = some live.state.index := by
  have start : Reachable sharedConnection.store.questionnaires
      (⟨sharedConnection, fun _ => ⟨none, none⟩⟩ : World Bool) :=
    .start sharedConnection rfl (by rintro _ _ ⟨⟩)
  have started := start.next (.perform _ false none rfl (.start "form") .epoch)
  have resuming := started.next (.begin _ true none rfl (.load "$1") .epoch)
  have loaded := resuming.next (.ask _ true none _ (.loadSession "$1") rfl (by decide +kernel))
  have failed := loaded.next (.perform _ false _ rfl (.move .next) .epoch)
  have checked := failed.next
    (.ask _ true none _ (.loadQuestionnaire "form") rfl (by decide +kernel))
  obtain ⟨w, resumed, there⟩ : ∃ w : World Bool,
      Reachable sharedConnection.store.questionnaires w ∧ (w.desks true).live.isSome = true :=
    ⟨_, checked.next (.finish _ true none _ rfl (by decide +kernel)), by decide +kernel⟩
  obtain ⟨live, active⟩ := Option.isSome_iff_exists.mp there
  obtain ⟨distinct, ⟨id, shown, stands, -, -⟩, -⟩ := resumed.session_invariant active
  exact ⟨w, live, resumed, active, distinct, id, shown, stands⟩

end Inquiry.Session
