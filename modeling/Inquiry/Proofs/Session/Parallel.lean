import Mathlib.Data.Fintype.Basic
import Inquiry.Proofs.Session.Mirror

namespace Inquiry.Session

open Connection (storage)

structure Task where
  operation : Operation
  rest : Program Result

/-- The session that is loaded next, if one is. -/
def Task.loading : Task → Option String
  | ⟨_, .ask (.loadSession session) _⟩ => some session
  | _ => none

/-- One of several interviews: the session under way, the operation under way, the sessions that it
opened so far, and the operations that it carried out so far with their answers. -/
structure Party where
  live : Option Live
  task : Option Task
  own : List String
  deeds : List (Operation × Except InterviewError Reply)

structure Parallel (ι : Type) where
  shared : Connection
  parties : ι → Party

inductive Act where
  /-- Begin an operation, unless one is under way. -/
  | begin (now : Time.Instant) (op : Operation)
  /-- Make the next call of the operation under way, or finish it if there is no call to be made. -/
  | advance

namespace Parallel

variable {ι : Type}

/-- Nothing is under way, over tables on which no call fails. -/
def start (base : Store) : Parallel ι := ⟨.sound base, fun _ => ⟨none, none, [], []⟩⟩

/-- A party loads a session of its own next, or one that nobody opened, if it loads one. -/
def Minds (w : Parallel ι) (i : ι) : Prop :=
  ∀ session ∈ (w.parties i).task.bind Task.loading,
    session ∈ (w.parties i).own ∨ ∀ j, session ∉ (w.parties j).own

variable [DecidableEq ι]

def put (w : Parallel ι) (i : ι) (party : Party) (shared : Connection) : Parallel ι :=
  ⟨shared, fun j => if j = i then party else w.parties j⟩

def begin (w : Parallel ι) (i : ι) (now : Time.Instant) (op : Operation) : Parallel ι :=
  let p := w.parties i
  match p.task with
  | some _ => w
  | none => w.put i { p with task := some ⟨op, op.program now p.live⟩ } w.shared

def advance [SessionIds] (w : Parallel ι) (i : ι) : Parallel ι :=
  let p := w.parties i
  match p.task with
  | none => w
  | some ⟨operation, .done (answer, live)⟩ =>
    w.put i ⟨live, none, p.own, p.deeds ++ [(operation, answer)]⟩ w.shared
  | some ⟨operation, .ask r next⟩ =>
    let (answer, shared) := r.make storage w.shared
    w.put i ⟨p.live, some ⟨operation, next answer⟩, p.own ++ r.opened answer, p.deeds⟩ shared

def run [SessionIds] (w : Parallel ι) : List (ι × Act) → Parallel ι
  | [] => w
  | (i, .begin now op) :: rest => (w.begin i now op).run rest
  | (i, .advance) :: rest => (w.advance i).run rest

/-- If they act in this order, all load sessions of their own only, or some that nobody opened. -/
def Polite [SessionIds] (w : Parallel ι) : List (ι × Act) → Prop
  | [] => True
  | (i, .begin now op) :: rest => (w.begin i now op).Polite rest
  | (i, .advance) :: rest => w.Minds i ∧ (w.advance i).Polite rest

instance decidableMinds [Fintype ι] (w : Parallel ι) (i : ι) : Decidable (w.Minds i) :=
  Option.decidableForallMem _

instance decidablePolite [SessionIds] [Fintype ι] (w : Parallel ι) :
    (acts : List (ι × Act)) → Decidable (w.Polite acts)
  | [] => .isTrue trivial
  | (i, .begin now op) :: rest => (w.begin i now op).decidablePolite rest
  | (i, .advance) :: rest =>
    have := (w.advance i).decidablePolite rest
    inferInstanceAs (Decidable (w.Minds i ∧ (w.advance i).Polite rest))

end Parallel

/-- Tables in which no session has a state, and nothing is kept of sessions that are yet to be
opened. -/
structure Store.Clear [SessionIds] (s : Store) : Prop where
  stateless : ∀ session record, s.sessions.get? session = some record →
    record.id = session ∧ record.state = none
  unused : ∀ n, s.opened < n →
    s.sessions.get? (SessionIds.id n) = none ∧ s.logs.get? (SessionIds.id n) = none

theorem Store.clear_ofQuestionnaires [SessionIds] (questionnaires : List Questionnaire) :
    (ofQuestionnaires questionnaires).Clear := by
  have kept : ∀ s : Store, s.Clear → (questionnaires.foldl saveQuestionnaire s).Clear := by
    induction questionnaires with
    | nil => exact fun _ clear => clear
    | cons q rest ih => exact fun s clear => ih _ ⟨clear.stateless, clear.unused⟩
  refine kept _ ⟨?_, fun _ _ => ⟨rfl, rfl⟩⟩
  rintro _ _ ⟨⟩

namespace Parallel

variable {ι : Type} [DecidableEq ι] {i : ι}

theorem parties_put_self (w : Parallel ι) (i : ι) (p : Party) (c : Connection) :
    (w.put i p c).parties i = p :=
  if_pos rfl

theorem parties_put_other {w : Parallel ι} {j : ι} (other : j ≠ i) (p : Party) (c : Connection) :
    (w.put i p c).parties j = w.parties j :=
  if_neg other

theorem put_put (w : Parallel ι) (i : ι) (p q : Party) (c d : Connection) :
    (w.put i p c).put i q d = w.put i q d := by
  simp only [put, mk.injEq, true_and]
  funext j
  split <;> rfl

/-- What a party opens becomes its own, and nobody else's. -/
theorem mem_own_put {w : Parallel ι} {p : Party} {more : List String}
    (own : p.own = (w.parties i).own ++ more) (c : Connection) (j : ι) (session : String) :
    session ∈ ((w.put i p c).parties j).own ↔
      session ∈ (w.parties j).own ∨ j = i ∧ session ∈ more := by
  by_cases here : j = i
  · subst here
    simp [parties_put_self, own]
  · simp [parties_put_other here, here]

theorem run_advance [SessionIds] (w : Parallel ι) (i : ι) (live : Option Live) (op : Operation)
    (deeds : List (Operation × Except InterviewError Reply)) (rest : Program Result)
    (own : List String) (c : Connection) :
    ∃ n opened,
      (w.put i ⟨live, some ⟨op, rest⟩, own, deeds⟩ c).run (List.replicate n (i, .advance)) =
        w.put i ⟨(rest.run storage c).1.2, none, own ++ opened,
          deeds ++ [(op, (rest.run storage c).1.1)]⟩ (rest.run storage c).2 := by
  induction rest generalizing own c with
  | done result =>
    refine ⟨1, [], ?_⟩
    simp only [List.replicate_one, run, advance, parties_put_self, put_put, List.append_nil]
    rfl
  | ask r next ih =>
    obtain ⟨n, opened, after⟩ := ih (r.make storage c).1 (own ++ r.opened (r.make storage c).1)
      (r.make storage c).2
    refine ⟨n + 1, r.opened (r.make storage c).1 ++ opened, ?_⟩
    rw [List.append_assoc] at after
    simp only [List.replicate_succ, run, advance, parties_put_self, put_put]
    exact after

/-- An operation comes to what it comes to alone if nobody acts in between. -/
theorem run_uninterrupted [SessionIds] (w : Parallel ι) (i : ι) (idle : (w.parties i).task = none)
    (now : Time.Instant) (op : Operation) :
    ∃ n opened,
      w.run ((i, .begin now op) :: List.replicate n (i, .advance)) =
        let p := w.parties i
        let (answer, interview) := op.perform storage now ⟨p.live, w.shared⟩
        w.put i ⟨interview.live, none, p.own ++ opened, p.deeds ++ [(op, answer)]⟩
          interview.contents := by
  obtain ⟨n, opened, after⟩ := run_advance w i (w.parties i).live op (w.parties i).deeds
    (op.program now (w.parties i).live) (w.parties i).own w.shared
  refine ⟨n, opened, ?_⟩
  simp only [run, begin, idle, op.perform_eq_run]
  exact after

end Parallel

/-- A desk at which the operation of a party is followed by what it heard so far. -/
structure Party.TracedBy (p : Party) (d : Desk) : Prop where
  live : d.live = p.live
  idle : p.task = none → d.pending = none
  busy : ∀ op rest, p.task = some ⟨op, rest⟩ → ∃ now heard,
    d.pending = some ⟨op, now, heard⟩ ∧ (op.program now p.live).Heard heard rest

theorem Party.TracedBy.of_idle {p : Party} {d : Desk} (h : p.TracedBy d) (idle : p.task = none) :
    d = ⟨p.live, none⟩ := by
  rw [← h.live, ← h.idle idle]

theorem Party.TracedBy.of_busy {p : Party} {d : Desk} {op : Operation} {rest : Program Result}
    (h : p.TracedBy d) (busy : p.task = some ⟨op, rest⟩) : ∃ now heard,
      d = ⟨p.live, some ⟨op, now, heard⟩⟩ ∧ (op.program now p.live).Heard heard rest := by
  obtain ⟨now, heard, pending, left⟩ := h.busy op rest busy
  refine ⟨now, heard, ?_, left⟩
  rw [← h.live, ← pending]

/-- An operation that is followed by what it heard comes as far as its program is left. -/
theorem Desk.follow_heard {live : Option Live} {op : Operation} {now : Time.Instant}
    {heard : List Exchange} {rest : Program Result}
    (left : (op.program now live).Heard heard rest) :
    Desk.follow live ⟨op, now, heard⟩ =
      (Program.interview (rest.run Transcript.storage ⟨[], none⟩)).2 := by
  unfold Desk.follow
  rw [op.perform_eq_run, left.run_transcript]

namespace Parallel

variable {ι : Type} [DecidableEq ι] {base : Store} {w : Parallel ι} {i : ι}

/-- Interviews that are followed by what they heard, and are where the parties are. -/
structure TracedBy (w : Parallel ι) (v : World ι) : Prop where
  shared : v.shared = w.shared
  parties : ∀ i, (w.parties i).TracedBy (v.desks i)

namespace TracedBy

variable {v : World ι} {shelf : Table Questionnaire}

theorem put (h : w.TracedBy v) (i : ι) {p : Party} {d : Desk} (here : p.TracedBy d)
    (c : Connection) : (w.put i p c).TracedBy (v.put i d c) := by
  refine ⟨rfl, fun j => ?_⟩
  simp only [Parallel.put, World.put]
  split
  · exact here
  · exact h.parties j

theorem begin [SessionIds] (h : w.TracedBy v) (i : ι) (now : Time.Instant) (op : Operation)
    (reachable : Reachable shelf v) :
    ∃ u, Reachable shelf u ∧ (w.begin i now op).TracedBy u := by
  unfold Parallel.begin
  dsimp only
  split
  · exact ⟨v, reachable, h⟩
  · rename_i idle
    have desk := (h.parties i).of_idle idle
    refine ⟨_, reachable.next (.begin v i _ desk op now), h.shared ▸ h.put i ?_ _⟩
    refine ⟨rfl, fun busy => (nomatch busy), ?_⟩
    rintro _ _ ⟨⟩
    exact ⟨now, [], rfl, .nil _⟩

theorem advance [SessionIds] (h : w.TracedBy v) (i : ι) (reachable : Reachable shelf v) :
    ∃ u, Reachable shelf u ∧ (w.advance i).TracedBy u := by
  unfold Parallel.advance
  dsimp only
  split
  · exact ⟨v, reachable, h⟩
  · rename_i op answer live busy
    obtain ⟨now, heard, desk, left⟩ := (h.parties i).of_busy busy
    have follow := Desk.follow_heard left
    refine ⟨_, reachable.next (.finish v i _ _ desk (by rw [follow]; rfl)), ?_⟩
    rw [follow]
    refine h.shared ▸ h.put i ⟨rfl, fun _ => rfl, ?_⟩ _
    rintro _ _ ⟨⟩
  · rename_i op r next busy
    obtain ⟨now, heard, desk, left⟩ := (h.parties i).of_busy busy
    have follow := Desk.follow_heard left
    have waits : (Desk.follow (w.parties i).live ⟨op, now, heard⟩).contents.waiting = some r := by
      rw [follow]
      exact Program.run_ask_waiting r next
    refine ⟨_, reachable.next (.ask v i _ _ r desk waits), h.shared ▸ h.put i ?_ _⟩
    refine ⟨rfl, fun busy => (nomatch busy), ?_⟩
    rintro _ _ ⟨⟩
    exact ⟨now, _, rfl, left.concat _⟩

theorem run [SessionIds] (h : w.TracedBy v) (reachable : Reachable shelf v)
    (acts : List (ι × Act)) : ∃ u, Reachable shelf u ∧ (w.run acts).TracedBy u := by
  induction acts generalizing w v with
  | nil => exact ⟨v, reachable, h⟩
  | cons act rest ih =>
    rcases act with ⟨i, ⟨now, op⟩ | _⟩
    · obtain ⟨u, begun, traced⟩ := h.begin i now op reachable
      exact ih traced begun
    · obtain ⟨u, advanced, traced⟩ := h.advance i reachable
      exact ih traced advanced

end TracedBy

theorem run_traced [SessionIds] (clear : base.Clear) (acts : List (ι × Act)) :
    ∃ v : World ι, Reachable base.questionnaires v ∧ ((start base).run acts).TracedBy v := by
  have reachable : Reachable base.questionnaires
      (⟨.sound base, fun _ => ⟨none, none⟩⟩ : World ι) :=
    .start _ rfl fun session record found => (clear.stateless session record found).2
  have traced : (start base : Parallel ι).TracedBy ⟨.sound base, fun _ => ⟨none, none⟩⟩ :=
    ⟨rfl, fun _ => ⟨rfl, fun _ => rfl, fun _ _ busy => nomatch busy⟩⟩
  exact traced.run reachable acts

variable [SessionIds]

/-- Every session that was opened has one owner, and of all other sessions the tables say what they
said at the beginning. -/
structure Apart (base : Store) (w : Parallel ι) : Prop where
  works : w.shared.Works
  numbered : ∀ i, ∀ session ∈ (w.parties i).own, ∃ n, base.opened < n ∧
    n ≤ w.shared.store.opened ∧ SessionIds.id n = session
  disjoint : ∀ i j, ∀ session ∈ (w.parties i).own, session ∈ (w.parties j).own → i = j
  covered : ∀ n, base.opened < n → n ≤ w.shared.store.opened →
    ∃ i, SessionIds.id n ∈ (w.parties i).own
  room : ∀ i, base.opened + (w.parties i).own.length ≤ w.shared.store.opened
  unowned : ∀ session, (∀ i, session ∉ (w.parties i).own) → base.Agree session w.shared.store

/-- Sessions that may yet be opened. -/
def Future (w : Parallel ι) (more : List String) : Prop :=
  ∀ session ∈ more, ∃ n, w.shared.store.opened < n ∧ SessionIds.id n = session

omit [DecidableEq ι] in
/-- A session that a call opens is yet to be opened before. -/
theorem future_opened (w : Parallel ι) (r : Request) :
    w.Future (r.opened (r.on w.shared.store).1) := by
  intro session mem
  exact ⟨_, Nat.lt_succ_self _, (Request.mem_opened mem).1.symm⟩

namespace Apart

theorem put (h : w.Apart base) (i : ι) {p : Party} (own : p.own = (w.parties i).own) :
    (w.put i p w.shared).Apart base := by
  have same : ∀ j, ((w.put i p w.shared).parties j).own = (w.parties j).own := by
    intro j
    simp only [Parallel.put]
    split
    · rename_i here
      rw [own, here]
    · rfl
  constructor
  · exact h.works
  · exact fun j => same j ▸ h.numbered j
  · exact fun j k => same j ▸ same k ▸ h.disjoint j k
  · intro n low high
    obtain ⟨j, mem⟩ := h.covered n low high
    exact ⟨j, same j ▸ mem⟩
  · exact fun j => same j ▸ h.room j
  · exact fun session none => h.unowned session fun j => same j ▸ none j

omit [DecidableEq ι] in
theorem new (h : w.Apart base) {more : List String} (future : w.Future more) {session : String}
    (mem : session ∈ more) (j : ι) : session ∉ (w.parties j).own := by
  intro owned
  obtain ⟨n, late, rfl⟩ := future session mem
  obtain ⟨m, -, early, same⟩ := h.numbered j _ owned
  have := SessionIds.id_injective same
  omega

/-- A session that a call opens belongs to the party that makes it. -/
theorem call (h : w.Apart base) (i : ι) {r : Request} {p : Party} (k : Call)
    (own : p.own = (w.parties i).own ++ r.opened (r.on w.shared.store).1)
    (frame : ∀ session ∉ p.own, w.shared.store.Agree session (r.on w.shared.store).2) :
    (w.put i p (w.shared.after k (r.on w.shared.store).2)).Apart base := by
  have opened := r.on_opened w.shared.store
  have future := w.future_opened r
  have mem_own := mem_own_put own (w.shared.after k (r.on w.shared.store).2)
  constructor
  · exact h.works
  · intro j session mem
    change ∃ n, _ ∧ n ≤ (r.on w.shared.store).2.opened ∧ _
    rcases (mem_own j session).mp mem with mem | ⟨-, mem⟩
    · obtain ⟨n, low, high, same⟩ := h.numbered j session mem
      exact ⟨n, low, by omega, same⟩
    · have room := h.room i
      obtain ⟨new, count⟩ := Request.mem_opened mem
      exact ⟨_, by omega, Nat.le_of_eq count.symm, new.symm⟩
  · intro a b session left right
    rcases (mem_own a session).mp left with old | ⟨here, fresh⟩ <;>
      rcases (mem_own b session).mp right with known | ⟨there, new⟩
    · exact h.disjoint a b session old known
    · exact absurd old (h.new future new a)
    · exact absurd known (h.new future fresh b)
    · exact here.trans there.symm
  · intro n low high
    change n ≤ (r.on w.shared.store).2.opened at high
    by_cases old : n ≤ w.shared.store.opened
    · obtain ⟨j, mem⟩ := h.covered n low old
      exact ⟨j, (mem_own j _).mpr (.inl mem)⟩
    · have some : 0 < (r.opened (r.on w.shared.store).1).length := by omega
      obtain ⟨session, mem⟩ := List.exists_mem_of_length_pos some
      obtain ⟨new, count⟩ := Request.mem_opened mem
      have number : n = w.shared.store.opened + 1 := by omega
      exact ⟨i, (mem_own i _).mpr (.inr ⟨rfl, number ▸ new ▸ mem⟩)⟩
  · intro j
    change _ ≤ (r.on w.shared.store).2.opened
    have room := h.room j
    simp only [Parallel.put]
    split
    · rename_i here
      rw [own, List.length_append, ← here]
      omega
    · omega
  · intro session none
    have mine : session ∉ p.own := parties_put_self w i p _ ▸ none i
    have before : ∀ j, session ∉ (w.parties j).own :=
      fun j mem => none j ((mem_own j session).mpr (.inl mem))
    exact (h.unowned session before).trans (frame session mine)

end Apart

end Parallel

end Inquiry.Session
