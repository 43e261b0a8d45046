import Mathlib.Data.List.Basic
import Inquiry.Proofs.Session.Parallel

namespace Inquiry.Session

open Connection (storage)

section Renumber

variable [SessionIds]

/-- What a session is called if these are opened one after the other on tables of their own. -/
def Store.renumber (base : Store) (opened : List String) (session : String) : String :=
  if session ∈ opened then SessionIds.id (base.opened + opened.idxOf session + 1) else session

namespace Store

variable {base : Store} {own more : List String} {session : String}

theorem renumber_of_mem (mem : session ∈ own) :
    base.renumber own session = SessionIds.id (base.opened + own.idxOf session + 1) :=
  if_pos mem

theorem renumber_of_not_mem (base : Store) (absent : session ∉ own) :
    base.renumber own session = session :=
  if_neg absent

theorem renumber_apart (base : Store) (own more : List String) :
    ∀ a ∈ own, ∀ b ∈ own,
      base.renumber (own ++ more) a = base.renumber (own ++ more) b → a = b := by
  intro a left b right same
  have left := List.mem_append_left more left
  rw [renumber_of_mem left, renumber_of_mem (List.mem_append_left more right)] at same
  have number := SessionIds.id_injective same
  exact (List.idxOf_inj left).mp (by omega)

/-- The sessions opened first have the first numbers. -/
theorem mem_map_renumber (found : session ∈ own.map (base.renumber (own ++ more))) :
    ∃ n, base.opened < n ∧ n ≤ base.opened + own.length ∧ session = SessionIds.id n := by
  obtain ⟨id, mem, rfl⟩ := List.mem_map.mp found
  have place := List.idxOf_lt_length_of_mem mem
  refine ⟨base.opened + own.idxOf id + 1, by omega, by omega, ?_⟩
  rw [renumber_of_mem (List.mem_append_left _ mem), List.idxOf_append_of_mem mem]

/-- The sessions opened later have later numbers. -/
theorem renumber_later (base : Store) (new : session ∉ own) (mem : session ∈ more) :
    ∃ n, base.opened + own.length < n ∧ base.renumber (own ++ more) session = SessionIds.id n := by
  refine ⟨base.opened + (own.length + more.idxOf session) + 1, by omega, ?_⟩
  rw [renumber_of_mem (List.mem_append_right _ mem), List.idxOf_append_of_notMem new]

theorem renumber_next (base : Store) (more : List String) (new : session ∉ own) :
    base.renumber (own ++ session :: more) session =
      SessionIds.id (base.opened + own.length + 1) := by
  have mem : session ∈ own ++ session :: more := List.mem_append_right _ List.mem_cons_self
  rw [renumber_of_mem mem, List.idxOf_append_of_notMem new, List.idxOf_cons_self]
  rfl

end Store

abbrev Party.renumber (p : Party) (base : Store) (more : List String) : String → String :=
  base.renumber (p.own ++ more)

end Renumber

/-- What becomes of a party, beside what its own operations come to alone, one whole operation after
the other. -/
structure Party.Alone [SessionIds] (f : String → String) (base s : Store) (p : Party)
    (solo : List (Except InterviewError Reply) × Interview Connection) : Prop where
  answers : solo.1 = p.deeds.map fun d => d.2.mapError (.under f)
  live : Option.Rel (Live.Like f p.own) p.live solo.2.live
  works : solo.2.contents.Works
  idle : p.task = none → Store.Mirrors f p.own base s solo.2.contents.store
  /-- The operation under way has come as far as it does alone. -/
  busy : ∀ operation rest, p.task = some ⟨operation, rest⟩ → ∀ later, ∃ other d,
    Connection.Works d ∧ Store.Mirrors f p.own base s d.store ∧ rest.Like f p.own other ∧
      ((operation.under f).program later solo.2.live).run storage solo.2.contents =
        other.run storage d

namespace Party.Alone

variable [SessionIds] {f : String → String} {base s s' : Store} {p : Party} {op : Operation}
  {solo : List (Except InterviewError Reply) × Interview Connection}

theorem frame (h : p.Alone f base s solo) (questionnaires : s'.questionnaires = s.questionnaires)
    (same : ∀ session ∈ p.own, s.Agree session s') : p.Alone f base s' solo := by
  refine ⟨h.answers, h.live, h.works, fun idle => (h.idle idle).frame questionnaires same, ?_⟩
  intro operation rest busy later
  obtain ⟨other, d, works, mirrors, like, run⟩ := h.busy operation rest busy later
  exact ⟨other, d, works, mirrors.frame questionnaires same, like, run⟩

theorem begin (h : p.Alone f base s solo) (idle : p.task = none) (now : Time.Instant)
    (op : Operation) :
    Alone f base s { p with task := some ⟨op, op.program now p.live⟩ } solo := by
  refine ⟨h.answers, h.live, h.works, fun busy => (nomatch busy), ?_⟩
  rintro operation rest ⟨⟩ later
  exact ⟨_, _, h.works, h.idle idle, op.program_like now later h.live, rfl⟩

theorem call {r : Request} {next : Except StorageError r.Answer → Program Result}
    (h : p.Alone f base s solo) (busy : p.task = some ⟨op, .ask r next⟩)
    (apart : ∀ a ∈ p.own, ∀ b ∈ p.own, f a = f b → a = b)
    (ready : ∀ t, Store.Mirrors f p.own base s t → Program.Like.Ready f p.own s t r) :
    Alone f base (r.on s).2 ⟨p.live, some ⟨op, next (r.on s).1⟩, p.own ++ r.opened (r.on s).1,
      p.deeds⟩ solo := by
  refine ⟨h.answers, Live.Like.rel_more h.live _, h.works, fun idle => (nomatch idle), ?_⟩
  rintro operation rest ⟨⟩ later
  obtain ⟨other, d, works, mirrors, like, run⟩ := h.busy _ _ busy later
  obtain ⟨r', next', rfl, onward, after⟩ := like.call mirrors apart (ready d.store mirrors)
  obtain ⟨k, made⟩ := Connection.make_works works r'
  refine ⟨_, d.after k (r'.on d.store).2, works, after, onward, run.trans ?_⟩
  rw [Program.run, made]

theorem finish {answer : Except InterviewError Reply} {live : Option Live}
    (h : p.Alone f base s solo) (busy : p.task = some ⟨op, .done (answer, live)⟩)
    (later : Time.Instant) :
    Alone f base s ⟨live, none, p.own, p.deeds ++ [(op, answer)]⟩
      (solo.1 ++ [((op.under f).perform storage later solo.2).1],
        ((op.under f).perform storage later solo.2).2) := by
  obtain ⟨other, d, works, mirrors, like, run⟩ := h.busy _ _ busy later
  cases like with
  | @done _ _ other _ before same lives =>
    have performed : (op.under f).perform storage later solo.2 = (other, ⟨before, d⟩) := by
      rw [Operation.perform_eq_run, run]
      rfl
    rw [performed]
    refine ⟨?_, lives, works, fun _ => mirrors, fun _ _ impossible => nomatch impossible⟩
    rw [List.map_append, ← h.answers, same]
    rfl

end Party.Alone

namespace Parallel

variable {ι : Type} {base : Store} {w : Parallel ι} {i : ι}

namespace Apart

variable [SessionIds] {t : Store} {r : Request} {more : List String} {session : String}

/-- Alone, the tables know a session that nobody opened only if they knew it at the beginning. Then
it is still called so. -/
theorem get?_unowned (h : w.Apart base) (clear : base.Clear) (future : w.Future more)
    (mirrors : Store.Mirrors ((w.parties i).renumber base more) (w.parties i).own base
      w.shared.store t) (unowned : ∀ j, session ∉ (w.parties j).own) :
    t.sessions.get? ((w.parties i).renumber base more session) =
        base.sessions.get? session ∧
      (base.sessions.get? session = none ∨
        (w.parties i).renumber base more session = session) := by
  have room := h.room i
  by_cases soon : session ∈ more
  -- A session to come is known neither here nor, by its later number, there.
  · obtain ⟨m, new, rfl⟩ := future session soon
    obtain ⟨n, late, told⟩ : ∃ n, base.opened + (w.parties i).own.length < n ∧
        (w.parties i).renumber base more (SessionIds.id m) = SessionIds.id n :=
      base.renumber_later (unowned i) soon
    have none := (clear.unused m (by omega)).1
    refine ⟨?_, .inl none⟩
    rw [none, (mirrors.others _ fun mem => ?_).1, told, (clear.unused n (by omega)).1]
    obtain ⟨k, -, early, same⟩ := Store.mem_map_renumber mem
    have := SessionIds.id_injective (told.symm.trans same)
    omega
  · have told : (w.parties i).renumber base more session = session := by
      apply base.renumber_of_not_mem
      exact List.mem_append.not.mpr (not_or.mpr ⟨unowned i, soon⟩)
    refine ⟨?_, .inr told⟩
    rw [told]
    -- It has no number that the party's sessions have alone, for those numbers all have owners.
    refine (mirrors.others session fun mem => ?_).1
    obtain ⟨n, low, high, rfl⟩ := Store.mem_map_renumber mem
    obtain ⟨j, owned⟩ := h.covered n low (by omega)
    exact unowned j owned

/-- A session that nobody opened is read alike, for it tells no state. -/
theorem answered_unowned (h : w.Apart base) (clear : base.Clear) (future : w.Future more)
    (mirrors : Store.Mirrors ((w.parties i).renumber base more) (w.parties i).own base
      w.shared.store t) (unowned : ∀ j, session ∉ (w.parties j).own) :
    Answered ((w.parties i).renumber base more)
      (Record.LikeOwn ((w.parties i).renumber base more) (w.parties i).own session)
      (w.shared.store.loadSession session)
      (t.loadSession ((w.parties i).renumber base more session)) := by
  obtain ⟨there, told⟩ := h.get?_unowned clear future mirrors unowned
  simp only [Store.loadSession, (h.unowned session unowned).1, there]
  cases found : base.sessions.get? session with
  | none => exact .error (.sessionNotFound session)
  | some record =>
    have called := told.resolve_left (by simp [found])
    obtain ⟨id, stateless⟩ := clear.stateless session record found
    refine .ok ⟨⟨⟨id, id.trans called.symm⟩, rfl, rfl, ?_⟩, ?_⟩
    · rw [stateless]
      exact .none
    · exact fun some => by simp [stateless] at some

theorem ready (h : w.Apart base) (clear : base.Clear)
    (future : w.Future (r.opened (r.on w.shared.store).1 ++ more))
    (polite : ∀ session, r = .loadSession session →
      session ∈ (w.parties i).own ∨ ∀ j, session ∉ (w.parties j).own)
    (mirrors : Store.Mirrors
      ((w.parties i).renumber base (r.opened (r.on w.shared.store).1 ++ more))
      (w.parties i).own base w.shared.store t) :
    Program.Like.Ready
      ((w.parties i).renumber base (r.opened (r.on w.shared.store).1 ++ more))
      (w.parties i).own w.shared.store t r := by
  have room := h.room i
  constructor
  · intro session mem
    have new := h.new future (List.mem_append_left _ mem)
    have told := Request.opened_eq mem
    rw [told] at mirrors ⊢
    have next : (w.parties i).renumber base (session :: more) session =
        SessionIds.id (base.opened + (w.parties i).own.length + 1) :=
      base.renumber_next more (new i)
    have other : (w.parties i).renumber base (session :: more) session ∉
        (w.parties i).own.map ((w.parties i).renumber base (session :: more)) := by
      intro found
      obtain ⟨n, -, early, same⟩ := Store.mem_map_renumber found
      have := SessionIds.id_injective (next.symm.trans same)
      omega
    refine ⟨mirrors.opened ▸ next, new i, other, ?_, ?_⟩
    · rw [(h.unowned session new).2, (Request.mem_opened mem).1]
      exact (clear.unused _ (by omega)).2
    · refine (mirrors.others _ other).2.trans ?_
      rw [next]
      exact (clear.unused _ (by omega)).2
  · rintro session rfl
    rcases polite session rfl with own | unowned
    · exact Program.Like.answered_loadSession own mirrors
    · exact h.answered_unowned clear future mirrors unowned

end Apart

/-- Nobody is disturbed: every party comes to what its own operations come to alone. An operation
may have named a session that the party itself opens only later, so this is said whatever it goes on
to open. -/
structure Undisturbed [SessionIds] (base : Store) (w : Parallel ι) : Prop where
  apart : w.Apart base
  alone : ∀ i more xs, w.Future more →
    xs.map (·.2) = (w.parties i).deeds.map (fun d =>
      d.1.under ((w.parties i).renumber base more)) →
    (w.parties i).Alone ((w.parties i).renumber base more) base w.shared.store
      (Operation.performAll storage xs ⟨none, .sound base⟩)

namespace Undisturbed

variable [SessionIds]

theorem start (base : Store) : (Parallel.start base : Parallel ι).Undisturbed base := by
  constructor
  · exact ⟨fun _ _ => rfl, fun _ _ none => (nomatch none), fun _ _ _ none => (nomatch none),
      fun n low high => absurd low (Nat.not_lt.mpr high), fun _ => Nat.le_refl _,
      fun _ _ => ⟨rfl, rfl⟩⟩
  · intro i more xs _ ops
    cases List.map_eq_nil_iff.mp ops
    refine ⟨rfl, .none, fun _ _ => rfl, fun _ => ?_, fun _ _ busy => (nomatch busy)⟩
    exact ⟨rfl, rfl, fun _ none => (nomatch none), fun _ none => (nomatch none),
      fun _ _ => ⟨rfl, rfl⟩⟩

theorem like (h : w.Undisturbed base) {i : ι} {op : Operation} {rest : Program Result}
    (busy : (w.parties i).task = some ⟨op, rest⟩) :
    ∃ f other, rest.Like f (w.parties i).own other := by
  -- Any times will do: what is asked for is the call, and not what it comes to.
  let f := (w.parties i).renumber base []
  let xs := (w.parties i).deeds.map fun d => (Time.Instant.epoch, d.1.under f)
  have ops : xs.map (·.2) = (w.parties i).deeds.map fun d => d.1.under f := by simp [xs]
  have alone := h.alone i [] xs (fun _ none => nomatch none) ops
  obtain ⟨other, -, -, -, like, -⟩ := alone.busy op rest busy .epoch
  exact ⟨f, other, like⟩

variable [DecidableEq ι]

theorem begin (h : w.Undisturbed base) (i : ι) (now : Time.Instant) (op : Operation) :
    (w.begin i now op).Undisturbed base := by
  unfold Parallel.begin
  dsimp only
  split
  · exact h
  rename_i idle
  refine ⟨h.apart.put i rfl, ?_⟩
  intro j more xs future
  by_cases here : j = i
  · subst here
    simp only [parties_put_self]
    exact fun ops => (h.alone j more xs future ops).begin idle now op
  · simp only [parties_put_other here]
    exact h.alone j more xs future

theorem finish (h : w.Undisturbed base) {i : ι} {op : Operation}
    {answer : Except InterviewError Reply} {live : Option Live}
    (busy : (w.parties i).task = some ⟨op, .done (answer, live)⟩) :
    (w.put i ⟨live, none, (w.parties i).own, (w.parties i).deeds ++ [(op, answer)]⟩
      w.shared).Undisturbed base := by
  refine ⟨h.apart.put i rfl, ?_⟩
  intro j more xs future
  by_cases here : j = i
  · subst here
    simp only [parties_put_self, List.map_append]
    intro ops
    obtain ⟨ys, last, rfl, before, now⟩ := List.map_eq_append_iff.mp ops
    obtain ⟨⟨later, _⟩, rfl, rfl⟩ := List.map_eq_singleton_iff.mp now
    rw [Operation.performAll_concat]
    exact (h.alone j more ys future before).finish busy later
  · simp only [parties_put_other here]
    exact h.alone j more xs future

/-- A call is answered alike alone, and does not concern the others. -/
theorem call (h : w.Undisturbed base) (clear : base.Clear) {i : ι} (minds : w.Minds i)
    {op : Operation} {r : Request} {next : Except StorageError r.Answer → Program Result}
    (busy : (w.parties i).task = some ⟨op, .ask r next⟩) (k : Call) :
    (w.put i ⟨(w.parties i).live, some ⟨op, next (r.on w.shared.store).1⟩,
      (w.parties i).own ++ r.opened (r.on w.shared.store).1, (w.parties i).deeds⟩
      (w.shared.after k (r.on w.shared.store).2)).Undisturbed base := by
  obtain ⟨f, other, like⟩ := h.like busy
  have frame : ∀ session ∉ (w.parties i).own ++ r.opened (r.on w.shared.store).1,
      w.shared.store.Agree session (r.on w.shared.store).2 := fun _ => like.frame
  refine ⟨h.apart.call i k rfl frame, ?_⟩
  intro j more xs future
  have opened := r.on_opened w.shared.store
  have coming : w.Future (r.opened (r.on w.shared.store).1 ++ more) := by
    intro session mem
    rcases List.mem_append.mp mem with mem | mem
    · exact w.future_opened r session mem
    · obtain ⟨n, late, told⟩ := future session mem
      change (r.on w.shared.store).2.opened < n at late
      exact ⟨n, by omega, told⟩
  by_cases here : j = i
  · subst here
    -- The session that is opened now was one of those to come.
    simp only [parties_put_self, Party.renumber, List.append_assoc]
    intro ops
    refine (h.alone j _ xs coming ops).call busy (base.renumber_apart _ _) fun t mirrors => ?_
    refine h.apart.ready clear coming ?_ mirrors
    rintro session rfl
    exact minds session (by rw [busy]; rfl)
  · simp only [parties_put_other here]
    intro ops
    refine (h.alone j more xs (fun session mem => coming session (List.mem_append_right _ mem))
      ops).frame (r.on_questionnaires _) fun session mem => frame session ?_
    intro found
    rcases List.mem_append.mp found with mine | new
    · exact here (h.apart.disjoint j i session mem mine)
    · exact h.apart.new coming (List.mem_append_left _ new) j mem

theorem advance (h : w.Undisturbed base) (clear : base.Clear) (i : ι) (minds : w.Minds i) :
    (w.advance i).Undisturbed base := by
  unfold Parallel.advance
  dsimp only
  split
  · exact h
  · rename_i busy
    exact h.finish busy
  · rename_i op r next busy
    obtain ⟨k, made⟩ := Connection.make_works h.apart.works r
    rw [made]
    exact h.call clear minds busy k

theorem run (h : w.Undisturbed base) (clear : base.Clear) (acts : List (ι × Act))
    (polite : w.Polite acts) : (w.run acts).Undisturbed base := by
  induction acts generalizing w with
  | nil => exact h
  | cons act rest ih =>
    rcases act with ⟨i, ⟨now, op⟩ | _⟩
    · exact ih (h.begin i now op) polite
    · obtain ⟨minds, polite⟩ := polite
      exact ih (h.advance clear i minds) polite

end Undisturbed

/-- Parties that load sessions of their own only, or some that nobody opened, are isolated from each
other. In whatever order they act, all calls being made between those of others: if the operations
that a party carried out are carried out alone, one after the other and at any times, they are
answered alike and leave the same session under way, and when none is under way, they leave the same
records and logs of its sessions, up to times and to the ids of these sessions. -/
theorem isolated [SessionIds] [DecidableEq ι] (clear : base.Clear) {acts : List (ι × Act)}
    (polite : (start base).Polite acts) (i : ι) :
    let w := (start base).run acts
    let p := w.parties i
    let f := base.renumber p.own
    (∀ a ∈ p.own, ∀ b ∈ p.own, f a = f b → a = b) ∧
    ∀ xs : List (Time.Instant × Operation), xs.map (·.2) = p.deeds.map (·.1.under f) →
      let solo := Operation.performAll storage xs ⟨none, .sound base⟩
      solo.1 = p.deeds.map (·.2.mapError (.under f)) ∧
      Option.Rel (Live.Like f p.own) p.live solo.2.live ∧
      Interview.AskedAlike ⟨p.live, w.shared⟩ solo.2 ∧
      (p.task = none →
        solo.2.contents.store.opened = base.opened + p.own.length ∧
        ∀ session ∈ p.own,
          (∃ record other, w.shared.store.sessions.get? session = some record ∧
            solo.2.contents.store.sessions.get? (f session) = some other ∧
            record.Like f session other) ∧
          Option.Rel (Log.Like f session) (w.shared.store.logs.get? session)
            (solo.2.contents.store.logs.get? (f session))) := by
  intro w p f
  have undisturbed := (Undisturbed.start base).run clear acts polite
  refine ⟨?_, fun xs ops => ?_⟩
  · have apart := base.renumber_apart p.own []
    rwa [List.append_nil] at apart
  · have alone := undisturbed.alone i [] xs (fun _ none => nomatch none)
    rw [Party.renumber, List.append_nil] at alone
    have alone := alone ops
    refine ⟨alone.answers, alone.live, .of_like alone.live, fun idle => ?_⟩
    have mirrors := alone.idle idle
    refine ⟨mirrors.opened, fun session own => ?_⟩
    exact ⟨mirrors.records session own, mirrors.logs session own⟩

/-- Two parties begin an operation each and go on with it call by call, one after the other. -/
def alternately (first second : Operation) (calls : Nat) : List (Bool × Act) :=
  [(false, .begin .epoch first), (true, .begin .epoch second)] ++
    (List.replicate calls [(false, .advance), (true, .advance)]).flatten

/-- Two parties that start sessions on one questionnaire, answer one question, and load. The second
loads its own session, and the first one that nobody opened. -/
def crossing : List (Bool × Act) :=
  alternately (.start "form") (.start "form") 5 ++
  alternately (.move (.record "a" (.string "x"))) (.move (.record "a" (.string "y"))) 4 ++
  alternately (.load "$3") (.load "$2") 3

def crossingBase : Store := .ofQuestionnaires [⟨"form", "", "", [.plain "a" .text]⟩]

/-- The second of them has the second session, which would be the first one if it were alone. -/
theorem isolated_crossing :
    let p := ((start crossingBase).run crossing).parties true
    let f := crossingBase.renumber ["$2"]
    let solo := Operation.performAll storage ([.start "form", .move (.record "a" (.string "y")),
      .load "$1"].map fun op => (.epoch, op)) ⟨none, .sound crossingBase⟩
    (start crossingBase).Polite crossing ∧ p.own = ["$2"] ∧
      solo.1 = p.deeds.map (·.2.mapError (.under f)) ∧
      ∃ record other,
        ((start crossingBase).run crossing).shared.store.sessions.get? "$2" = some record ∧
        solo.2.contents.store.sessions.get? "$1" = some other ∧ record.Like f "$2" other := by
  have polite : (start crossingBase).Polite crossing := by decide +kernel
  have facts : (((start crossingBase).run crossing).parties true).own = ["$2"] ∧
      (((start crossingBase).run crossing).parties true).task.isNone ∧
      (((start crossingBase).run crossing).parties true).deeds.map (·.1) =
        [.start "form", .move (.record "a" (.string "y")), .load "$2"] := by
    decide +kernel
  obtain ⟨own, idle, operations⟩ := facts
  have told : crossingBase.renumber ["$2"] "$2" = "$1" := by decide +kernel
  have clear : crossingBase.Clear := Store.clear_ofQuestionnaires _
  have isolation := isolated clear polite true
  dsimp only at isolation ⊢
  generalize (start crossingBase).run crossing = w at own idle operations isolation ⊢
  rw [own] at isolation
  obtain ⟨-, alone⟩ := isolation
  have ops : ([.start "form", .move (.record "a" (.string "y")), .load "$1"].map fun op =>
      ((.epoch : Time.Instant), op)).map (·.2) =
      (w.parties true).deeds.map (·.1.under (crossingBase.renumber ["$2"])) := by
    have renamed := congrArg (List.map (Operation.under (crossingBase.renumber ["$2"]))) operations
    rw [List.map_map] at renamed
    refine Eq.trans ?_ renamed.symm
    decide +kernel
  obtain ⟨answers, -, -, left⟩ := alone _ ops
  obtain ⟨-, kept⟩ := left (Option.isNone_iff_eq_none.mp idle)
  obtain ⟨⟨record, other, here, there, like⟩, -⟩ := kept "$2" (List.mem_singleton_self _)
  exact ⟨polite, own, answers, record, other, here, told ▸ there, like⟩

end Parallel

end Inquiry.Session
