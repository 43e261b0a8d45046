import Inquiry.Proofs.Dependency.Search
import Mathlib.Data.List.Chain
import Mathlib.Data.List.Perm.Basic
import Mathlib.Data.List.Rotate

/-!
The cycles that a search in depth closes.

Every path it reports is a cycle, and none is reported twice. It does not report every cycle, but
every cycle has an edge that closes a path it reports: once such edges are left out, each node that
the search has left is accessible, so no way along the others leads back to where it began. Main
statements: `Graph.cycles_round`, `Graph.cycles_meet`.
-/
namespace Inquiry.Dependency.Graph

variable {g : Graph} {path nexts : List String} {s t : Search}

theorem closing_eq {next : String} (back : next ∈ path) :
    ∃ before after,
      path = before ++ next :: after ∧ closing path next = next :: after ++ [next] := by
  induction path with
  | nil => cases back
  | cons node rest ih =>
    by_cases here : node = next
    · subst here
      exact ⟨[], rest, rfl, by simp [closing]⟩
    · have later : next ∈ rest := (List.mem_cons.mp back).resolve_left (Ne.symm here)
      obtain ⟨before, after, split, closed⟩ := ih later
      refine ⟨node :: before, after, by rw [split, List.cons_append], ?_⟩
      rw [← closed]
      simp [closing, here]

/-- The last edge of a closed path leads from the end of the path back into it. -/
theorem suffix_closing_iff {next a b : String} (back : next ∈ path) :
    [a, b] <:+ closing path next ↔ path.getLast? = some a ∧ b = next := by
  obtain ⟨before, after, rfl, closed⟩ := closing_eq back
  obtain ⟨init, last, ends⟩ : ∃ init last, next :: after = init ++ [last] :=
    ⟨_, _, (List.dropLast_append_getLast (List.cons_ne_nil next after)).symm⟩
  rw [closed, ends, ← List.append_assoc, List.getLast?_concat, Option.some_inj]
  constructor
  · rintro ⟨front, same⟩
    have two : front ++ [a] ++ [b] = init ++ [last] ++ [next] := by simpa using same
    obtain ⟨same, same'⟩ := List.append_inj' two rfl
    obtain ⟨-, same⟩ := List.append_inj' same rfl
    exact ⟨(List.cons.inj same).1.symm, (List.cons.inj same').1⟩
  · rintro ⟨rfl, rfl⟩
    exact ⟨init, by simp⟩

theorem isChain_concat {r : String → String → Prop} {next : String} (chain : path.IsChain r)
    (step : ∀ last ∈ path.getLast?, r last next) : (path ++ [next]).IsChain r := by
  refine List.isChain_append.mpr ⟨chain, List.isChain_singleton next, ?_⟩
  intro last ends b begins
  rw [List.head?_cons, Option.mem_some_iff] at begins
  rw [← begins]
  exact step last ends

/-- A cycle that passes no node twice. -/
structure Round (g : Graph) (path : List String) : Prop where
  closed : ∃ node inner, path = node :: inner ++ [node] ∧ (node :: inner).Nodup
  chain : path.IsChain g.Reads

namespace Round

theorem closing {next : String} (simple : path.Nodup) (chain : path.IsChain g.Reads)
    (reads : ∀ last ∈ path.getLast?, g.Reads last next) (back : next ∈ path) :
    g.Round (closing path next) := by
  obtain ⟨before, after, rfl, closed⟩ := closing_eq back
  have within : next :: after <:+ before ++ next :: after := List.suffix_append _ _
  have last : (before ++ next :: after).getLast? = (next :: after).getLast? :=
    List.getLast?_append_of_ne_nil before (List.cons_ne_nil next after)
  rw [closed]
  refine ⟨⟨next, after, rfl, simple.sublist within.sublist⟩, ?_⟩
  exact isChain_concat (chain.suffix within) fun a ends => reads a (last ▸ ends)

theorem long (h : g.Round path) : 2 ≤ path.length := by
  obtain ⟨node, inner, rfl, -⟩ := h.closed
  simp

theorem ends (h : g.Round path) : path.head? = path.getLast? := by
  obtain ⟨node, inner, rfl, -⟩ := h.closed
  rw [List.cons_append, List.head?_cons, ← List.cons_append, List.getLast?_concat]

theorem nodup_dropLast (h : g.Round path) : path.dropLast.Nodup := by
  obtain ⟨node, inner, rfl, nodup⟩ := h.closed
  rwa [List.dropLast_concat]

theorem reads (h : g.Round path) {a b : String} (edge : [a, b] <:+: path) : g.Reads a b := by
  obtain ⟨front, rest, rfl⟩ := edge
  rw [List.append_assoc] at h
  exact List.isChain_iff_forall_rel_of_append_cons_cons.mp h.chain rfl

theorem exists_closing (h : g.Round path) : ∃ a b, [a, b] <:+ path := by
  obtain ⟨node, inner, rfl, -⟩ := h.closed
  obtain ⟨init, last, ends⟩ : ∃ init last, node :: inner = init ++ [last] :=
    ⟨_, _, (List.dropLast_append_getLast (List.cons_ne_nil node inner)).symm⟩
  exact ⟨last, node, init, by rw [ends]; simp⟩

/-- A cycle is known by its nodes from where it begins. -/
theorem eq_of_dropLast {other : List String} (h : g.Round path) (h' : g.Round other)
    (same : path.dropLast = other.dropLast) : path = other := by
  obtain ⟨node, inner, rfl, -⟩ := h.closed
  obtain ⟨node', inner', rfl, -⟩ := h'.closed
  rw [List.dropLast_concat, List.dropLast_concat] at same
  obtain ⟨rfl, rfl⟩ := List.cons.inj same
  rfl

/-- A cycle of one edge is a node that reads itself. -/
theorem eq_pair (h : g.Round path) {a : String} (edge : [a, a] <:+ path) : path = [a, a] := by
  obtain ⟨node, inner, rfl, nodup⟩ := h.closed
  obtain ⟨front, same⟩ := edge
  have two : front ++ [a] ++ [a] = node :: inner ++ [node] := by simpa using same
  obtain ⟨same, same'⟩ := List.append_inj' two rfl
  obtain ⟨rfl, -⟩ := List.cons.inj same'
  cases front with
  | nil =>
    obtain ⟨-, rfl⟩ := List.cons.inj same
    rfl
  | cons first rest =>
    rw [List.cons_append] at same
    obtain ⟨-, rfl⟩ := List.cons.inj same
    simp at nodup

end Round

namespace Follows

/-- Along a simple path, the search closes simple cycles. -/
theorem cycles_round (h : g.Follows path nexts s t) (simple : path.Nodup)
    (chain : path.IsChain g.Reads)
    (reads : ∀ last ∈ path.getLast?, ∀ next ∈ nexts, g.Reads last next)
    (before : ∀ c ∈ s.cycles, g.Round c) : ∀ c ∈ t.cycles, g.Round c := by
  induction h with
  | done => exact before
  | close back _ ih =>
    refine ih simple chain (fun last ends next mem => reads last ends next (.tail _ mem)) ?_
    intro c mem
    rcases List.mem_append.mp mem with mem | mem
    · exact before c mem
    · rw [List.mem_singleton.mp mem]
      exact .closing simple chain (fun last ends => reads last ends _ (.head _)) back
  | pass _ _ _ ih =>
    exact ih simple chain (fun last ends next mem => reads last ends next (.tail _ mem)) before
  | @enter path rest next s r t fresh unseen inner more ihInner ihMore =>
    refine ihMore simple chain (fun last ends next mem => reads last ends next (.tail _ mem)) ?_
    refine ihInner ?_ ?_ ?_ before
    · rw [← List.concat_eq_append]
      exact simple.concat fresh
    · exact isChain_concat chain fun last ends => reads last ends next (.head _)
    · intro last ends b mem
      rw [List.getLast?_concat, Option.mem_some_iff] at ends
      rw [← ends]
      exact mem

/-- The nodes of a path, and so those of a cycle, stand in the order in which they were visited. -/
theorem cycles_sublist (h : g.Follows path nexts s t) (order : path.Sublist s.visited.reverse)
    (before : ∀ c ∈ s.cycles, c.dropLast.Sublist s.visited.reverse) :
    ∀ c ∈ t.cycles, c.dropLast.Sublist t.visited.reverse := by
  induction h with
  | done => exact before
  | close back _ ih =>
    refine ih order ?_
    intro c mem
    rcases List.mem_append.mp mem with mem | mem
    · exact before c mem
    · rw [List.mem_singleton.mp mem]
      obtain ⟨front, after, rfl, closed⟩ := closing_eq back
      rw [closed, List.dropLast_concat]
      exact (List.sublist_append_right _ _).trans order
  | pass _ _ _ ih => exact ih order before
  | @enter path rest next s r t fresh unseen inner more ihInner ihMore =>
    have later : s.visited.reverse.Sublist r.visited.reverse :=
      ((List.sublist_cons_self _ _).trans inner.visited_suffix.sublist).reverse
    refine ihMore (order.trans later) (ihInner ?_ ?_)
    · rw [List.reverse_cons]
      exact order.append_right [next]
    · intro c mem
      rw [List.reverse_cons]
      exact (before c mem).trans (List.sublist_append_left _ _)

/-- An edge is looked at once, when its source is at the end of the path. So no two cycles are
closed by one edge. -/
theorem cycles_closings (sound : g.Sound) (h : g.Follows path nexts s t)
    (visited : path ⊆ s.visited) (once : nexts.Nodup) :
    ∃ added, t.cycles = s.cycles ++ added ∧
      (∀ c ∈ added, ∀ a b, [a, b] <:+ c →
        (path.getLast? = some a ∧ b ∈ nexts) ∨ (a ∉ s.visited ∧ a ∈ t.visited)) ∧
      added.Pairwise fun c d => ∀ a b, [a, b] <:+ c → ¬ [a, b] <:+ d := by
  induction h with
  | done path s => exact ⟨[], (List.append_nil _).symm, by simp, List.Pairwise.nil⟩
  | @close path rest next s t back more ih =>
    obtain ⟨absent, onceRest⟩ := List.nodup_cons.mp once
    obtain ⟨added, cycles, sources, apart⟩ := ih visited onceRest
    refine ⟨closing path next :: added, by rw [cycles, List.append_assoc]; rfl, ?_, ?_⟩
    · intro c mem a b edge
      rcases List.mem_cons.mp mem with rfl | mem
      · obtain ⟨ends, rfl⟩ := (suffix_closing_iff back).mp edge
        exact .inl ⟨ends, .head _⟩
      · exact (sources c mem a b edge).imp_left fun h => ⟨h.1, .tail _ h.2⟩
    · refine List.pairwise_cons.mpr ⟨?_, apart⟩
      intro d mem a b edge edge'
      obtain ⟨ends, rfl⟩ := (suffix_closing_iff back).mp edge
      rcases sources d mem a b edge' with ⟨-, again⟩ | ⟨unseen, -⟩
      · exact absent again
      · exact unseen (visited (List.mem_of_getLast? ends))
  | @pass path rest next s t fresh seen more ih =>
    obtain ⟨added, cycles, sources, apart⟩ := ih visited (List.nodup_cons.mp once).2
    refine ⟨added, cycles, ?_, apart⟩
    intro c mem a b edge
    exact (sources c mem a b edge).imp_left fun h => ⟨h.1, .tail _ h.2⟩
  | @enter path rest next s r t fresh unseen inner more ihInner ihMore =>
    have entered : path ++ [next] ⊆ next :: s.visited := concat_subset_visited visited
    have kept : ∀ node ∈ s.visited, node ∈ r.visited :=
      fun node mem => inner.visited_mono (.tail _ mem)
    obtain ⟨inside, cyclesInside, sourcesInside, apartInside⟩ :=
      ihInner entered (sound.nodup_dependencies next)
    obtain ⟨outside, cyclesOutside, sourcesOutside, apartOutside⟩ :=
      ihMore (fun node mem => kept node (visited mem)) (List.nodup_cons.mp once).2
    -- The edges looked at on the way down start at nodes that were not visited before.
    have new : ∀ c ∈ inside, ∀ a b, [a, b] <:+ c → a ∉ s.visited ∧ a ∈ r.visited := by
      intro c mem a b edge
      rcases sourcesInside c mem a b edge with ⟨ends, -⟩ | ⟨unseen', seen⟩
      · rw [List.getLast?_concat, Option.some_inj] at ends
        exact ends ▸ ⟨unseen, inner.visited_mono (.head _)⟩
      · exact ⟨fun mem => unseen' (.tail _ mem), seen⟩
    refine ⟨inside ++ outside, by rw [cyclesOutside, cyclesInside, List.append_assoc], ?_, ?_⟩
    · intro c mem a b edge
      rcases List.mem_append.mp mem with mem | mem
      · obtain ⟨unseen', seen⟩ := new c mem a b edge
        exact .inr ⟨unseen', more.visited_mono seen⟩
      · rcases sourcesOutside c mem a b edge with ⟨ends, among⟩ | ⟨unseen', seen⟩
        · exact .inl ⟨ends, .tail _ among⟩
        · exact .inr ⟨fun mem => unseen' (kept a mem), seen⟩
    · refine List.pairwise_append.mpr ⟨apartInside, apartOutside, ?_⟩
      intro c memC d memD a b edge edge'
      obtain ⟨unseen', seen⟩ := new c memC a b edge
      rcases sourcesOutside d memD a b edge' with ⟨ends, -⟩ | ⟨later, -⟩
      · exact unseen' (visited (List.mem_of_getLast? ends))
      · exact later seen

/-- An edge back into the path closes a cycle. -/
theorem closing_mem (h : g.Follows path nexts s t) {next : String} (there : next ∈ nexts)
    (back : next ∈ path) : closing path next ∈ t.cycles := by
  induction h with
  | done => cases there
  | close _ more ih =>
    rcases List.mem_cons.mp there with rfl | later
    · exact more.cycles_prefix.subset (List.mem_append_right _ (List.mem_singleton_self _))
    · exact ih later back
  | pass fresh _ _ ih =>
    rcases List.mem_cons.mp there with rfl | later
    · exact absurd back fresh
    · exact ih later back
  | enter fresh _ _ _ _ ihMore =>
    rcases List.mem_cons.mp there with rfl | later
    · exact absurd back fresh
    · exact ihMore later back

end Follows

/-- An edge from `a` to `b` that closes none of some paths. -/
def Unclosed (g : Graph) (cycles : List (List String)) (b a : String) : Prop :=
  g.Reads a b ∧ ∀ c ∈ cycles, ¬ [a, b] <:+ c

/-- With more paths closed, fewer edges are left. -/
theorem accessible_mono {cycles more : List (List String)} {node : String}
    (sub : cycles ⊆ more) (h : Acc (g.Unclosed cycles) node) : Acc (g.Unclosed more) node :=
  Subrelation.accessible (fun edge => ⟨edge.1, fun c mem => edge.2 c (sub mem)⟩) h

/-- The nodes that a search has left are accessible along the edges that close none of its paths:
such an edge leads to a node that it had left before. -/
theorem Follows.accessible (h : g.Follows path nexts s t) (visited : path ⊆ s.visited)
    (before : ∀ node ∈ s.visited, node ∉ path → Acc (g.Unclosed s.cycles) node) :
    ∀ node ∈ t.visited, node ∉ path → Acc (g.Unclosed t.cycles) node := by
  induction h with
  | done => exact before
  | close back _ ih =>
    refine ih visited ?_
    intro node seen off
    exact accessible_mono (List.subset_append_left _ _) (before node seen off)
  | pass _ _ _ ih => exact ih visited before
  | @enter path rest next s r t fresh unseen inner more ihInner ihMore =>
    have entered : path ++ [next] ⊆ next :: s.visited := Follows.concat_subset_visited visited
    have deeper : ∀ node ∈ r.visited, node ∉ path ++ [next] → Acc (g.Unclosed r.cycles) node := by
      refine ihInner entered ?_
      intro node seen off
      rw [List.mem_append, not_or, List.mem_singleton] at off
      have old : node ∈ s.visited := (List.mem_cons.mp seen).resolve_left off.2
      exact before node old off.1
    have left : Acc (g.Unclosed r.cycles) next := by
      refine Acc.intro next ?_
      rintro b ⟨reads, open'⟩
      by_cases back : b ∈ path ++ [next]
      · have edge : [next, b] <:+ closing (path ++ [next]) b :=
          (suffix_closing_iff back).mpr ⟨List.getLast?_concat, rfl⟩
        exact absurd edge (open' _ (inner.closing_mem reads back))
      · exact deeper b (inner.nexts_visited entered reads) back
    refine ihMore (fun node mem => inner.visited_mono (.tail _ (visited mem))) ?_
    intro node seen off
    by_cases here : node = next
    · exact here ▸ left
    · refine deeper node seen ?_
      rw [List.mem_append, not_or, List.mem_singleton]
      exact ⟨off, here⟩

/-- Nothing accessible leads back to itself. -/
theorem accessible_irrefl {α : Type} {r : α → α → Prop} {a : α} (h : Acc r a) : ¬ r a a := by
  induction h with
  | intro a _ ih => exact fun loop => ih a loop loop

/-- A closed path along edges. It may pass a node more than once. -/
structure Cycle (g : Graph) (path : List String) : Prop where
  long : 2 ≤ path.length
  ends : path.head? = path.getLast?
  chain : path.IsChain g.Reads

theorem Round.cycle (h : g.Round path) : g.Cycle path := ⟨h.long, h.ends, h.chain⟩

/-- A cycle leads from its first node back to it. -/
theorem transGen_of_chain {r : String → String → Prop} (long : 2 ≤ path.length)
    (ends : path.head? = path.getLast?) (chain : path.IsChain r) :
    ∃ a ∈ path, Relation.TransGen r a a := by
  match path with
  | [] | [_] => simp at long
  | a :: b :: rest =>
    rw [List.isChain_cons_cons] at chain
    have last : (b :: rest).getLast (List.cons_ne_nil _ _) = a := by
      rw [List.head?_cons, List.getLast?_cons_cons,
        List.getLast?_eq_some_getLast (List.cons_ne_nil _ _), Option.some_inj] at ends
      exact ends.symm
    have back := List.relationReflTransGen_of_exists_isChain_cons rest chain.2 last
    exact ⟨a, .head _, Relation.TransGen.head' chain.1 back⟩

theorem cycle_of_transGen {a : String} (h : Relation.TransGen g.Reads a a) :
    ∃ path, g.Cycle path := by
  obtain ⟨b, first, rest⟩ := Relation.TransGen.head'_iff.mp h
  obtain ⟨l, chain, last⟩ := List.exists_isChain_cons_of_relationReflTransGen rest
  refine ⟨a :: b :: l, by simp, ?_, List.isChain_cons_cons.mpr ⟨first, chain⟩⟩
  rw [List.head?_cons, List.getLast?_cons_cons,
    List.getLast?_eq_some_getLast (List.cons_ne_nil _ _), last]

theorem exists_cycle_iff : (∃ path, g.Cycle path) ↔ ∃ a, Relation.TransGen g.Reads a a := by
  constructor
  · rintro ⟨path, cycle⟩
    obtain ⟨a, -, loop⟩ := transGen_of_chain cycle.long cycle.ends cycle.chain
    exact ⟨a, loop⟩
  · rintro ⟨a, loop⟩
    exact cycle_of_transGen loop

namespace Sound

/-- Every path that is reported is a simple cycle. -/
theorem cycles_round (h : g.Sound) : ∀ c ∈ g.cycles, g.Round c :=
  h.follows_search.cycles_round List.nodup_nil .nil (by simp) (by simp)

/-- No two paths that are reported have the same nodes around. -/
theorem cycles_apart (h : g.Sound) :
    g.cycles.Pairwise fun c d => ¬ List.IsRotated c.dropLast d.dropLast := by
  have order := h.follows_search.cycles_sublist (List.nil_sublist _) (by simp)
  have once := h.follows_search.nodup_visited List.nodup_nil
  obtain ⟨added, cycles, -, apart⟩ :=
    h.follows_search.cycles_closings h (List.nil_subset _) h.nodes
  have all : g.cycles = added := by rw [Graph.cycles, cycles, List.nil_append]
  rw [← all] at apart
  refine apart.imp_of_mem ?_
  intro c d memC memD differ rotated
  have same : c.dropLast = d.dropLast :=
    (List.Nodup.perm_iff_eq_of_sublist (List.nodup_reverse.mpr once) (order c memC)
      (order d memD)).mp rotated.perm
  have equal := (h.cycles_round c memC).eq_of_dropLast (h.cycles_round d memD) same
  obtain ⟨a, b, edge⟩ := (h.cycles_round c memC).exists_closing
  exact differ a b edge (equal ▸ edge)

/-- Every cycle has an edge that closes a path which is reported. -/
theorem cycles_meet (h : g.Sound) (cycle : g.Cycle path) :
    ∃ c ∈ g.cycles, ∃ a b, [a, b] <:+ c ∧ [a, b] <:+: path := by
  by_contra none
  have unclosed : path.IsChain fun a b => g.Unclosed g.cycles b a := by
    refine List.isChain_iff_forall_rel_of_append_cons_cons.mpr ?_
    rintro a b front rest rfl
    have edge : [a, b] <:+: front ++ a :: b :: rest := ⟨front, rest, by simp⟩
    refine ⟨List.isChain_iff_forall_rel_of_append_cons_cons.mp cycle.chain rfl, ?_⟩
    exact fun c mem closes => none ⟨c, mem, a, b, closes, edge⟩
  obtain ⟨a, mem, loop⟩ := transGen_of_chain cycle.long cycle.ends unclosed
  have source : a ∈ g.nodes := by
    obtain ⟨b, ⟨reads, -⟩, -⟩ := Relation.TransGen.head'_iff.mp loop
    exact (h.reads a b reads).1
  have seen := h.follows_search.nexts_visited (List.nil_subset _) source
  have accessible : Acc (g.Unclosed g.cycles) a :=
    h.follows_search.accessible (List.nil_subset _) (by simp) a seen (by simp)
  refine accessible_irrefl accessible.transGen ?_
  exact Relation.transGen_swap.mp loop

theorem cycles_eq_nil_iff (h : g.Sound) : g.cycles = [] ↔ ¬ ∃ path, g.Cycle path := by
  constructor
  · rintro none ⟨path, cycle⟩
    obtain ⟨c, mem, -⟩ := h.cycles_meet cycle
    rw [none] at mem
    cases mem
  · intro none
    refine List.eq_nil_iff_forall_not_mem.mpr fun c mem => ?_
    exact none ⟨c, (h.cycles_round c mem).cycle⟩

/-- A node that reads itself is reported, whatever larger cycles it lies on. -/
theorem loop_mem_cycles_iff (h : g.Sound) {a : String} : [a, a] ∈ g.cycles ↔ g.Reads a a := by
  constructor
  · exact fun mem => (h.cycles_round _ mem).reads (List.infix_refl _)
  · intro reads
    have loop : g.Cycle [a, a] := ⟨Nat.le_refl 2, rfl, List.isChain_pair.mpr reads⟩
    obtain ⟨c, mem, b, d, closes, edge⟩ := h.cycles_meet loop
    have same : [b, d] = [a, a] := edge.eq_of_length rfl
    exact (h.cycles_round c mem).eq_pair (same ▸ closes) ▸ mem

end Sound

/-- The search in depth of any graph ends by itself. Every cycle, of any length, has an edge that
closes a path which the search reports; so it reports none if and only if there is no cycle. -/
theorem cycles_complete (edits : List Edit) :
    (∀ s, (ofEdits edits).Follows [] (ofEdits edits).nodes ⟨[], []⟩ s ↔
      s = (ofEdits edits).search) ∧
    (∀ cycle, (ofEdits edits).Cycle cycle →
      ∃ path ∈ (ofEdits edits).cycles, ∃ a b, [a, b] <:+ path ∧ [a, b] <:+: cycle) ∧
    ((ofEdits edits).cycles = [] ↔ ¬ ∃ cycle, (ofEdits edits).Cycle cycle) := by
  have sound := Sound.ofEdits edits
  refine ⟨fun s => ⟨fun follows => follows.unique sound.follows_search, ?_⟩,
    fun cycle => sound.cycles_meet, sound.cycles_eq_nil_iff⟩
  rintro rfl
  exact sound.follows_search

/-- Not every cycle is reported: `a`, `c` is one too, which the edge back from `c` to `a` closes. -/
example : (ofEdits [.add "a" "b", .add "b" "c", .add "c" "a", .add "a" "c"]).cycles =
    [["a", "b", "c", "a"]] := by
  decide

/-- Every path that is reported comes back to where it begins, passes no other node twice and goes
along edges; and no two of them are one cycle, wherever they begin. -/
theorem cycles_sound (edits : List Edit) :
    (∀ path ∈ (ofEdits edits).cycles,
      2 ≤ path.length ∧ path.head? = path.getLast? ∧ path.dropLast.Nodup ∧
      ∀ a b, [a, b] <:+: path → b ∈ (ofEdits edits).dependencies a) ∧
    (ofEdits edits).cycles.Pairwise fun c d => ¬ List.IsRotated c.dropLast d.dropLast := by
  have sound := Sound.ofEdits edits
  refine ⟨fun path mem => ?_, sound.cycles_apart⟩
  have round := sound.cycles_round path mem
  exact ⟨round.long, round.ends, round.nodup_dropLast, fun a b edge => round.reads edge⟩

end Inquiry.Dependency.Graph
