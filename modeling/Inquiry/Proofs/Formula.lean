import Mathlib.Algebra.GroupWithZero.Nat
import Mathlib.Data.List.Basic
import Inquiry.Formula

namespace Inquiry

open Decimal (Binary64)

/-- Only zero stands twice in the order of numbers. -/
theorem Decimal.Binary64.eq_or_zero_of_rank {x y : Binary64} (level : x.rank = y.rank) :
    x = y ∨ x.code = 0 ∧ y.code = 0 := by
  obtain ⟨left, m, m_lt⟩ := x
  obtain ⟨right, n, n_lt⟩ := y
  cases left <;> cases right <;> simp [rank] at level ⊢ <;> omega

theorem Json.number?_eq_some_iff {answer : Json} {x : Binary64} :
    answer.number? = some x ↔ ∃ n : Number, answer = .number n ∧ n.toBinary64 = x := by
  cases answer <;> simp [number?]

namespace Formula

open Registry (builtins)

/-- A number that the answers to some questions contribute: an answer itself, or an item directly
in one that is a list. -/
inductive Contributed (answers : Answers) (args : List String) : Binary64 → Prop
  | answer (id : String) (mem : id ∈ args) (n : Number)
      (given : answers.get? id = some (.number n)) : Contributed answers args n.toBinary64
  | item (id : String) (mem : id ∈ args) (items : List Json)
      (given : answers.get? id = some (.array items)) (n : Number) (inside : .number n ∈ items) :
      Contributed answers args n.toBinary64

/-- How many items an answer has, given or not. -/
def itemsOf : Option Json → Nat
  | some answer => itemCount answer
  | none => 0

/-- The same result, or zeros of either sign. -/
inductive Level : Json → Json → Prop
  | same (result : Json) : Level result result
  | zeros (x y : Binary64) (left : x.code = 0) (right : y.code = 0) : Level (.float x) (.float y)

variable {answers : Answers} {args others : List String} {x : Binary64}

section Numbers

theorem mem_numbersOf_iff {answer : Json} :
    x ∈ numbersOf answer ↔ ∃ n : Number, n.toBinary64 = x ∧
      (answer = .number n ∨ ∃ items, answer = .array items ∧ .number n ∈ items) := by
  cases answer with
  | array items =>
    simp only [numbersOf, List.mem_filterMap, Json.number?_eq_some_iff]
    constructor
    · rintro ⟨_, inside, n, rfl, rfl⟩
      exact ⟨n, rfl, .inr ⟨items, rfl, inside⟩⟩
    · rintro ⟨n, rfl, impossible | ⟨_, same, inside⟩⟩
      · cases impossible
      · cases same
        exact ⟨_, inside, n, rfl, rfl⟩
  | null | bool | number | string | object => simp [numbersOf, Json.number?, eq_comm]

theorem mem_numbers_iff : x ∈ numbers answers args ↔ Contributed answers args x := by
  simp only [numbers, given, List.mem_flatMap, List.mem_filterMap, mem_numbersOf_iff]
  constructor
  · rintro ⟨answer, ⟨id, mem, given⟩, n, rfl, rfl | ⟨items, rfl, inside⟩⟩
    · exact .answer id mem n given
    · exact .item id mem items given n inside
  · rintro (⟨id, mem, n, given⟩ | ⟨id, mem, items, given, n, inside⟩)
    · exact ⟨_, ⟨id, mem, given⟩, n, rfl, .inl rfl⟩
    · exact ⟨_, ⟨id, mem, given⟩, n, rfl, .inr ⟨items, rfl, inside⟩⟩

theorem numbers_eq_nil_iff : numbers answers args = [] ↔ ∀ x, ¬ Contributed answers args x := by
  simp only [List.eq_nil_iff_forall_not_mem, mem_numbers_iff]

theorem Contributed.mono (subset : args ⊆ others) (h : Contributed answers args x) :
    Contributed answers others x := by
  cases h with
  | answer id mem n given => exact .answer id (subset mem) n given
  | item id mem items given n inside => exact .item id (subset mem) items given n inside

/-- What is contributed does not depend on the order of the questions. -/
theorem mem_numbers_congr (perm : args.Perm others) :
    x ∈ numbers answers args ↔ x ∈ numbers answers others := by
  rw [mem_numbers_iff, mem_numbers_iff]
  exact ⟨.mono perm.subset, .mono perm.symm.subset⟩

theorem given_cons_of_missing {id : String} (missing : answers.get? id = none) :
    given answers (id :: args) = given answers args := by
  rw [given, List.filterMap_cons_none missing, given]

end Numbers

section Selection

variable {numbers more : List Binary64}

theorem least_eq_minOn? : least numbers = numbers.minOn? Binary64.rank := by
  cases numbers with
  | nil => rfl
  | cons first rest =>
    refine congrArg (fun pick => some (rest.foldl pick first)) (funext₂ fun kept x => ?_)
    rw [minOn_eq_if]
    grind

theorem greatest_eq_maxOn? : greatest numbers = numbers.maxOn? Binary64.rank := by
  cases numbers with
  | nil => rfl
  | cons first rest =>
    refine congrArg (fun pick => some (rest.foldl pick first)) (funext₂ fun kept x => ?_)
    change _ = maxOn Binary64.rank kept x
    rw [maxOn_eq_if]
    grind

theorem least_eq_none_iff : least numbers = none ↔ numbers = [] := by
  cases numbers <;> simp [least, select]

theorem greatest_eq_none_iff : greatest numbers = none ↔ numbers = [] := by
  cases numbers <;> simp [greatest, select]

theorem least_spec (found : least numbers = some x) :
    x ∈ numbers ∧ ∀ y ∈ numbers, x.rank ≤ y.rank := by
  rw [least_eq_minOn?] at found
  refine ⟨List.minOn?_mem found, fun y mem => ?_⟩
  rw [← List.minOn_eq_of_minOn?_eq_some found]
  exact List.apply_minOn_le_of_mem mem

theorem greatest_spec (found : greatest numbers = some x) :
    x ∈ numbers ∧ ∀ y ∈ numbers, y.rank ≤ x.rank := by
  rw [greatest_eq_maxOn?] at found
  refine ⟨List.maxOn?_mem found, fun y mem => ?_⟩
  rw [← List.maxOn_eq_of_maxOn?_eq_some found]
  exact List.le_apply_maxOn_of_mem mem

/-- What is selected among numbers and among others is the same but for the sign of zero, if it is
there and stands as high in one case as in the other. -/
theorem level_of_rank {found other : Option Binary64} (none : found = none ↔ other = none)
    (rank : ∀ x ∈ found, ∀ y ∈ other, x.rank = y.rank) :
    Level (.ofResult found) (.ofResult other) := by
  cases found with
  | none =>
    rw [none.mp rfl]
    exact .same _
  | some x =>
    cases other with
    | none => cases none.mpr rfl
    | some y =>
      rcases Binary64.eq_or_zero_of_rank (rank x rfl y rfl) with rfl | zeros
      · exact .same _
      · exact .zeros x y zeros.1 zeros.2

theorem eq_nil_congr (same : ∀ y, y ∈ numbers ↔ y ∈ more) : numbers = [] ↔ more = [] := by
  simp only [List.eq_nil_iff_forall_not_mem, same]

/-- The smallest of the same numbers, in whatever order they come. -/
theorem least_level (same : ∀ y, y ∈ numbers ↔ y ∈ more) :
    Level (.ofResult (least numbers)) (.ofResult (least more)) := by
  apply level_of_rank
  · rw [least_eq_none_iff, least_eq_none_iff, eq_nil_congr same]
  · intro x left y right
    obtain ⟨x_mem, below⟩ := least_spec left
    obtain ⟨y_mem, below'⟩ := least_spec right
    exact Int.le_antisymm (below y ((same y).mpr y_mem)) (below' x ((same x).mp x_mem))

theorem greatest_level (same : ∀ y, y ∈ numbers ↔ y ∈ more) :
    Level (.ofResult (greatest numbers)) (.ofResult (greatest more)) := by
  apply level_of_rank
  · rw [greatest_eq_none_iff, greatest_eq_none_iff, eq_nil_congr same]
  · intro x left y right
    obtain ⟨x_mem, above⟩ := greatest_spec left
    obtain ⟨y_mem, above'⟩ := greatest_spec right
    exact Int.le_antisymm (above' x ((same x).mp x_mem)) (above y ((same y).mpr y_mem))

end Selection

section Counting

theorem itemsOf_eq_zero_iff {answer : Option Json} :
    itemsOf answer = 0 ↔ isBlankAnswer answer = true := by
  cases answer with
  | none => simp [itemsOf, isBlankAnswer]
  | some answer => cases answer <;> simp [itemsOf, itemCount, isBlankAnswer]

theorem count_eq_sum : count answers args = (args.map fun id => itemsOf (answers.get? id)).sum := by
  have counted : ∀ n, (given answers args).foldl (fun n answer => n + itemCount answer) n =
      n + (args.map fun id => itemsOf (answers.get? id)).sum := by
    induction args with
    | nil => exact fun n => rfl
    | cons id rest ih =>
      intro n
      rw [List.map_cons, List.sum_cons, ← Nat.add_assoc, ← ih]
      cases found : answers.get? id with
      | none => rw [given_cons_of_missing found]; rfl
      | some answer => rw [given, List.filterMap_cons_some found]; rfl
  exact (counted 0).trans (Nat.zero_add _)

theorem answeredCount_eq_countP (some_args : args ≠ []) :
    answeredCount answers args = args.countP fun id => !isBlankAnswer (answers.get? id) := by
  have listed : args.isEmpty = false := List.isEmpty_eq_false_iff.mpr some_args
  rw [answeredCount, listed, if_neg Bool.false_ne_true, ← List.countP_eq_length_filter, given,
    List.countP_filterMap]
  refine List.countP_congr fun id _ => ?_
  cases answers.get? id <;> simp [isBlankAnswer]

/-- Each answer that says something has an item, and no other one has. -/
theorem countP_le_sum (given : List (Option Json)) :
    given.countP (fun answer => !isBlankAnswer answer) ≤ (given.map itemsOf).sum ∧
      (given.countP (fun answer => !isBlankAnswer answer) = 0 ↔ (given.map itemsOf).sum = 0) := by
  induction given with
  | nil => exact ⟨Nat.le_refl 0, Iff.rfl⟩
  | cons answer rest ih =>
    obtain ⟨le, zero⟩ := ih
    have blank : itemsOf answer = 0 ↔ isBlankAnswer answer = true := itemsOf_eq_zero_iff
    rw [List.countP_cons, List.map_cons, List.sum_cons]
    cases said : isBlankAnswer answer with
    | true =>
      rw [blank.mpr said, Nat.zero_add]
      exact ⟨le, zero⟩
    | false =>
      have some_items : itemsOf answer ≠ 0 := by simp [blank, said]
      simp only [Bool.not_false, if_true]
      omega

end Counting

section Aggregates

variable {c : Context}

theorem call_min : builtins.call "min" args c = .ok (.ofResult (least (numbers c.answers args))) :=
  rfl

theorem call_max :
    builtins.call "max" args c = .ok (.ofResult (greatest (numbers c.answers args))) :=
  rfl

theorem call_avg : builtins.call "avg" args c = .ok (mean (numbers c.answers args)) := rfl

theorem call_count : builtins.call "count" args c = .ok (.nat (count c.answers args)) := rfl

theorem call_answeredCount :
    builtins.call "answeredCount" args c = .ok (.nat (answeredCount c.answers args)) :=
  rfl

/-- What the extremes and the mean of some answers say of the numbers that are contributed. -/
structure Extremes (c : Context) (args : List String) : Prop where
  min_null : builtins.call "min" args c = .ok .null ↔ ∀ x, ¬ Contributed c.answers args x
  max_null : builtins.call "max" args c = .ok .null ↔ ∀ x, ¬ Contributed c.answers args x
  avg_zero : (∀ x, ¬ Contributed c.answers args x) → builtins.call "avg" args c = .ok (.int 0)
  bounds : (∃ x, Contributed c.answers args x) → ∃ low high : Binary64,
    builtins.call "min" args c = .ok (.float low) ∧
    builtins.call "max" args c = .ok (.float high) ∧
    Contributed c.answers args low ∧ Contributed c.answers args high ∧
    ∀ x, Contributed c.answers args x → low.rank ≤ x.rank ∧ x.rank ≤ high.rank

/-- What the counts of some answers say: each mention of a question counts, by all items of its
answer, or by one if the answer is not blank. -/
structure Counts (c : Context) (args : List String) : Prop where
  items : builtins.call "count" args c =
    .ok (.nat (args.map fun id => itemsOf (c.answers.get? id)).sum)
  answered : args ≠ [] → builtins.call "answeredCount" args c =
    .ok (.nat (args.countP fun id => !isBlankAnswer (c.answers.get? id)))
  compared : args ≠ [] → ∃ answered items : Nat,
    builtins.call "answeredCount" args c = .ok (.nat answered) ∧
    builtins.call "count" args c = .ok (.nat items) ∧
    answered ≤ items ∧ (answered = 0 ↔ items = 0)

theorem extremes (c : Context) (args : List String) : Extremes c args := by
  have null : ∀ found : Option Binary64,
      Json.ofResult found = .null ↔ found = none := by
    intro found
    cases found <;> simp [Json.ofResult, Json.float]
  constructor
  · rw [call_min, Except.ok.injEq, null, least_eq_none_iff, numbers_eq_nil_iff]
  · rw [call_max, Except.ok.injEq, null, greatest_eq_none_iff, numbers_eq_nil_iff]
  · intro nothing
    rw [call_avg, numbers_eq_nil_iff.mpr nothing]
    rfl
  · rintro ⟨x, contributed⟩
    have filled : numbers c.answers args ≠ [] :=
      List.ne_nil_of_mem (mem_numbers_iff.mpr contributed)
    obtain ⟨low, lowest⟩ := Option.ne_none_iff_exists'.mp (mt least_eq_none_iff.mp filled)
    obtain ⟨high, highest⟩ := Option.ne_none_iff_exists'.mp (mt greatest_eq_none_iff.mp filled)
    obtain ⟨low_mem, below⟩ := least_spec lowest
    obtain ⟨high_mem, above⟩ := greatest_spec highest
    refine ⟨low, high, ?_, ?_, mem_numbers_iff.mp low_mem, mem_numbers_iff.mp high_mem, ?_⟩
    · rw [call_min, lowest]
      rfl
    · rw [call_max, highest]
      rfl
    · intro y there
      have mem := mem_numbers_iff.mpr there
      exact ⟨below y mem, above y mem⟩

theorem counts (c : Context) (args : List String) : Counts c args := by
  have items : builtins.call "count" args c =
      .ok (.nat (args.map fun id => itemsOf (c.answers.get? id)).sum) := by
    rw [call_count, count_eq_sum]
  have answered : args ≠ [] → builtins.call "answeredCount" args c =
      .ok (.nat (args.countP fun id => !isBlankAnswer (c.answers.get? id))) := by
    intro some_args
    rw [call_answeredCount, answeredCount_eq_countP some_args]
  refine ⟨items, answered, fun some_args => ⟨_, _, answered some_args, items, ?_⟩⟩
  have compared := countP_le_sum (args.map c.answers.get?)
  rwa [List.countP_map, List.map_map] at compared

/-- The smallest and the greatest answer are null just if no answer contributes a number, and then
the mean is the integer zero; else they are among the numbers that are contributed, and these lie
between them. Questions add to the counts with each mention, and those without an answer add
nothing. No question among some is answered without an item, nor has an item without being
answered. The order of the questions does not count, except that zeros of either sign are not told
apart. -/
theorem aggregates (c : Context) :
    (∀ args, Extremes c args ∧ Counts c args) ∧
    (∀ args more, ∃ m n : Nat, builtins.call "count" args c = .ok (.nat m) ∧
      builtins.call "count" more c = .ok (.nat n) ∧
      builtins.call "count" (args ++ more) c = .ok (.nat (m + n))) ∧
    (∀ args others, args.Perm others →
      builtins.call "count" args c = builtins.call "count" others c ∧
      builtins.call "answeredCount" args c = builtins.call "answeredCount" others c ∧
      ∀ name ∈ ["min", "max"], ∃ x y, builtins.call name args c = .ok x ∧
        builtins.call name others c = .ok y ∧ Level x y) ∧
    ∀ id args, c.answers.get? id = none →
      (∀ name ∈ ["min", "max", "count"],
        builtins.call name (id :: args) c = builtins.call name args c) ∧
      (args ≠ [] →
        builtins.call "answeredCount" (id :: args) c = builtins.call "answeredCount" args c) := by
  refine ⟨fun args => ⟨extremes c args, counts c args⟩, ?_, ?_, ?_⟩
  · intro args more
    refine ⟨_, _, call_count, call_count, ?_⟩
    rw [call_count, count_eq_sum, count_eq_sum, count_eq_sum, List.map_append, List.sum_append]
  · intro args others perm
    refine ⟨?_, ?_, ?_⟩
    · rw [(counts c args).items, (counts c others).items, (perm.map _).sum_nat]
    · cases args with
      | nil => rw [perm.nil_eq]
      | cons id rest =>
        have some_args := List.cons_ne_nil id rest
        have some_others : others ≠ [] := fun none => some_args (none ▸ perm).eq_nil
        rw [(counts c _).answered some_args, (counts c _).answered some_others, perm.countP_eq]
    · simp only [List.forall_mem_cons, List.not_mem_nil, false_implies, implies_true, and_true]
      exact ⟨⟨_, _, call_min, call_min, least_level fun _ => mem_numbers_congr perm⟩,
        ⟨_, _, call_max, call_max, greatest_level fun _ => mem_numbers_congr perm⟩⟩
  · intro id args missing
    have same : given c.answers (id :: args) = given c.answers args :=
      given_cons_of_missing missing
    constructor
    · simp only [List.forall_mem_cons, List.not_mem_nil, false_implies, implies_true, call_min,
        call_max, call_count, numbers, count, same, and_self]
    · intro some_args
      have listed : args.isEmpty = false := List.isEmpty_eq_false_iff.mpr some_args
      rw [call_answeredCount, call_answeredCount, answeredCount, answeredCount, same, listed,
        List.isEmpty_cons]

/-- A list with numbers at two depths, a blank text, and zeros of either sign. -/
def mixedContext : Context where
  answers := .ofList [("blank", .string ""),
    ("list", .array [.int 3, .string "x", .array [.int 9]]), ("minus", .float Binary64.zero.neg),
    ("zero", .int 0)]
  now := .epoch

def mixedArgs : List String := ["list", "minus", "zero", "missing", "list", "blank"]

/-- Which zero is the smallest answer depends on the order. The list is counted twice. -/
theorem aggregates_mixed :
    builtins.call "min" mixedArgs mixedContext = .ok (.float Binary64.zero.neg) ∧
    builtins.call "min" mixedArgs.reverse mixedContext = .ok (.float Binary64.zero) ∧
    builtins.call "max" mixedArgs mixedContext = .ok (.float (.ofNat 3)) ∧
    builtins.call "max" mixedArgs.reverse mixedContext = .ok (.float (.ofNat 3)) ∧
    builtins.call "count" mixedArgs mixedContext = .ok (.nat 8) ∧
    builtins.call "count" mixedArgs.reverse mixedContext = .ok (.nat 8) ∧
    builtins.call "answeredCount" mixedArgs mixedContext = .ok (.nat 4) ∧
    builtins.call "answeredCount" ("nowhere" :: mixedArgs) mixedContext = .ok (.nat 4) ∧
    builtins.call "min" ["blank", "missing"] mixedContext = .ok .null ∧
    builtins.call "avg" ["blank", "missing"] mixedContext = .ok (.int 0) := by
  obtain ⟨each, -, order, missing⟩ := aggregates mixedContext
  obtain ⟨count, -, -⟩ := order mixedArgs _ (List.reverse_perm _).symm
  have nowhere := (missing "nowhere" mixedArgs rfl).2 (by decide)
  have counted : builtins.call "count" mixedArgs mixedContext = .ok (.nat 8) := by decide +kernel
  have answered : builtins.call "answeredCount" mixedArgs mixedContext = .ok (.nat 4) := by
    decide +kernel
  have null : builtins.call "min" ["blank", "missing"] mixedContext = .ok .null := by
    decide +kernel
  have mean := (each _).1.avg_zero ((each _).1.min_null.mp null)
  exact ⟨by decide +kernel, by decide +kernel, by decide +kernel, by decide +kernel, counted,
    count ▸ counted, answered, nowhere.trans answered, null, mean⟩

end Aggregates

end Formula

end Inquiry
