import Inquiry.Proofs.Decision
import Inquiry.Proofs.Json.Agreement

/-!
Decisions do not tell agreeing values apart.

A condition looks at its answer and at its operands through few windows: the rank of a number, the
length, whether anything was said, the text, and what a value agrees with. Through each of them
values that agree look the same, whichever operator looks. Main statement:
`Condition.agreement_respected`.
-/
namespace Inquiry

open Json

/-- Of lists in which paired members pass a test together, both have one that passes or neither. -/
theorem any_eq_of_forall₂ {relation : Json → Json → Prop} {p q : Json → Bool}
    {xs ys : List Json} (paired : List.Forall₂ relation xs ys)
    (same : ∀ x ∈ xs, ∀ y, relation x y → p x = q y) : xs.any p = ys.any q := by
  induction paired with
  | nil => rfl
  | cons first _ ih =>
    rw [List.any_cons, List.any_cons, same _ (List.mem_cons_self ..) _ first,
      ih fun x mem => same x (List.mem_cons_of_mem _ mem)]

section Windows

variable {x y : Option Json}

theorem rank?_congr (same : agree? x y = true) : x.bind rank? = y.bind rank? := by
  cases agree?_iff.mp same with
  | none => rfl
  | some agree =>
    cases agrees_iff.mp agree with
    | number level => exact congrArg some level
    | _ => rfl

theorem answerLength?_congr (same : agree? x y = true) :
    answerLength? x = answerLength? y := by
  cases agree?_iff.mp same with
  | none => rfl
  | some agree =>
    cases agrees_iff.mp agree with
    | array items => exact congrArg some items.length_eq
    | _ => rfl

theorem isBlankAnswer_congr (same : agree? x y = true) :
    isBlankAnswer x = isBlankAnswer y := by
  cases agree?_iff.mp same with
  | none => rfl
  | some agree =>
    cases agrees_iff.mp agree with
    | array items => cases items <;> rfl
    | _ => rfl

theorem tried_congr_answer (same : agree? x y = true) (operand : Option Json) :
    tried x operand = tried y operand := by
  cases agree?_iff.mp same with
  | none => rfl
  | some agree => cases agrees_iff.mp agree <;> rfl

theorem tried_congr_operand (same : agree? x y = true) (answer : Option Json) :
    tried answer x = tried answer y := by
  match answer with
  | some (.string text) =>
    cases agree?_iff.mp same with
    | none => rfl
    | some agree => cases agrees_iff.mp agree <;> rfl
  | none | some .null | some (.bool _) | some (.number _) | some (.array _)
  | some (.object _) => rfl

theorem hasItem_congr_answer (proper : ∀ v ∈ x, v.Proper) (same : agree? x y = true)
    (operand : Option Json) : hasItem x operand = hasItem y operand := by
  cases agree?_iff.mp same with
  | none => rfl
  | some agree =>
    cases agrees_iff.mp agree with
    | array items =>
      cases proper _ rfl with
      | array each =>
        refine any_eq_of_forall₂ items fun v mem w agree => ?_
        exact agree?_congr_left (y := some w) (each v mem).forall_mem_some agree operand
    | _ => rfl

theorem hasItem_congr_operand (proper : ∀ v ∈ x, v.Proper) (same : agree? x y = true)
    (answer : Option Json) : hasItem answer x = hasItem answer y := by
  unfold hasItem
  simp only [agree?_congr_right proper same]

theorem isAmong_congr_answer (proper : ∀ v ∈ x, v.Proper) (same : agree? x y = true)
    (candidates : Option (List Json)) : isAmong x candidates = isAmong y candidates := by
  unfold isAmong
  simp only [agree?_congr_left proper same]

theorem isAmong_congr_candidates {vs ws : Option (List Json)}
    (proper : ∀ values ∈ vs, ∀ v ∈ values, v.Proper)
    (same : Option.Rel (List.Forall₂ fun v w => agrees v w = true) vs ws)
    (answer : Option Json) : isAmong answer vs = isAmong answer ws := by
  cases same with
  | none => rfl
  | some paired =>
    refine any_eq_of_forall₂ paired fun v mem w agree => ?_
    exact agree?_congr_right (y := some w) (proper _ rfl v mem).forall_mem_some agree answer

end Windows

namespace Condition

/-- A decision depends on its answer up to agreement. -/
theorem holdsOf_congr_answer {x y : Option Json} (c : Condition)
    (proper : ∀ v ∈ x, v.Proper) (same : agree? x y = true) : c.holdsOf x = c.holdsOf y := by
  unfold holdsOf
  simp only [compareNumbers, compareLength, agree?_congr_left proper same, rank?_congr same,
    answerLength?_congr same, isBlankAnswer_congr same, hasItem_congr_answer proper same,
    isAmong_congr_answer proper same, findsPattern_eq, tried_congr_answer same]

/-- A condition whose operand and candidates name the fields of their objects apart. -/
structure Proper (c : Condition) : Prop where
  value : ∀ v ∈ c.value, v.Proper
  values : ∀ candidates ∈ c.values, ∀ v ∈ candidates, v.Proper

/-- Conditions that differ at most by an operand, or by candidates, that agree. -/
structure Alike (c d : Condition) : Prop where
  question : c.question = d.question
  operator : c.operator = d.operator
  value : agree? c.value d.value = true
  values : Option.Rel (List.Forall₂ fun v w => agrees v w = true) c.values d.values

variable {c d : Condition}

theorem Alike.holdsOf (alike : c.Alike d) (proper : c.Proper) (answer : Option Json) :
    d.holdsOf answer = d.blame (c.holdsOf answer) := by
  have value := agree?_congr_right proper.value alike.value answer
  have rank := rank?_congr alike.value
  have item := hasItem_congr_operand proper.value alike.value answer
  have among := isAmong_congr_candidates proper.values alike.values answer
  have pattern := findsPattern_eq_blame (tried_congr_operand alike.value answer)
  unfold Condition.holdsOf
  rw [← alike.operator]
  cases c.operator with
  | matchesPattern => exact pattern
  | notMatches =>
    simp only [pattern]
    cases c.findsPattern answer <;> rfl
  | _ => simp only [compareNumbers, compareLength, value, rank, item, among]; rfl

/-- Agreement is an equivalence of answers, given or not, and what is decided by a condition is the
same for answers that agree, and, but for the condition that an error names, for operands and
candidates that agree. -/
theorem agreement_respected :
    (Equivalence fun x y : {x : Option Json // ∀ v ∈ x, v.Proper} => agree? x.1 y.1 = true) ∧
    (∀ (c : Condition) (s t : Answers), (∀ v ∈ s.get? c.question, v.Proper) →
      agree? (s.get? c.question) (t.get? c.question) = true → c.holds s = c.holds t) ∧
    ∀ (c d : Condition) (s : Answers), c.Proper → c.Alike d →
      d.holds s = d.blame (c.holds s) := by
  refine ⟨⟨fun x => agree?_self x.2, fun {x _} => agree?_symm x.2, agree?_trans⟩, ?_, ?_⟩
  · intro c s t proper same
    exact c.holdsOf_congr_answer proper same
  · intro c d s proper alike
    unfold holds
    rw [← alike.question]
    exact alike.holdsOf proper _

/-- A number deep inside of a value. -/
def nested (n : Number) : Json :=
  .array [.object [("at", .null), ("counts", .array [.number n])]]

theorem nested_proper (n : Number) : (nested n).Proper := by
  refine .array fun row mem => ?_
  obtain rfl := List.mem_singleton.mp mem
  have counts : (Json.array [.number n]).Proper := .array fun count mem => by
    obtain rfl := List.mem_singleton.mp mem
    exact .number n
  exact .object (by simp) (by simp [counts, Json.Proper.null])

theorem agreement_respected_nested :
    let whole := nested (.int 1)
    let decimal := nested (.float (Decimal.Binary64.ofInt 1))
    whole ≠ decimal ∧ agree? (some whole) (some decimal) = true ∧
      (compare "size" .equals whole).holds (Table.ofList [("size", decimal)]) = .ok true ∧
      (compare "size" .notEquals decimal).holds (Table.ofList [("size", whole)]) = .ok false := by
  intro whole decimal
  obtain ⟨equivalence, answered, given⟩ := agreement_respected
  have proper (n : Number) := (nested_proper n).forall_mem_some
  have back : agree? (some decimal) (some whole) = true := by decide +kernel
  have same : agree? (some whole) (some decimal) = true :=
    equivalence.symm (x := ⟨some decimal, proper _⟩) (y := ⟨some whole, proper _⟩) back
  refine ⟨by decide +kernel, same, ?_, ?_⟩
  · have decided : (compare "size" .equals whole).holds (Table.ofList [("size", whole)]) =
        (compare "size" .equals whole).holds (Table.ofList [("size", decimal)]) :=
      answered _ _ _ (proper _) same
    rw [← decided]
    decide +kernel
  · have alike : (compare "size" .notEquals whole).Alike (compare "size" .notEquals decimal) :=
      ⟨rfl, rfl, same, .none⟩
    rw [given _ _ _ ⟨proper _, by rintro _ ⟨⟩⟩ alike]
    decide +kernel

end Condition

end Inquiry
