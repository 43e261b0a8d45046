import Inquiry.Proofs.Decision
import Inquiry.Proofs.Questionnaire.Position
import Inquiry.Proofs.Table

namespace Inquiry.Questionnaire

/-- The ids at the positions below `n` that are kept, in order. -/
def idsWhere (q : Questionnaire) (keep : Nat → Bool) (n : Nat) : List String :=
  ((List.range n).filter keep).filterMap fun i => q.questions[i]?.map (·.id)

/-- The answers to the positions below `n` that are shown. -/
def answersBelow (q : Questionnaire) (script : Answers) (shown : Nat → Bool) (n : Nat) : Answers :=
  script.restrict fun id => id ∈ q.idsWhere shown n

/-- What the positions shown have to satisfy. -/
structure OnePass (q : Questionnaire) (script : Answers) (shown : Nat → Bool) : Prop where
  within : ∀ i, shown i = true → i < q.size
  first : shown 0 = true
  further : ∀ i question, 0 < i → q.questions[i]? = some question →
    (shown i = true ↔
      question.isSkipped (q.answersBelow script shown i) = .ok false ∧
      question.isShown (q.answersBelow script shown i) = .ok true)

variable {q : Questionnaire} {keep other : Nat → Bool} {n m : Nat}

theorem idsWhere_succ (q : Questionnaire) (keep : Nat → Bool) (n : Nat) :
    q.idsWhere keep (n + 1) = q.idsWhere keep n ++
      if keep n then (q.questions[n]?.map (·.id)).toList else [] := by
  unfold idsWhere
  rw [List.range_succ, List.filter_append, List.filterMap_append]
  cases kept : keep n with
  | false => simp [kept]
  | true => cases found : q.questions[n]? <;> simp [kept, found]

theorem idsWhere_succ_of_kept {question : Question} (found : q.questions[n]? = some question)
    (kept : keep n = true) : q.idsWhere keep (n + 1) = q.idsWhere keep n ++ [question.id] := by
  rw [idsWhere_succ, found, kept]
  rfl

theorem idsWhere_succ_of_dropped (dropped : keep n = false) :
    q.idsWhere keep (n + 1) = q.idsWhere keep n := by
  rw [idsWhere_succ, dropped]
  simp

theorem idsWhere_congr (same : ∀ i, i < n → keep i = other i) :
    q.idsWhere keep n = q.idsWhere other n := by
  induction n with
  | zero => rfl
  | succ n ih =>
    rw [idsWhere_succ, idsWhere_succ, same n (Nat.lt_succ_self n),
      ih fun i lt => same i (Nat.lt_succ_of_lt lt)]

/-- Positions that are dropped add nothing. -/
theorem idsWhere_add_of_dropped (dropped : ∀ i, n ≤ i → i < n + m → keep i = false) :
    q.idsWhere keep (n + m) = q.idsWhere keep n := by
  induction m with
  | zero => rfl
  | succ m ih =>
    rw [← Nat.add_assoc, idsWhere_succ_of_dropped (dropped (n + m) (by omega) (by omega))]
    exact ih fun i le lt => dropped i le (by omega)

/-- Positions that are kept add their ids. -/
theorem idsWhere_add_of_kept {questions rest : List Question}
    (found : q.questions.drop n = questions ++ rest)
    (kept : ∀ i, n ≤ i → i < n + questions.length → keep i = true) :
    q.idsWhere keep (n + questions.length) = q.idsWhere keep n ++ questions.map (·.id) := by
  induction questions generalizing n with
  | nil => simp
  | cons question questions ih =>
    have here : q.questions[n]? = some question := by
      have := congrArg (·[0]?) found
      simpa using this
    have further : q.questions.drop (n + 1) = questions ++ rest := by
      rw [← List.drop_drop, found]
      rfl
    rw [List.length_cons, Nat.add_comm questions.length, ← Nat.add_assoc] at kept ⊢
    rw [ih further fun i le lt => kept i (by omega) lt,
      idsWhere_succ_of_kept here (kept n (Nat.le_refl n) (by omega))]
    simp

theorem mem_idsWhere {id : String} :
    id ∈ q.idsWhere keep n ↔ ∃ i question, i < n ∧ keep i = true ∧
      q.questions[i]? = some question ∧ question.id = id := by
  simp only [idsWhere, List.mem_filterMap, List.mem_filter, List.mem_range,
    Option.map_eq_some_iff]
  constructor
  · rintro ⟨i, ⟨lt, kept⟩, question, found, rfl⟩
    exact ⟨i, question, lt, kept, found, rfl⟩
  · rintro ⟨i, question, lt, kept, found, rfl⟩
    exact ⟨i, ⟨lt, kept⟩, question, found, rfl⟩

/-- Where ids are distinct, an id is among those kept if its position is. -/
theorem mem_idsWhere_iff (distinct : q.Distinct) {i : Nat} {question : Question}
    (found : q.questions[i]? = some question) :
    question.id ∈ q.idsWhere keep n ↔ i < n ∧ keep i = true := by
  rw [mem_idsWhere]
  constructor
  · rintro ⟨j, another, lt, kept, found', same⟩
    have here := position?_of_getElem? distinct found
    have there := position?_of_getElem? distinct found'
    rw [same, here, Option.some_inj] at there
    subst there
    exact ⟨lt, kept⟩
  · rintro ⟨lt, kept⟩
    exact ⟨i, question, lt, kept, found, rfl⟩

theorem nodup_idsWhere (distinct : q.Distinct) (keep : Nat → Bool) (n : Nat) :
    (q.idsWhere keep n).Nodup := by
  induction n with
  | zero => exact List.nodup_nil
  | succ n ih =>
    cases kept : keep n with
    | false =>
      rw [idsWhere_succ_of_dropped kept]
      exact ih
    | true =>
      cases found : q.questions[n]? with
      | none =>
        rw [idsWhere_succ, found]
        simpa using ih
      | some question =>
        rw [idsWhere_succ_of_kept found kept, List.nodup_append]
        refine ⟨ih, by simp, ?_⟩
        intro id mem last among
        rw [List.mem_singleton.mp among]
        rintro rfl
        have := (mem_idsWhere_iff distinct found).mp mem
        omega

variable {script : Answers} {shown : Nat → Bool}

theorem answersBelow_zero (q : Questionnaire) (script : Answers) (shown : Nat → Bool) :
    q.answersBelow script shown 0 = ∅ := by
  apply Table.ext
  intro k
  unfold answersBelow
  rw [Table.get?_restrict]
  rfl

theorem answersBelow_add_of_dropped (dropped : ∀ i, n ≤ i → i < n + m → shown i = false) :
    q.answersBelow script shown (n + m) = q.answersBelow script shown n := by
  unfold answersBelow
  rw [idsWhere_add_of_dropped dropped]

/-- A question that is shown adds its answer. -/
theorem get?_answersBelow_succ {question : Question} (found : q.questions[n]? = some question)
    (kept : shown n = true) (k : String) :
    (q.answersBelow script shown (n + 1)).get? k =
      if k = question.id then script.get? question.id
      else (q.answersBelow script shown n).get? k := by
  unfold answersBelow
  rw [idsWhere_succ_of_kept found kept, Table.get?_restrict, Table.get?_restrict]
  by_cases own : k = question.id
  · simp [own]
  · simp [own]

theorem answersBelow_succ_of_answered {question : Question} {answer : Json}
    (found : q.questions[n]? = some question) (kept : shown n = true)
    (answered : script.get? question.id = some answer) :
    q.answersBelow script shown (n + 1) =
      (q.answersBelow script shown n).record question.id answer := by
  apply Table.ext
  intro k
  rw [get?_answersBelow_succ found kept, Answers.record, Table.get?_insert, answered]

/-- A question without an answer adds none. -/
theorem answersBelow_succ_of_unanswered {question : Question}
    (found : q.questions[n]? = some question) (kept : shown n = true)
    (unanswered : script.get? question.id = none) :
    q.answersBelow script shown (n + 1) = q.answersBelow script shown n := by
  apply Table.ext
  intro k
  rw [get?_answersBelow_succ found kept, unanswered]
  split
  · rename_i own
    rw [own, answersBelow, Table.get?_restrict, unanswered, ite_self]
  · rfl

/-- At most one set of positions is shown. -/
theorem OnePass.unique (h : q.OnePass script shown) (h' : q.OnePass script other) :
    shown = other := by
  have agree : ∀ n, ∀ i, i < n → shown i = other i := by
    intro n
    induction n with
    | zero => exact fun i lt => absurd lt (Nat.not_lt_zero i)
    | succ n ih =>
      intro i lt
      rcases Nat.lt_succ_iff_lt_or_eq.mp lt with lt | rfl
      · exact ih i lt
      · have answers : q.answersBelow script shown i = q.answersBelow script other i := by
          unfold answersBelow
          rw [idsWhere_congr ih]
        rw [Bool.eq_iff_iff]
        cases found : q.questions[i]? with
        | none =>
          have beyond : q.size ≤ i := List.getElem?_eq_none_iff.mp found
          constructor
          · intro yes
            exact absurd (h.within i yes) (Nat.not_lt.mpr beyond)
          · intro yes
            exact absurd (h'.within i yes) (Nat.not_lt.mpr beyond)
        | some question =>
          rcases Nat.eq_zero_or_pos i with rfl | pos
          · rw [h.first, h'.first]
          · rw [h.further i question pos found, h'.further i question pos found, answers]
  funext i
  exact agree (i + 1) i (Nat.lt_succ_self i)

theorem OnePass.isVisible_iff (h : q.OnePass script shown) {i : Nat} {question : Question}
    (pos : 0 < i) (found : q.questions[i]? = some question) :
    shown i = true ↔ question.isVisible (q.answersBelow script shown i) = .ok true := by
  rw [h.further i question pos found, Question.isVisible_eq_true_iff]

/-- Positions whose questions are not visible by the answers so far are not shown. -/
theorem OnePass.passes (h : q.OnePass script shown) (pos : 0 < n) {hidden rest : List Question}
    (ahead : q.questions.drop n = hidden ++ rest)
    (invisible : ∀ p ∈ hidden, p.isVisible (q.answersBelow script shown n) = .ok false) :
    ∀ i, n ≤ i → i < n + hidden.length → shown i = false := by
  have passed : ∀ m, m ≤ hidden.length → ∀ i, n ≤ i → i < n + m → shown i = false := by
    intro m
    induction m with
    | zero =>
      intro _ i le lt
      omega
    | succ m ih =>
      intro le i ge lt
      have before := ih (by omega)
      obtain lt | rfl : i < n + m ∨ i = n + m := by omega
      · exact before i ge lt
      · have inside : m < hidden.length := by omega
        have found : q.questions[n + m]? = some hidden[m] := by
          rw [← List.getElem?_drop, ahead, List.getElem?_append_left inside,
            List.getElem?_eq_getElem]
        rw [Bool.eq_false_iff, ne_eq, h.isVisible_iff (by omega) found,
          answersBelow_add_of_dropped before, invisible _ (List.getElem_mem _)]
        simp
  exact passed hidden.length (Nat.le_refl _)

/-- The next question that is visible by the answers so far stands at the next position shown. -/
theorem OnePass.stops (h : q.OnePass script shown) (pos : 0 < n) {hidden rest : List Question}
    {question : Question} (ahead : q.questions.drop n = hidden ++ question :: rest)
    (invisible : ∀ p ∈ hidden, p.isVisible (q.answersBelow script shown n) = .ok false)
    (visible : question.isVisible (q.answersBelow script shown n) = .ok true) :
    q.questions[n + hidden.length]? = some question ∧ shown (n + hidden.length) = true := by
  have found := getElem?_of_drop ahead
  refine ⟨found, ?_⟩
  rw [h.isVisible_iff (by omega) found,
    answersBelow_add_of_dropped (h.passes pos ahead invisible)]
  exact visible

theorem idsWhere_subset (q : Questionnaire) (keep : Nat → Bool) (n : Nat) :
    q.idsWhere keep n ⊆ q.idsWhere keep q.size := by
  intro id mem
  obtain ⟨i, question, -, kept, found, same⟩ := mem_idsWhere.mp mem
  exact mem_idsWhere.mpr ⟨i, question, (List.getElem?_eq_some_iff.mp found).1, kept, found, same⟩

/-- Answers to questions that are not shown decide nothing. -/
theorem OnePass.of_agree (h : q.OnePass script shown) {more : Answers}
    (agree : ∀ id ∈ q.idsWhere shown q.size, more.get? id = script.get? id) :
    q.OnePass more shown := by
  have answers : ∀ n, q.answersBelow more shown n = q.answersBelow script shown n := by
    intro n
    apply Table.restrict_congr
    intro id mem
    exact agree id (q.idsWhere_subset shown n (of_decide_eq_true mem))
  refine ⟨h.within, h.first, ?_⟩
  intro i question pos found
  rw [answers]
  exact h.further i question pos found

/-- Whether a position is shown, by the ids of those shown before it. -/
def showsAt (q : Questionnaire) (script : Answers) (before : List String) (i : Nat) : Bool :=
  match q.questions[i]? with
  | none => false
  | some question =>
    i == 0 || match question.isVisible (script.restrict fun id => id ∈ before) with
      | .ok visible => visible
      | .error _ => false

/-- The ids of the positions below `n` that are shown, found one after the other. -/
def idsShown (q : Questionnaire) (script : Answers) : Nat → List String
  | 0 => []
  | n + 1 => q.idsShown script n ++
    if q.showsAt script (q.idsShown script n) n then (q.questions[n]?.map (·.id)).toList else []

theorem idsShown_eq (q : Questionnaire) (script : Answers) (n : Nat) :
    q.idsShown script n =
      q.idsWhere (fun i => q.showsAt script (q.idsShown script i) i) n := by
  induction n with
  | zero => rfl
  | succ n ih =>
    rw [idsShown, idsWhere_succ, ← ih]

/-- Some set of positions is shown. -/
theorem exists_onePass (q : Questionnaire) (asks : q.questions ≠ []) (script : Answers) :
    ∃ shown, q.OnePass script shown := by
  refine ⟨fun i => q.showsAt script (q.idsShown script i) i, ?_, ?_, ?_⟩
  · intro i yes
    unfold showsAt at yes
    split at yes
    · cases yes
    · rename_i question found
      exact (List.getElem?_eq_some_iff.mp found).1
  · obtain ⟨question, rest, questions⟩ := List.exists_cons_of_ne_nil asks
    simp [showsAt, questions]
  · intro i question pos found
    have later : (i == 0) = false := by
      rw [beq_eq_false_iff_ne]
      omega
    unfold answersBelow
    rw [← idsShown_eq, ← Question.isVisible_eq_true_iff]
    simp only [showsAt, found, later, Bool.false_or]
    cases question.isVisible (script.restrict fun id => id ∈ q.idsShown script i) with
    | error bad => simp
    | ok visible => simp

end Inquiry.Questionnaire
