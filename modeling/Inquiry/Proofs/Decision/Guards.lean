import Inquiry.Proofs.Decision
import Inquiry.Proofs.Questionnaire.Dependencies

namespace Inquiry

variable {answers : Answers} {c : Condition} {conditions xs ys : List Condition}
  {outcome : Except BadPattern Bool}

/-- What comes of the condition at a position of a list, where all conditions before it hold. -/
def OutcomeAt (answers : Answers) (conditions : List Condition) (k : Nat)
    (outcome : Except BadPattern Bool) : Prop :=
  (∀ earlier ∈ conditions.take k, earlier.holds answers = .ok true) ∧
    ∃ c, conditions[k]? = some c ∧ c.holds answers = outcome

theorem outcomeAt_zero_iff :
    OutcomeAt answers (c :: conditions) 0 outcome ↔ c.holds answers = outcome := by
  simp [OutcomeAt]

theorem outcomeAt_succ_iff {k : Nat} :
    OutcomeAt answers (c :: conditions) (k + 1) outcome ↔
      c.holds answers = .ok true ∧ OutcomeAt answers conditions k outcome := by
  simp [OutcomeAt, and_assoc]

/-- The first condition settles the others, unless it holds. -/
theorem allHold_cons (answers : Answers) (c : Condition) (rest : List Condition) :
    allHold answers (c :: rest) =
      if c.holds answers = .ok true then allHold answers rest else c.holds answers := by
  rw [allHold]
  cases c.holds answers with
  | error bad => rw [if_neg (by simp)]; rfl
  | ok held =>
    cases held with
    | true => rw [if_pos rfl]; rfl
    | false => rw [if_neg (by simp)]; rfl

theorem allHold_eq_true_iff :
    allHold answers conditions = .ok true ↔ ∀ c ∈ conditions, c.holds answers = .ok true := by
  induction conditions with
  | nil => simp [allHold]
  | cons c rest ih =>
    rw [allHold_cons, List.forall_mem_cons, ← ih]
    by_cases first : c.holds answers = .ok true
    · rw [if_pos first]
      simp [first]
    · rw [if_neg first]
      simp [first]

/-- What is not true of a list comes of the first condition that does not hold. -/
theorem allHold_eq_iff (stops : outcome ≠ .ok true) :
    allHold answers conditions = outcome ↔ ∃ k, OutcomeAt answers conditions k outcome := by
  induction conditions with
  | nil => simpa [allHold, OutcomeAt] using stops.symm
  | cons c rest ih =>
    rw [allHold_cons]
    by_cases first : c.holds answers = .ok true
    · rw [if_pos first, ih]
      constructor
      · rintro ⟨k, there⟩
        exact ⟨k + 1, outcomeAt_succ_iff.mpr ⟨first, there⟩⟩
      · rintro ⟨k, there⟩
        cases k with
        | zero => exact absurd ((outcomeAt_zero_iff.mp there).symm.trans first) stops
        | succ k => exact ⟨k, (outcomeAt_succ_iff.mp there).2⟩
    · rw [if_neg first]
      constructor
      · intro here
        exact ⟨0, outcomeAt_zero_iff.mpr here⟩
      · rintro ⟨k, there⟩
        cases k with
        | zero => exact outcomeAt_zero_iff.mp there
        | succ k => exact absurd (outcomeAt_succ_iff.mp there).1 first

/-- Lists that are put together are tried one after the other. -/
theorem allHold_append (answers : Answers) (xs ys : List Condition) :
    allHold answers (xs ++ ys) = do
      if ← allHold answers xs then allHold answers ys else return false := by
  induction xs with
  | nil => rfl
  | cons c rest ih =>
    rw [List.cons_append, allHold_cons, allHold_cons, ih]
    by_cases first : c.holds answers = .ok true
    · rw [if_pos first, if_pos first]
    · rw [if_neg first, if_neg first]
      cases outcome : c.holds answers with
      | error bad => rfl
      | ok held =>
        cases held with
        | true => exact absurd outcome first
        | false => rfl

/-- A list of which not all hold is no better than one of its conditions. -/
theorem exists_holds_eq_allHold (stops : allHold answers conditions ≠ .ok true) :
    ∃ c ∈ conditions, c.holds answers = allHold answers conditions := by
  obtain ⟨k, -, c, found, same⟩ := (allHold_eq_iff stops).mp rfl
  exact ⟨c, List.mem_of_getElem? found, same⟩

/-- In whatever order and number the same conditions are tried, they all hold or they do not. If
they do not, what comes of them comes of one of them. -/
theorem allHold_of_same (same : ∀ c, c ∈ xs ↔ c ∈ ys) :
    (allHold answers xs = .ok true ↔ allHold answers ys = .ok true) ∧
    (allHold answers xs ≠ .ok true → allHold answers ys = .ok false ∨
      ∃ c ∈ xs, ∃ bad, c.holds answers = .error bad ∧ allHold answers ys = .error bad) := by
  have alike : allHold answers xs = .ok true ↔ allHold answers ys = .ok true := by
    simp only [allHold_eq_true_iff, same]
  refine ⟨alike, fun stops => ?_⟩
  obtain ⟨c, mem, outcome⟩ := exists_holds_eq_allHold (mt alike.mpr stops)
  cases result : allHold answers ys with
  | error bad => exact .inr ⟨c, (same c).mpr mem, bad, outcome.trans result, rfl⟩
  | ok held =>
    cases held with
    | true => exact absurd (alike.mpr result) stops
    | false => exact .inl rfl

/-- A decision that does not fail, and what it depends on. -/
def Decides (outcome : Except BadPattern Bool) (p : Prop) : Prop :=
  ∃ b, outcome = .ok b ∧ (b = true ↔ p)

/-- Decisions that depend on the same are the same. -/
theorem Decides.unique {other : Except BadPattern Bool} {p : Prop} (h : Decides outcome p)
    (h' : Decides other p) : outcome = other := by
  obtain ⟨b, rfl, held⟩ := h
  obtain ⟨d, rfl, held'⟩ := h'
  rw [Bool.eq_iff_iff.mpr (held.trans held'.symm)]

theorem Decides.congr {p r : Prop} (h : Decides outcome p) (same : p ↔ r) :
    Decides outcome r := by
  obtain ⟨b, decided, held⟩ := h
  exact ⟨b, decided, held.trans same⟩

namespace Guard

variable {g h : Guard} {guard other : Option Guard}

/-- Guards with the same conditions, in any order and any number. -/
def Same (g h : Guard) : Prop := ∀ c, c ∈ g.conditions ↔ c ∈ h.conditions

/-- All conditions of a guard hold. -/
def AllHold (answers : Answers) (g : Guard) : Prop := ∀ c ∈ g.conditions, c.holds answers = .ok true

/-- No condition of a guard fails. -/
def Settled (answers : Answers) (g : Guard) : Prop :=
  ∀ c ∈ g.conditions, ∃ b, c.holds answers = .ok b

theorem Same.allHold_iff (same : g.Same h) : g.AllHold answers ↔ h.AllHold answers := by
  simp only [AllHold, same _]

theorem Same.settled (same : g.Same h) (settled : g.Settled answers) : h.Settled answers :=
  fun c mem => settled c ((same c).mpr mem)

theorem Settled.holds (settled : g.Settled answers) :
    Decides (g.holds answers) (g.AllHold answers) := by
  cases result : g.holds answers with
  | ok b =>
    refine ⟨b, rfl, ?_⟩
    rw [AllHold, ← allHold_eq_true_iff, ← Guard.holds, result, Except.ok.injEq]
  | error bad =>
    have stops : allHold answers g.conditions ≠ .ok true := by
      rw [← Guard.holds, result]
      simp
    obtain ⟨c, mem, failed⟩ := exists_holds_eq_allHold stops
    obtain ⟨b, decided⟩ := settled c mem
    rw [decided, ← Guard.holds, result] at failed
    cases failed

/-- Where no condition fails, a guard that does not hold has a condition that is false. -/
theorem Settled.not_allHold_iff (settled : g.Settled answers) :
    ¬ g.AllHold answers ↔ ∃ c ∈ g.conditions, c.holds answers = .ok false := by
  simp only [AllHold, not_forall, exists_prop]
  refine exists_congr fun c => and_congr_right fun mem => ?_
  obtain ⟨b, decided⟩ := settled c mem
  cases b <;> simp [decided]

/-- A guard that may be absent is decided by whether it is, or by its conditions. -/
theorem decides_holdsOr (absent : Bool) (settled : ∀ g ∈ guard, g.Settled answers) :
    Decides (holdsOr absent guard answers)
      ((guard = none ∧ absent = true) ∨ ∃ g ∈ guard, g.AllHold answers) := by
  cases guard with
  | none => exact ⟨absent, rfl, by simp⟩
  | some g => exact (settled g rfl).holds.congr (by simp)

/-- Where no condition fails, the order of the conditions does not matter. -/
theorem holdsOr_of_same (absent : Bool) (same : Option.Rel Same guard other)
    (settled : ∀ g ∈ guard, g.Settled answers) :
    holdsOr absent guard answers = holdsOr absent other answers := by
  cases same with
  | none => rfl
  | @some g h same =>
    have first := (settled g rfl).holds.congr same.allHold_iff
    exact first.unique (same.settled (settled g rfl)).holds

end Guard

/-- Rules with the same conditions in each place. -/
structure Rules.Same (r s : Rules) : Prop where
  showIf : Option.Rel Guard.Same r.showIf s.showIf
  hideIf : Option.Rel Guard.Same r.hideIf s.hideIf
  skipIf : Option.Rel Guard.Same r.skipIf s.skipIf
  requiredIf : Option.Rel Guard.Same r.requiredIf s.requiredIf

namespace Question

variable {p q : Question}

/-- No condition in the rules of a question fails. -/
def Settled (q : Question) (answers : Answers) : Prop :=
  ∀ c ∈ q.ruleSet.conditions, ∃ b, c.holds answers = .ok b

namespace Settled

theorem guard (settled : q.Settled answers) {g : Guard} (has : q.ruleSet.Has g) :
    g.Settled answers :=
  fun c mem => settled c (Rules.mem_conditions_iff.mpr ⟨g, has, mem⟩)

theorem showIf (settled : q.Settled answers) : ∀ g ∈ q.ruleSet.showIf, g.Settled answers :=
  fun _ there => settled.guard (.inl there)

theorem hideIf (settled : q.Settled answers) : ∀ g ∈ q.ruleSet.hideIf, g.Settled answers :=
  fun _ there => settled.guard (.inr (.inl there))

theorem skipIf (settled : q.Settled answers) : ∀ g ∈ q.ruleSet.skipIf, g.Settled answers :=
  fun _ there => settled.guard (.inr (.inr (.inl there)))

theorem requiredIf (settled : q.Settled answers) :
    ∀ g ∈ q.ruleSet.requiredIf, g.Settled answers :=
  fun _ there => settled.guard (.inr (.inr (.inr there)))

theorem isSkipped (settled : q.Settled answers) :
    Decides (q.isSkipped answers) (∃ g ∈ q.ruleSet.skipIf, g.AllHold answers) :=
  (Guard.decides_holdsOr false settled.skipIf).congr (by simp)

theorem isRequired (settled : q.Settled answers) :
    Decides (q.isRequired answers)
      (q.required = true ∨ ∃ g ∈ q.ruleSet.requiredIf, g.AllHold answers) := by
  unfold Question.isRequired
  split
  · rename_i always
    exact ⟨true, rfl, by simp [always]⟩
  · rename_i optional
    exact (Guard.decides_holdsOr false settled.requiredIf).congr (by simp [optional])

theorem isShown (settled : q.Settled answers) :
    Decides (q.isShown answers) ((∀ g ∈ q.ruleSet.showIf, g.AllHold answers) ∧
      ∀ g ∈ q.ruleSet.hideIf, ∃ c ∈ g.conditions, c.holds answers = .ok false) := by
  obtain ⟨shows, first, shown⟩ := Guard.decides_holdsOr true settled.showIf
  obtain ⟨hides, second, hidden⟩ := Guard.decides_holdsOr false settled.hideIf
  have result : q.isShown answers = .ok (shows && !hides) := by
    unfold Question.isShown
    rw [first, second]
    cases shows <;> rfl
  have shownIf : shows = true ↔ ∀ g ∈ q.ruleSet.showIf, g.AllHold answers := by
    rw [shown]
    cases q.ruleSet.showIf <;> simp
  have hiddenIf : hides = true ↔ ∃ g ∈ q.ruleSet.hideIf, g.AllHold answers := by
    rw [hidden]
    simp
  refine ⟨_, result, ?_⟩
  rw [Bool.and_eq_true, Bool.not_eq_true', ← Bool.not_eq_true, shownIf, hiddenIf, not_exists]
  refine and_congr_right fun _ => forall_congr' fun g => ?_
  rw [not_and]
  exact forall_congr' fun there => (settled.hideIf g there).not_allHold_iff

/-- Where no condition fails, rules with the same conditions decide alike. -/
theorem of_same (settled : q.Settled answers) (required : p.required = q.required)
    (same : q.ruleSet.Same p.ruleSet) :
    p.isShown answers = q.isShown answers ∧ p.isSkipped answers = q.isSkipped answers ∧
      p.isRequired answers = q.isRequired answers := by
  have shows := Guard.holdsOr_of_same true same.showIf settled.showIf
  have hides := Guard.holdsOr_of_same false same.hideIf settled.hideIf
  have skips := Guard.holdsOr_of_same false same.skipIf settled.skipIf
  have requires := Guard.holdsOr_of_same false same.requiredIf settled.requiredIf
  refine ⟨?_, skips.symm, ?_⟩
  · unfold Question.isShown
    rw [shows, hides]
  · unfold Question.isRequired
    rw [requires, required]

end Settled

end Question

/-- A guard is the conjunction of its conditions, tried in order: it is true just if all of them
are, and else it is what the first one is that is not true. So guards that are put together are
tried one after the other, one condition is the same as a list of it, and of the same conditions in
another order and number only which of them is false or fails first can differ. Where no condition
of a question fails, its rules are plain conjunctions: it is shown unless a condition to show fails
or all conditions to hide hold, skipped if there are conditions to skip it which all hold, required
by itself or if there are conditions to require it which all hold, and no order matters. -/
theorem decisions_conjunctive (answers : Answers) :
    (∀ g : Guard,
      (g.holds answers = .ok true ↔ ∀ c ∈ g.conditions, c.holds answers = .ok true) ∧
      (g.holds answers = .ok false ↔ ∃ k, OutcomeAt answers g.conditions k (.ok false)) ∧
      ∀ bad, g.holds answers = .error bad ↔ ∃ k, OutcomeAt answers g.conditions k (.error bad)) ∧
    (∀ xs ys, (Guard.all (xs ++ ys)).holds answers = do
      if ← (Guard.all xs).holds answers then (Guard.all ys).holds answers else return false) ∧
    (∀ c, (Guard.one c).holds answers = (Guard.all [c]).holds answers) ∧
    (∀ g h : Guard, g.Same h →
      (g.holds answers = .ok true ↔ h.holds answers = .ok true) ∧
      (g.holds answers ≠ .ok true → h.holds answers = .ok false ∨ ∃ c ∈ g.conditions, ∃ bad,
        c.holds answers = .error bad ∧ h.holds answers = .error bad)) ∧
    ∀ q : Question, q.Settled answers →
      Decides (q.isShown answers)
        ((∀ g ∈ q.ruleSet.showIf, ∀ c ∈ g.conditions, c.holds answers = .ok true) ∧
          ∀ g ∈ q.ruleSet.hideIf, ∃ c ∈ g.conditions, c.holds answers = .ok false) ∧
      Decides (q.isSkipped answers)
        (∃ g ∈ q.ruleSet.skipIf, ∀ c ∈ g.conditions, c.holds answers = .ok true) ∧
      Decides (q.isRequired answers) (q.required = true ∨
        ∃ g ∈ q.ruleSet.requiredIf, ∀ c ∈ g.conditions, c.holds answers = .ok true) ∧
      ∀ p : Question, p.required = q.required → q.ruleSet.Same p.ruleSet →
        p.isShown answers = q.isShown answers ∧ p.isSkipped answers = q.isSkipped answers ∧
          p.isRequired answers = q.isRequired answers := by
  refine ⟨fun g => ⟨allHold_eq_true_iff, allHold_eq_iff (by simp), fun bad => ?_⟩, ?_, ?_, ?_, ?_⟩
  · exact allHold_eq_iff (by simp)
  · exact allHold_append answers
  · exact fun _ => rfl
  · exact fun g h same => allHold_of_same same
  · intro q settled
    exact ⟨settled.isShown, settled.isSkipped, settled.isRequired, fun p => settled.of_same⟩

/-- A question that is hidden if these conditions hold, and skipped by an empty list of them. -/
def Question.guarded (hideIf : List Condition) : Question :=
  { Question.plain "b" .text with rules := some { Rules.none with
      showIf := some (.one (.compare "a" .equals (.string "x")))
      hideIf := some (.all hideIf)
      skipIf := some (.all []) } }

/-- One condition fails, another one is false: which of them comes first decides what the list comes
to. Where none fails, the question is shown in whatever order its conditions stand. -/
theorem decisions_conjunctive_reordered :
    let answers : Answers := Table.ofList [("a", .string "x")]
    let fails := Condition.compare "a" .matchesPattern (.string "(")
    let differs := Condition.compare "a" .equals (.string "y")
    let agrees := Condition.compare "a" .equals (.string "x")
    (Guard.all [agrees, fails, differs]).holds answers = .error ⟨fails, .malformed⟩ ∧
      (Guard.all [differs, fails, differs, agrees]).holds answers ≠ .ok true ∧
      (Question.guarded [agrees, differs]).isShown answers = .ok true ∧
      (Question.guarded [agrees, differs]).isSkipped answers = .ok true ∧
      (Question.guarded [differs, agrees, differs]).isShown answers = .ok true := by
  intro answers fails differs agrees
  obtain ⟨outcomes, -, -, reordered, decided⟩ := decisions_conjunctive answers
  have unread : Pattern.readAll "(".toList = none := by
    rw [← Option.isNone_iff_eq_none]
    decide +kernel
  have unusable : Pattern.compile "(" = .error .malformed := by rw [Pattern.compile, unread]
  have failed : fails.holds answers = .error ⟨fails, .malformed⟩ := by
    change fails.findsPattern (some (.string "x")) = _
    simp only [Condition.findsPattern, fails, Condition.compare, unusable]
  have held : agrees.holds answers = .ok true := by decide +kernel
  have denied : differs.holds answers = .ok false := by decide +kernel
  have first : (Guard.all [agrees, fails, differs]).holds answers = .error ⟨fails, .malformed⟩ :=
    ((outcomes _).2.2 _).mpr ⟨1, by simpa [Guard.conditions] using held, fails, rfl, failed⟩
  have same : (Guard.all [agrees, fails, differs]).Same (.all [differs, fails, differs, agrees]) :=
    fun c => by simp [Guard.conditions]; tauto
  have settled : (Question.guarded [agrees, differs]).Settled answers := by
    intro c mem
    have among : c = agrees ∨ c = differs := by
      simpa [Question.guarded, Question.ruleSet, Rules.conditions, Rules.guards, Rules.none,
        Guard.conditions, agrees] using mem
    rcases among with rfl | rfl
    · exact ⟨true, held⟩
    · exact ⟨false, denied⟩
  obtain ⟨⟨shown, shows, when⟩, ⟨skipped, skips, when'⟩, -, alike⟩ := decided _ settled
  have visible : shown = true := by
    refine when.mpr ⟨?_, ?_⟩
    · rintro _ ⟨⟩ c mem
      rwa [List.mem_singleton.mp mem]
    · rintro _ ⟨⟩
      exact ⟨differs, by simp [Guard.conditions], denied⟩
  have passed : skipped = true := when'.mpr ⟨_, rfl, by simp [Guard.conditions]⟩
  have again : (Question.guarded [agrees, differs]).ruleSet.Same
      (Question.guarded [differs, agrees, differs]).ruleSet := by
    refine ⟨.some fun _ => Iff.rfl, .some fun c => ?_, .some fun _ => Iff.rfl, .none⟩
    simp [Guard.conditions]
    tauto
  refine ⟨first, mt (reordered _ _ same).1.mpr (by simp [first]), visible ▸ shows,
    passed ▸ skips, ?_⟩
  rw [(alike (Question.guarded [differs, agrees, differs]) rfl again).1, shows, visible]

end Inquiry
