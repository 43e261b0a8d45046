import Inquiry.Proofs.Json.Decode

/-!
The written form of questionnaires and of their parts.

Of all that a questionnaire holds only one thing is lost when it is written and read again: that an
operand is null, and not absent. Main statement: `Questionnaire.written_settles`.
-/
theorem List.map_eq_self_iff {α : Type} {f : α → α} {items : List α} :
    items.map f = items ↔ ∀ a ∈ items, f a = a := by
  simpa using List.map_inj_left (f := f) (g := fun a => a) (l := items)

theorem Option.map_eq_self_iff {α : Type} {f : α → α} {o : Option α} :
    o.map f = o ↔ ∀ a ∈ o, f a = a := by
  cases o <;> simp

/-- What stands of everything in an option within an option stands of what the two come to. -/
theorem Option.forall_mem_join {α : Type} {P : α → Prop} {o : Option (Option α)}
    (h : ∀ inner ∈ o, ∀ a ∈ inner, P a) : ∀ a ∈ o.join, P a :=
  fun a there => h _ (Option.join_eq_some_iff.mp there) a rfl

/-- Some result of every value that is there. -/
theorem Option.join_map_some {α β : Type} (f : α → β) (o : Option α) :
    (o.map fun a => some (f a)).join = o.map f := by
  cases o <;> rfl

namespace Inquiry

open Json (takeField_of_find find_optional toOptional_of_ne_null toSequence_map mapM_map
  toText_string)

/-- What becomes of a kind of value when it is written and read again: it comes back without the
nulls among the operands of its conditions, so as it was just if there are none, and what was read
once comes back as it was. -/
structure Settles {α : Type} (write : α → Json) (read : Json → Except DecodeError α)
    (withoutNulls : α → α) (conditions : α → List Condition) : Prop where
  reads : ∀ a, read (write a) = .ok (withoutNulls a)
  exact_iff : ∀ a, read (write a) = .ok a ↔ ∀ c ∈ conditions a, c.value ≠ some .null
  again : ∀ json a, read json = .ok a → read (write a) = .ok a

namespace Settles

variable {α : Type} {write : α → Json} {read : Json → Except DecodeError α}
variable {withoutNulls : α → α} {conditions : α → List Condition}

theorem of_reads (reads : ∀ a, read (write a) = .ok (withoutNulls a))
    (same : ∀ a, withoutNulls a = a ↔ ∀ c ∈ conditions a, c.value ≠ some .null)
    (clear : ∀ json, Yields (read json) fun a => ∀ c ∈ conditions a, c.value ≠ some .null) :
    Settles write read withoutNulls conditions := by
  have exact_iff : ∀ a, read (write a) = .ok a ↔ ∀ c ∈ conditions a, c.value ≠ some .null := by
    intro a
    rw [reads, Except.ok.injEq, same]
  exact ⟨reads, exact_iff, fun json a done => (exact_iff a).mpr (clear json a done)⟩

/-- What does not depend on the nulls comes back as it was. -/
theorem keeps {β : Type} {shape : α → β} (h : Settles write read withoutNulls conditions)
    (same : ∀ a, shape (withoutNulls a) = shape a) (a b : α) (done : read (write a) = .ok b) :
    shape b = shape a := by
  rw [h.reads, Except.ok.injEq] at done
  rw [← done, same]

end Settles

namespace Operator

theorem ofJson_name (op : Operator) : ofJson (.string op.name) = .ok op := by
  simp [ofJson, Json.toText, ofName?_name, bind, Except.bind, pure, Except.pure]

end Operator

namespace Condition

/-- The condition with no operand in place of one that is null. -/
def withoutNull (c : Condition) : Condition := { c with value := c.value.filter (· ≠ .null) }

theorem withoutNull_eq_iff (c : Condition) : c.withoutNull = c ↔ c.value ≠ some .null := by
  obtain ⟨question, operator, value, values⟩ := c
  cases value with
  | none => simp [withoutNull]
  | some v => by_cases null : v = .null <;> simp [withoutNull, Option.filter, null]

/-- A condition is read off an object by four of its fields. -/
theorem ofJson_object {c : Condition} {fields : List (String × Json)}
    (operator : Table.find "operator" fields = some (.string c.operator.name))
    (question : Table.find "questionId" fields = some (.string c.question))
    (value : Table.find "value" fields = c.value)
    (values : Table.find "values" fields = c.values.map .array) :
    ofJson (.object fields) = .ok c.withoutNull := by
  have operand : ∀ v, Json.toOptional Json.toValue v = .ok ((some v).filter (· ≠ .null)) := by
    intro v
    cases v <;> rfl
  have candidates : ∀ items, Json.toOptional (Json.toSequence Json.toValue) (.array items) =
      .ok (some items) := by
    intro items
    have same : ∀ v, Json.toValue (id v) = .ok v := fun _ => rfl
    have read := toSequence_map same items
    rw [List.map_id] at read
    exact toOptional_of_ne_null (by simp) read
  have operator := takeField_of_find (a := some c.operator) operator Operator.ofJson_name
  have question := takeField_of_find (a := some c.question) question toText_string
  have value := takeField_of_find (value.trans Option.map_id'.symm) operand
  have values := takeField_of_find values candidates
  simp only [ofJson, Json.toRecord, operator, question, value, values]
  change Except.ok (Condition.mk c.question c.operator (Option.join _) (Option.join _)) = _
  have kept : (c.value.map fun v => (some v).filter (· ≠ .null)).join =
      c.value.filter (· ≠ .null) := by
    cases c.value <;> rfl
  rw [kept, Option.join_map_some, Option.map_id']
  rfl

theorem ofJson_toJson (c : Condition) : ofJson c.toJson = .ok c.withoutNull := by
  apply ofJson_object <;> simp [Table.find_append, Table.find, find_optional]

theorem ofJson_yields (json : Json) : Yields (ofJson json) fun c => c.value ≠ some .null := by
  apply Json.toRecord_yields
  · intro entries
    refine (Yields.trivial _).bind fun operator _ => ?_
    refine (Yields.trivial _).bind fun question _ => ?_
    refine (Json.takeField_yields Json.toOptional_toValue_yields "value" entries).bind
      fun value clear => ?_
    refine (Yields.trivial _).bind fun values _ => ?_
    refine (Yields.trivial _).bind fun _ _ => ?_
    refine (Yields.trivial _).bind fun _ _ => ?_
    exact .pure fun null => clear _ (Option.join_eq_some_iff.mp null) rfl
  · intro wanted
    refine (Json.RowReader.Yields.trivial _).bind fun question _ => ?_
    refine (Json.RowReader.Yields.trivial _).bind fun operator _ => ?_
    refine (Json.RowReader.Yields.takeItem? Json.toOptional_toValue_yields).bind
      fun value clear => ?_
    refine (Json.RowReader.Yields.trivial _).bind fun values _ => ?_
    exact .pure fun null => clear _ (Option.join_eq_some_iff.mp null) rfl

theorem settles : Settles toJson ofJson withoutNull fun c => [c] := by
  apply Settles.of_reads ofJson_toJson
  · simp [withoutNull_eq_iff]
  · simpa using ofJson_yields

end Condition

namespace Guard

/-- The guard without nulls among the operands of its conditions. -/
def withoutNulls : Guard → Guard
  | one condition => one condition.withoutNull
  | all conditions => all (conditions.map Condition.withoutNull)

/-- Whether a guard is one condition, or a list of so many. -/
def shape : Guard → Option Nat
  | one _ => none
  | all conditions => some conditions.length

theorem shape_withoutNulls (g : Guard) : g.withoutNulls.shape = g.shape := by
  cases g with
  | one condition => rfl
  | all conditions => simp [withoutNulls, shape]

theorem withoutNulls_eq_iff (g : Guard) :
    g.withoutNulls = g ↔ ∀ c ∈ g.conditions, c.value ≠ some .null := by
  cases g with
  | one condition => simp [withoutNulls, conditions, Condition.withoutNull_eq_iff]
  | all conditions =>
    simp [withoutNulls, Guard.conditions, Condition.withoutNull_eq_iff, List.map_eq_self_iff]

theorem ofJson_toJson (g : Guard) : ofJson g.toJson = .ok g.withoutNulls := by
  cases g with
  | one condition =>
    change one <$> Condition.ofJson condition.toJson = _
    rw [Condition.ofJson_toJson]
    rfl
  | all conditions =>
    change all <$> (conditions.map Condition.toJson).mapM Condition.ofJson = _
    rw [mapM_map Condition.ofJson_toJson]
    rfl

theorem ofJson_yields (json : Json) :
    Yields (ofJson json) fun g => ∀ c ∈ g.conditions, c.value ≠ some .null := by
  unfold ofJson
  split
  · exact .map (.mapM fun item _ => Condition.ofJson_yields item)
  · apply Yields.map
    simpa [conditions] using Condition.ofJson_yields _

theorem settles : Settles toJson ofJson withoutNulls conditions :=
  .of_reads ofJson_toJson withoutNulls_eq_iff ofJson_yields

/-- A guard is written as an object or as an array. -/
theorem toOptional_toJson (g : Guard) :
    Json.toOptional ofJson g.toJson = .ok (some g.withoutNulls) := by
  refine toOptional_of_ne_null ?_ g.ofJson_toJson
  cases g <;> simp [toJson, Condition.toJson]

end Guard

namespace Rules

def withoutNulls (r : Rules) : Rules where
  showIf := r.showIf.map Guard.withoutNulls
  hideIf := r.hideIf.map Guard.withoutNulls
  skipIf := r.skipIf.map Guard.withoutNulls
  requiredIf := r.requiredIf.map Guard.withoutNulls

/-- Which guards are there, and of which shape. -/
def shape (r : Rules) : List (Option (Option Nat)) :=
  [r.showIf, r.hideIf, r.skipIf, r.requiredIf].map (Option.map Guard.shape)

theorem shape_withoutNulls (r : Rules) : r.withoutNulls.shape = r.shape := by
  simp [withoutNulls, shape, Function.comp_def, Guard.shape_withoutNulls]

/-- What stands of all conditions stands of those of every guard. -/
theorem forall_conditions {r : Rules} {P : Condition → Prop} :
    (∀ c ∈ r.conditions, P c) ↔
      (∀ g ∈ r.showIf, ∀ c ∈ g.conditions, P c) ∧ (∀ g ∈ r.hideIf, ∀ c ∈ g.conditions, P c) ∧
      (∀ g ∈ r.skipIf, ∀ c ∈ g.conditions, P c) ∧ ∀ g ∈ r.requiredIf, ∀ c ∈ g.conditions, P c := by
  simp only [conditions, guards, List.forall_mem_flatMap, List.forall_mem_append, and_assoc]
  simp

theorem withoutNulls_eq_iff (r : Rules) :
    r.withoutNulls = r ↔ ∀ c ∈ r.conditions, c.value ≠ some .null := by
  rw [forall_conditions]
  obtain ⟨showIf, hideIf, skipIf, requiredIf⟩ := r
  simp only [withoutNulls, mk.injEq, Option.map_eq_self_iff, Guard.withoutNulls_eq_iff]

/-- Rules are read off an object by four of its fields. -/
theorem ofJson_object {r : Rules} {fields : List (String × Json)}
    (hideIf : Table.find "hideIf" fields = r.hideIf.map Guard.toJson)
    (requiredIf : Table.find "requiredIf" fields = r.requiredIf.map Guard.toJson)
    (showIf : Table.find "showIf" fields = r.showIf.map Guard.toJson)
    (skipIf : Table.find "skipIf" fields = r.skipIf.map Guard.toJson) :
    ofJson (.object fields) = .ok r.withoutNulls := by
  have hideIf := takeField_of_find hideIf Guard.toOptional_toJson
  have requiredIf := takeField_of_find requiredIf Guard.toOptional_toJson
  have showIf := takeField_of_find showIf Guard.toOptional_toJson
  have skipIf := takeField_of_find skipIf Guard.toOptional_toJson
  simp only [ofJson, ofJson.guard, Json.toRecord, hideIf, requiredIf, showIf, skipIf]
  change Except.ok (Rules.mk (Option.join _) (Option.join _) (Option.join _) (Option.join _)) = _
  simp only [Option.join_map_some]
  rfl

theorem ofJson_toJson (r : Rules) : ofJson r.toJson = .ok r.withoutNulls := by
  apply ofJson_object <;> simp [Table.find_append, find_optional]

theorem ofJson_yields (json : Json) :
    Yields (ofJson json) fun r => ∀ c ∈ r.conditions, c.value ≠ some .null := by
  have guards := Json.toOptional_yields Guard.ofJson_yields
  apply Json.toRecord_yields
  · intro entries
    have field := fun name => Json.takeField_yields guards name entries
    refine (field "hideIf").bind fun hideIf hides => ?_
    refine (field "requiredIf").bind fun requiredIf requires => ?_
    refine (field "showIf").bind fun showIf shows => ?_
    refine (field "skipIf").bind fun skipIf skips => ?_
    refine .pure (forall_conditions.mpr ⟨?_, ?_, ?_, ?_⟩)
    · exact Option.forall_mem_join shows
    · exact Option.forall_mem_join hides
    · exact Option.forall_mem_join skips
    · exact Option.forall_mem_join requires
  · intro wanted
    have item := Json.RowReader.Yields.takeItem? guards
    refine item.bind fun showIf shows => ?_
    refine item.bind fun hideIf hides => ?_
    refine item.bind fun skipIf skips => ?_
    refine item.bind fun requiredIf requires => ?_
    refine .pure (forall_conditions.mpr ⟨?_, ?_, ?_, ?_⟩)
    · exact Option.forall_mem_join shows
    · exact Option.forall_mem_join hides
    · exact Option.forall_mem_join skips
    · exact Option.forall_mem_join requires

theorem settles : Settles toJson ofJson withoutNulls conditions :=
  .of_reads ofJson_toJson withoutNulls_eq_iff ofJson_yields

end Rules

theorem AnswerKind.ofJson_name (kind : AnswerKind) : ofJson (.string kind.name) = .ok kind := by
  cases kind <;> rfl

namespace Question

def withoutNulls (q : Question) : Question := { q with rules := q.rules.map Rules.withoutNulls }

/-- The conditions of all rules, if there are any. -/
def conditions (q : Question) : List Condition := q.rules.elim [] Rules.conditions

def shape (q : Question) : Option (List (Option (Option Nat))) := q.rules.map Rules.shape

theorem shape_withoutNulls (q : Question) : q.withoutNulls.shape = q.shape := by
  simp [withoutNulls, shape, Function.comp_def, Rules.shape_withoutNulls]

/-- What stands of all conditions stands of those of the rules. -/
theorem forall_conditions {q : Question} {P : Condition → Prop} :
    (∀ c ∈ q.conditions, P c) ↔ ∀ r ∈ q.rules, ∀ c ∈ r.conditions, P c := by
  obtain ⟨id, kind, text, required, rules⟩ := q
  cases rules <;> simp [conditions]

theorem withoutNulls_eq_iff (q : Question) :
    q.withoutNulls = q ↔ ∀ c ∈ q.conditions, c.value ≠ some .null := by
  rw [forall_conditions]
  obtain ⟨id, kind, text, required, rules⟩ := q
  simp only [withoutNulls, mk.injEq, true_and, Option.map_eq_self_iff, Rules.withoutNulls_eq_iff]

/-- A question is read off an object by five of its fields. -/
theorem ofJson_object {q : Question} {fields : List (String × Json)}
    (rules : Table.find "conditional" fields = q.rules.map Rules.toJson)
    (id : Table.find "id" fields = some (.string q.id))
    (required : Table.find "required" fields = some (.bool q.required))
    (text : Table.find "text" fields = some (.string q.text))
    (kind : Table.find "type" fields = some (.string q.kind.name)) :
    ofJson (.object fields) = .ok q.withoutNulls := by
  have present : ∀ r : Rules, Json.toOptional Rules.ofJson r.toJson = .ok (some r.withoutNulls) :=
    fun r => toOptional_of_ne_null nofun r.ofJson_toJson
  have rules := takeField_of_find rules present
  have id := takeField_of_find (a := some q.id) id toText_string
  have flag : ∀ b, Json.toFlag (.bool b) = .ok b := fun _ => rfl
  have required := takeField_of_find (a := some q.required) required flag
  have text := takeField_of_find (a := some q.text) text toText_string
  have kind := takeField_of_find (a := some q.kind) kind AnswerKind.ofJson_name
  simp only [ofJson, Json.toRecord, rules, id, required, text, kind]
  change Except.ok (Question.mk q.id q.kind q.text q.required (Option.join _)) = _
  rw [Option.join_map_some]
  rfl

theorem ofJson_toJson (q : Question) : ofJson q.toJson = .ok q.withoutNulls := by
  apply ofJson_object <;> simp [Table.find_append, Table.find, find_optional]

theorem ofJson_yields (json : Json) :
    Yields (ofJson json) fun q => ∀ c ∈ q.conditions, c.value ≠ some .null := by
  have present := Json.toOptional_yields Rules.ofJson_yields
  apply Json.toRecord_yields
  · intro entries
    refine (Json.takeField_yields present "conditional" entries).bind fun rules clear => ?_
    refine (Yields.trivial _).bind fun id _ => ?_
    refine (Yields.trivial _).bind fun required _ => ?_
    refine (Yields.trivial _).bind fun text _ => ?_
    refine (Yields.trivial _).bind fun kind _ => ?_
    refine (Yields.trivial _).bind fun _ _ => ?_
    exact .pure (forall_conditions.mpr (Option.forall_mem_join clear))
  · intro wanted
    refine (Json.RowReader.Yields.trivial _).bind fun id _ => ?_
    refine (Json.RowReader.Yields.trivial _).bind fun kind _ => ?_
    refine (Json.RowReader.Yields.trivial _).bind fun text _ => ?_
    refine (Json.RowReader.Yields.trivial _).bind fun required _ => ?_
    refine (Json.RowReader.Yields.takeItem? present).bind fun rules clear => ?_
    exact .pure (forall_conditions.mpr (Option.forall_mem_join clear))

theorem settles : Settles toJson ofJson withoutNulls conditions :=
  .of_reads ofJson_toJson withoutNulls_eq_iff ofJson_yields

end Question

namespace Questionnaire

def withoutNulls (q : Questionnaire) : Questionnaire :=
  { q with questions := q.questions.map Question.withoutNulls }

/-- The conditions of all questions. -/
def conditions (q : Questionnaire) : List Condition := q.questions.flatMap Question.conditions

/-- Which guards the questions have, and of which shape. -/
def shape (q : Questionnaire) : List (Option (List (Option (Option Nat)))) :=
  q.questions.map Question.shape

theorem shape_withoutNulls (q : Questionnaire) : q.withoutNulls.shape = q.shape := by
  simp [withoutNulls, shape, Function.comp_def, Question.shape_withoutNulls]

theorem withoutNulls_eq_iff (q : Questionnaire) :
    q.withoutNulls = q ↔ ∀ c ∈ q.conditions, c.value ≠ some .null := by
  obtain ⟨id, title, description, questions⟩ := q
  simp only [withoutNulls, conditions, mk.injEq, true_and, List.map_eq_self_iff,
    Question.withoutNulls_eq_iff, List.forall_mem_flatMap]

theorem ofJson_toJson (q : Questionnaire) : ofJson q.toJson = .ok q.withoutNulls := by
  have questions : Json.toSequence Question.ofJson (.array (q.questions.map Question.toJson)) =
      .ok (q.questions.map Question.withoutNulls) :=
    mapM_map Question.ofJson_toJson q.questions
  simp [ofJson, toJson, Json.toRecord, Json.takeField, Table.find, questions, toText_string]
  rfl

theorem ofJson_yields (json : Json) :
    Yields (ofJson json) fun q => ∀ c ∈ q.conditions, c.value ≠ some .null := by
  have listed := Json.toSequence_yields Question.ofJson_yields
  have clear : ∀ questions : Option (List Question),
      (∀ items ∈ questions, ∀ q ∈ items, ∀ c ∈ q.conditions, c.value ≠ some .null) →
      ∀ c ∈ (questions.getD []).flatMap Question.conditions, c.value ≠ some .null := by
    intro questions each
    cases questions with
    | none => simp
    | some items => exact List.forall_mem_flatMap.mpr (each items rfl)
  apply Json.toRecord_yields
  · intro entries
    refine (Yields.trivial _).bind fun description _ => ?_
    refine (Yields.trivial _).bind fun id _ => ?_
    refine (Json.takeField_yields listed "questions" entries).bind fun questions each => ?_
    refine (Yields.trivial _).bind fun title _ => ?_
    refine (Yields.trivial _).bind fun _ _ => ?_
    exact .pure (clear questions each)
  · intro wanted
    refine (Json.RowReader.Yields.trivial _).bind fun id _ => ?_
    refine (Json.RowReader.Yields.trivial _).bind fun title _ => ?_
    refine (Json.RowReader.Yields.trivial _).bind fun description _ => ?_
    refine (Json.RowReader.Yields.takeItem? listed).bind fun questions each => ?_
    exact .pure (clear questions each)

theorem settles : Settles toJson ofJson withoutNulls conditions :=
  .of_reads ofJson_toJson withoutNulls_eq_iff ofJson_yields

/-- A questionnaire that is written is read, and it comes back with everything but the nulls among
the operands, which are then absent: so as it was, just if there are none. Every guard comes back
as what it was: one condition, a list of so many, or absent. A questionnaire that was read from any
value comes back as it was read. So do questions, rules, guards and conditions. -/
theorem written_settles :
    Settles toJson ofJson withoutNulls conditions ∧
    Settles Question.toJson Question.ofJson Question.withoutNulls Question.conditions ∧
    Settles Rules.toJson Rules.ofJson Rules.withoutNulls Rules.conditions ∧
    Settles Guard.toJson Guard.ofJson Guard.withoutNulls Guard.conditions ∧
    Settles Condition.toJson Condition.ofJson Condition.withoutNull (fun c => [c]) ∧
    (∀ q q' : Questionnaire, ofJson q.toJson = .ok q' → q'.shape = q.shape) ∧
    (∀ q q' : Question, Question.ofJson q.toJson = .ok q' → q'.shape = q.shape) ∧
    (∀ r r' : Rules, Rules.ofJson r.toJson = .ok r' → r'.shape = r.shape) ∧
    ∀ g g' : Guard, Guard.ofJson g.toJson = .ok g' → g'.shape = g.shape := by
  refine ⟨settles, Question.settles, Rules.settles, Guard.settles, Condition.settles, ?_, ?_, ?_,
    ?_⟩
  · exact settles.keeps shape_withoutNulls
  · exact Question.settles.keeps Question.shape_withoutNulls
  · exact Rules.settles.keeps Rules.shape_withoutNulls
  · exact Guard.settles.keeps Guard.shape_withoutNulls

/-- A questionnaire with rules of every shape, and an operand that is null. -/
def layered : Questionnaire :=
  let rules : Rules :=
    { showIf := some (.one (.compare "a" .equals .null))
      hideIf := some (.all [])
      skipIf := some (.all [.oneOf "a" .isIn [.null, .object [("x", .null)]]])
      requiredIf := none }
  ⟨"form", "", "", [.plain "a" .text, { Question.plain "b" .scale with rules := some rules },
    { Question.plain "c" .date with rules := some Rules.none }]⟩

/-- It comes back without that null, and it does not change any more after that. -/
theorem written_settles_layered :
    ofJson layered.toJson ≠ .ok layered ∧
    ofJson layered.toJson = .ok layered.withoutNulls ∧
    ofJson layered.withoutNulls.toJson = .ok layered.withoutNulls ∧
    layered.withoutNulls.shape =
      [none, some [some none, some (some 0), some (some 1), none],
        some [none, none, none, none]] := by
  obtain ⟨settles, -, -, -, -, keeps, -⟩ := written_settles
  have read := settles.reads layered
  have lossy : ¬ ∀ c ∈ layered.conditions, c.value ≠ some .null := by decide +kernel
  refine ⟨fun same => lossy ((settles.exact_iff layered).mp same), read,
    settles.again _ _ read, ?_⟩
  rw [keeps _ _ read]
  rfl

end Questionnaire

end Inquiry
