import Inquiry.Questionnaire.Basic

namespace Inquiry.Questionnaire

/-- No two questions have one id. -/
def Distinct (q : Questionnaire) : Prop := (q.questions.map (·.id)).Nodup

instance (q : Questionnaire) : Decidable q.Distinct :=
  inferInstanceAs (Decidable (q.questions.map (·.id)).Nodup)

theorem mem_of_positionIn {id : String} {questions : List Question} {i : Nat}
    (h : positionIn id questions = some i) :
    ∃ question, questions[i]? = some question ∧ question.id = id := by
  induction questions generalizing i with
  | nil => simp [positionIn] at h
  | cons head rest ih =>
    simp only [positionIn] at h
    split at h
    · rename_i eq
      cases h
      exact ⟨head, rfl, eq⟩
    · obtain ⟨j, found, rfl⟩ := Option.map_eq_some_iff.mp h
      exact ih found

theorem isSome_positionIn (id : String) (questions : List Question) :
    (positionIn id questions).isSome = true ↔ ∃ question ∈ questions, question.id = id := by
  induction questions with
  | nil => simp [positionIn]
  | cons head rest ih =>
    simp only [positionIn]
    by_cases h : head.id = id
    · simp [h]
    · simp [h, ih]

theorem positionIn_of_getElem? {questions : List Question} {i : Nat} {question : Question}
    (distinct : (questions.map (·.id)).Nodup) (h : questions[i]? = some question) :
    positionIn question.id questions = some i := by
  induction questions generalizing i with
  | nil => simp at h
  | cons head rest ih =>
    rw [List.map_cons, List.nodup_cons] at distinct
    cases i with
    | zero =>
      rw [List.getElem?_cons_zero, Option.some_inj] at h
      subst h
      simp [positionIn]
    | succ i =>
      rw [List.getElem?_cons_succ] at h
      have ne : head.id ≠ question.id := by
        intro eq
        exact distinct.1 (eq ▸ List.mem_map_of_mem (List.mem_of_getElem? h))
      simp [positionIn, ne, ih distinct.2 h]

theorem find?_eq_bind_positionIn (id : String) (questions : List Question) :
    questions.find? (·.id = id) = (positionIn id questions).bind fun i => questions[i]? := by
  induction questions with
  | nil => rfl
  | cons head rest ih =>
    by_cases h : head.id = id
    · simp [positionIn, h]
    · cases found : positionIn id rest <;> simp_all [positionIn]

variable {q : Questionnaire} {id : String} {i : Nat}

theorem contains_iff : q.contains id = true ↔ id ∈ q.questions.map (·.id) := by
  rw [contains, position?, isSome_positionIn, List.mem_map]

theorem contains_of_position? (h : q.position? id = some i) : q.contains id = true := by
  simp [contains, h]

theorem exists_position? (h : q.contains id = true) : ∃ i, q.position? id = some i :=
  Option.isSome_iff_exists.mp h

theorem exists_position?_of_mem {question : Question} (mem : question ∈ q.questions) :
    ∃ i, q.position? question.id = some i :=
  exists_position? (contains_iff.mpr (List.mem_map_of_mem mem))

theorem getElem?_of_position? (h : q.position? id = some i) :
    ∃ question, q.questions[i]? = some question ∧ question.id = id :=
  mem_of_positionIn h

theorem position?_lt (h : q.position? id = some i) : i < q.size := by
  obtain ⟨question, found, -⟩ := getElem?_of_position? h
  exact (List.getElem?_eq_some_iff.mp found).1

theorem find?_of_position? (h : q.position? id = some i) : q.find? id = q.questions[i]? := by
  unfold position? at h
  rw [find?, find?_eq_bind_positionIn, h, Option.bind_some]

theorem position?_of_getElem? (distinct : q.Distinct) {question : Question}
    (h : q.questions[i]? = some question) : q.position? question.id = some i :=
  positionIn_of_getElem? distinct h

theorem position?_eq_some_iff (distinct : q.Distinct) :
    q.position? id = some i ↔ ∃ question, q.questions[i]? = some question ∧ question.id = id := by
  constructor
  · exact getElem?_of_position?
  · rintro ⟨question, found, rfl⟩
    exact position?_of_getElem? distinct found

/-- A question that is left after others have been passed over stands behind them. -/
theorem getElem?_of_drop {n : Nat} {passed rest : List Question} {question : Question}
    (ahead : q.questions.drop n = passed ++ question :: rest) :
    q.questions[n + passed.length]? = some question := by
  rw [← List.getElem?_drop, ahead, List.getElem?_append_right (Nat.le_refl _), Nat.sub_self]
  rfl

theorem repeatedId?_go_eq_none_iff (seen : List String) (questions : List Question) :
    repeatedId?.go seen questions = none ↔
      (questions.map (·.id)).Nodup ∧ ∀ question ∈ questions, question.id ∉ seen := by
  induction questions generalizing seen with
  | nil => simp [repeatedId?.go]
  | cons head rest ih =>
    unfold repeatedId?.go
    by_cases h : head.id ∈ seen
    · simp [h]
    · rw [if_neg h, ih, List.map_cons, List.nodup_cons, List.mem_map]
      simp only [List.mem_cons, forall_eq_or_imp, not_or, not_exists, not_and]
      constructor
      · rintro ⟨nodup, apart⟩
        exact ⟨⟨fun question mem eq => (apart question mem).1 eq, nodup⟩, h,
          fun question mem => (apart question mem).2⟩
      · rintro ⟨⟨apart, nodup⟩, -, unseen⟩
        exact ⟨nodup, fun question mem => ⟨apart question mem, unseen question mem⟩⟩

theorem repeatedId?_eq_none_iff : q.repeatedId? = none ↔ q.Distinct := by
  simp [repeatedId?, repeatedId?_go_eq_none_iff, Distinct]

end Inquiry.Questionnaire
