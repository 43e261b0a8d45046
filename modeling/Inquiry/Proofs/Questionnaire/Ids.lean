import Mathlib.Data.List.DropRight
import Inquiry.Proofs.Session.Serving
import Inquiry.Questionnaire.Loading

/-!
The ids that a questionnaire may have where it is loaded, and where it is kept.

Loading refuses blank ids and repeated ones, a storage refuses repeated ones alone. Where both
refuse an id as repeated, it is the same one. Main statement: `Questionnaire.checked_ids`.
-/
namespace Inquiry

/-- Nothing is left of a text just if there is nothing in it but blanks. -/
theorem Text.trim_eq_nil_iff {text : List Char} : trim text = [] ↔ text.all isBlank = true := by
  unfold trim trimEnd trimStart
  simp only [List.reverse_eq_nil_iff, List.dropWhile_eq_nil_iff, List.mem_reverse]
  rw [← List.dropWhile_eq_nil_iff, List.dropWhile_idempotent, List.dropWhile_eq_nil_iff,
    List.all_eq_true]

namespace Questionnaire

open Session (Store Connection Live Interview SessionIds)
open Session.Connection (storage)

/-- Questions whose ids are not blank, and pairwise distinct. -/
structure WellNamed (questions : List Question) : Prop where
  named : ∀ question ∈ questions, Text.trim question.id.toList ≠ []
  distinct : (questions.map (·.id)).Nodup

instance (questions : List Question) : Decidable (WellNamed questions) :=
  decidable_of_iff ((∀ question ∈ questions, Text.trim question.id.toList ≠ []) ∧
    (questions.map (·.id)).Nodup) ⟨fun h => ⟨h.1, h.2⟩, fun h => ⟨h.named, h.distinct⟩⟩

/-- What is wrong with the id of a question, where others were seen before. A blank id is not
reported as repeated. -/
inductive Faulty (q : Questionnaire) (seen : List String) (question : Question) : LoadError → Prop
  | empty (blank : Text.trim question.id.toList = []) :
      Faulty q seen question (.emptyQuestionId q.id)
  | duplicate (named : Text.trim question.id.toList ≠ []) (mem : question.id ∈ seen) :
      Faulty q seen question (.duplicateQuestion q.id question.id)

/-- The first question that has something wrong with its id, and what that is. -/
def FirstFault (q : Questionnaire) (e : LoadError) : Prop :=
  ∃ before question after, q.questions = before ++ question :: after ∧ WellNamed before ∧
    Faulty q (before.map (·.id)) question e

variable {q : Questionnaire} {questions : List Question} {question : Question} {seen : List String}
  {e : LoadError}

theorem Faulty.mono {others : List String} (subset : seen ⊆ others)
    (h : Faulty q seen question e) : Faulty q others question e := by
  cases h with
  | empty blank => exact .empty blank
  | duplicate named mem => exact .duplicate named (subset mem)

section Loading

theorem isBlankText_iff (id : String) : Text.isBlankText id = true ↔ Text.trim id.toList = [] :=
  Text.trim_eq_nil_iff.symm

theorem idFault?_go_of_faulty (h : Faulty q seen question e) :
    idFault?.go q seen (question :: questions) = some e := by
  cases h with
  | empty blank => simp [idFault?.go, isBlankText_iff, blank]
  | duplicate named mem => simp [idFault?.go, isBlankText_iff, named, mem]

theorem idFault?_go_of_sound (named : Text.trim question.id.toList ≠ [])
    (fresh : question.id ∉ seen) :
    idFault?.go q seen (question :: questions) =
      idFault?.go q (question.id :: seen) questions := by
  simp [idFault?.go, isBlankText_iff, named, fresh]

theorem exists_faulty_or_sound (q : Questionnaire) (seen : List String) (question : Question) :
    (∃ e, Faulty q seen question e) ∨
      Text.trim question.id.toList ≠ [] ∧ question.id ∉ seen := by
  by_cases blank : Text.trim question.id.toList = []
  · exact .inl ⟨_, .empty blank⟩
  · by_cases mem : question.id ∈ seen
    · exact .inl ⟨_, .duplicate blank mem⟩
    · exact .inr ⟨blank, mem⟩

theorem idFault?_go_append (before rest : List Question) :
    idFault?.go q seen (before ++ rest) = (idFault?.go q seen before).or
      (idFault?.go q ((before.map (·.id)).reverse ++ seen) rest) := by
  induction before generalizing seen with
  | nil => rfl
  | cons head before ih =>
    rw [List.cons_append]
    rcases exists_faulty_or_sound q seen head with ⟨e, fault⟩ | ⟨named, fresh⟩
    · rw [idFault?_go_of_faulty fault, idFault?_go_of_faulty fault, Option.some_or]
    · rw [idFault?_go_of_sound named fresh, idFault?_go_of_sound named fresh, ih, List.map_cons,
        List.reverse_cons, List.append_assoc, List.singleton_append]

/-- Nothing is wrong just if no id is blank, and none is repeated. -/
theorem idFault?_go_eq_none_iff :
    idFault?.go q seen questions = none ↔
      (∀ question ∈ questions, Text.trim question.id.toList ≠ []) ∧
        repeatedId?.go seen questions = none := by
  induction questions generalizing seen with
  | nil => simp [idFault?.go, repeatedId?.go]
  | cons head rest ih =>
    rcases exists_faulty_or_sound q seen head with ⟨e, fault⟩ | ⟨named, fresh⟩
    · rw [idFault?_go_of_faulty fault]
      cases fault with
      | empty blank => simp [blank]
      | duplicate _ mem => simp [repeatedId?.go, mem]
    · rw [idFault?_go_of_sound named fresh, ih, List.forall_mem_cons, repeatedId?.go,
        if_neg fresh, and_iff_right named]

theorem wellNamed_iff : idFault?.go q [] questions = none ↔ WellNamed questions := by
  rw [idFault?_go_eq_none_iff, repeatedId?_go_eq_none_iff]
  constructor
  · rintro ⟨named, distinct, -⟩
    exact ⟨named, distinct⟩
  · rintro ⟨named, distinct⟩
    exact ⟨named, distinct, fun _ _ => List.not_mem_nil⟩

theorem exists_of_idFault?_go (found : idFault?.go q seen questions = some e) :
    ∃ before question after, questions = before ++ question :: after ∧
      idFault?.go q seen before = none ∧
      Faulty q ((before.map (·.id)).reverse ++ seen) question e := by
  induction questions generalizing seen with
  | nil => cases found
  | cons head rest ih =>
    rcases exists_faulty_or_sound q seen head with ⟨e', fault⟩ | ⟨named, fresh⟩
    · rw [idFault?_go_of_faulty fault, Option.some_inj] at found
      exact ⟨[], head, rest, rfl, rfl, found ▸ fault⟩
    · rw [idFault?_go_of_sound named fresh] at found
      obtain ⟨before, question, after, rfl, none, fault⟩ := ih found
      refine ⟨head :: before, question, after, rfl, ?_, ?_⟩
      · rw [idFault?_go_of_sound named fresh, none]
      · rwa [List.map_cons, List.reverse_cons, List.append_assoc, List.singleton_append]

/-- What is reported is the first fault. -/
theorem idFault?_eq_some_iff : q.idFault? = some e ↔ q.FirstFault e := by
  constructor
  · intro found
    obtain ⟨before, question, after, split, none, fault⟩ := exists_of_idFault?_go found
    refine ⟨before, question, after, split, wellNamed_iff.mp none, ?_⟩
    rw [List.append_nil] at fault
    exact fault.mono (List.reverse_subset.mpr (List.Subset.refl _))
  · rintro ⟨before, question, after, split, well, fault⟩
    have fault := fault.mono (List.subset_reverse.mpr (List.Subset.refl _))
    rw [idFault?, split, idFault?_go_append, wellNamed_iff.mpr well, Option.none_or,
      List.append_nil, idFault?_go_of_faulty fault]

/-- An id that is reported as repeated is the first that is repeated. -/
theorem repeatedId?_go_of_idFault? {name id : String}
    (found : idFault?.go q seen questions = some (.duplicateQuestion name id)) :
    repeatedId?.go seen questions = some id := by
  induction questions generalizing seen with
  | nil => cases found
  | cons head rest ih =>
    rcases exists_faulty_or_sound q seen head with ⟨e, fault⟩ | ⟨named, fresh⟩
    · rw [idFault?_go_of_faulty fault, Option.some_inj] at found
      subst found
      cases fault with
      | duplicate _ mem => exact if_pos mem
    · rw [idFault?_go_of_sound named fresh] at found
      rw [repeatedId?.go, if_neg fresh, ih found]

/-- A text loads as a questionnaire just if it is read as one whose ids have no fault. -/
theorem load_eq_ok_iff {text : String} :
    load text = .ok q ↔ read text = .ok q ∧ q.idFault? = none := by
  constructor
  · intro loaded
    cases told : read text with
    | error fault => simp [load, told] at loaded
    | ok p =>
      cases found : p.idFault? with
      | some e => simp [load, told, found] at loaded
      | none =>
        have same : p = q := by simpa [load, told, found] using loaded
        exact ⟨congrArg _ same, same ▸ found⟩
  · rintro ⟨told, sound⟩
    simp [load, told, sound]

theorem load_eq_error_iff {text : String} (told : read text = .ok q) (e : LoadError) :
    load text = .error e ↔ q.idFault? = some e := by
  cases found : q.idFault? <;> simp [load, told, found]

end Loading

section Keeping

/-- A questionnaire that was kept comes back as it is, unless an id in it is repeated. -/
theorem loadQuestionnaire_saveQuestionnaire (s : Store) (q : Questionnaire) :
    (s.saveQuestionnaire q).loadQuestionnaire q.id = match q.repeatedId? with
      | some id => .error (.repeatedQuestion q.id id)
      | none => .ok q := by
  cases repeated : q.repeatedId? <;>
    simp [Store.loadQuestionnaire, Store.saveQuestionnaire, Table.get?_insert, repeated]

theorem loadQuestionnaire_saveQuestionnaire_iff (s : Store) (q : Questionnaire) :
    (s.saveQuestionnaire q).loadQuestionnaire q.id = .ok q ↔ q.Distinct := by
  rw [loadQuestionnaire_saveQuestionnaire, ← repeatedId?_eq_none_iff]
  cases q.repeatedId? <;> simp

/-- A session starts on a questionnaire with distinct ids just if there is a first question. -/
theorem start_eq_ok_iff [SessionIds] {c : Connection} (works : ∀ n k, c.faults n k = none)
    (found : c.store.questionnaires.get? q.id = some q) (distinct : q.Distinct)
    (live : Option Live) (now : Time.Instant) (first : Question) :
    (Interview.start storage now q.id ⟨live, c⟩).1 = .ok first ↔
      q.questions.head? = some first := by
  cases questions : q.questions with
  | nil =>
    have refused : (Interview.start storage now q.id ⟨live, c⟩).1 = .error (.noQuestions q.id) := by
      rw [Interview.start, Interview.run_ask_bind,
        Connection.loadQuestionnaire_ok (works _ _) found distinct]
      dsimp only
      rw [questions]
      rfl
    rw [refused]
    simp
  | cons head rest =>
    obtain ⟨session, d, started, -⟩ : ∃ (session : String) (d : Connection),
        Interview.start storage now q.id ⟨live, c⟩ =
          (.ok head, ⟨some ⟨q, .begin now q.id session head.id⟩, d⟩) ∧ d.Serves session :=
      Interview.start_ok works found distinct questions now
    rw [started]
    simp

end Keeping

/-- Loading accepts the ids of a questionnaire just if none is blank and no two are the same, and
else reports the first question for which that fails: a text that is read as this questionnaire
loads just if there is no such fault, and else fails with it. A storage gives it back just if no two
are the same, and where loading reports an id as repeated, so does the storage. So a questionnaire
that was loaded can be kept and comes back as it is, each of its questions is found where it stands,
and over a storage that works a session starts on it, with its first question, just if it has
one. -/
theorem checked_ids [SessionIds] (q : Questionnaire) :
    (q.idFault? = none ↔ WellNamed q.questions) ∧
    (∀ e, q.idFault? = some e ↔ q.FirstFault e) ∧
    (∀ s : Store, (s.saveQuestionnaire q).loadQuestionnaire q.id = .ok q ↔ q.Distinct) ∧
    (∀ name id, q.idFault? = some (.duplicateQuestion name id) → ∀ s : Store,
      (s.saveQuestionnaire q).loadQuestionnaire q.id = .error (.repeatedQuestion q.id id)) ∧
    (∀ text, load text = .ok q ↔ read text = .ok q ∧ q.idFault? = none) ∧
    (∀ text, read text = .ok q → ∀ e, load text = .error e ↔ q.idFault? = some e) ∧
    (q.idFault? = none →
      (∀ s : Store, (s.saveQuestionnaire q).loadQuestionnaire q.id = .ok q) ∧
      (∀ (i : Nat) (question : Question), q.questions[i]? = some question →
        q.position? question.id = some i) ∧
      ∀ (s : Store) (c : Connection) (live : Option Live) (now : Time.Instant) (first : Question),
        (∀ n k, c.faults n k = none) → c.store = s.saveQuestionnaire q →
        ((Interview.start storage now q.id ⟨live, c⟩).1 = .ok first ↔
          q.questions.head? = some first)) := by
  refine ⟨wellNamed_iff, fun e => idFault?_eq_some_iff,
    fun s => loadQuestionnaire_saveQuestionnaire_iff s q, ?_, fun text => load_eq_ok_iff,
    fun text => load_eq_error_iff, ?_⟩
  · intro name id found s
    have repeated : q.repeatedId? = some id := repeatedId?_go_of_idFault? found
    rw [loadQuestionnaire_saveQuestionnaire, repeated]
  · intro sound
    have distinct : q.Distinct := (wellNamed_iff.mp sound).distinct
    refine ⟨fun s => (loadQuestionnaire_saveQuestionnaire_iff s q).mpr distinct,
      fun i question => position?_of_getElem? distinct, ?_⟩
    intro s c live now first works kept
    refine start_eq_ok_iff works ?_ distinct live now first
    simp only [kept, Store.saveQuestionnaire, Table.get?_insert, if_true]

/-- A repeated id, and a blank one behind it that is repeated, too. -/
def repeatedForm : Questionnaire :=
  ⟨"form", "", "", ["a", "b", "a", "\t", "\t"].map fun id => .plain id .text⟩

def repeatedText : String :=
  "id: form\nquestions:\n- id: a\n- id: b\n- id: a\n- id: \"\\t\"\n- id: \"\\t\"\n"

def soundForm : Questionnaire := ⟨"form", "", "", ["a", " b "].map fun id => .plain id .text⟩

/-- The first fault is the one that is reported, and the storage reports it, too. Blanks around an
id are part of it. -/
theorem checked_ids_repeated :
    repeatedForm.FirstFault (.duplicateQuestion "form" "a") ∧
    load repeatedText = .error (.duplicateQuestion "form" "a") ∧
    (Store.empty.saveQuestionnaire repeatedForm).loadQuestionnaire "form" =
      .error (.repeatedQuestion "form" "a") ∧
    WellNamed soundForm.questions ∧
    (Store.empty.saveQuestionnaire soundForm).loadQuestionnaire "form" = .ok soundForm ∧
    soundForm.position? " b " = some 1 ∧
    (Interview.start storage .epoch "form"
      ⟨none, .sound (Store.empty.saveQuestionnaire soundForm)⟩).1 = .ok (.plain "a" .text) := by
  obtain ⟨-, reports, -, repeats, -, refuses, -⟩ := checked_ids repeatedForm
  obtain ⟨accepts, -, -, -, -, -, loads⟩ := checked_ids soundForm
  have found : repeatedForm.idFault? = some (.duplicateQuestion "form" "a") := by decide +kernel
  have told : read repeatedText = .ok repeatedForm := by decide +kernel
  have named : WellNamed soundForm.questions := by decide +kernel
  obtain ⟨kept, stands, starts⟩ := loads (accepts.mpr named)
  exact ⟨(reports _).mp found, (refuses _ told _).mpr found, repeats _ _ found _, named, kept _,
    stands 1 _ rfl, (starts _ _ none .epoch _ (fun _ _ => rfl) rfl).mpr rfl⟩

end Questionnaire

end Inquiry
