import Inquiry.Proofs.Session.Operation
import Inquiry.Proofs.Table
import Mathlib.Data.Finset.Dedup
import Mathlib.Data.Finset.Card

namespace Inquiry

open Session (Entry)

/-- The answers that entries amount to: of several to one question the last counts. -/
def Answers.ofEntries (entries : List Entry) : Answers :=
  entries.foldl (fun answers e => answers.record e.question e.value) ∅

namespace Answers

theorem ofEntries_concat (entries : List Entry) (e : Entry) :
    ofEntries (entries ++ [e]) = (ofEntries entries).record e.question e.value :=
  List.foldl_append

theorem exists_entry {entries : List Entry} {id : String} {value : Json}
    (h : (ofEntries entries).get? id = some value) :
    ∃ e ∈ entries, e.question = id ∧ e.value = value := by
  -- The last entry counts first, so it is taken off first.
  induction entries using List.reverseRecOn with
  | nil => cases h
  | append_singleton entries e ih =>
    rw [ofEntries_concat, record, Table.get?_insert] at h
    split at h
    · rename_i same
      exact ⟨e, List.mem_concat_self, same.symm, Option.some.inj h⟩
    · obtain ⟨other, mem, entered⟩ := ih h
      exact ⟨other, List.mem_append_left _ mem, entered⟩

theorem contains_ofEntries (entries : List Entry) (id : String) :
    (ofEntries entries).contains id = true ↔ id ∈ entries.map (·.question) := by
  induction entries using List.reverseRecOn with
  | nil => simp [ofEntries]
  | append_singleton entries e ih =>
    rw [ofEntries_concat, record, Table.contains_insert, ih]
    simp [or_comm]

/-- There are as many answers as there are questions among the entries. -/
theorem size_ofEntries (entries : List Entry) :
    (ofEntries entries).size = (entries.map (·.question)).toFinset.card := by
  have questions : (ofEntries entries).keys.toFinset = (entries.map (·.question)).toFinset := by
    ext id
    rw [List.mem_toFinset, List.mem_toFinset, Table.mem_keys_iff, contains_ofEntries]
  rw [← questions, List.toFinset_card_of_nodup (Table.nodup_keys _)]
  exact (List.length_map _).symm

end Answers

namespace Session

/-- An answer that was to be recorded in a session, and whether that was acknowledged. -/
structure Attempt where
  session : String
  entry : Entry
  acknowledged : Bool

/-- What an operation attempts to record, by what was under way before and by its answer. -/
def Operation.attempts (now : Time.Instant) (before : Option Live)
    (answer : Except InterviewError Reply) : Operation → List Attempt
  | .move (.record id value) =>
    before.toList.map fun live => ⟨live.state.session, ⟨id, value, now⟩, answer.isOk⟩
  | _ => []

def attempted (session : String) (trail : List Attempt) : List Entry :=
  (trail.filter (·.session = session)).map (·.entry)

def acknowledged (session : String) (trail : List Attempt) : List Entry :=
  ((trail.filter (·.session = session)).filter (·.acknowledged)).map (·.entry)

variable {session : String} {trail more : List Attempt}

theorem acknowledged_sublist (session : String) (trail : List Attempt) :
    (acknowledged session trail).Sublist (attempted session trail) :=
  List.filter_sublist.map _

theorem attempted_append (session : String) (trail more : List Attempt) :
    attempted session (trail ++ more) = attempted session trail ++ attempted session more := by
  simp [attempted]

theorem acknowledged_append (session : String) (trail more : List Attempt) :
    acknowledged session (trail ++ more) =
      acknowledged session trail ++ acknowledged session more := by
  simp [acknowledged]

/-- Nothing is attempted in a session that is not under way. -/
theorem attempted_attempts {before : Option Live}
    (elsewhere : ∀ l ∈ before, l.state.session ≠ session) (now : Time.Instant)
    (answer : Except InterviewError Reply) (op : Operation) :
    attempted session (op.attempts now before answer) = [] := by
  unfold Operation.attempts
  split
  · cases before with
    | none => rfl
    | some live => simp [attempted, elsewhere live rfl]
  · rfl

/-- What fails is not acknowledged. -/
theorem acknowledged_attempts (now : Time.Instant) (before : Option Live) (e : InterviewError)
    (op : Operation) : acknowledged session (op.attempts now before (.error e)) = [] := by
  unfold Operation.attempts
  split
  · cases before <;> simp [acknowledged, Except.isOk, Except.toBool]
  · rfl

end Session

end Inquiry
