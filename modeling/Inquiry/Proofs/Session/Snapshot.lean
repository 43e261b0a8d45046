import Inquiry.Proofs.Json.Decode
import Inquiry.Proofs.Table
import Inquiry.Proofs.Time.Written
import Inquiry.Session.State

namespace Inquiry

namespace Json

theorem toInstant_text (t : Time.Instant) : toInstant (string t.text) = .ok t := by
  simp [toInstant, Time.Instant.read_text]

theorem toCount_nat (n : Nat) : toCount (nat n) = .ok n := by
  simp [toCount, nat, int]

theorem toOptional_toText (id : Option String) :
    toOptional toText ((id.map string).getD null) = .ok id := by
  cases id <;> rfl

end Json

namespace Session

open Json (toSequence_map toText_string toInstant_text toCount_nat toOptional_toText)

theorem Snapshot.pairOfJson_pairToJson (pair : String × Json) :
    pairOfJson (pairToJson pair) = .ok pair := rfl

theorem Snapshot.ofJson_toJson (s : Snapshot) : ofJson s.toJson = .ok s := by
  have answers := toSequence_map pairOfJson_pairToJson s.answers
  have ids := toSequence_map toText_string
  simp [ofJson, toJson, Json.toRecord, Json.takeField, Table.find, Json.strings]
  rw [toOptional_toText, toCount_nat, toInstant_text, toInstant_text, ids, ids, ids, answers]
  rfl

/-- The snapshot of a state tells that state. -/
theorem State.ofSnapshot_snapshot (s : State) : ofSnapshot s.snapshot = s := by
  simp [ofSnapshot, snapshot]

/-- A written snapshot is read as the state that it tells, if its history ends with its current
question. -/
theorem State.ofJson_written {snapshot : Snapshot}
    (ends : ∀ id, snapshot.current = some id → snapshot.history.getLast? = some id) :
    ofJson snapshot.toJson = .ok (ofSnapshot snapshot) := by
  have complete : (Snapshot.fieldNames.find? fun name =>
      (Json.field? name snapshot.toJson).isNone) = none := rfl
  have whole : Snapshot.ofJson snapshot.toJson = .ok snapshot := Snapshot.ofJson_toJson snapshot
  obtain ⟨fields, object⟩ : ∃ fields, snapshot.toJson = .object fields := ⟨_, rfl⟩
  simp only [object, Json.field?] at complete whole
  simp only [object, ofJson, complete, whole]
  split
  · rename_i current shown
    exact if_pos (ends current shown)
  · rfl

/-- What is written of a state is read as that state, if its history ends with its current
question. -/
theorem State.ofJson_toJson {s : State}
    (ends : ∀ id, s.current = some id → s.history.getLast? = some id) :
    ofJson s.toJson = .ok s :=
  (@ofJson_written s.snapshot ends).trans (congrArg Except.ok s.ofSnapshot_snapshot)

/-- A state is read from a snapshot, and only if its history ends with its current question. -/
theorem State.of_ofJson {json : Json} {state : State} (read : ofJson json = .ok state) :
    ∃ snapshot, Snapshot.ofJson json = .ok snapshot ∧ state = ofSnapshot snapshot ∧
      ∀ id, state.current = some id → state.history.getLast? = some id := by
  unfold ofJson at read
  split at read
  · split at read
    · cases read
    · split at read
      · cases read
      · rename_i snapshot told
        dsimp only at read
        split at read
        · rename_i current here
          split at read
          · rename_i last
            cases read
            refine ⟨snapshot, told, rfl, fun id shown => ?_⟩
            rw [here, Option.some_inj] at shown
            exact shown ▸ last
          · cases read
        · rename_i nowhere
          cases read
          refine ⟨snapshot, told, rfl, fun id shown => ?_⟩
          exact nomatch nowhere.symm.trans shown
  · cases read

end Session

end Inquiry
