import Inquiry.Proofs.Session.Snapshot

/-!
The written form of a state is canonical.

States are compared by what they tell: their answers as a map, the ids visited and skipped as sets.
The same states are written alike, in whatever order their entries came in, and whatever is read is
written in that form from then on. Main statement: `State.canonical`.
-/
namespace Inquiry.Session

/-- States that tell the same. -/
structure State.Same (s t : State) : Prop where
  questionnaire : s.questionnaire = t.questionnaire
  session : s.session = t.session
  index : s.index = t.index
  current : s.current = t.current
  answers : ∀ id, s.answers.get? id = t.answers.get? id
  visited : ∀ id, s.visited.contains id = true ↔ t.visited.contains id = true
  skipped : ∀ id, s.skipped.contains id = true ↔ t.skipped.contains id = true
  history : s.history = t.history
  completed : s.completed = t.completed
  started : s.started = t.started
  updated : s.updated = t.updated

/-- The lists of a snapshot go by ascending ids. -/
structure Snapshot.Ascending (s : Snapshot) : Prop where
  answers : (s.answers.map (·.1)).Pairwise (· < ·)
  visited : s.visited.Pairwise (· < ·)
  skipped : s.skipped.Pairwise (· < ·)

/-- What a state has of the lists of a snapshot. Of several answers to one question the last
counts. -/
structure State.Gathers (s : State) (snapshot : Snapshot) : Prop where
  answers : ∀ id, s.answers.get? id = Table.find id snapshot.answers.reverse
  visited : ∀ id, s.visited.contains id = true ↔ id ∈ snapshot.visited
  skipped : ∀ id, s.skipped.contains id = true ↔ id ∈ snapshot.skipped
  history : s.history = snapshot.history

theorem Snapshot.eq_of_toJson_eq {s t : Snapshot} (same : s.toJson = t.toJson) : s = t := by
  have read := ofJson_toJson s
  rw [same, ofJson_toJson] at read
  exact (Except.ok.inj read).symm

namespace State

variable {s t : State}

theorem Same.eq (h : s.Same t) : s = t := by
  have answers := Table.ext h.answers
  have visited := IdSet.ext h.visited
  have skipped := IdSet.ext h.skipped
  obtain ⟨questionnaire, session, index, current, -, -, -, history, completed, started, updated⟩ :=
    h
  cases s
  cases t
  simp_all

theorem Same.refl (s : State) : s.Same s :=
  ⟨rfl, rfl, rfl, rfl, fun _ => rfl, fun _ => Iff.rfl, fun _ => Iff.rfl, rfl, rfl, rfl, rfl⟩

/-- The written form tells a state, and nothing of how it came about. -/
theorem toJson_eq_iff : s.toJson = t.toJson ↔ s.Same t := by
  constructor
  · intro written
    have told := congrArg ofSnapshot (Snapshot.eq_of_toJson_eq written)
    rw [ofSnapshot_snapshot, ofSnapshot_snapshot] at told
    exact told ▸ Same.refl s
  · intro same
    rw [same.eq]

theorem ascending_snapshot (s : State) : s.snapshot.Ascending :=
  ⟨s.answers.sorted_keys, s.visited.sorted_keys, s.skipped.sorted_keys⟩

theorem gathers_ofSnapshot (snapshot : Snapshot) : (ofSnapshot snapshot).Gathers snapshot :=
  ⟨Table.get?_ofList snapshot.answers, IdSet.contains_ofIds snapshot.visited,
    IdSet.contains_ofIds snapshot.skipped, rfl⟩

/-- A state is read as it was written just if its history ends with its current question. -/
theorem ofJson_toJson_iff :
    ofJson s.toJson = .ok s ↔ ∀ id, s.current = some id → s.history.getLast? = some id := by
  constructor
  · intro read
    obtain ⟨_, -, -, ends⟩ := of_ofJson read
    exact ends
  · exact ofJson_toJson

/-- A state is read as it was written if it is nowhere, or if its history ends with its current
question. The same states are written alike, with their entries by ascending ids, in whatever order
these came in. What is read from any value has the last of several answers to a question and each
id of the lists once, and is read as itself when it is written again. -/
theorem canonical (s : State) :
    (s.current = none ∨ s.history.getLast? = s.current → ofJson s.toJson = .ok s) ∧
    (∀ t : State, s.toJson = t.toJson ↔ s.Same t) ∧ s.snapshot.Ascending ∧
    (∀ (answers answers' : List (String × Json)) (visited visited' skipped skipped' : List String),
      (∀ id, Table.find id answers.reverse = Table.find id answers'.reverse) →
      (∀ id, id ∈ visited ↔ id ∈ visited') → (∀ id, id ∈ skipped ↔ id ∈ skipped') →
      toJson { s with
          answers := answers.foldl (fun known e => known.record e.1 e.2) ∅
          visited := visited.foldl IdSet.add ∅
          skipped := skipped.foldl IdSet.add ∅ } =
        toJson { s with
          answers := answers'.foldl (fun known e => known.record e.1 e.2) ∅
          visited := visited'.foldl IdSet.add ∅
          skipped := skipped'.foldl IdSet.add ∅ }) ∧
    ∀ json, ofJson json = .ok s →
      (∃ snapshot, Snapshot.ofJson json = .ok snapshot ∧ s.Gathers snapshot) ∧
      ofJson s.toJson = .ok s := by
  refine ⟨?_, fun t => toJson_eq_iff, s.ascending_snapshot, ?_, ?_⟩
  · rintro (nowhere | last)
    · exact ofJson_toJson_iff.mpr fun id shown => nomatch nowhere.symm.trans shown
    · exact ofJson_toJson_iff.mpr fun id shown => last.trans shown
  · intro answers answers' visited visited' skipped skipped' sameAnswers sameVisited sameSkipped
    have told : Table.ofList answers = Table.ofList answers' := Table.ofList_congr sameAnswers
    have left : IdSet.ofIds visited = IdSet.ofIds visited' := IdSet.ofIds_congr sameVisited
    have passed : IdSet.ofIds skipped = IdSet.ofIds skipped' := IdSet.ofIds_congr sameSkipped
    change toJson { s with
      answers := Table.ofList answers
      visited := IdSet.ofIds visited
      skipped := IdSet.ofIds skipped } = _
    rw [told, left, passed]
    rfl
  · intro json read
    obtain ⟨snapshot, told, rfl, ends⟩ := of_ofJson read
    exact ⟨⟨snapshot, told, gathers_ofSnapshot snapshot⟩, ofJson_toJson_iff.mpr ends⟩

/-- A snapshot with answers told twice and ids in any order. -/
def shuffledSnapshot : Snapshot where
  questionnaire := "form"
  session := "$1"
  index := 1
  current := some "b"
  answers := [("b", .int 1), ("a", .null), ("b", .array [.bool true, .string "x"])]
  visited := ["b", "a", "b"]
  skipped := ["c", "c"]
  history := ["b", "a", "b"]
  completed := false
  started := .epoch
  updated := .epoch

theorem canonical_shuffled :
    ∃ s : State, ofJson shuffledSnapshot.toJson = .ok s ∧
      s.snapshot.answers = [("a", .null), ("b", .array [.bool true, .string "x"])] ∧
      s.snapshot.visited = ["a", "b"] ∧ s.snapshot.skipped = ["c"] ∧
      s.Gathers shuffledSnapshot ∧ ofJson s.toJson = .ok s := by
  have read : ofJson shuffledSnapshot.toJson = .ok (ofSnapshot shuffledSnapshot) := by
    apply ofJson_written
    rintro _ ⟨⟩
    rfl
  obtain ⟨-, -, -, -, reread⟩ := canonical (ofSnapshot shuffledSnapshot)
  obtain ⟨⟨snapshot, told, gathered⟩, again⟩ := reread _ read
  rw [Snapshot.ofJson_toJson, Except.ok.injEq] at told
  exact ⟨_, read, by decide +kernel, by decide +kernel, by decide +kernel, told ▸ gathered, again⟩

end State

end Inquiry.Session
