import Mathlib.Data.List.Induction
import Inquiry.Table

namespace Inquiry

namespace Table

variable {α : Type}

theorem contains_eq_true_iff (t : Table α) (k : String) :
    t.contains k = true ↔ ∃ v, t.get? k = some v :=
  Option.isSome_iff_exists

@[simp] theorem contains_empty (k : String) : (∅ : Table α).contains k = false := rfl

theorem contains_insert (t : Table α) (key : String) (value : α) (k : String) :
    (t.insert key value).contains k = true ↔ k = key ∨ t.contains k = true := by
  unfold contains
  rw [get?_insert]
  by_cases h : k = key <;> simp [h]

theorem contains_erase (t : Table α) (key k : String) :
    (t.erase key).contains k = true ↔ k ≠ key ∧ t.contains k = true := by
  unfold contains
  rw [get?_erase]
  by_cases h : k = key <;> simp [h]

/-- Of two values of one key the last stays. -/
theorem insert_insert (t : Table α) (key : String) (a b : α) :
    (t.insert key a).insert key b = t.insert key b := by
  apply ext
  intro k
  simp only [get?_insert]
  split <;> rfl

theorem mem_keys_iff (t : Table α) (k : String) : k ∈ t.keys ↔ t.contains k = true := by
  rw [contains_eq_true_iff, keys, List.mem_map]
  constructor
  · rintro ⟨⟨k, v⟩, mem, rfl⟩
    exact ⟨v, (t.get?_eq_some_iff k v).mpr mem⟩
  · rintro ⟨v, found⟩
    exact ⟨(k, v), (t.get?_eq_some_iff k v).mp found, rfl⟩

theorem sorted_keys (t : Table α) : t.keys.Pairwise (· < ·) := by
  unfold keys
  rw [List.pairwise_map]
  exact t.sorted

theorem nodup_keys (t : Table α) : t.keys.Nodup := by
  refine t.sorted_keys.imp ?_
  rintro a _ lt rfl
  exact String.lt_irrefl a lt

/-- Keys that all come from a list are no more than the list is long. -/
theorem size_le_length {t : Table α} {ids : List String}
    (h : ∀ k, t.contains k = true → k ∈ ids) : t.size ≤ ids.length := by
  have subset : t.keys ⊆ ids := fun k mem => h k ((t.mem_keys_iff k).mp mem)
  have := t.nodup_keys.length_le_of_subset subset
  simpa [keys, size] using this

theorem find_append (key : String) (entries more : List (String × α)) :
    find key (entries ++ more) = (find key entries).or (find key more) := by
  induction entries with
  | nil => rfl
  | cons e rest ih =>
    obtain ⟨k, v⟩ := e
    by_cases same : key = k
    · simp [find, same]
    · simp [find, same, ih]

theorem find_of_mem_of_nodup {entries : List (String × α)} {e : String × α}
    (nodup : (entries.map (·.1)).Nodup) (mem : e ∈ entries) : find e.1 entries = some e.2 := by
  induction entries with
  | nil => cases mem
  | cons head rest ih =>
    obtain ⟨apart, nodup⟩ := List.nodup_cons.mp nodup
    rcases List.mem_cons.mp mem with rfl | later
    · simp [find]
    · have differ : e.1 ≠ head.1 := fun same => apart (List.mem_map.mpr ⟨e, later, same⟩)
      rw [find, if_neg differ, ih nodup later]

theorem get?_foldl_insert {entries : List (String × α)}
    (sorted : entries.Pairwise fun a b => a.1 < b.1) (t : Table α) (k : String) :
    (entries.foldl (fun t e => t.insert e.1 e.2) t).get? k = (find k entries <|> t.get? k) := by
  induction entries generalizing t with
  | nil => rfl
  | cons e rest ih =>
    obtain ⟨key, value⟩ := e
    rw [List.pairwise_cons] at sorted
    rw [List.foldl_cons, ih sorted.2, get?_insert]
    by_cases h : k = key
    · subst h
      have absent : find k rest = none := by
        cases found : find k rest with
        | none => rfl
        | some v => exact absurd (sorted.1 _ (mem_of_find found)) (String.lt_irrefl _)
      simp [find, absent]
    · simp [find, h]

/-- The table of the entries of a table is that table. -/
@[simp] theorem ofList_toList (t : Table α) : ofList t.toList = t := by
  apply ext
  intro k
  unfold ofList toList
  rw [get?_foldl_insert t.sorted, get?_empty]
  unfold get?
  cases find k t.entries <;> rfl

/-- Of several values of one key the last counts. -/
theorem get?_ofList (entries : List (String × α)) (k : String) :
    (ofList entries).get? k = find k entries.reverse := by
  induction entries using List.reverseRecOn with
  | nil => rfl
  | append_singleton rest e ih =>
    obtain ⟨key, value⟩ := e
    have last : ofList (rest ++ [(key, value)]) = (ofList rest).insert key value :=
      List.foldl_append
    rw [last, get?_insert, List.reverse_append, List.reverse_singleton, List.singleton_append, find,
      ih]

/-- In whatever order values come in, the same last values make the same table. -/
theorem ofList_congr {xs ys : List (String × α)}
    (same : ∀ k, find k xs.reverse = find k ys.reverse) : ofList xs = ofList ys := by
  apply ext
  intro k
  rw [get?_ofList, get?_ofList, same]

/-- The entries whose keys are kept. -/
def restrict (t : Table α) (keep : String → Bool) : Table α :=
  ⟨t.entries.filter (keep ·.1), t.sorted.filter _⟩

theorem get?_restrict (t : Table α) (keep : String → Bool) (k : String) :
    (t.restrict keep).get? k = if keep k then t.get? k else none := by
  have mem : ∀ v, (t.restrict keep).get? k = some v ↔ keep k = true ∧ t.get? k = some v := by
    intro v
    simp [get?_eq_some_iff, restrict, and_comm]
  cases h : keep k with
  | true => exact Option.ext fun v => by simp [mem, h]
  | false => exact Option.ext fun v => by simp [mem, h]

/-- Tables that agree on the keys kept have the same entries with them. -/
theorem restrict_congr {s t : Table α} {keep : String → Bool}
    (agree : ∀ k, keep k = true → s.get? k = t.get? k) : s.restrict keep = t.restrict keep := by
  apply ext
  intro k
  rw [get?_restrict, get?_restrict]
  split
  · rename_i kept
    exact agree k kept
  · rfl

end Table

namespace IdSet

theorem contains_add (s : IdSet) (id k : String) :
    (s.add id).contains k = true ↔ k = id ∨ s.contains k = true :=
  Table.contains_insert s id () k

theorem contains_foldl_add (ids : List String) (s : IdSet) (k : String) :
    (ids.foldl add s).contains k = true ↔ k ∈ ids ∨ s.contains k = true := by
  induction ids generalizing s with
  | nil => simp
  | cons id rest ih =>
    rw [List.foldl_cons, ih, contains_add, List.mem_cons, or_assoc, or_left_comm]

theorem contains_ofIds (ids : List String) (k : String) :
    (ofIds ids).contains k = true ↔ k ∈ ids := by
  simp [ofIds, contains_foldl_add]

theorem ofIds_append (ids more : List String) :
    ofIds (ids ++ more) = more.foldl add (ofIds ids) :=
  List.foldl_append

/-- Membership determines a set of ids. -/
theorem ext {s t : IdSet} (h : ∀ k, s.contains k = true ↔ t.contains k = true) : s = t := by
  apply Table.ext
  intro k
  have same := h k
  unfold Table.contains at same
  cases left : Table.get? s k <;> cases right : Table.get? t k <;> simp_all

theorem erase_ofIds {ids : List String} {id : String} (absent : id ∉ ids) :
    Table.erase (ofIds ids) id = ofIds ids := by
  apply ext
  intro k
  rw [Table.contains_erase, contains_ofIds]
  constructor
  · exact fun h => h.2
  · intro mem
    refine ⟨?_, mem⟩
    rintro rfl
    exact absent mem

theorem ofIds_congr {ids others : List String} (same : ∀ id, id ∈ ids ↔ id ∈ others) :
    ofIds ids = ofIds others := by
  apply ext
  intro k
  rw [contains_ofIds, contains_ofIds, same]

/-- The set of the ids in a set is that set. -/
@[simp] theorem ofIds_keys (s : IdSet) : ofIds s.keys = s := by
  apply ext
  intro k
  rw [contains_ofIds, Table.mem_keys_iff]

end IdSet

end Inquiry
