/-!
Finite maps from ids, listed in the order of their keys by code point.

The order is part of the type, so two tables with the same entries are the same table, whatever
the order in which the entries came in. Main statements: `get?_insert`, `get?_erase` say what the
operations do to a look-up, and `Table.ext` that look-ups determine the table.
-/
namespace Inquiry

universe u

/-- Entries with strictly ascending keys. -/
structure Table (α : Type u) where
  entries : List (String × α)
  sorted : entries.Pairwise fun a b => a.1 < b.1

namespace Table

variable {α : Type u}

/-- The first value of `key`. -/
def find (key : String) : List (String × α) → Option α
  | [] => none
  | (k, v) :: rest => if key = k then some v else find key rest

/-- The entries with `key` set to `value`, in its place. -/
def insertEntry (key : String) (value : α) : List (String × α) → List (String × α)
  | [] => [(key, value)]
  | (k, v) :: rest =>
    if key < k then (key, value) :: (k, v) :: rest
    else if key = k then (key, value) :: rest
    else (k, v) :: insertEntry key value rest

theorem mem_insertEntry {key : String} {value : α} {entries : List (String × α)}
    {e : String × α} (h : e ∈ insertEntry key value entries) :
    e = (key, value) ∨ e ∈ entries := by
  induction entries with
  | nil => simpa [insertEntry] using h
  | cons head rest ih =>
    obtain ⟨k, v⟩ := head
    simp only [insertEntry] at h
    split at h
    · simpa using h
    · split at h
      · simp only [List.mem_cons] at h ⊢; exact h.imp_right .inr
      · simp only [List.mem_cons] at h ⊢
        rcases h with h | h
        · exact .inr (.inl h)
        · exact (ih h).imp_right .inr

theorem insertEntry_sorted {key : String} {value : α} {entries : List (String × α)}
    (h : entries.Pairwise fun a b => a.1 < b.1) :
    (insertEntry key value entries).Pairwise fun a b => a.1 < b.1 := by
  induction entries with
  | nil => simp [insertEntry]
  | cons head rest ih =>
    obtain ⟨k, v⟩ := head
    rw [List.pairwise_cons] at h
    simp only [insertEntry]
    split
    · rename_i hlt
      refine List.pairwise_cons.2 ⟨?_, List.pairwise_cons.2 h⟩
      intro e he
      rcases List.mem_cons.1 he with rfl | he
      · exact hlt
      · exact String.lt_trans hlt (h.1 e he)
    · split
      · rename_i heq
        subst heq
        exact List.pairwise_cons.2 ⟨h.1, h.2⟩
      · rename_i hlt hne
        refine List.pairwise_cons.2 ⟨?_, ih h.2⟩
        intro e he
        rcases mem_insertEntry he with rfl | he
        · show k < key
          grind
        · exact h.1 e he

instance : EmptyCollection (Table α) := ⟨⟨[], .nil⟩⟩

instance : Inhabited (Table α) := ⟨∅⟩

/-- Set the value of a key. -/
def insert (t : Table α) (key : String) (value : α) : Table α :=
  ⟨insertEntry key value t.entries, insertEntry_sorted t.sorted⟩

def erase (t : Table α) (key : String) : Table α :=
  ⟨t.entries.filter (·.1 ≠ key), t.sorted.filter _⟩

def get? (t : Table α) (key : String) : Option α := find key t.entries

def contains (t : Table α) (key : String) : Bool := (t.get? key).isSome

def size (t : Table α) : Nat := t.entries.length

def isEmpty (t : Table α) : Bool := t.entries.isEmpty

def keys (t : Table α) : List String := t.entries.map (·.1)

def toList (t : Table α) : List (String × α) := t.entries

/-- The table of a list of entries, of which a later one replaces an earlier one with its key. -/
def ofList (entries : List (String × α)) : Table α :=
  entries.foldl (fun t e => t.insert e.1 e.2) ∅

theorem get?_insert (t : Table α) (key : String) (value : α) (k : String) :
    (t.insert key value).get? k = if k = key then some value else t.get? k := by
  obtain ⟨entries, sorted⟩ := t
  simp only [get?, insert]
  induction entries with
  | nil => by_cases h : k = key <;> simp [insertEntry, find, h]
  | cons head rest ih =>
    obtain ⟨l, v⟩ := head
    have ih := ih (List.pairwise_cons.1 sorted).2
    simp only [insertEntry]
    split
    · by_cases h : k = key <;> simp [find, h]
    · split
      · rename_i heq
        subst heq
        by_cases h : k = key <;> simp [find, h]
      · rename_i hne
        by_cases hk : k = l
        · have : k ≠ key := by rintro rfl; exact hne hk
          simp [find, hk, Ne.symm hne]
        · simp [find, hk, ih]

theorem get?_erase (t : Table α) (key k : String) :
    (t.erase key).get? k = if k = key then none else t.get? k := by
  obtain ⟨entries, sorted⟩ := t
  simp only [get?, erase]
  clear sorted
  induction entries with
  | nil => by_cases h : k = key <;> simp [find, h]
  | cons head rest ih =>
    obtain ⟨l, v⟩ := head
    by_cases hl : l = key
    · subst hl
      simp only [List.filter_cons, ne_eq, not_true_eq_false, decide_false, Bool.false_eq_true,
        if_false, ih]
      by_cases hk : k = l <;> simp [find, hk]
    · simp only [List.filter_cons, ne_eq, hl, not_false_eq_true, decide_true, if_true]
      by_cases hk : k = l
      · simp [find, hk, hl]
      · rw [find, if_neg hk, ih, find, if_neg hk]

@[simp] theorem get?_empty (k : String) : (∅ : Table α).get? k = none := rfl

theorem mem_of_find {entries : List (String × α)} {k : String} {v : α}
    (h : find k entries = some v) : (k, v) ∈ entries := by
  induction entries with
  | nil => simp [find] at h
  | cons head rest ih =>
    obtain ⟨l, w⟩ := head
    by_cases hk : k = l
    · simp_all [find]
    · simp [find, hk] at h
      exact List.mem_cons_of_mem _ (ih h)

theorem find_of_mem {entries : List (String × α)} {k : String} {v : α}
    (sorted : entries.Pairwise fun a b => a.1 < b.1) (h : (k, v) ∈ entries) :
    find k entries = some v := by
  induction entries with
  | nil => simp at h
  | cons head rest ih =>
    obtain ⟨l, w⟩ := head
    rw [List.pairwise_cons] at sorted
    rcases List.mem_cons.1 h with heq | hmem
    · simp_all [find]
    · have : l < k := sorted.1 (k, v) hmem
      have hne : k ≠ l := by rintro rfl; exact String.lt_irrefl _ this
      simp [find, hne, ih sorted.2 hmem]

theorem get?_eq_some_iff (t : Table α) (k : String) (v : α) :
    t.get? k = some v ↔ (k, v) ∈ t.entries :=
  ⟨mem_of_find, find_of_mem t.sorted⟩

/-- Look-ups determine a table. -/
theorem ext {s t : Table α} (h : ∀ k, s.get? k = t.get? k) : s = t := by
  have mem : ∀ e, e ∈ s.entries ↔ e ∈ t.entries := by
    intro ⟨k, v⟩
    rw [← get?_eq_some_iff, ← get?_eq_some_iff, h]
  have entries : s.entries = t.entries := by
    obtain ⟨xs, hx⟩ := s
    obtain ⟨ys, hy⟩ := t
    simp only at mem
    clear h
    induction xs generalizing ys with
    | nil =>
      cases ys with
      | nil => rfl
      | cons y ys => exact absurd ((mem y).2 (List.mem_cons_self ..)) (by simp)
    | cons x xs ih =>
      cases ys with
      | nil => exact absurd ((mem x).1 (List.mem_cons_self ..)) (by simp)
      | cons y ys =>
        rw [List.pairwise_cons] at hx hy
        have hxy : x = y := by
          rcases List.mem_cons.1 ((mem x).1 (List.mem_cons_self ..)) with h | h
          · exact h
          · rcases List.mem_cons.1 ((mem y).2 (List.mem_cons_self ..)) with h' | h'
            · exact h'.symm
            · exact absurd (String.lt_trans (hx.1 y h') (hy.1 x h)) (String.lt_irrefl _)
        subst hxy
        have irrefl : ∀ e, x.1 < e.1 → e ≠ x := by
          rintro e he rfl
          exact String.lt_irrefl _ he
        refine congrArg (x :: ·) (ih hx.2 ys hy.2 ?_)
        intro e
        constructor
        · intro he
          rcases List.mem_cons.1 ((mem e).1 (List.mem_cons_of_mem _ he)) with h | h
          · exact absurd h (irrefl e (hx.1 e he))
          · exact h
        · intro he
          rcases List.mem_cons.1 ((mem e).2 (List.mem_cons_of_mem _ he)) with h | h
          · exact absurd h (irrefl e (hy.1 e he))
          · exact h
  cases s
  cases t
  cases entries
  rfl

instance [DecidableEq α] : DecidableEq (Table α) := fun s t =>
  if h : s.entries = t.entries then .isTrue (by cases s; cases t; cases h; rfl)
  else .isFalse (fun e => h (congrArg entries e))

end Table

/-- A set of ids, in the order of the ids. -/
abbrev IdSet := Table Unit

def IdSet.add (s : IdSet) (id : String) : IdSet := s.insert id ()

def IdSet.ofIds (ids : List String) : IdSet := ids.foldl IdSet.add ∅

end Inquiry
