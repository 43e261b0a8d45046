import Inquiry.Json.Value
import Inquiry.Proofs.Table
import Mathlib.Data.List.Forall2
import Mathlib.Data.List.Perm.Subperm

/-!
Answers that say the same.

Objects are compared by looking up the fields of one in the other, so that agreement goes both ways
is not to be seen from its definition: it takes that each object names its fields apart, and that
as many names on one side as on the other leave none over. Main statements:
`Json.Proper.agrees_self`, `Json.Proper.agrees_symm`, `Json.agrees_trans`.
-/
namespace Inquiry.Json

/-- A value in which no object, at any depth, has two fields of one name. -/
inductive Proper : Json → Prop
  | null : Proper null
  | bool (b : Bool) : Proper (bool b)
  | number (n : Number) : Proper (number n)
  | string (s : String) : Proper (string s)
  | array {items : List Json} (each : ∀ x ∈ items, Proper x) : Proper (array items)
  | object {fields : List (String × Json)} (names : (fields.map (·.1)).Nodup)
      (each : ∀ e ∈ fields, Proper e.2) : Proper (object fields)

theorem itemsAgree_iff {xs ys : List Json} :
    itemsAgree xs ys = true ↔ List.Forall₂ (fun x y => agrees x y = true) xs ys := by
  induction xs generalizing ys with
  | nil => cases ys <;> simp [itemsAgree]
  | cons x xs ih => cases ys <;> simp [itemsAgree, ih]

theorem fieldsAgree_iff {xs ys : List (String × Json)} :
    fieldsAgree xs ys = true ↔
      ∀ e ∈ xs, ∃ y, Table.find e.1 ys = some y ∧ agrees e.2 y = true := by
  induction xs with
  | nil => simp [fieldsAgree]
  | cons e rest ih =>
    obtain ⟨k, x⟩ := e
    rw [fieldsAgree, Bool.and_eq_true, ih, List.forall_mem_cons]
    refine and_congr_left' ?_
    cases Table.find k ys <;> simp

/-- What it is that two values agree in. -/
inductive Alike : Json → Json → Prop
  | null : Alike null null
  | bool (b : Bool) : Alike (bool b) (bool b)
  | number {m n : Number} (level : m.rank = n.rank) : Alike (number m) (number n)
  | string (s : String) : Alike (string s) (string s)
  | array {xs ys : List Json} (items : List.Forall₂ (fun x y => agrees x y = true) xs ys) :
      Alike (array xs) (array ys)
  | object {xs ys : List (String × Json)} (size : xs.length = ys.length)
      (fields : ∀ e ∈ xs, ∃ y, Table.find e.1 ys = some y ∧ agrees e.2 y = true) :
      Alike (object xs) (object ys)

theorem agrees_iff {x y : Json} : agrees x y = true ↔ Alike x y := by
  constructor
  · intro same
    cases x <;> cases y <;> simp only [agrees, Bool.false_eq_true] at same
    case null.null => exact .null
    case bool.bool a b => exact eq_of_beq same ▸ .bool a
    case number.number m n => exact .number (eq_of_beq same)
    case string.string s t => exact eq_of_beq same ▸ .string s
    case array.array xs ys => exact .array (itemsAgree_iff.mp same)
    case object.object xs ys =>
      rw [Bool.and_eq_true, beq_iff_eq] at same
      exact .object same.1 (fieldsAgree_iff.mp same.2)
  · intro alike
    cases alike with
    | null => rfl
    | bool b => exact beq_self_eq_true b
    | number level => exact beq_iff_eq.mpr level
    | string s => exact beq_self_eq_true s
    | array items => exact itemsAgree_iff.mpr items
    | object size fields =>
      rw [agrees, Bool.and_eq_true, beq_iff_eq]
      exact ⟨size, fieldsAgree_iff.mpr fields⟩

namespace Proper

variable {x y : Json}

theorem agrees_self (h : x.Proper) : agrees x x = true := by
  induction h with
  | null => rfl
  | bool b => exact agrees_iff.mpr (.bool b)
  | number n => exact agrees_iff.mpr (.number rfl)
  | string s => exact agrees_iff.mpr (.string s)
  | array each ih => exact agrees_iff.mpr (.array (List.forall₂_same.mpr ih))
  | @object fields names each ih =>
    refine agrees_iff.mpr (.object rfl fun e mem => ⟨e.2, ?_, ih e mem⟩)
    exact Table.find_of_mem_of_nodup names mem

/-- Fields that are all found on the other side, where there are no more, are all there are. -/
theorem names_perm {xs ys : List (String × Json)} (names : (xs.map (·.1)).Nodup)
    (size : xs.length = ys.length)
    (found : ∀ e ∈ xs, ∃ y, Table.find e.1 ys = some y ∧ agrees e.2 y = true) :
    (xs.map (·.1)).Perm (ys.map (·.1)) := by
  have subset : xs.map (·.1) ⊆ ys.map (·.1) := by
    rintro k mem
    obtain ⟨e, among, rfl⟩ := List.mem_map.mp mem
    obtain ⟨y, there, -⟩ := found e among
    exact List.mem_map.mpr ⟨(e.1, y), Table.mem_of_find there, rfl⟩
  refine (List.subperm_of_subset names subset).perm_of_length_le ?_
  simp [size]

theorem agrees_symm (h : x.Proper) (same : agrees x y = true) : agrees y x = true := by
  induction h generalizing y with
  | null => cases agrees_iff.mp same; rfl
  | bool b => cases agrees_iff.mp same; exact agrees_iff.mpr (.bool b)
  | string s => cases agrees_iff.mp same; exact agrees_iff.mpr (.string s)
  | number n =>
    cases agrees_iff.mp same with
    | number level => exact agrees_iff.mpr (.number level.symm)
  | array each ih =>
    cases agrees_iff.mp same with
    | array items =>
      have both := (List.forall₂_and_left _ _).mpr ⟨fun x mem z => ih x mem (y := z), items⟩
      exact agrees_iff.mpr (.array (both.imp fun x z h => h.1 z h.2).flip)
  | @object xs names each ih =>
    cases agrees_iff.mp same with
    | @object _ ys size found =>
      have perm := names_perm names size found
      refine agrees_iff.mpr (.object size.symm fun e mem => ?_)
      obtain ⟨f, among, named⟩ : ∃ f ∈ xs, f.1 = e.1 :=
        List.mem_map.mp (perm.mem_iff.mpr (List.mem_map_of_mem mem))
      obtain ⟨v, there, agree⟩ := found f among
      have own : Table.find e.1 ys = some e.2 :=
        Table.find_of_mem_of_nodup (perm.nodup_iff.mp names) mem
      rw [named, own, Option.some_inj] at there
      subst there
      exact ⟨f.2, named ▸ Table.find_of_mem_of_nodup names among, ih f among agree⟩

end Proper

mutual

theorem agrees_trans {y z : Json} :
    (x : Json) → agrees x y = true → agrees y z = true → agrees x z = true
  | null, first, second => by cases agrees_iff.mp first; exact second
  | bool b, first, second => by cases agrees_iff.mp first; exact second
  | string s, first, second => by cases agrees_iff.mp first; exact second
  | number m, first, second => by
    cases agrees_iff.mp first with
    | number level =>
      cases agrees_iff.mp second with
      | number level' => exact agrees_iff.mpr (.number (level.trans level'))
  | array xs, first, second => by
    cases agrees_iff.mp first with
    | array items =>
      cases agrees_iff.mp second with
      | array items' =>
        exact itemsAgree_trans xs (itemsAgree_iff.mpr items) (itemsAgree_iff.mpr items')
  | object xs, first, second => by
    cases agrees_iff.mp first with
    | object size fields =>
      cases agrees_iff.mp second with
      | object size' fields' =>
        exact agrees_iff.mpr (.object (size.trans size')
          (fieldsAgree_iff.mp (fieldsAgree_trans xs fields fields')))

theorem itemsAgree_trans {ys zs : List Json} :
    (xs : List Json) → itemsAgree xs ys = true → itemsAgree ys zs = true → itemsAgree xs zs = true
  | [], first, second => by
    cases ys with
    | nil => exact second
    | cons => cases first
  | x :: xs, first, second => by
    match ys, zs with
    | [], _ => cases first
    | y :: ys, [] => cases second
    | y :: ys, z :: zs =>
      rw [itemsAgree, Bool.and_eq_true] at *
      exact ⟨agrees_trans x first.1 second.1, itemsAgree_trans xs first.2 second.2⟩

theorem fieldsAgree_trans {ys zs : List (String × Json)} :
    (xs : List (String × Json)) →
    (∀ e ∈ xs, ∃ y, Table.find e.1 ys = some y ∧ agrees e.2 y = true) →
    (∀ e ∈ ys, ∃ z, Table.find e.1 zs = some z ∧ agrees e.2 z = true) →
    fieldsAgree xs zs = true
  | [], _, _ => rfl
  | (k, x) :: xs, first, second => by
    obtain ⟨⟨y, there, agree⟩, others⟩ := List.forall_mem_cons.mp first
    obtain ⟨z, there', agree'⟩ := second (k, y) (Table.mem_of_find there)
    rw [fieldsAgree, there', Bool.and_eq_true]
    exact ⟨agrees_trans x agree agree', fieldsAgree_trans xs others second⟩

end

section Optional

variable {x y z : Option Json}

theorem agree?_iff : agree? x y = true ↔ Option.Rel (fun v w => agrees v w = true) x y := by
  constructor
  · intro same
    match x, y with
    | none, none => exact .none
    | some v, some w => exact .some same
    | none, some w => cases same
    | some v, none => cases same
  · rintro (same | _)
    · exact same
    · rfl

theorem Proper.forall_mem_some {v : Json} (h : v.Proper) : ∀ u ∈ some v, u.Proper := by
  rintro _ ⟨⟩
  exact h

theorem agree?_self (proper : ∀ v ∈ x, v.Proper) : agree? x x = true := by
  cases x with
  | none => rfl
  | some v => exact (proper v rfl).agrees_self

theorem agree?_symm (proper : ∀ v ∈ x, v.Proper) (same : agree? x y = true) :
    agree? y x = true := by
  cases agree?_iff.mp same with
  | none => rfl
  | some agree => exact (proper _ rfl).agrees_symm agree

theorem agree?_trans (first : agree? x y = true) (second : agree? y z = true) :
    agree? x z = true := by
  cases agree?_iff.mp first with
  | none => exact second
  | some agree =>
    cases agree?_iff.mp second with
    | some agree' => exact agrees_trans _ agree agree'

/-- What agrees agrees with the same. -/
theorem agree?_congr_left (proper : ∀ v ∈ x, v.Proper) (same : agree? x y = true)
    (z : Option Json) : agree? x z = agree? y z :=
  Bool.eq_iff_iff.mpr ⟨agree?_trans (agree?_symm proper same), agree?_trans same⟩

theorem agree?_congr_right (proper : ∀ v ∈ x, v.Proper) (same : agree? x y = true)
    (z : Option Json) : agree? z x = agree? z y :=
  Bool.eq_iff_iff.mpr ⟨fun left => agree?_trans left same,
    fun right => agree?_trans right (agree?_symm proper same)⟩

end Optional

end Inquiry.Json
