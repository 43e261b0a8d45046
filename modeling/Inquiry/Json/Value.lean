import Inquiry.Decimal.Binary64
import Inquiry.Table

/-!
JSON values. An integer and a float stay apart even where they denote the same number; the fields
of an object are kept in the order of their names.
-/
namespace Inquiry

open Decimal (Binary64)

/-- A number as it is written: an integer, or a float that is finite. -/
inductive Number where
  | int (n : Int)
  | float (x : Binary64)
deriving DecidableEq

namespace Number

/-- The number as a float, to the nearest. -/
def toBinary64 : Number → Binary64
  | int n => Binary64.ofInt n
  | float x => x

/-- The position in the order of numbers, which compares an integer with a float by value. -/
def rank (n : Number) : Int := n.toBinary64.rank

end Number

inductive Json where
  | null
  | bool (b : Bool)
  | number (n : Number)
  | string (s : String)
  | array (items : List Json)
  | object (fields : List (String × Json))

namespace Json

instance : Inhabited Json := ⟨null⟩

mutual

/-- Whether two values are identical, an integer never being a float. -/
def beq : Json → Json → Bool
  | null, null => true
  | bool a, bool b => a == b
  | number a, number b => a == b
  | string s, string t => s == t
  | array xs, array ys => beqItems xs ys
  | object xs, object ys => beqFields xs ys
  | _, _ => false
termination_by structural x => x

def beqItems : List Json → List Json → Bool
  | [], [] => true
  | x :: xs, y :: ys => beq x y && beqItems xs ys
  | _, _ => false
termination_by structural x => x

def beqFields : List (String × Json) → List (String × Json) → Bool
  | [], [] => true
  | (k, x) :: xs, (l, y) :: ys => k == l && beq x y && beqFields xs ys
  | _, _ => false
termination_by structural x => x

end

mutual

theorem beq_iff : (x y : Json) → (beq x y = true ↔ x = y)
  | null, y => by cases y <;> simp [beq]
  | bool a, y => by cases y <;> simp [beq]
  | number a, y => by cases y <;> simp [beq]
  | string s, y => by cases y <;> simp [beq]
  | array xs, y => by cases y <;> simp [beq, beqItems_iff xs]
  | object xs, y => by cases y <;> simp [beq, beqFields_iff xs]

theorem beqItems_iff : (xs ys : List Json) → (beqItems xs ys = true ↔ xs = ys)
  | [], ys => by cases ys <;> simp [beqItems]
  | x :: xs, ys => by cases ys <;> simp [beqItems, beq_iff x, beqItems_iff xs]

theorem beqFields_iff : (xs ys : List (String × Json)) → (beqFields xs ys = true ↔ xs = ys)
  | [], ys => by cases ys <;> simp [beqFields]
  | (k, x) :: xs, ys => by
    cases ys <;> simp [beqFields, beq_iff x, beqFields_iff xs, Prod.ext_iff]

end

instance : DecidableEq Json := fun x y => decidable_of_iff _ (beq_iff x y)

def int (n : Int) : Json := number (.int n)

def float (x : Binary64) : Json := number (.float x)

def nat (n : Nat) : Json := int n

/-- A float if there is one; a result that is not finite is null. -/
def ofResult : Option Binary64 → Json
  | some x => float x
  | none => null

def strings (ids : List String) : Json := array (ids.map string)

/-- An object of named fields, of which a later one replaces an earlier one with its name. -/
def record (fields : List (String × Json)) : Json :=
  object (fields.foldl (fun done field => Table.insertEntry field.1 field.2 done) [])

/-- The value as a float, if it is a number. -/
def number? : Json → Option Binary64
  | number n => some n.toBinary64
  | _ => none

def rank? : Json → Option Int
  | number n => some n.rank
  | _ => none

def field? (name : String) : Json → Option Json
  | object fields => Table.find name fields
  | _ => none

mutual

/-- Whether two answers say the same: no value is converted to another kind, but numbers compare
by value, at any depth. -/
def agrees : Json → Json → Bool
  | null, null => true
  | bool a, bool b => a == b
  | number a, number b => a.rank == b.rank
  | string s, string t => s == t
  | array xs, array ys => itemsAgree xs ys
  | object xs, object ys => xs.length == ys.length && fieldsAgree xs ys
  | _, _ => false
termination_by structural x => x

def itemsAgree : List Json → List Json → Bool
  | [], [] => true
  | x :: xs, y :: ys => agrees x y && itemsAgree xs ys
  | _, _ => false
termination_by structural x => x

/-- Whether each field on the left agrees with the field of its name on the right. -/
def fieldsAgree : List (String × Json) → List (String × Json) → Bool
  | [], _ => true
  | (k, x) :: xs, ys =>
    (match Table.find k ys with
      | some y => agrees x y
      | none => false) && fieldsAgree xs ys
termination_by structural x => x

end

/-- Whether two answers, given or not, say the same. An absent answer is not null. -/
def agree? : Option Json → Option Json → Bool
  | some x, some y => agrees x y
  | none, none => true
  | _, _ => false

end Json

end Inquiry
