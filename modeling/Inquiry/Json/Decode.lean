import Inquiry.Json.Writer
import Inquiry.Text.Quoted
import Inquiry.Time.Reader

/-!
Reading records out of JSON values.

A record is an object, whose fields are taken in the order of their names, or an array of its
fields in the order of their declaration. The first value that does not fit is the error; fields
that are missing are found only after that.
-/
namespace Inquiry

inductive DecodeError where
  | unfit (found : Json) (wanted : String)
  /-- A negative integer where a count was wanted. -/
  | negative (n : Int)
  /-- A choice written as an object that has not exactly one field. -/
  | notSingleKey
  | unknownChoice (name : String) (known : List String)
  | missingField (name : String)
  | wrongLength (length : Nat) (wanted : String)
  | unknownOperator (name : String)
  | unreadableTime (fault : Time.Fault)
deriving DecidableEq

namespace DecodeError

def described : Json → String
  | .null => "null"
  | .bool b => "boolean `" ++ (if b then "true" else "false") ++ "`"
  | .number (.int n) => "integer `" ++ toString n ++ "`"
  | .number (.float x) => "floating point `" ++ x.text ++ "`"
  | .string s => "string " ++ Text.quoted s
  | .array _ => "sequence"
  | .object _ => "map"

def listed (known : List String) : String :=
  let marked := known.map fun name => "`" ++ name ++ "`"
  match marked with
  | [a, b] => a ++ " or " ++ b
  | _ => "one of " ++ ", ".intercalate marked

def message : DecodeError → String
  | unfit found wanted => "invalid type: " ++ described found ++ ", expected " ++ wanted
  | negative n => "invalid value: integer `" ++ toString n ++ "`, expected usize"
  | notSingleKey => "invalid value: map, expected map with a single key"
  | unknownChoice name known => "unknown variant `" ++ name ++ "`, expected " ++ listed known
  | missingField name => "missing field `" ++ name ++ "`"
  | wrongLength length wanted =>
    "invalid length " ++ toString length ++ ", expected " ++ wanted
  | unknownOperator name => "Unknown condition operator: " ++ name
  | unreadableTime fault => fault.message

end DecodeError

namespace Json

def toText : Json → Except DecodeError String
  | string s => .ok s
  | value => .error (.unfit value "a string")

def toFlag : Json → Except DecodeError Bool
  | bool b => .ok b
  | value => .error (.unfit value "a boolean")

def toCount : Json → Except DecodeError Nat
  | number (.int n) => if n < 0 then .error (.negative n) else .ok n.toNat
  | value => .error (.unfit value "usize")

def toInstant : Json → Except DecodeError Time.Instant
  | string s =>
    match Time.Instant.read s with
    | .ok t => .ok t
    | .error fault => .error (.unreadableTime fault)
  | value => .error (.unfit value "an RFC 3339 formatted date and time string")

def toValue (value : Json) : Except DecodeError Json := .ok value

/-- A list, of which the first item that does not fit is the error. -/
def toSequence {α : Type} (item : Json → Except DecodeError α) : Json → Except DecodeError (List α)
  | array items => items.mapM item
  | value => .error (.unfit value "a sequence")

def toOptional {α : Type} (item : Json → Except DecodeError α) :
    Json → Except DecodeError (Option α)
  | null => .ok none
  | value => some <$> item value

/-- One of some names, by itself or as the only field of an object, whose value is null. -/
def toChoice {α : Type} (choices : List (String × α)) : Json → Except DecodeError α
  | string s => choose s
  | object [(name, value)] => do
    let choice ← choose name
    match value with
    | null => return choice
    | other => throw (.unfit other "unit")
  | object _ => .error .notSingleKey
  | value => .error (.unfit value "string or map")
where
  choose (name : String) : Except DecodeError α :=
    match Table.find name choices with
    | some choice => .ok choice
    | none => .error (.unknownChoice name (choices.map (·.1)))

def takeField {α : Type} (name : String) (decode : Json → Except DecodeError α)
    (fields : List (String × Json)) : Except DecodeError (Option α) :=
  match Table.find name fields with
  | some value => some <$> decode value
  | none => .ok none

def demand {α : Type} (name : String) : Option α → Except DecodeError α
  | some a => .ok a
  | none => .error (.missingField name)

/-- An array that stands for a record: how many items are taken, and those that are left. -/
structure Row where
  taken : Nat
  left : List Json

/-- Reading takes the next items off a row. -/
abbrev RowReader := StateT Row (Except DecodeError)

def takeItem? {α : Type} (decode : Json → Except DecodeError α) : RowReader (Option α) := do
  let row ← get
  match row.left with
  | item :: left => do
    let a ← decode item
    set (Row.mk (row.taken + 1) left)
    return some a
  | [] => return none

/-- The next item, which has to be there in an array that stands for what is `wanted`. -/
def takeItem {α : Type} (wanted : String) (decode : Json → Except DecodeError α) :
    RowReader α := do
  let taken := (← get).taken
  match (← takeItem? decode) with
  | some a => return a
  | none => throw (.wrongLength taken wanted)

/-- All items of an array, none being left over. -/
def readRow {α : Type} (items : List Json) (reader : RowReader α) : Except DecodeError α := do
  let (a, row) ← StateT.run reader ⟨0, items⟩
  if row.left.isEmpty then return a
  else throw (.wrongLength items.length "fewer elements in array")

/-- A record by its name, which `ofFields` reads off an object and `reader` off an array of `size`
items. -/
def toRecord {α : Type} (name : String) (size : Nat)
    (ofFields : List (String × Json) → Except DecodeError α)
    (reader : (wanted : String) → RowReader α) : Json → Except DecodeError α
  | object fields => ofFields fields
  | array items =>
    readRow items (reader ("struct " ++ name ++ " with " ++ toString size ++ " elements"))
  | value => .error (.unfit value ("struct " ++ name))

end Json

end Inquiry
