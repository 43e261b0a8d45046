import Inquiry.Decimal.Binary64
import Inquiry.Json.Value
import Inquiry.Yaml.Node

/-!
What the nodes of a document say: texts, flags, lists and whole values.

A scalar is a text wherever a text is wanted. As a value of any kind a plain scalar is null, a
flag, a number or else a text, by its form.
-/
namespace Inquiry.Yaml

open Decimal (Binary64 twoTo)

inductive Fault where
  | unreadable
  | unknownOperator (name : String)
deriving DecidableEq

/-- Reading nodes counts how often aliases were followed. -/
abbrev Reading := StateT Nat (Except Fault)

/-- How deeply collections may lie in each other. -/
def depthLimit : Nat := 128

def isNull (text : String) : Bool := ["null", "Null", "NULL", "~"].contains text

def flag? (text : String) : Option Bool :=
  if ["true", "True", "TRUE"].contains text then some true
  else if ["false", "False", "FALSE"].contains text then some false
  else none

def digitsOf? (base : Nat) (digits : List Char) : Option Nat :=
  if digits.isEmpty then none
  else digits.foldlM (fun n d => do
    let v ← hexDigit? d
    if v < base then return n * base + v else none) 0

/-- Decimal digits that start with a needless zero are a text. -/
def hasNeedlessZero (text : List Char) : Bool :=
  let digits := match text with
    | '-' :: rest | '+' :: rest => rest
    | rest => rest
  digits.length > 1 && digits.head? == some '0' && digits.all Char.isDigit

/-- The magnitude of digits that may be marked as of base 16, 8 or 2. -/
def magnitude? (digits : List Char) : Option Nat :=
  match digits with
  | '0' :: 'x' :: rest => digitsOf? 16 rest
  | '0' :: 'o' :: rest => digitsOf? 8 rest
  | '0' :: 'b' :: rest => digitsOf? 2 rest
  | digits => digitsOf? 10 digits

def integer? (text : List Char) : Option Int :=
  if hasNeedlessZero text then none
  else
    match text with
    | '-' :: rest => (magnitude? rest).map fun n => -(n : Int)
    | '+' :: rest | rest => (magnitude? rest).map fun n => (n : Int)

def decimal? (text : List Char) : Option Binary64 := do
  let (negative, text) := match text with
    | '-' :: rest => (true, rest)
    | rest => (false, rest)
  let whole := text.takeWhile Char.isDigit
  let text := text.drop whole.length
  let (fraction, text) := match text with
    | '.' :: rest => (rest.takeWhile Char.isDigit, rest.dropWhile Char.isDigit)
    | rest => ([], rest)
  let digits ← digitsOf? 10 (whole ++ fraction)
  let power : Int ← match text with
    | [] => some 0
    | mark :: rest =>
      if mark != 'e' && mark != 'E' then none
      else
        match rest with
        | '-' :: rest => (digitsOf? 10 rest).map fun n => -(n : Int)
        | '+' :: rest | rest => (digitsOf? 10 rest).map fun n => (n : Int)
  Binary64.ofDecimal negative digits (power - fraction.length)

/-- The number that a text spells as a float: `none` if it spells none, and null if the float is
not finite. -/
def float? (text : List Char) : Option Json :=
  let unsigned := match text with
    | '+' :: rest => rest
    | rest => rest
  let name := String.ofList unsigned
  if [".inf", ".Inf", ".INF", "-.inf", "-.Inf", "-.INF"].contains name && text.take 2 != ['+', '-']
      || [".nan", ".NaN", ".NAN"].contains (String.ofList text) then some .null
  else if text.take 2 == ['+', '-'] then none
  else (decimal? unsigned).map .float

/-- Whether an integer fits into 64 bits, with a sign or without one. -/
def isShort (n : Int) : Bool := -(twoTo 63 : Int) ≤ n && n < twoTo 64

def isWide (n : Int) : Bool := -(twoTo 127 : Int) ≤ n && n < twoTo 128

/-- The value of a plain scalar. An integer that fits into 128 bits only is no value. -/
def plainValue (text : String) : Except Fault Json :=
  let chars := text.toList
  if text.isEmpty || isNull text then .ok .null
  else
    match flag? text, integer? chars with
    | some b, _ => .ok (.bool b)
    | none, some n =>
      if isShort n then .ok (.int n)
      else if isWide n then .error .unreadable
      else if chars.all fun c => c.isDigit || c == '+' || c == '-' then
        .ok ((float? chars).getD (.string text))
      else .ok (.string text)
    | none, none =>
      if hasNeedlessZero chars then .ok (.string text)
      else .ok ((float? chars).getD (.string text))

def standard (name : String) : String := "tag:yaml.org,2002:" ++ name

def demanded (value : Option Json) : Except Fault Json :=
  match value with
  | some v => .ok v
  | none => .error .unreadable

/-- The value of a scalar. A standard tag demands a kind of value; any other makes it a text. -/
def scalarValue (tag : Option String) (style : Style) (text : String) : Except Fault Json :=
  match tag with
  | some tag =>
    if tag == standard "bool" then demanded ((flag? text).map .bool)
    else if tag == standard "int" then
      demanded ((integer? text.toList).bind fun n => if isShort n then some (.int n) else none)
    else if tag == standard "float" then demanded (float? text.toList)
    else if tag == standard "null" then demanded (if isNull text then some .null else none)
    else .ok (.string text)
  | none => if style == .plain then plainValue text else .ok (.string text)

/-- Whether a tag belongs to the document alone. No value has such a tag. -/
def isLocal (tag : Option String) : Bool := tag.any (·.startsWith "!")

namespace Document

variable (d : Document)

/-- Follow an alias. Aliases may be followed a hundred times for each node. -/
def resolve (node : Node) : Reading Node := do
  match node with
  | .alias slot => do
    let jumps := (← get) + 1
    set jumps
    if jumps > d.size * 100 then throw .unreadable
    match d.node? slot with
    | some node => return node
    | none => throw .unreadable
  | node => return node

def toText (node : Node) : Reading String := do
  match (← d.resolve node) with
  | .scalar _ _ text => return text
  | _ => throw .unreadable

/-- The flag that a plain scalar spells, or a literal block that is tagged as one. -/
def toFlag (node : Node) : Reading Bool := do
  match (← d.resolve node) with
  | .scalar tag style text =>
    let admitted := style == .plain || (style == .literal && tag == some (standard "bool"))
    match flag? text with
    | some b => if admitted then return b else throw .unreadable
    | none => throw .unreadable
  | _ => throw .unreadable

def isAbsent (node : Node) : Except Fault Bool :=
  match node with
  | .scalar none .plain text => .ok (text.isEmpty || isNull text)
  | .scalar (some tag) .plain text =>
    if tag == standard "null" then
      if isNull text then .ok true else .error .unreadable
    else .ok false
  | .nothing => .ok true
  | .cut => .error .unreadable
  | _ => .ok false

def toOptional {α : Type} (read : Node → Reading α) (node : Node) : Reading (Option α) := do
  let node ← d.resolve node
  match isAbsent node with
  | .ok true => return none
  | .ok false => some <$> read node
  | .error fault => throw fault

def isEmptyCollection : Node → Bool
  | .nothing => true
  | .scalar _ .plain text => text.isEmpty
  | _ => false

def toItems (node : Node) : Reading (List Node) := do
  match (← d.resolve node) with
  | .sequence _ items => return items
  | node => if isEmptyCollection node then return [] else throw .unreadable

def toEntries (node : Node) : Reading (List (Node × Node)) := do
  match (← d.resolve node) with
  | .mapping _ entries => return entries
  | node => if isEmptyCollection node then return [] else throw .unreadable

/-- The whole value of a node, in which collections may lie so deep. Of entries with the same key
the last one counts. -/
def toValue : (depth : Nat) → Node → Reading Json
  | depth, node => do
    match (← d.resolve node) with
    | .scalar tag style text =>
      if isLocal tag then throw .unreadable
      match scalarValue tag style text with
      | .ok v => return v
      | .error fault => throw fault
    | .nothing => return .null
    | .sequence tag items =>
      if isLocal tag then throw .unreadable
      match depth with
      | 0 => throw .unreadable
      | depth + 1 => return .array (← items.mapM (toValue depth))
    | .mapping tag entries =>
      if isLocal tag then throw .unreadable
      match depth with
      | 0 => throw .unreadable
      | depth + 1 =>
        let fields ← entries.mapM fun (key, value) => do
          return (← d.toText key, ← toValue depth value)
        return .record fields
    | _ => throw .unreadable

end Document

mutual

def Node.isWhole : Node → Bool
  | .cut => false
  | .sequence _ items => areWhole items
  | .mapping _ entries => entriesAreWhole entries
  | _ => true
termination_by structural node => node

def areWhole : List Node → Bool
  | [] => true
  | node :: rest => node.isWhole && areWhole rest
termination_by structural nodes => nodes

def entriesAreWhole : List (Node × Node) → Bool
  | [] => true
  | (key, value) :: rest => key.isWhole && value.isWhole && entriesAreWhole rest
termination_by structural entries => entries

end

/-- Read a document from its root. What is read off it counts before its soundness does. -/
def Document.read {α : Type} (d : Document) (read : Node → Reading α) : Except Fault α := do
  let (a, _) ← (read d.root).run 0
  if d.sound then return a else throw .unreadable

/-- The values of a mapping by their keys; an empty text has none. -/
def readAnswers (text : String) : Except Fault (Table Json) :=
  let d := Document.ofText text
  d.read fun root => do
    let entries ← d.toEntries root
    let fields ← entries.mapM fun (key, value) => do
      return (← d.toText key, ← d.toValue (depthLimit - 1) value)
    return .ofList fields

end Inquiry.Yaml
