import Inquiry.Json.Value

/-!
Reading JSON text.

A number without fraction and exponent is an integer if it fits into 64 bits. Any other number is
a float by two roundings: the leading digits that fit into 64 bits are taken as a whole number,
which is rounded and then multiplied or divided by one rounded power of ten. The digits beyond
them only move the point.
-/
namespace Inquiry.Json

open Decimal (Binary64 twoTo)

abbrev Rest := List Char

def isBlank (c : Char) : Bool := c == ' ' || c == '\t' || c == '\n' || c == '\r'

def digitValue (c : Char) : Nat := c.toNat - '0'.toNat

def hexValue? (c : Char) : Option Nat :=
  if c.isDigit then some (digitValue c)
  else if 'a' ≤ c ∧ c ≤ 'f' then some (c.toNat - 'a'.toNat + 10)
  else if 'A' ≤ c ∧ c ≤ 'F' then some (c.toNat - 'A'.toNat + 10)
  else none

def readHex4 : Rest → Option (Nat × Rest)
  | a :: b :: c :: d :: rest => do
    return ((((← hexValue? a) * 16 + (← hexValue? b)) * 16 + (← hexValue? c)) * 16
      + (← hexValue? d), rest)
  | _ => none

/-- The character of an escape after its backslash. A high surrogate needs its low one. -/
def readEscape : Rest → Option (Char × Rest)
  | '"' :: rest => some ('"', rest)
  | '\\' :: rest => some ('\\', rest)
  | '/' :: rest => some ('/', rest)
  | 'b' :: rest => some ('\x08', rest)
  | 'f' :: rest => some ('\x0c', rest)
  | 'n' :: rest => some ('\n', rest)
  | 'r' :: rest => some ('\r', rest)
  | 't' :: rest => some ('\t', rest)
  | 'u' :: rest => do
    let (high, rest) ← readHex4 rest
    if 0xDC00 ≤ high ∧ high < 0xE000 then none
    else if 0xD800 ≤ high ∧ high < 0xDC00 then
      match rest with
      | '\\' :: 'u' :: rest => do
        let (low, rest) ← readHex4 rest
        if 0xDC00 ≤ low ∧ low < 0xE000 then
          some (Char.ofNat (0x10000 + (high - 0xD800) * 0x400 + (low - 0xDC00)), rest)
        else none
      | _ => none
    else some (Char.ofNat high, rest)
  | _ => none

/-- The rest of a string after its opening quote, in at most `fuel` steps. -/
def readString : Nat → List Char → Rest → Option (String × Rest)
  | 0, _, _ => none
  | fuel + 1, done, rest =>
    match rest with
    | '"' :: rest => some (String.ofList done.reverse, rest)
    | '\\' :: rest => do
      let (c, rest) ← readEscape rest
      readString fuel (c :: done) rest
    | c :: rest => if c.val < 0x20 then none else readString fuel (c :: done) rest
    | [] => none

def powerOfTen (n : Nat) : Binary64 := (Binary64.ofDecimal false 1 n).getD Binary64.largest

/-- `x * 10 ^ power` by one rounded power of ten, or by several where it takes more than one to
get below the least float. -/
def scaled : Nat → Binary64 → Int → Option Binary64
  | 0, x, _ => some x
  | fuel + 1, x, power =>
    if power.natAbs ≤ 308 then
      if 0 ≤ power then x.mul (powerOfTen power.natAbs) else x.div (powerOfTen power.natAbs)
    else if x.code = 0 then some x
    else if 0 ≤ power then none
    else x.div (powerOfTen 308) >>= fun y => scaled fuel y (power + 308)

/-- The digits of a number so far: their value while it fits, and the shift of the point. -/
structure Digits where
  value : Nat
  shift : Int
  full : Bool

/-- Take in one digit, which lies behind the point if `fraction`. -/
def Digits.push (d : Digits) (fraction : Bool) (c : Char) : Digits :=
  let next := d.value * 10 + digitValue c
  if d.full || next ≥ twoTo 64 then
    { d with full := true, shift := if fraction then d.shift else d.shift + 1 }
  else { d with value := next, shift := if fraction then d.shift - 1 else d.shift }

def Digits.pushAll (fraction : Bool) (text : List Char) (d : Digits) : Digits :=
  text.foldl (Digits.push · fraction) d

/-- The number that starts here. The digits behind the point are tried anew against 64 bits. -/
def readNumber (text : Rest) : Option (Number × Rest) := do
  let (negative, text) := match text with
    | '-' :: rest => (true, rest)
    | rest => (false, rest)
  let digits := text.takeWhile Char.isDigit
  let text := text.drop digits.length
  if digits.isEmpty || (digits.head? == some '0' && digits.length > 1) then none
  else
    let whole := Digits.pushAll false digits ⟨0, 0, false⟩
    let (fraction, text) := match text with
      | '.' :: rest => (some (rest.takeWhile Char.isDigit), rest.dropWhile Char.isDigit)
      | rest => (none, rest)
    if fraction == some [] then none
    else
      let digits := Digits.pushAll true (fraction.getD []) { whole with full := false }
      let (power, text) ← match text with
        | 'e' :: rest | 'E' :: rest =>
          let (down, rest) := match rest with
            | '-' :: rest => (true, rest)
            | '+' :: rest => (false, rest)
            | rest => (false, rest)
          let power := rest.takeWhile Char.isDigit
          if power.isEmpty then none
          else
            let value : Int := (power.take 12).foldl (fun n c => n * 10 + digitValue c) 0
            some (some (if down then -value else value), rest.drop power.length)
        | rest => some (none, rest)
      if fraction.isNone && power.isNone && !whole.full then
        let value : Int := if negative then -(digits.value : Int) else digits.value
        if negative && (digits.value = 0 || digits.value > twoTo 63) then
          some (.float (Binary64.ofNat digits.value).neg, text)
        else some (.int value, text)
      else
        let x ← scaled 5 (Binary64.ofNat digits.value) (digits.shift + power.getD 0)
        some (.float (if negative then x.neg else x), text)

mutual

/-- The value that starts here, in at most `fuel` steps. -/
def readValue : Nat → Rest → Option (Json × Rest)
  | 0, _ => none
  | fuel + 1, text =>
    match text.dropWhile isBlank with
    | 'n' :: 'u' :: 'l' :: 'l' :: rest => some (null, rest)
    | 't' :: 'r' :: 'u' :: 'e' :: rest => some (bool true, rest)
    | 'f' :: 'a' :: 'l' :: 's' :: 'e' :: rest => some (bool false, rest)
    | '"' :: rest => do
      let (s, rest) ← readString (rest.length + 1) [] rest
      some (string s, rest)
    | '[' :: rest =>
      match rest.dropWhile isBlank with
      | ']' :: rest => some (array [], rest)
      | rest => readItems fuel [] rest
    | '\x7b' :: rest =>
      match rest.dropWhile isBlank with
      | '\x7d' :: rest => some (object [], rest)
      | rest => readFields fuel [] rest
    | text => do
      let (n, rest) ← readNumber text
      some (number n, rest)

def readItems : Nat → List Json → Rest → Option (Json × Rest)
  | 0, _, _ => none
  | fuel + 1, done, text => do
    let (item, text) ← readValue fuel text
    match text.dropWhile isBlank with
    | ',' :: rest => readItems fuel (item :: done) rest
    | ']' :: rest => some (array (item :: done).reverse, rest)
    | _ => none

def readFields : Nat → List (String × Json) → Rest → Option (Json × Rest)
  | 0, _, _ => none
  | fuel + 1, done, text =>
    match text.dropWhile isBlank with
    | '"' :: rest => do
      let (name, rest) ← readString (rest.length + 1) [] rest
      match rest.dropWhile isBlank with
      | ':' :: rest => do
        let (value, rest) ← readValue fuel rest
        match rest.dropWhile isBlank with
        | ',' :: rest => readFields fuel ((name, value) :: done) rest
        | '\x7d' :: rest => some (record ((name, value) :: done).reverse, rest)
        | _ => none
      | _ => none
    | _ => none

end

def read? (text : String) : Option Json :=
  let chars := text.toList
  match readValue (2 * chars.length + 2) chars with
  | some (value, rest) => if rest.all isBlank then some value else none
  | none => none

end Inquiry.Json
