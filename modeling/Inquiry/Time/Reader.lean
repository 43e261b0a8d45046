import Inquiry.Decimal.Power
import Inquiry.Text.Blank
import Inquiry.Time.Instant

/-!
Reading dates and times.

Records are read loosely: blanks may stand between the parts, numbers need not be padded and the
offset may lack its colon. An answer that counts as a date is read strictly, or is a date alone.
-/
namespace Inquiry.Time

open Text (isBlank trimStart)

inductive Fault where
  | invalid
  | tooShort
  | tooLong
  | outOfRange
  | impossible
deriving DecidableEq

def Fault.message : Fault → String
  | invalid => "input contains invalid characters"
  | tooShort => "premature end of input"
  | tooLong => "trailing input"
  | outOfRange => "input is out of range"
  | impossible => "no possible date and time matching input"

/-- Reading takes what it reads off the front of the text that is left. -/
abbrev Reader := StateT (List Char) (Except Fault)

def digitsValue (digits : List Char) : Nat :=
  digits.foldl (fun n c => n * 10 + (c.toNat - '0'.toNat)) 0

def readBlanks : Reader Unit := modify trimStart

/-- Digits, at least `least` of them and at most `most`, if there is a most. -/
def readNumber (least : Nat) (most : Option Nat) : Reader Nat := do
  let text ← get
  let run := text.takeWhile Char.isDigit
  let digits := match most with
    | some n => run.take n
    | none => run
  if text.length < least then throw .tooShort
  if digits.length < least then throw .invalid
  if Decimal.twoTo 63 ≤ digitsValue digits then throw .outOfRange
  set (text.drop digits.length)
  return digitsValue digits

def readMark (mark : Char) : Reader Unit := do
  match (← get) with
  | c :: rest => if c = mark then set rest else throw .invalid
  | [] => throw .tooShort

def readWithin (low high : Nat) (number : Reader Nat) : Reader Nat := do
  let n ← number
  if low ≤ n ∧ n ≤ high then return n else throw .outOfRange

/-- A year: at most four digits, or a sign and any number of them. -/
def readYear : Reader Int := do
  let year : Int ← match (← get) with
    | '-' :: rest => do
      set rest
      pure (-((← readNumber 1 none) : Int))
    | '+' :: rest => do
      set rest
      pure ((← readNumber 1 none) : Int)
    | _ => do pure ((← readNumber 1 (some 4)) : Int)
  if -(Decimal.twoTo 31 : Int) ≤ year ∧ year < Decimal.twoTo 31 then return year
  else throw .outOfRange

structure Manner where
  /-- What may stand before a mark. -/
  gap : Reader Unit
  year : Reader Int
  /-- A month, day, hour, minute or second. -/
  number : Reader Nat

/-- Blanks may stand before each number and mark, and numbers have one or two digits. -/
def Manner.loose : Manner where
  gap := readBlanks
  year := readBlanks *> readYear
  number := readBlanks *> readNumber 1 (some 2)

/-- Exactly four digits for the year and two for all else. -/
def Manner.strict : Manner where
  gap := pure ()
  year := do return ((← readNumber 4 (some 4)) : Int)
  number := readNumber 2 (some 2)

/-- A date alone: blanks may stand before each number, but not before a mark. -/
def Manner.calendar : Manner := { Manner.loose with gap := pure () }

/-- Year, month and day, which need not be a day of the calendar. -/
def Manner.readDate (m : Manner) : Reader (Int × Nat × Nat) := do
  let year ← m.year
  m.gap
  readMark '-'
  let month ← readWithin 1 12 m.number
  m.gap
  readMark '-'
  let day ← readWithin 1 31 m.number
  return (year, month, day)

def readSeparator : Reader Unit := do
  match (← get) with
  | c :: rest => if c = 't' ∨ c = 'T' ∨ c = ' ' then set rest else throw .invalid
  | [] => throw .tooShort

/-- The nanoseconds of a fraction, of which nine digits count. -/
def readFraction : Reader Nat := do
  match (← get) with
  | '.' :: rest => do
    set rest
    let n ← readNumber 1 (some 9)
    let left ← get
    set (left.dropWhile Char.isDigit)
    return n * Decimal.tenTo (9 - (rest.length - left.length))
  | _ => return 0

def Manner.readClock (m : Manner) : Reader (Nat × Nat × Nat × Nat) := do
  let hour ← readWithin 0 23 m.number
  m.gap
  readMark ':'
  let minute ← readWithin 0 59 m.number
  m.gap
  readMark ':'
  let second ← readWithin 0 60 m.number
  let nanosecond ← readFraction
  return (hour, minute, second, nanosecond)

/-- Two digits of an offset as they stand. A lone character of ASCII is half of them. -/
def readPair : Reader (List Char) := do
  match (← get) with
  | a :: b :: rest => do
    set rest
    if a.isDigit ∧ b.isDigit then return [a, b] else throw .invalid
  | [c] => throw (if c.toNat < 0x80 then .tooShort else .invalid)
  | [] => throw .tooShort

/-- The minutes by which a clock is ahead of universal time: the letter Z, or a sign, hours and
minutes. `colon` passes what stands between the two. -/
def readOffset (colon : Reader Unit) : Reader Int := do
  match (← get) with
  | [] => throw .tooShort
  | sign :: rest => do
    let zulu := sign = 'Z' ∨ sign = 'z'
    let negative := sign = '-' ∨ sign = '−'
    if ¬(zulu ∨ negative ∨ sign = '+') then throw .invalid
    set rest
    if zulu then return 0
    let hours ← readPair
    colon
    let minutes ← readPair
    if digitsValue minutes ≥ 60 then throw .outOfRange
    let ahead : Int := (digitsValue hours * 60 + digitsValue minutes : Nat)
    return if negative then -ahead else ahead

def readColons : Reader Unit := modify (List.dropWhile fun c => c == ':' || isBlank c)

/-- The offset of a loosely written time, which may also be spelled UTC. -/
def readLooseOffset : Reader Int := do
  let text ← get
  if (text.take 3).map Char.toUpper = ['U', 'T', 'C'] then
    set (text.drop 3)
    return 0
  else readOffset readColons

def readEnd : Reader Unit := do
  if !(← get).isEmpty then throw .tooLong

def resolve (date : Int × Nat × Nat) (clock : Nat × Nat × Nat × Nat) (offset : Int) :
    Except Fault Instant := do
  let (year, month, day) := date
  let (hour, minute, second, nanosecond) := clock
  match Date.of? year month day, Clock.of? hour minute second nanosecond with
  | some date, some clock =>
    if offset.natAbs ≥ 1440 then throw .outOfRange
    match Instant.ofLocal? date clock offset with
    | some t => return t
    | none => throw .impossible
  | _, _ => throw .outOfRange

def Reader.run {α : Type} (text : String) (reader : Reader α) : Except Fault α :=
  return (← StateT.run reader text.toList).1

def Instant.read (text : String) : Except Fault Instant :=
  Reader.run text do
    let date ← Manner.loose.readDate
    readSeparator
    let clock ← Manner.loose.readClock
    readBlanks
    let offset ← readLooseOffset
    readBlanks
    readEnd
    resolve date clock offset

def Instant.readStrict (text : String) : Except Fault Instant :=
  Reader.run text do
    let date ← Manner.strict.readDate
    readSeparator
    let clock ← Manner.strict.readClock
    let offset ← readOffset (readMark ':')
    readEnd
    resolve date clock offset

def Instant.readDay (text : String) : Except Fault Instant :=
  Reader.run text do
    let date ← Manner.calendar.readDate
    readEnd
    resolve date (0, 0, 0, 0) 0

/-- The moment that an answer names: a strictly written date and time, or a date alone. -/
def Instant.ofAnswer? (text : String) : Option Instant :=
  match Instant.readStrict text, Instant.readDay text with
  | .ok t, _ => some t
  | _, .ok t => some t
  | _, _ => none

end Inquiry.Time
