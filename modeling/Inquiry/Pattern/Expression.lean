import Inquiry.Text.Property.Category
import Inquiry.Text.Property.Named

/-!
Regular expressions over characters, and whether one occurs in a text.

An expression leads from a place of a text to every place where an occurrence that starts there
may end. `Expression.ends` follows a whole set of places at once, so that no way is gone twice.
-/
namespace Inquiry.Pattern

open Text (CharSet)

def asciiWord : CharSet :=
  .ofRanges [('0'.toNat, '9'.toNat), ('A'.toNat, 'Z'.toNat), ('_'.toNat, '_'.toNat),
    ('a'.toNat, 'z'.toNat)]

/-- The characters of words: what is alphabetic, marks, decimal digits, connectors and what joins
characters. -/
def unicodeWord : CharSet :=
  ["m", "nd", "pc"].foldl (fun set name => set.union ((Text.Property.category? name).getD ∅))
    (((Text.Property.property? "alphabetic").getD ∅).union
      ((Text.Property.property? "joincontrol").getD ∅))

def isWord (unicode : Bool) : Option Char → Bool
  | some c => if unicode then unicodeWord.contains c else asciiWord.contains c
  | none => false

inductive Look where
  | textStart
  | textEnd
  /-- A line starts; lines end with a line feed, or with a carriage return as well. -/
  | lineStart (returns : Bool)
  | lineEnd (returns : Bool)
  | boundary (unicode : Bool)
  | noBoundary (unicode : Bool)
  | wordStart (unicode : Bool)
  | wordEnd (unicode : Bool)
  /-- No character of a word stands before. -/
  | wordStartHalf (unicode : Bool)
  /-- No character of a word stands after. -/
  | wordEndHalf (unicode : Bool)
deriving DecidableEq

/-- Whether a place between two characters, or at an end of the text, is as asked. A line that
ends with both marks does not end between them. -/
def Look.holds (before after : Option Char) : Look → Bool
  | textStart => before.isNone
  | textEnd => after.isNone
  | lineStart returns =>
    before.isNone || before == some '\n'
      || (returns && before == some '\r' && after != some '\n')
  | lineEnd returns =>
    after.isNone
      || (if returns then after == some '\r' || (after == some '\n' && before != some '\r')
        else after == some '\n')
  | boundary unicode => isWord unicode before != isWord unicode after
  | noBoundary unicode => isWord unicode before == isWord unicode after
  | wordStart unicode => !isWord unicode before && isWord unicode after
  | wordEnd unicode => isWord unicode before && !isWord unicode after
  | wordStartHalf unicode => !isWord unicode before
  | wordEndHalf unicode => !isWord unicode after

inductive Expression where
  | one (set : CharSet)
  | look (look : Look)
  | sequence (parts : List Expression)
  | choice (parts : List Expression)
  /-- A part at least so many times, and at most so many if there is a most. -/
  | repeated (least : Nat) (most : Option Nat) (part : Expression)

namespace Expression

/-- The expression that occurs at every place and leads to no other. -/
def empty : Expression := sequence []

instance : Inhabited Expression := ⟨empty⟩

/-- A set of the places of a text, told place by place from its start to its end. -/
abbrev Places := List Bool

def both : Places → Places → Places := List.zipWith or

def surroundings (text : List Char) : List (Option Char × Option Char) :=
  List.zip (none :: text.map some) (text.map some ++ [none])

/-- Take a step so many times, or until it leads nowhere new. -/
def stepTimes (step : Places → Places) : Nat → Places → Places
  | 0, places => places
  | n + 1, places =>
    let next := step places
    if next == places then places else stepTimes step n next

/-- Take a step any number of times up to a bound, and keep all places on the way: those reached
last, `fresh`, and those before them, `seen`. -/
def stepUpTo (step : Places → Places) : Nat → Places → Places → Places
  | 0, seen, _ => seen
  | n + 1, seen, fresh =>
    let next := step fresh
    let joined := both seen next
    if joined == seen then seen else stepUpTo step n joined next

mutual

def ends (text : List Char) : Expression → Places → Places
  | one set, starts => false :: List.zipWith (fun here c => here && set.contains c) starts text
  | look l, starts =>
    List.zipWith (fun here around => here && l.holds around.1 around.2) starts (surroundings text)
  | sequence parts, starts => endsOfAll text parts starts
  | choice parts, starts => endsOfAny text parts starts
  | repeated least most part, starts =>
    let reached := stepTimes (ends text part) least starts
    let more := match most with
      | some n => n - least
      | none => text.length + 1
    stepUpTo (ends text part) more reached reached
termination_by structural e => e

def endsOfAll (text : List Char) : List Expression → Places → Places
  | [], starts => starts
  | part :: parts, starts => endsOfAll text parts (ends text part starts)
termination_by structural parts => parts

def endsOfAny (text : List Char) : List Expression → Places → Places
  | [], starts => starts.map fun _ => false
  | part :: parts, starts => both (ends text part starts) (endsOfAny text parts starts)
termination_by structural parts => parts

end

def occursIn (e : Expression) (text : String) : Bool :=
  let chars := text.toList
  (e.ends chars (List.replicate (chars.length + 1) true)).any id

mutual

def isEmptyOnly : Expression → Bool
  | one _ => false
  | look _ => true
  | sequence parts => areEmptyOnly parts
  | choice parts => areEmptyOnly parts
  | repeated _ most part => most == some 0 || isEmptyOnly part
termination_by structural e => e

def areEmptyOnly : List Expression → Bool
  | [] => true
  | part :: parts => isEmptyOnly part && areEmptyOnly parts
termination_by structural parts => parts

end

/-- How often a part is repeated; what is always empty is repeated at most once. -/
def bounds (part : Expression) (least : Nat) (most : Option Nat) : Nat × Option Nat :=
  if part.isEmptyOnly then (min least 1, some (min (most.getD 1) 1)) else (least, most)

def repeating (part : Expression) (least : Nat) (most : Option Nat) : Expression :=
  match part.bounds least most with
  | (0, some 0) => empty
  | (1, some 1) => part
  | (least, most) => repeated least most part

end Expression

end Inquiry.Pattern
