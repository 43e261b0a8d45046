/-!
Sets of characters as ranges of code points, and the compact text in which tables of such sets
are written.
-/
namespace Inquiry.Text

def lastCodePoint : Nat := 0x10FFFF

/-- A set of code points by its ranges, which ascend and do not touch. -/
structure CharSet where
  ranges : Array (Nat × Nat)

namespace CharSet

instance : EmptyCollection CharSet := ⟨⟨#[]⟩⟩

instance : Inhabited CharSet := ⟨∅⟩

/-- Join ranges that overlap or touch, in a list that ascends by their starts. -/
def join : List (Nat × Nat) → List (Nat × Nat) → List (Nat × Nat)
  | done, [] => done.reverse
  | [], r :: rest => join [r] rest
  | (a, b) :: done, (c, d) :: rest =>
    if c ≤ b + 1 then join ((a, max b d) :: done) rest else join ((c, d) :: (a, b) :: done) rest

/-- The set that some ranges cover, in whatever order they come. -/
def ofRanges (ranges : List (Nat × Nat)) : CharSet :=
  ⟨(join [] (ranges.mergeSort fun r s => r.1 ≤ s.1)).toArray⟩

def singleton (n : Nat) : CharSet := ⟨#[(n, n)]⟩

def union (s t : CharSet) : CharSet := ofRanges (s.ranges.toList ++ t.ranges.toList)

/-- The gaps between ranges, from `start` to `last`. -/
def gaps (last : Nat) : Nat → List (Nat × Nat) → List (Nat × Nat)
  | start, [] => if start ≤ last then [(start, last)] else []
  | start, (a, b) :: rest =>
    if start < a then (start, a - 1) :: gaps last (b + 1) rest else gaps last (b + 1) rest

def complement (last : Nat) (s : CharSet) : CharSet := ⟨(gaps last 0 s.ranges.toList).toArray⟩

def inter (s t : CharSet) : CharSet :=
  complement lastCodePoint ((s.complement lastCodePoint).union (t.complement lastCodePoint))

def diff (s t : CharSet) : CharSet := s.inter (t.complement lastCodePoint)

def symmDiff (s t : CharSet) : CharSet := (s.union t).diff (s.inter t)

/-- Look for a code point among the ranges from `low` up to `high`, halving their number. -/
def search (ranges : Array (Nat × Nat)) (n : Nat) : Nat → Nat → Nat → Bool
  | 0, _, _ => false
  | fuel + 1, low, high =>
    if low < high then
      let mid := (low + high) / 2
      match ranges[mid]? with
      | some (a, b) =>
        if n < a then search ranges n fuel low mid
        else if b < n then search ranges n fuel (mid + 1) high
        else true
      | none => false
    else false

def containsCode (s : CharSet) (n : Nat) : Bool :=
  search s.ranges n (s.ranges.size.log2 + 2) 0 s.ranges.size

def contains (s : CharSet) (c : Char) : Bool := s.containsCode c.toNat

def isEmpty (s : CharSet) : Bool := s.ranges.isEmpty

def isAscii (s : CharSet) : Bool := s.ranges.all fun r => r.2 < 0x80

def size (s : CharSet) : Nat := s.ranges.foldl (fun n r => n + (r.2 - r.1 + 1)) 0

end CharSet

/-- The naturals that a text of digits and letters spells. A numeral is any number of small
letters, counted from 1 in base 26, and one last digit or capital letter in base 36. -/
def numerals (text : String) : List Nat :=
  (text.toList.foldl (fun (done, high) c =>
    if c.isDigit then ((high * 36 + (c.toNat - '0'.toNat)) :: done, 0)
    else if c.isUpper then ((high * 36 + (c.toNat - 'A'.toNat + 10)) :: done, 0)
    else (done, high * 26 + (c.toNat - 'a'.toNat + 1))) (([] : List Nat), 0)).1.reverse

/-- The set of a table in which every range is the gap before it and its length less one. -/
def CharSet.ofTable (text : String) : CharSet :=
  let rec ranges : Nat → List Nat → List (Nat × Nat)
    | start, gap :: extra :: rest =>
      (start + gap, start + gap + extra) :: ranges (start + gap + extra + 1) rest
    | _, _ => []
  ⟨(ranges 0 (numerals text)).toArray⟩

/-- The set of the runs that carry one of some labels, in a table of the lengths and labels of
runs that follow each other from code point 0. -/
def CharSet.ofRuns (text : String) (labels : List Nat) : CharSet :=
  let rec ranges : Nat → List Nat → List (Nat × Nat)
    | start, length :: label :: rest =>
      let later := ranges (start + length) rest
      if labels.contains label then (start, start + length - 1) :: later else later
    | _, _ => []
  CharSet.ofRanges (ranges 0 (numerals text))

end Inquiry.Text
