import Inquiry.Text.CharSet

/-!
What the machines for a pattern weigh.

There are two for each pattern, both over the bytes of UTF-8. The one that reads forwards has one
state for all places of a set behind which the same bytes may follow. The one that reads backwards
shares states only between characters whose first bytes lie in the same ranges.
-/
namespace Inquiry.Pattern

open Text (CharSet)

/-- The bytes that the states of the two machines take. -/
structure Weight where
  forward : Nat
  backward : Nat
deriving DecidableEq

/-- Bytes one after the other, each from a range of its own. Those behind the first are told
without their mark. -/
abbrev BytePath := List (Nat × Nat)

/-- The paths for the numbers from `first` to `last`, whose digits in base 64 are `n` and all that
is left in front of these. -/
def bytePaths : (n : Nat) → (first last : Nat) → List BytePath
  | 0, first, last => [[(first, last)]]
  | n + 1, first, last =>
    let block := 64 ^ (n + 1)
    let (a, low) := (first / block, first % block)
    let (b, high) := (last / block, last % block)
    if a = b then (bytePaths n low high).map ((a, a) :: ·)
    else
      let begun := if low = 0 then [] else (bytePaths n low (block - 1)).map ((a, a) :: ·)
      let ended := if high + 1 = block then [] else (bytePaths n 0 high).map ((b, b) :: ·)
      -- Between the two, what follows the first byte is anything.
      let a := if low = 0 then a else a + 1
      let b := if high + 1 = block then b + 1 else b
      let whole := if a < b then [(a, b - 1) :: List.replicate (n + 1) (0, 63)] else []
      begun ++ whole ++ ended

/-- The code points that take so many bytes behind the first, whose mark comes second. No
character lies between the two ranges that take two more. -/
def utf8Forms : List (Nat × Nat × Nat × Nat) :=
  [(0, 0, 0, 0x7F), (1, 0xC0, 0x80, 0x7FF), (2, 0xE0, 0x800, 0xD7FF), (2, 0xE0, 0xE000, 0xFFFF),
    (3, 0xF0, 0x10000, 0x10FFFF)]

def utf8Paths (set : CharSet) : List BytePath :=
  utf8Forms.flatMap fun (more, mark, first, last) =>
    set.ranges.toList.flatMap fun (a, b) =>
      let (a, b) := (max a first, min b last)
      if a ≤ b then bytePaths more (a + mark <<< (6 * more)) (b + mark <<< (6 * more)) else []

/-- The steps of a path that it does not share with the one before it. -/
def ownSteps : (before path : BytePath) → Nat
  | r :: before, s :: path => if r = s then ownSteps before path else path.length + 1
  | _, path => path.length

def treeSteps (paths : List BytePath) : Nat :=
  (List.zipWith ownSteps ([] :: paths) paths).foldl (· + ·) 0

/-- A state by the bytes that lead on, and the number of the state to which they lead. -/
abbrev ByteState := List ((Nat × Nat) × Nat)

def numberState (state : ByteState) : StateM (Array ByteState) Nat := do
  let states ← get
  match states.findIdx? (· == state) with
  | some i => return i
  | none =>
    set (states.push state)
    return states.size

/-- Add the states for some paths of at most `n` steps, in the order of their bytes. -/
def addStates : (n : Nat) → List BytePath → StateM (Array ByteState) Nat
  | 0, _ => numberState []
  | n + 1, paths => do
    let steps ← (paths.splitBy fun p q => p.head? == q.head?).mapM fun like => do
      match like with
      | (range :: _) :: _ => return [(range, ← addStates n (like.map List.tail))]
      | _ => return []
    numberState steps.flatten

namespace Weight

instance : Add Weight := ⟨fun v w => ⟨v.forward + w.forward, v.backward + w.backward⟩⟩

def both (n : Nat) : Weight := ⟨n, n⟩

def times (n : Nat) (w : Weight) : Weight := ⟨n * w.forward, n * w.backward⟩

def state : Nat := 32

def ofSet (set : CharSet) : Weight :=
  let paths := utf8Paths set
  if set.size = 1 then both (treeSteps paths * state)
  else if set.isAscii then both (2 * state + 8 * set.ranges.size)
  else
    let (_, states) := (addStates 4 paths).run #[]
    ⟨states.size * state + 8 * states.foldl (fun n s => n + s.length) 0,
      treeSteps paths * state + 2 * state + 4 * paths.length⟩

/-- What there is around the pattern: a way to start later and the end of an occurrence, and
forwards the places to record it. -/
def frame : Weight := ⟨5 * state + 8, 3 * state + 8⟩

def choice (weights : List Weight) : Weight :=
  weights.foldl (· + ·) (both (2 * state + 4 * weights.length))

/-- A group that is recorded, which only the machine that reads forwards does. -/
def captured (w : Weight) : Weight := { w with forward := w.forward + 2 * state }

def repeated (least : Nat) (most : Option Nat) (w : Weight) : Weight :=
  match most with
  | none => w.times (max least 1) + both (state + 8)
  | some most =>
    if least = most then w.times most
    else w.times most + both ((most - least) * (state + 8) + state)

end Weight

end Inquiry.Pattern
