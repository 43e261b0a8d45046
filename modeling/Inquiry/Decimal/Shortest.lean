import Inquiry.Decimal.Binary64

/-!
The fewest decimal digits that name a number.

The reals that round to a number form an interval around it, with its ends exactly if the
significand is even. For one digit, two digits and so on, the two neighbours of the number on the
grid of that many digits are tried: the first grid with a neighbour inside the interval gives the
digits, the nearer neighbour if both are inside.
-/
namespace Inquiry.Decimal

structure Scaled where
  digits : Nat
  power : Int
deriving DecidableEq

/-- The sign of `a * 10 ^ p - b * 2 ^ q`, computed on naturals. -/
def compareScaled (a : Nat) (p : Int) (b : Nat) (q : Int) : Ordering :=
  compare (a * tenTo p.toNat * twoTo (-q).toNat) (b * twoTo q.toNat * tenTo (-p).toNat)

/-- The power of ten of the first digit of `m * 2 ^ q`. -/
def leadingPower (m : Nat) (q : Int) : Int :=
  let guess := ((m.log2 : Int) + q) * 30103 / 100000
  if compareScaled 1 guess m q == .gt then guess - 1
  else if compareScaled 1 (guess + 1) m q != .gt then guess + 1
  else guess

def stripZeros : Nat → Scaled → Scaled
  | 0, s => s
  | fuel + 1, s =>
    if s.digits % 10 = 0 ∧ s.digits ≠ 0 then stripZeros fuel ⟨s.digits / 10, s.power + 1⟩ else s

namespace Binary64

/-- Whether a decimal rounds to the magnitude of `x`. The interval is four times as fine as the
significand; below a power of two the lower numbers lie twice as close. -/
def reads (x : Binary64) (s : Scaled) : Bool :=
  let m := x.significand
  let q := x.exponent - 2
  let low := if m = twoTo 52 ∧ x.exponent > -1074 then 4 * m - 1 else 4 * m - 2
  let closed := m % 2 == 0
  let above := compareScaled s.digits s.power low q
  let below := compareScaled s.digits s.power (4 * m + 2) q
  (above == .gt || (closed && above == .eq)) && (below == .lt || (closed && below == .eq))

def neighbours (x : Binary64) (power : Int) : Scaled × Scaled :=
  let (num, den) := x.ratio
  let floor := num * tenTo (-power).toNat / (den * tenTo power.toNat)
  (⟨floor, power⟩, ⟨floor + 1, power⟩)

/-- Whether the magnitude lies nearer to the upper of two neighbours; halfway goes to the even
one. -/
def nearerAbove (x : Binary64) (low : Scaled) : Bool :=
  match compareScaled (2 * low.digits + 1) low.power (2 * x.significand) x.exponent with
  | .lt => true
  | .eq => low.digits % 2 == 1
  | .gt => false

def shortestFrom (x : Binary64) (leading : Int) : Nat → Nat → Scaled
  | 0, digits => (x.neighbours (leading - digits + 1)).1
  | fuel + 1, digits =>
    let (low, high) := x.neighbours (leading - digits + 1)
    match x.reads low, x.reads high with
    | true, true => if x.nearerAbove low then high else low
    | true, false => low
    | false, true => high
    | false, false => x.shortestFrom leading fuel (digits + 1)

/-- The fewest digits that read back as the magnitude of `x`, the last of them not zero. -/
def shortest (x : Binary64) : Scaled :=
  if x.code = 0 then ⟨0, 0⟩
  else stripZeros 400 (x.shortestFrom (leadingPower x.significand x.exponent) 17 1)

end Binary64

end Inquiry.Decimal
