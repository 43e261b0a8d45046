import Inquiry.Decimal.Power

/-!
Finite binary floating point numbers of 64 bits, with exact arithmetic.

A number is a sign and the code of its magnitude, the integer that its lower 63 bits spell.
Codes grow with magnitudes, so an order of numbers is an order of integers (`rank`). The
operations compute the exact quotient of two naturals and round it once, to the nearest number
and to the even code from halfway; `none` stands for a result beyond the largest number.
-/
namespace Inquiry.Decimal

/-- The first code that is no number: all exponent bits set. -/
def codeLimit : Nat := 0x7FF0000000000000

structure Binary64 where
  negative : Bool
  code : Nat
  code_lt : code < codeLimit
deriving DecidableEq

/-- The code of the number nearest to `num / den`, the even one from halfway. A quotient beyond
the largest number gets a code that is out of range. -/
def nearestCode (num den : Nat) : Nat :=
  if num = 0 then 0
  else
    let guess : Int := (num.log2 : Int) - (den.log2 : Int) - 52
    let short := num * twoTo (-guess).toNat / (den * twoTo guess.toNat) < twoTo 52
    let exponent := max (if short then guess - 1 else guess) (-1074)
    let n := num * twoTo (-exponent).toNat
    let d := den * twoTo exponent.toNat
    let down := n / d
    let rest := n % d
    let up := d < 2 * rest || (d == 2 * rest && down % 2 == 1)
    (exponent + 1074).toNat * twoTo 52 + (if up then down + 1 else down)

namespace Binary64

def ofRatio (negative : Bool) (num den : Nat) : Option Binary64 :=
  let code := nearestCode num den
  if h : code < codeLimit then some ⟨negative, code, h⟩ else none

def zero : Binary64 := ⟨false, 0, by decide⟩

def largest : Binary64 := ⟨false, codeLimit - 1, by decide⟩

instance : Inhabited Binary64 := ⟨zero⟩

def neg (x : Binary64) : Binary64 := { x with negative := !x.negative }

/-- The position of a number in the order of all numbers; both zeros stand at 0. -/
def rank (x : Binary64) : Int := if x.negative then -(x.code : Int) else x.code

/-- The integer that a magnitude is a multiple of a power of two by. -/
def significand (x : Binary64) : Nat :=
  if x.code / twoTo 52 = 0 then x.code else x.code % twoTo 52 + twoTo 52

def exponent (x : Binary64) : Int := max (x.code / twoTo 52 : Nat) 1 - 1075

def ratio (x : Binary64) : Nat × Nat :=
  (x.significand * twoTo x.exponent.toNat, twoTo (-x.exponent).toNat)

/-- The nearest number; an integer beyond the largest number gets that number. -/
def ofInt (n : Int) : Binary64 :=
  match ofRatio (n < 0) n.natAbs 1 with
  | some x => x
  | none => { largest with negative := n < 0 }

def ofNat (n : Nat) : Binary64 := ofInt n

/-- The sum. A sum that is exactly zero is negative only if both terms are negative. -/
def add (x y : Binary64) : Option Binary64 :=
  let scale := min x.exponent y.exponent
  let term (z : Binary64) : Int :=
    (if z.negative then -1 else 1) * (z.significand * twoTo (z.exponent - scale).toNat : Nat)
  let total := term x + term y
  let negative := if total = 0 then x.negative && y.negative else total < 0
  ofRatio negative (total.natAbs * twoTo scale.toNat) (twoTo (-scale).toNat)

def mul (x y : Binary64) : Option Binary64 :=
  ofRatio (x.negative != y.negative) (x.ratio.1 * y.ratio.1) (x.ratio.2 * y.ratio.2)

/-- The quotient; nothing is divided by zero. -/
def div (x y : Binary64) : Option Binary64 :=
  if y.code = 0 then none
  else ofRatio (x.negative != y.negative) (x.ratio.1 * y.ratio.2) (x.ratio.2 * y.ratio.1)

/-- The nearest integer, a half going away from zero. -/
def round (x : Binary64) : Int :=
  let (num, den) := x.ratio
  let magnitude : Int := ((2 * num + den) / (2 * den) : Nat)
  if x.negative then -magnitude else magnitude

/-- The number nearest to plus or minus `digits * 10 ^ power`. Powers that put every digit beyond
the largest number, or below half the smallest, are answered without computing them. -/
def ofDecimal (negative : Bool) (digits : Nat) (power : Int) : Option Binary64 :=
  let width : Int := (Nat.toDigits 10 digits).length
  if digits = 0 then some ⟨negative, 0, by decide⟩
  else if power + width > 310 then none
  else if power + width < -330 then some ⟨negative, 0, by decide⟩
  else ofRatio negative (digits * tenTo power.toNat) (tenTo (-power).toNat)

end Binary64

end Inquiry.Decimal
