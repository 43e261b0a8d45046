import Inquiry.Decimal.Shortest

/-!
The text of a number: the fewest digits that read back, positional for moderate magnitudes and
with a power of ten beyond them.
-/
namespace Inquiry.Decimal

structure Style where
  /-- The least power of ten of the first digit that is written positionally. -/
  least : Int
  greatest : Int
  mark : String
  /-- The sign of a power of ten that is not negative. -/
  plus : String

/-- Numbers are positional from 0.00001 to below 10^16, and carry a signed power of ten beyond. -/
def Style.plain : Style := ⟨-5, 15, "e", "+"⟩

/-- A positional numeral always has a fraction. -/
def Style.positional (digits : List Char) (leading : Int) : List Char :=
  if leading < 0 then '0' :: '.' :: (List.replicate (-leading - 1).toNat '0' ++ digits)
  else
    let width := leading.toNat + 1
    let whole := digits.take width ++ List.replicate (width - digits.length) '0'
    let fraction := digits.drop width
    whole ++ '.' :: (if fraction.isEmpty then ['0'] else fraction)

def Style.scientific (style : Style) (digits : List Char) (leading : Int) : String :=
  let fraction := digits.drop 1
  let mantissa := digits.take 1 ++ (if fraction.isEmpty then [] else '.' :: fraction)
  String.ofList mantissa ++ style.mark ++ (if leading < 0 then "" else style.plus)
    ++ toString leading

def Style.numeral (style : Style) (s : Scaled) : String :=
  let digits := Nat.toDigits 10 s.digits
  let leading := if s.digits = 0 then 0 else s.power + digits.length - 1
  if style.least ≤ leading ∧ leading ≤ style.greatest then
    String.ofList (Style.positional digits leading)
  else style.scientific digits leading

/-- The text of a number; zero keeps its sign. -/
def Binary64.text (x : Binary64) : String :=
  (if x.negative then "-" else "") ++ Style.plain.numeral x.shortest

end Inquiry.Decimal
