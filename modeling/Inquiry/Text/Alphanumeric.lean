import Inquiry.Text.Property.Category
import Inquiry.Text.Property.Named

namespace Inquiry.Text

/-- Whether a character is alphabetic or a number. -/
def isAlphanumeric (c : Char) : Bool :=
  if c.toNat < 0x80 then c.isAlphanum
  else ((Property.property? "alphabetic").getD ∅).contains c
    || ((Property.category? "number").getD ∅).contains c

end Inquiry.Text
