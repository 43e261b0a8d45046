import Inquiry.Text.Property.Category
import Inquiry.Text.Property.Named

namespace Inquiry.Text

/-- The characters that have no shape of their own: controls, formats, surrogates, private and
unassigned characters, all separators, and marks that combine with the character before. -/
def shapeless : CharSet :=
  (Property.ofCategories [0, 1, 2, 3, 4, 27, 28, 29]).union
    ((Property.property? "graphemeextend").getD ∅)

def isLegible (c : Char) : Bool :=
  if c.val < 0x7F then 0x20 ≤ c.val else !shapeless.contains c

def quoteChar (c : Char) : List Char :=
  match c with
  | '"' => ['\\', '"']
  | '\\' => ['\\', '\\']
  | '\x00' => ['\\', '0']
  | '\t' => ['\\', 't']
  | '\r' => ['\\', 'r']
  | '\n' => ['\\', 'n']
  | c =>
    if isLegible c then [c]
    else ['\\', 'u', '\x7b'] ++ Nat.toDigits 16 c.toNat ++ ['\x7d']

def quoted (text : String) : String :=
  String.ofList ('"' :: text.toList.flatMap quoteChar ++ ['"'])

end Inquiry.Text
