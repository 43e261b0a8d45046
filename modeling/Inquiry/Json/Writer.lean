import Inquiry.Decimal.Numeral
import Inquiry.Json.Value

namespace Inquiry.Json

def hex4 (n : Nat) : List Char :=
  [n / 4096 % 16, n / 256 % 16, n / 16 % 16, n % 16].map Nat.digitChar

def quoteChar (c : Char) : List Char :=
  match c with
  | '"' => ['\\', '"']
  | '\\' => ['\\', '\\']
  | '\n' => ['\\', 'n']
  | '\r' => ['\\', 'r']
  | '\t' => ['\\', 't']
  | '\x08' => ['\\', 'b']
  | '\x0c' => ['\\', 'f']
  | c => if c.val < 0x20 then '\\' :: 'u' :: hex4 c.toNat else [c]

def quote (s : String) : String :=
  String.ofList ('"' :: s.toList.flatMap quoteChar ++ ['"'])

end Inquiry.Json

namespace Inquiry

/-- An integer in decimal digits, a float by its shortest numeral. -/
def Number.text : Number → String
  | .int n => toString n
  | .float x => x.text

end Inquiry

namespace Inquiry.Json

/-- The text of a value that holds no other. -/
def scalarText : Json → String
  | null => "null"
  | bool b => if b then "true" else "false"
  | number n => n.text
  | string s => quote s
  | array _ => "[]"
  | object _ => "\x7b\x7d"

mutual

/-- The text on one line. -/
def render : Json → String
  | array items => "[" ++ ",".intercalate (renderItems items) ++ "]"
  | object fields => "\x7b" ++ ",".intercalate (renderFields fields) ++ "\x7d"
  | value => scalarText value
termination_by structural x => x

def renderItems : List Json → List String
  | [] => []
  | x :: xs => render x :: renderItems xs
termination_by structural x => x

def renderFields : List (String × Json) → List String
  | [] => []
  | (k, x) :: xs => (quote k ++ ":" ++ render x) :: renderFields xs
termination_by structural x => x

end

/-- Lines between an opening and a closing mark, `level` deep. -/
def block (level : Nat) (opening closing : String) (lines : List String) : String :=
  let margin (n : Nat) := "\n" ++ String.ofList (List.replicate (2 * n) ' ')
  opening ++ margin (level + 1) ++ ("," ++ margin (level + 1)).intercalate lines
    ++ margin level ++ closing

mutual

/-- The text laid out over lines, as a part that stands `level` deep. -/
def layOut (level : Nat) : Json → String
  | array (x :: xs) => block level "[" "]" (layOutItems (level + 1) (x :: xs))
  | object (x :: xs) => block level "\x7b" "\x7d" (layOutFields (level + 1) (x :: xs))
  | value => scalarText value
termination_by structural x => x

def layOutItems (level : Nat) : List Json → List String
  | [] => []
  | x :: xs => layOut level x :: layOutItems level xs
termination_by structural x => x

def layOutFields (level : Nat) : List (String × Json) → List String
  | [] => []
  | (k, x) :: xs => (quote k ++ ": " ++ layOut level x) :: layOutFields level xs
termination_by structural x => x

end

def pretty (value : Json) : String := layOut 0 value

end Inquiry.Json
