namespace Inquiry.Yaml

/-- Whether a character may stand in a YAML text at all. -/
def isPrintable (c : Char) : Bool :=
  let n := c.toNat
  n == 0x9 || n == 0xA || n == 0xD || (0x20 ≤ n && n ≤ 0x7E) || n == 0x85
    || (0xA0 ≤ n && n ≤ 0xD7FF) || (0xE000 ≤ n && n ≤ 0xFFFD) || 0x10000 ≤ n

/-- The text with every ordinary end of a line as one line feed. The separators of lines and
paragraphs end lines too, but stay what they are. -/
def plainLineEnds : List Char → List Char
  | '\r' :: '\n' :: rest => '\n' :: plainLineEnds rest
  | c :: rest => (if c == '\r' || c == '\u0085' then '\n' else c) :: plainLineEnds rest
  | [] => []

/-- The character that is read behind the end of the text, in which it cannot stand. -/
def endMark : Char := '\x00'

def isBreak (c : Char) : Bool := c == '\n' || c == '\u2028' || c == '\u2029'

def isSpace (c : Char) : Bool := c == ' ' || c == '\t'

def isLineEnd (c : Char) : Bool := isBreak c || c == endMark

def isWordEnd (c : Char) : Bool := isSpace c || isLineEnd c

def isNameChar (c : Char) : Bool := c.isAlphanum || c == '_' || c == '-'

/-- The text that is left, and where it starts. -/
structure Cursor where
  left : List Char
  index : Nat
  line : Nat
  column : Nat

namespace Cursor

def start (text : List Char) : Cursor := ⟨text, 0, 0, 0⟩

def peek (c : Cursor) (ahead : Nat) : Char := c.left[ahead]?.getD endMark

def here (c : Cursor) : Char := c.peek 0

/-- Pass characters that do not end a line. -/
def advance (c : Cursor) (count : Nat) : Cursor :=
  { c with left := c.left.drop count, index := c.index + count, column := c.column + count }

def newLine (c : Cursor) : Cursor :=
  { left := c.left.drop 1, index := c.index + 1, line := c.line + 1, column := 0 }

def newLine? (c : Cursor) : Cursor := if isBreak c.here then c.newLine else c

/-- The characters up to the first that is not of a kind, and the place behind them. -/
def span (c : Cursor) (kind : Char → Bool) : List Char × Cursor :=
  let run := c.left.takeWhile kind
  (run, c.advance run.length)

def skip (c : Cursor) (kind : Char → Bool) : Cursor := (c.span kind).2

def skipComment (c : Cursor) : Cursor :=
  if c.here == '#' then c.skip (fun x => !isLineEnd x) else c

/-- Pass the rest of a line that holds nothing but blanks and a comment. -/
def finishLine (c : Cursor) : Option Cursor :=
  let c := (c.skip isSpace).skipComment
  if isLineEnd c.here then some c.newLine? else none

/-- Whether a line starts here with a mark and a blank behind it. -/
def atMark (c : Cursor) (mark : Char) : Bool :=
  c.column == 0 && c.peek 0 == mark && c.peek 1 == mark && c.peek 2 == mark && isWordEnd (c.peek 3)

def atDocumentMark (c : Cursor) : Bool := c.atMark '-' || c.atMark '.'

end Cursor

end Inquiry.Yaml
