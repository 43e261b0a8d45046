import Inquiry.Yaml.Cursor

/-!
Scalars as they are written: plain, between quotes, or as indented blocks of text.

A reading function gives the text that was written and the place behind it, or nothing where the
scalar is malformed.
-/
namespace Inquiry.Yaml

inductive Style where
  | plain
  | singleQuoted
  | doubleQuoted
  | literal
  | folded
deriving DecidableEq

/-- Blanks and ends of lines between the words of a scalar: the blanks before the first end of a
line, that end, and those behind it. -/
structure Gap where
  spaces : String
  lead : String
  trail : String
  broken : Bool

namespace Gap

def none : Gap := ⟨"", "", "", false⟩

/-- What stays of a gap: its blanks if it lies in one line. A first line feed is dropped before
others and becomes a space otherwise. -/
def text (g : Gap) : String :=
  if !g.broken then g.spaces
  else if g.lead == "\n" then (if g.trail.isEmpty then " " else g.trail)
  else g.lead ++ g.trail

/-- Read blanks and ends of lines in at most `fuel` steps. Behind an end of a line no tab may
stand before the column `margin`. -/
def read (margin : Int) : Nat → Gap → Cursor → Option (Gap × Cursor)
  | 0, g, c => some (g, c)
  | fuel + 1, g, c =>
    if isSpace c.here then
      if !g.broken then read margin fuel { g with spaces := g.spaces.push c.here } (c.advance 1)
      else if c.column < margin && c.here == '\t' then .none
      else read margin fuel g (c.advance 1)
    else if isBreak c.here then
      if !g.broken then
        read margin fuel { g with lead := String.singleton c.here, broken := true } c.newLine
      else read margin fuel { g with trail := g.trail.push c.here } c.newLine
    else some (g, c)

end Gap

def hexDigit? (c : Char) : Option Nat :=
  if c.isDigit then some (c.toNat - '0'.toNat)
  else if 'a' ≤ c ∧ c ≤ 'f' then some (c.toNat - 'a'.toNat + 10)
  else if 'A' ≤ c ∧ c ≤ 'F' then some (c.toNat - 'A'.toNat + 10)
  else none

def charOfHex? (digits : List Char) : Option Char := do
  let code ← digits.foldlM (fun n d => (hexDigit? d).map (n * 16 + ·)) 0
  if code.isValidChar then return Char.ofNat code else none

def escapes : List (Char × Char) :=
  [('0', '\x00'), ('a', '\x07'), ('b', '\x08'), ('t', '\t'), ('\t', '\t'), ('n', '\n'),
    ('v', '\x0B'), ('f', '\x0C'), ('r', '\r'), ('e', '\x1B'), (' ', ' '), ('"', '"'), ('/', '/'),
    ('\\', '\\'), ('N', '\u0085'), ('_', '\u00A0'), ('L', '\u2028'), ('P', '\u2029')]

def readEscape (c : Cursor) : Option (Char × Cursor) :=
  let coded (width : Nat) : Option (Char × Cursor) := do
    let digits := (c.left.drop 2).take width
    if digits.length < width then failure
    return (← charOfHex? digits, c.advance (width + 2))
  match c.peek 1 with
  | 'x' => coded 2
  | 'u' => coded 4
  | 'U' => coded 8
  | e => (escapes.find? (·.1 == e)).map fun entry => (entry.2, c.advance 2)

/-- Read a word of a quoted scalar in at most `fuel` steps. The last part of the answer tells
whether a backslash at its end took the end of the line with it. -/
def readQuotedWord (single : Bool) : Nat → String → Cursor → Option (String × Cursor × Bool)
  | 0, _, _ => none
  | fuel + 1, done, c =>
    let x := c.here
    if isWordEnd x then some (done, c, false)
    else if single then
      if x == '\'' then
        if c.peek 1 == '\'' then readQuotedWord single fuel (done.push x) (c.advance 2)
        else some (done, c, false)
      else readQuotedWord single fuel (done.push x) (c.advance 1)
    else if x == '"' then some (done, c, false)
    else if x == '\\' then
      if isBreak (c.peek 1) then some (done, (c.advance 1).newLine, true)
      else
        match readEscape c with
        | some (e, c) => readQuotedWord single fuel (done.push e) c
        | none => none
    else readQuotedWord single fuel (done.push x) (c.advance 1)

/-- Read the words of a quoted scalar, from behind its opening quote or a gap, in at most `fuel`
steps. -/
def readQuotedWords (single : Bool) : Nat → String → Cursor → Option (String × Cursor)
  | 0, _, _ => none
  | fuel + 1, done, c =>
    if c.atDocumentMark || c.here == endMark then none
    else
      match readQuotedWord single (c.left.length + 1) done c with
      | none => none
      | some (done, c, broken) =>
        if c.here == (if single then '\'' else '"') then some (done, c.advance 1)
        else
          match Gap.read 0 (c.left.length + 1) { Gap.none with broken } c with
          | none => none
          | some (gap, c) => readQuotedWords single fuel (done ++ gap.text) c

def readQuoted (single : Bool) (c : Cursor) : Option (String × Cursor) :=
  readQuotedWords single (c.left.length + 2) "" (c.advance 1)

def isFlowMark (x : Char) : Bool := x == ',' || x == '[' || x == ']' || x == '{' || x == '}'

/-- Read a word of a plain scalar in at most `fuel` steps. In flow a colon must not stand before a
mark that ends what it is in. -/
def readPlainWord (flow : Bool) : Nat → String → Cursor → Option (String × Cursor)
  | 0, _, _ => none
  | fuel + 1, done, c =>
    let x := c.here
    if isWordEnd x then some (done, c)
    else if flow && x == ':' && (isFlowMark (c.peek 1) || c.peek 1 == '?') then none
    else if (x == ':' && isWordEnd (c.peek 1)) || (flow && isFlowMark x) then some (done, c)
    else readPlainWord flow fuel (done.push x) (c.advance 1)

/-- A plain scalar: its text, the place behind it, and whether a line ended after its last
word. -/
structure Plain where
  text : String
  next : Cursor
  broken : Bool

/-- Read the words of a plain scalar in at most `fuel` steps; its lines are indented by `margin`
at least. -/
def readPlainWords (flow : Bool) (margin : Int) : Nat → String → Gap → Cursor → Option Plain
  | 0, _, _, _ => none
  | fuel + 1, done, gap, c =>
    if c.atDocumentMark || c.here == '#' then some ⟨done, c, gap.broken⟩
    else
      match readPlainWord flow (c.left.length + 1) "" c with
      | none => none
      | some (word, c) =>
        let (done, gap) :=
          if word.isEmpty then (done, gap) else (done ++ gap.text ++ word, Gap.none)
        if !(isSpace c.here || isBreak c.here) then some ⟨done, c, gap.broken⟩
        else
          match Gap.read margin (c.left.length + 1) gap c with
          | none => none
          | some (gap, c) =>
            if !flow && c.column < margin then some ⟨done, c, gap.broken⟩
            else readPlainWords flow margin fuel done gap c

def readPlain (flow : Bool) (indent : Int) (c : Cursor) : Option Plain :=
  readPlainWords flow (indent + 1) (c.left.length + 2) "" Gap.none c

/-- What becomes of the ends of lines behind a block of text. -/
inductive Chomping where
  | strip
  | clip
  | keep
deriving DecidableEq

/-- The marks behind the sign that opens a block: how it ends, and its indentation if that is
told. Either may come first. -/
def readBlockHeader (c : Cursor) : Option (Chomping × Option Nat × Cursor) :=
  let chomping? (c : Cursor) : Option Chomping :=
    if c.here == '+' then some .keep else if c.here == '-' then some .strip else none
  let digit? (c : Cursor) : Option Nat :=
    if c.here.isDigit then some (c.here.toNat - '0'.toNat) else none
  match chomping? c, digit? c with
  | some chomping, _ =>
    let c := c.advance 1
    match digit? c with
    | some 0 => none
    | some n => some (chomping, some n, c.advance 1)
    | none => some (chomping, none, c)
  | none, some 0 => none
  | none, some n =>
    let c := c.advance 1
    match chomping? c with
    | some chomping => some (chomping, some n, c.advance 1)
    | none => some (.clip, some n, c)
  | none, none => some (.clip, none, c)

/-- Read the empty lines of a block and the indentation of the line behind them, in at most `fuel`
steps. Where the indentation is not known yet it goes as far as the blanks do; the answer tells
the deepest one. -/
def readEmptyLines (indent : Option Nat) :
    Nat → String → Nat → Cursor → Option (String × Nat × Cursor)
  | 0, _, _, _ => none
  | fuel + 1, breaks, deepest, c =>
    let blanks := (c.left.takeWhile (· == ' ')).length
    let c := c.advance (match indent with
      | some n => min blanks (n - c.column)
      | none => blanks)
    let deepest := max deepest c.column
    if indent.all (c.column < ·) && c.here == '\t' then none
    else if isBreak c.here then
      readEmptyLines indent fuel (breaks.push c.here) deepest c.newLine
    else some (breaks, deepest, c)

/-- A block of text on its way: what is done, the end of the last line, and the empty lines
behind it. -/
structure Block where
  text : String
  lead : String
  trail : String
  indented : Bool

/-- Read the lines of a block in at most `fuel` steps. A folded block joins lines that do not
start with a blank. -/
def readBlockLines (folded : Bool) (indent : Nat) : Nat → Block → Cursor → Option (Block × Cursor)
  | 0, _, _ => none
  | fuel + 1, block, c =>
    if c.column != indent || c.here == endMark then some (block, c)
    else
      let indented := isSpace c.here
      let join :=
        if folded && block.lead == "\n" && !block.indented && !indented then
          if block.trail.isEmpty then " " else ""
        else block.lead
      let (line, c) := c.span (fun x => !isLineEnd x)
      let lead := if isBreak c.here then String.singleton c.here else ""
      match readEmptyLines (some indent) (c.left.length + 2) "" 0 c.newLine? with
      | none => none
      | some (trail, _, c) =>
        let text := block.text ++ join ++ block.trail ++ String.ofList line
        readBlockLines folded indent fuel ⟨text, lead, trail, indented⟩ c

def readBlock (folded : Bool) (indent : Int) (c : Cursor) : Option (String × Cursor) := do
  let (chomping, told, c) ← readBlockHeader (c.advance 1)
  let c ← c.finishLine
  let told := told.map fun n => if 0 ≤ indent then indent.toNat + n else n
  let (trail, deepest, c) ← readEmptyLines told (c.left.length + 2) "" 0 c
  let own := told.getD (max (max deepest (indent + 1).toNat) 1)
  let (block, c) ← readBlockLines folded own (c.left.length + 2) ⟨"", "", trail, false⟩ c
  let text := block.text ++ (if chomping == .strip then "" else block.lead)
    ++ (if chomping == .keep then block.trail else "")
  return (text, c)

end Inquiry.Yaml
