import Inquiry.Yaml.Scalar

/-!
The tokens of a YAML text.

A key need not be marked as one: whether a scalar is a key shows only when a colon follows it on
its line. Until then the place where its mark would go is remembered, and tokens from there on are
not settled. Where a text is malformed its tokens break off before the first unsettled one.
-/
namespace Inquiry.Yaml

inductive Token where
  | version (major minor : Nat)
  | tagDirective (handle lead : String)
  | documentStart
  | documentEnd
  | blockSequenceStart
  | blockMappingStart
  | blockEnd
  | flowSequenceStart
  | flowSequenceEnd
  | flowMappingStart
  | flowMappingEnd
  | blockEntry
  | flowEntry
  | key
  | value
  | alias (name : String)
  | anchor (name : String)
  | tag (handle suffix : String)
  | scalar (style : Style) (text : String)
  | streamEnd
deriving DecidableEq

/-- A place where a key may have started. -/
structure KeyPlace where
  required : Bool
  number : Nat
  index : Nat
  line : Nat
  column : Nat

structure Scan where
  cursor : Cursor
  tokens : Array Token
  /-- The place of a possible key, for each flow collection that is open and for the block. -/
  keys : List (Option KeyPlace)
  keyAllowed : Bool
  /-- The indentation of the innermost block, and of those around it. -/
  indent : Int
  indents : List Int
  finished : Bool

namespace Scan

def start (text : List Char) : Scan := ⟨.start text, #[], [none], true, -1, [], false⟩

def inFlow (s : Scan) : Bool := s.keys.length > 1

def push (s : Scan) (token : Token) : Scan := { s with tokens := s.tokens.push token }

def insertToken (s : Scan) (number : Nat) (token : Token) : Scan :=
  let (before, behind) := (s.tokens.extract 0 number, s.tokens.extract number s.tokens.size)
  { s with tokens := before.push token ++ behind }

/-- Whether a key that may have started at a place can no longer be one: keys lie on one line and
are not longer than 1024 characters. -/
def isStale (s : Scan) (place : KeyPlace) : Bool :=
  place.line < s.cursor.line || place.index + 1024 < s.cursor.index

/-- Forget the places that have become stale, of which none may be required. -/
def dropStale (s : Scan) : Option Scan :=
  if s.keys.any fun key => key.any fun place => s.isStale place && place.required then none
  else some { s with keys := s.keys.map fun key => key.filter (!s.isStale ·) }

/-- Forget the place of the innermost possible key, which must not be required. -/
def dropKey (s : Scan) : Option Scan :=
  match s.keys with
  | some place :: rest => if place.required then none else some { s with keys := none :: rest }
  | _ => some s

def saveKey (s : Scan) : Option Scan :=
  if s.keyAllowed then do
    let c := s.cursor
    let s ← s.dropKey
    let required := !s.inFlow && s.indent == c.column
    let place : KeyPlace := ⟨required, s.tokens.size, c.index, c.line, c.column⟩
    return { s with keys := some place :: s.keys.drop 1 }
  else some s

/-- Open a block at a column that lies deeper than the current one; its token goes before the
token of that number. -/
def openBlock (s : Scan) (column : Nat) (number : Nat) (token : Token) : Scan :=
  if s.inFlow || s.indent ≥ column then s
  else { s.insertToken number token with indent := column, indents := s.indent :: s.indents }

def closeBlocks (s : Scan) (column : Int) : Scan :=
  if s.inFlow then s else go s.indents s
where
  go : List Int → Scan → Scan
    | [], s => s
    | outer :: rest, s =>
      if s.indent > column then
        go rest { s.push .blockEnd with indent := outer, indents := rest }
      else s

/-- Pass blanks, comments and ends of lines, in at most `fuel` lines. In a block a line may start
with a key, and tabs may not stand before one. -/
def passBlanks : Nat → Scan → Scan
  | 0, s => s
  | fuel + 1, s =>
    let c := s.cursor
    let c := if c.index == 0 && c.here == '\uFEFF' then c.advance 1 else c
    let tabs := s.inFlow || !s.keyAllowed
    let c := (c.skip fun x => x == ' ' || (tabs && x == '\t')).skipComment
    if isBreak c.here then
      passBlanks fuel { s with cursor := c.newLine, keyAllowed := s.keyAllowed || !s.inFlow }
    else { s with cursor := c }

def emit (s : Scan) (token : Token) (width : Nat) (keyAllowed : Bool) : Scan :=
  { s.push token with cursor := s.cursor.advance width, keyAllowed }

def readNumber (c : Cursor) : Option (Nat × Cursor) :=
  let (digits, next) := c.span Char.isDigit
  if digits.isEmpty || digits.length > 9 then none
  else some (digits.foldl (fun n d => n * 10 + (d.toNat - '0'.toNat)) 0, next)

/-- A handle of tags, which starts with an exclamation mark. In a directive it ends with one
too. -/
def readHandle (directive : Bool) (c : Cursor) : Option (String × Cursor) :=
  if c.here != '!' then none
  else
    let (name, c) := (c.advance 1).span isNameChar
    let handle := String.ofList ('!' :: name)
    if c.here == '!' then some (handle.push '!', c.advance 1)
    else if directive && !name.isEmpty then none
    else some (handle, c)

/-- Whether a character may stand in a tag. Some marks of flow may if the tag is in angles. -/
def isTagChar (marks : Bool) (x : Char) : Bool :=
  isNameChar x || ";/?:@&=+$.%!~*\x27()".toList.contains x
    || (marks && (x == ',' || x == '[' || x == ']'))

def readByte (c : Cursor) : Option (Nat × Cursor) := do
  if c.here != '%' then failure
  return ((← hexDigit? (c.peek 1)) * 16 + (← hexDigit? (c.peek 2)), c.advance 3)

/-- The bytes that go on with a character, of which `count` are left. -/
def readTail : Nat → Nat → Cursor → Option (Nat × Cursor)
  | 0, code, c => some (code, c)
  | count + 1, code, c => do
    let (byte, c) ← readByte c
    if byte / 64 != 2 then failure
    readTail count (code * 64 + byte % 64) c

def readEscapedChar (c : Cursor) : Option (Char × Cursor) := do
  let (byte, c) ← readByte c
  let (count, code) ←
    if byte < 0x80 then some (0, byte)
    else if byte / 32 = 6 then some (1, byte % 32)
    else if byte / 16 = 14 then some (2, byte % 16)
    else if byte / 8 = 30 then some (3, byte % 8)
    else none
  let (code, c) ← readTail count code c
  return (Char.ofNat code, c)

def readTagChars (marks : Bool) : Nat → String → Cursor → Option (String × Cursor)
  | 0, _, _ => none
  | fuel + 1, done, c =>
    if !isTagChar marks c.here then some (done, c)
    else if c.here == '%' then
      match readEscapedChar c with
      | some (x, c) => readTagChars marks fuel (done.push x) c
      | none => none
    else readTagChars marks fuel (done.push c.here) (c.advance 1)

def readTagRest (marks : Bool) (done : String) (c : Cursor) : Option (String × Cursor) :=
  readTagChars marks (c.left.length + 1) done c

/-- A tag from its exclamation mark on. A lone mark is a tag of its own. -/
def readTag (inFlow : Bool) (c : Cursor) : Option (Token × Cursor) := do
  let (token, c) ←
    if c.peek 1 == '<' then do
      let (suffix, c) ← readTagRest true "" (c.advance 2)
      if suffix.isEmpty || c.here != '>' then failure
      pure (Token.tag "" suffix, c.advance 1)
    else do
      let (handle, c) ← readHandle false c
      if handle.length > 1 && handle.endsWith "!" then
        let (suffix, c) ← readTagRest false "" c
        if suffix.isEmpty then failure
        pure (Token.tag handle suffix, c)
      else
        let (suffix, c) ← readTagRest false (String.ofList (handle.toList.drop 1)) c
        pure (if suffix.isEmpty then Token.tag "" "!" else Token.tag "!" suffix, c)
  if isWordEnd c.here || (inFlow && c.here == ',') then return (token, c) else failure

def readDirective (c : Cursor) : Option (Token × Cursor) := do
  let (name, c) := (c.advance 1).span isNameChar
  if !isWordEnd c.here then failure
  let c := c.skip isSpace
  let (token, c) ← match String.ofList name with
    | "YAML" => do
      let (major, c) ← readNumber c
      if c.here != '.' then failure
      let (minor, c) ← readNumber (c.advance 1)
      pure (Token.version major minor, c)
    | "TAG" => do
      let (handle, c) ← readHandle true c
      if !isSpace c.here then failure
      let (lead, c) ← readTagRest true "" (c.skip isSpace)
      if lead.isEmpty || !isWordEnd c.here then failure
      pure (Token.tagDirective handle lead, c)
    | _ => none
  return (token, ← c.finishLine)

def readAnchorName (c : Cursor) : Option (String × Cursor) :=
  let (name, c) := (c.advance 1).span isNameChar
  if name.isEmpty || !(isWordEnd c.here || "?:,]\x7d%@\x60".toList.contains c.here) then none
  else some (String.ofList name, c)

def leaveDocument (s : Scan) : Option Scan := do
  return { ← (s.closeBlocks (-1)).dropKey with keyAllowed := false }

/-- A token that starts with the sign of a block entry, a key or a value in a block opens the
block, where it is allowed. -/
def openAt (s : Scan) (token : Token) : Option Scan :=
  if s.inFlow then some s
  else if s.keyAllowed then some (s.openBlock s.cursor.column s.tokens.size token)
  else none

/-- A value; if a key may have started before it, it did. -/
def fetchValue (s : Scan) : Option Scan := do
  match s.keys with
  | some place :: rest =>
    let s := s.insertToken place.number .key
    let s := { s.openBlock place.column place.number .blockMappingStart with keys := none :: rest }
    return s.emit .value 1 false
  | _ =>
    let s ← s.openAt .blockMappingStart
    return s.emit .value 1 (!s.inFlow)

/-- A token before which a key may start. -/
def fetchWord (s : Scan) (read : Cursor → Option (Token × Cursor)) : Option Scan := do
  let s ← s.saveKey
  let (token, cursor) ← read s.cursor
  return { s.push token with cursor, keyAllowed := false }

def fetchBlock (s : Scan) (folded : Bool) : Option Scan := do
  let s ← s.dropKey
  let (text, cursor) ← readBlock folded s.indent s.cursor
  return { s.push (.scalar (if folded then .folded else .literal) text) with
    cursor, keyAllowed := true }

/-- Behind the last line of a plain scalar of several lines a key may start. -/
def fetchPlain (s : Scan) : Option Scan := do
  let s ← s.saveKey
  let plain ← readPlain s.inFlow s.indent s.cursor
  return { s.push (.scalar .plain plain.text) with
    cursor := plain.next, keyAllowed := plain.broken }

def openFlow (s : Scan) (token : Token) : Option Scan := do
  let s ← s.saveKey
  return { s with keys := none :: s.keys }.emit token 1 true

def closeFlow (s : Scan) (token : Token) : Option Scan := do
  let s ← s.dropKey
  let keys := if s.inFlow then s.keys.drop 1 else s.keys
  return { s with keys }.emit token 1 false

/-- Whether a plain scalar can start with a character before another. -/
def startsPlain (inFlow : Bool) (x behind : Char) : Bool :=
  !(isWordEnd x || "-?:,[]\x7b\x7d#&*!|>\x27\x22%@\x60".toList.contains x)
    || (x == '-' && !isSpace behind)
    || (!inFlow && (x == '?' || x == ':') && !isWordEnd behind)

def fetch (s : Scan) : Option Scan := do
  let s ← (passBlanks (s.cursor.left.length + 1) s).dropStale
  let s := s.closeBlocks s.cursor.column
  let c := s.cursor
  let x := c.here
  let behind := c.peek 1
  if x == endMark then
    return { (← s.leaveDocument).push .streamEnd with finished := true }
  if c.column == 0 && x == '%' then
    let s ← s.leaveDocument
    let (token, cursor) ← readDirective s.cursor
    return { s.push token with cursor }
  if c.atMark '-' then return (← s.leaveDocument).emit .documentStart 3 false
  if c.atMark '.' then return (← s.leaveDocument).emit .documentEnd 3 false
  if x == '[' then s.openFlow .flowSequenceStart
  else if x == '\x7b' then s.openFlow .flowMappingStart
  else if x == ']' then s.closeFlow .flowSequenceEnd
  else if x == '\x7d' then s.closeFlow .flowMappingEnd
  else if x == ',' then return (← s.dropKey).emit .flowEntry 1 true
  else if x == '-' && isWordEnd behind then
    return (← (← s.openAt .blockSequenceStart).dropKey).emit .blockEntry 1 true
  else if x == '?' && (s.inFlow || isWordEnd behind) then
    return (← (← s.openAt .blockMappingStart).dropKey).emit .key 1 (!s.inFlow)
  else if x == ':' && (s.inFlow || isWordEnd behind) then s.fetchValue
  else if x == '*' then
    s.fetchWord fun c => (readAnchorName c).map fun (name, c) => (.alias name, c)
  else if x == '&' then
    s.fetchWord fun c => (readAnchorName c).map fun (name, c) => (.anchor name, c)
  else if x == '!' then s.fetchWord (readTag s.inFlow)
  else if x == '|' && !s.inFlow then s.fetchBlock false
  else if x == '>' && !s.inFlow then s.fetchBlock true
  else if x == '\'' then
    s.fetchWord fun c => (readQuoted true c).map fun (t, c) => (.scalar .singleQuoted t, c)
  else if x == '"' then
    s.fetchWord fun c => (readQuoted false c).map fun (t, c) => (.scalar .doubleQuoted t, c)
  else if startsPlain s.inFlow x behind then s.fetchPlain
  else none

/-- The number of tokens that no key can come before any more. -/
def settled (s : Scan) : Nat :=
  s.keys.foldl
    (fun n key => match key with
      | some place => if s.isStale place then n else min n place.number
      | none => n)
    s.tokens.size

/-- All tokens, in at most `fuel` steps. Those of a malformed text break off. -/
def run : Nat → Scan → List Token
  | 0, s => s.tokens.toList
  | fuel + 1, s =>
    if s.finished then s.tokens.toList
    else
      match s.fetch with
      | some s => run fuel s
      | none => s.tokens.toList.take s.settled

end Scan

def Token.ofText (text : String) : List Token :=
  let chars := text.toList
  if chars.all isPrintable then
    let chars := plainLineEnds chars
    Scan.run (chars.length + 2) (.start chars)
  else []

end Inquiry.Yaml
