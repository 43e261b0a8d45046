import Inquiry.Decimal.Power
import Inquiry.Pattern.CharClass
import Inquiry.Pattern.Weight

/-!
Reading patterns.

A pattern is read in one pass: flags take effect from where they stand to the end of their group,
so that each character and class is known as a set of characters as soon as it is read. Beside its
expression each part carries the depth of its nesting and the weight of the machines for it, because
patterns are limited in both.
-/
namespace Inquiry.Pattern

open Text (CharSet isBlank lastCodePoint)

structure Flags where
  caseless : Bool
  multiLine : Bool
  dotAll : Bool
  unicode : Bool
  returns : Bool
  spaced : Bool

def Flags.initial : Flags := ⟨false, false, false, true, false, false⟩

/-- A pattern on its way: what is left of it, the flags, and the names given to groups. -/
structure Reading where
  left : List Char
  flags : Flags
  names : List String

abbrev Reader := StateT Reading Option

def left : Reader (List Char) := do return (← get).left

def flags : Reader Flags := do return (← get).flags

def setLeft (text : List Char) : Reader Unit := modify fun r => { r with left := text }

def setFlags (flags : Flags) : Reader Unit := modify fun r => { r with flags }

def advance : Reader Unit := do setLeft ((← left).drop 1)

/-- The text behind blanks and comments, of which one may have begun. -/
def passBlanks : (comment : Bool) → List Char → List Char
  | _, [] => []
  | true, c :: rest => passBlanks (c != '\n') rest
  | false, c :: rest =>
    if isBlank c then passBlanks false rest
    else if c == '#' then passBlanks true rest
    else c :: rest

def skipBlanks : Reader Unit := do
  if (← flags).spaced then setLeft (passBlanks false (← left))

def advanceBlanks : Reader Unit := do
  advance
  skipBlanks

def next : Reader Char := do
  match (← left) with
  | c :: _ => return c
  | [] => failure

structure Part where
  expression : Expression
  depth : Nat
  weight : Weight
  /-- Flags alone are no part that could be repeated. -/
  isFlags : Bool

namespace Part

def ofSet (set : CharSet) (depth : Nat) : Part := ⟨.one set, depth, .ofSet set, false⟩

def ofLook (look : Look) : Part := ⟨.look look, 0, .both Weight.state, false⟩

def ofFlags : Part := ⟨.empty, 0, .both Weight.state, true⟩

def deepest (parts : List Part) : Nat := parts.foldl (fun n p => max n p.depth) 0

def isEmpty (part : Part) : Bool :=
  match part.expression with
  | .sequence [] => true
  | _ => false

/-- The set of a part that takes one character of it and records nothing. -/
def set? (part : Part) : Option CharSet :=
  match part.expression with
  | .one set => if part.weight = .ofSet set then some set else none
  | _ => none

/-- Parts one after the other. A lone part is no nesting. -/
def sequence : List Part → Part
  | [] => ⟨.empty, 0, .both Weight.state, false⟩
  | [part] => part
  | parts =>
    let weight := match parts.filter (!·.isEmpty) with
      | [] => .both Weight.state
      | part :: others => others.foldl (fun w p => w + p.weight) part.weight
    ⟨.sequence (parts.map (·.expression)), deepest parts + 1, weight, false⟩

/-- A choice of parts. One between characters is a set. -/
def choice : List Part → Part
  | [part] => part
  | parts =>
    match parts.mapM set? with
    | some sets => .ofSet (unionAll sets) (deepest parts + 1)
    | none =>
      ⟨.choice (parts.map (·.expression)), deepest parts + 1, .choice (parts.map (·.weight)),
        false⟩

/-- A part in parentheses, which may record where it occurs. -/
def group (capturing : Bool) (part : Part) : Part :=
  ⟨part.expression, part.depth + 1, if capturing then part.weight.captured else part.weight,
    false⟩

def repeating (least : Nat) (most : Option Nat) (part : Part) : Part :=
  let weight := match part.expression.bounds least most with
    | (0, some 0) => .both Weight.state
    | (1, some 1) => part.weight
    | (least, most) => part.weight.repeated least most
  ⟨part.expression.repeating least most, part.depth + 1, weight, false⟩

end Part

inductive Atom where
  /-- A character, which may be written as one byte in two digits. -/
  | char (c : Char) (byte : Bool)
  | set (set : CharSet)
  | look (look : Look)

/-- A set with the characters that fold to its own if case does not count, and then without what
was in it if it is negated. Sets of bytes must stay within ASCII. -/
def finishSet (negated : Bool) (set : CharSet) : Reader CharSet := do
  let flags ← flags
  let folded := if flags.caseless then foldCase flags.unicode set else set
  let set := if negated then folded.complement lastCodePoint else folded
  if flags.unicode || set.isAscii then return set else failure

/-- A set that both cases of its letters are in already. -/
def closedSet (negated : Bool) (set : Bool → CharSet) : Reader CharSet := do
  let unicode := (← flags).unicode
  if !unicode && negated then failure
  else return if negated then (set unicode).complement lastCodePoint else set unicode

def isHexDigit (c : Char) : Bool :=
  c.isDigit || ('a' ≤ c && c ≤ 'f') || ('A' ≤ c && c ≤ 'F')

def hexDigit (c : Char) : Nat :=
  if c.isDigit then c.toNat - '0'.toNat else c.toLower.toNat - 'a'.toNat + 10

def charOfCode (code : Nat) : Reader Char :=
  if code.isValidChar then return Char.ofNat code else failure

/-- So many digits of base 16, with blanks between them where these do not count. -/
def readHexDigits : Nat → Nat → Reader Nat
  | 0, value => return value
  | count + 1, value => do
    let c ← next
    if !isHexDigit c then failure
    advanceBlanks
    readHexDigits count (value * 16 + hexDigit c)

/-- Digits of base 16 up to a closing brace, in at most `fuel` steps. -/
def readBracedHex : Nat → List Char → Reader Nat
  | 0, _ => failure
  | fuel + 1, done => do
    let c ← next
    if c == '\x7d' then
      advanceBlanks
      if done.isEmpty then failure
      return done.foldl (fun n c => n * 16 + hexDigit c) 0
    if !isHexDigit c then failure
    advanceBlanks
    readBracedHex fuel (done ++ [c])

def readCode (width : Nat) : Reader Atom := do
  advanceBlanks
  if (← next) == '\x7b' then
    advanceBlanks
    let code ← readBracedHex ((← left).length + 1) []
    return .char (← charOfCode code) false
  let code ← readHexDigits width 0
  return .char (← charOfCode code) (width == 2)

def readBracedName : Nat → List Char → Reader String
  | 0, _ => failure
  | fuel + 1, done => do
    let c ← next
    if c == '\x7d' then
      advance
      return String.ofList done
    advanceBlanks
    readBracedName fuel (done ++ [c])

/-- The two sides of the first `mark` in a text. -/
def splitAt? (mark : List Char) : List Char → Option (List Char × List Char)
  | [] => none
  | c :: rest =>
    if mark.isPrefixOf (c :: rest) then some ([], (c :: rest).drop mark.length)
    else (splitAt? mark rest).map fun (a, b) => (c :: a, b)

/-- The set that a name in braces asks for: what it is, or what something is for it. -/
def querySet? (query : String) : Option CharSet :=
  let chars := query.toList
  match splitAt? ['!', '='] chars <|> splitAt? [':'] chars <|> splitAt? ['='] chars with
  | some (name, value) => valuedSet? (String.ofList name) (String.ofList value)
  | none => namedSet? query

def readNamedSet (negated : Bool) : Reader Atom := do
  advanceBlanks
  let c ← next
  let query ←
    if c == '\x7b' then do
      advanceBlanks
      readBracedName ((← left).length + 1) []
    else if c == '\\' then failure
    else do
      advanceBlanks
      pure (String.singleton c)
  if !(← flags).unicode then failure
  match querySet? query with
  | some set => return .set (← finishSet negated set)
  | none => failure

/-- The letters and dashes of a special boundary up to its closing brace, in at most `fuel`
steps. -/
def readBoundaryName : Nat → List Char → Reader String
  | 0, _ => failure
  | fuel + 1, done => do
    let c ← next
    if c == '\x7d' then
      advance
      return String.ofList done
    if !(c.isAlpha || c == '-') then failure
    advanceBlanks
    readBoundaryName fuel (done ++ [c])

/-- The boundary that a name in braces makes special. Braces that hold no letter in front are
counts and are left where they stand. -/
def readBoundary : Reader Atom := do
  let unicode := (← flags).unicode
  match (← left) with
  | '\x7b' :: _ => do
    let before ← left
    advanceBlanks
    let c ← next
    if !(c.isAlpha || c == '-') then
      setLeft before
      return .look (.boundary unicode)
    match (← readBoundaryName ((← left).length + 1) []) with
    | "start" => return .look (.wordStart unicode)
    | "end" => return .look (.wordEnd unicode)
    | "start-half" => return .look (.wordStartHalf unicode)
    | "end-half" => return .look (.wordEndHalf unicode)
    | _ => failure
  | _ => return .look (.boundary unicode)

/-- Whether a character that means something else by itself, or other ASCII that is no letter,
digit or angle, stands for itself behind a backslash. -/
def isEscapable (c : Char) : Bool :=
  c.toNat < 0x80 && !(c.isAlphanum || c == '<' || c == '>')

def readEscape : Reader Atom := do
  advance
  let c ← next
  let unicode := (← flags).unicode
  let char (c : Char) : Reader Atom := do
    advance
    return .char c false
  let look (look : Look) : Reader Atom := do
    advance
    return .look look
  let set (negated : Bool) (set : Bool → CharSet) : Reader Atom := do
    advance
    return .set (← closedSet negated set)
  match c with
  | 'x' => readCode 2
  | 'u' => readCode 4
  | 'U' => readCode 8
  | 'p' => readNamedSet false
  | 'P' => readNamedSet true
  | 'd' => set false digits
  | 'D' => set true digits
  | 's' => set false blanks
  | 'S' => set true blanks
  | 'w' => set false wordSet
  | 'W' => set true wordSet
  | 'a' => char '\x07'
  | 'f' => char '\x0C'
  | 't' => char '\t'
  | 'n' => char '\n'
  | 'r' => char '\r'
  | 'v' => char '\x0B'
  | 'A' => look .textStart
  | 'z' => look .textEnd
  | 'B' => look (.noBoundary unicode)
  | '<' => look (.wordStart unicode)
  | '>' => look (.wordEnd unicode)
  | 'b' => do
    advance
    readBoundary
  | c => if isEscapable c then char c else failure

/-- The set of one character that stands for itself. A byte beyond ASCII is no character. -/
def charSet (c : Char) (byte : Bool) : Reader CharSet := do
  let flags ← flags
  if !flags.unicode && byte && c.toNat ≥ 0x80 then failure
  let set := CharSet.singleton c.toNat
  if flags.caseless && (flags.unicode || c.toNat < 0x80) then
    return foldCase flags.unicode set
  return set

structure ClassPart where
  set : CharSet
  depth : Nat

namespace ClassPart

def union : List ClassPart → ClassPart
  | [] => ⟨∅, 0⟩
  | [part] => part
  | parts => ⟨unionAll (parts.map (·.set)), parts.foldl (fun n p => max n p.depth) 0 + 1⟩

end ClassPart

inductive Joint where
  | intersection
  | difference
  | symmetricDifference

def Joint.apply : Joint → CharSet → CharSet → CharSet
  | intersection => CharSet.inter
  | difference => CharSet.diff
  | symmetricDifference => CharSet.symmDiff

/-- Join what stands before an operation, if there is one, with what stands behind it. -/
def joinParts (pending : Option (ClassPart × Joint)) (part : ClassPart) : Reader ClassPart := do
  match pending with
  | none => return part
  | some (before, joint) =>
    let flags ← flags
    let fold (set : CharSet) := if flags.caseless then foldCase flags.unicode set else set
    return ⟨joint.apply (fold before.set) (fold part.set), max before.depth part.depth + 1⟩

def classCode (c : Char) : Reader Nat := do
  if !(← flags).unicode && c.toNat ≥ 0x80 then failure
  return c.toNat

def readClassAtom : Reader Atom := do
  let c ← next
  if c == '\\' then readEscape
  else
    advance
    return .char c false

/-- The character behind the next one. Where blanks do not count they are passed, and so is one
sign of a comment, but not the comment. -/
def peekBehind (spaced : Bool) (text : List Char) : Option Char :=
  let rest := text.drop 1
  if spaced then
    match rest.dropWhile isBlank with
    | '#' :: more =>
      match more.dropWhile isBlank with
      | c :: _ => some c
      | [] => rest.head?
    | c :: _ => some c
    | [] => rest.head?
  else rest.head?

def readClassItem : Reader ClassPart := do
  let first ← readClassAtom
  skipBlanks
  let behind := peekBehind (← flags).spaced (← left)
  if (← next) != '-' || behind == some ']' || behind == some '-' then
    match first with
    | .char c _ => return ⟨.singleton (← classCode c), 0⟩
    | .set set => return ⟨set, 0⟩
    | .look _ => failure
  else
    advanceBlanks
    let _ ← next
    let last ← readClassAtom
    match first, last with
    | .char a _, .char b _ => do
      let low ← classCode a
      let high ← classCode b
      if low ≤ high then return ⟨⟨#[(low, high)]⟩, 0⟩ else failure
    | _, _ => failure

/-- A named ASCII set between brackets and colons, if one stands here. -/
def readAsciiClass? : Reader (Option CharSet) := do
  match (← left) with
  | '[' :: ':' :: rest =>
    let (negated, rest) := match rest with
      | '^' :: rest => (true, rest)
      | rest => (false, rest)
    let name := rest.takeWhile (· != ':')
    match rest.drop name.length, asciiClass? (String.ofList name) with
    | ':' :: ']' :: rest, some set => do
      setLeft rest
      return some (← finishSet negated set)
    | _, _ => return none
  | _ => return none

/-- Dashes that open a class and stand for themselves, at most `fuel` of them. -/
def readDashes : Nat → List ClassPart → Reader (List ClassPart)
  | 0, _ => failure
  | fuel + 1, done => do
    if (← next) == '-' then
      advanceBlanks
      readDashes fuel (done ++ [⟨.singleton '-'.toNat, 0⟩])
    else return done

mutual

/-- A class from its opening bracket on, in at most `fuel` steps. -/
def readClass : Nat → Reader ClassPart
  | 0 => failure
  | fuel + 1 => do
    advanceBlanks
    let negated := (← next) == '^'
    if negated then advanceBlanks
    let dashes ← readDashes ((← left).length + 1) []
    let items ←
      if dashes.isEmpty && (← next) == ']' then do
        advanceBlanks
        let _ ← next
        pure [⟨.singleton ']'.toNat, 0⟩]
      else pure dashes
    let body ← readClassItems fuel none items
    return ⟨← finishSet negated body.set, body.depth + 1⟩

/-- The rest of a class behind the parts `items` of its current operand. -/
def readClassItems : Nat → Option (ClassPart × Joint) → List ClassPart → Reader ClassPart
  | 0, _, _ => failure
  | fuel + 1, pending, items => do
    skipBlanks
    let operation (joint : Joint) (rest : List Char) : Reader ClassPart := do
      setLeft rest
      let before ← joinParts pending (.union items)
      readClassItems fuel (some (before, joint)) []
    match (← left) with
    | [] => failure
    | '[' :: _ =>
      match (← readAsciiClass?) with
      | some set => readClassItems fuel pending (items ++ [⟨set, 0⟩])
      | none => do
        let nested ← readClass fuel
        readClassItems fuel pending (items ++ [nested])
    | ']' :: rest => do
      setLeft rest
      joinParts pending (.union items)
    | '&' :: '&' :: rest => operation .intersection rest
    | '-' :: '-' :: rest => operation .difference rest
    | '~' :: '~' :: rest => operation .symmetricDifference rest
    | _ => do
      let item ← readClassItem
      readClassItems fuel pending (items ++ [item])

end

def dotSet : Reader CharSet := do
  let flags ← flags
  if !flags.unicode then failure
  let lineEnds : CharSet :=
    if flags.dotAll then ∅
    else if flags.returns then unionAll [between '\n' '\n', between '\r' '\r']
    else between '\n' '\n'
  return lineEnds.complement lastCodePoint

def readAtom : Reader Part := do
  let flags ← flags
  match (← next) with
  | '\\' => do
    match (← readEscape) with
    | .char c byte => return .ofSet (← charSet c byte) 0
    | .set set => return .ofSet set 0
    | .look look => return .ofLook look
  | '.' => do
    advance
    return .ofSet (← dotSet) 0
  | '^' => do
    advance
    return .ofLook (if flags.multiLine then .lineStart flags.returns else .textStart)
  | '$' => do
    advance
    return .ofLook (if flags.multiLine then .lineEnd flags.returns else .textEnd)
  | c => do
    advance
    return .ofSet (← charSet c false) 0

/-- Decimal digits, with blanks around them, and between them where these do not count. -/
def readDecimal : Reader Nat := do
  let spaced := (← flags).spaced
  let pass (text : List Char) := if spaced then passBlanks false text else text
  let rec digits : Nat → List Char → List Char → List Char × List Char
    | 0, done, text => (done, text)
    | fuel + 1, done, text =>
      match text with
      | c :: rest => if c.isDigit then digits fuel (done ++ [c]) (pass rest) else (done, text)
      | [] => (done, text)
  let text := (← left).dropWhile isBlank
  let (done, text) := digits text.length [] text
  let text := text.dropWhile isBlank
  setLeft (if spaced then passBlanks false text else text)
  let value := done.foldl (fun n c => n * 10 + (c.toNat - '0'.toNat)) 0
  if done.isEmpty || value ≥ Decimal.twoTo 32 then failure
  return value

def readBounds : Reader (Nat × Option Nat) := do
  advanceBlanks
  let _ ← next
  let least ← readDecimal
  let bounds ←
    if (← next) == ',' then do
      advanceBlanks
      if (← next) == '\x7d' then pure (least, none)
      else do
        let most ← readDecimal
        pure (least, some most)
    else pure (least, some least)
  if (← next) != '\x7d' then failure
  advanceBlanks
  if (← left).head? == some '?' then advance
  if bounds.2.any (· < least) then failure
  return bounds

def Flags.change (flags : Flags) (on : Bool) : Char → Option Flags
  | 'i' => some { flags with caseless := on }
  | 'm' => some { flags with multiLine := on }
  | 's' => some { flags with dotAll := on }
  | 'u' => some { flags with unicode := on }
  | 'R' => some { flags with returns := on }
  | 'x' => some { flags with spaced := on }
  | 'U' => some flags
  | _ => none

/-- The letters of flags up to a colon or closing parenthesis, each once, and at most one dash,
which a letter follows. -/
def readFlags : Nat → (seen : List Char) → Flags → Reader (List Char × Flags)
  | 0, _, _ => failure
  | fuel + 1, seen, flags => do
    let c ← next
    if c == ':' || c == ')' then
      if seen.head? == some '-' then failure
      return (seen, flags)
    if seen.contains c then failure
    advance
    if c == '-' then readFlags fuel (c :: seen) flags
    else
      match flags.change (!seen.contains '-') c with
      | some flags => readFlags fuel (c :: seen) flags
      | none => failure

def nameStarts : CharSet :=
  ((Text.Property.property? "alphabetic").getD ∅).union (between '_' '_')

/-- The characters that a name can go on with: numerals, points and brackets as well. -/
def nameParts : CharSet :=
  unionAll [nameStarts, (Text.Property.category? "n").getD ∅, between '.' '.', between '[' '[',
    between ']' ']']

def readGroupName : Reader Unit := do
  let text ← left
  let name := text.takeWhile (· != '>')
  match name with
  | [] => failure
  | first :: others =>
    if !(nameStarts.contains first && others.all nameParts.contains) then failure
    if text.length = name.length then failure
    let reading ← get
    if reading.names.contains (String.ofList name) then failure
    set { reading with left := text.drop (name.length + 1),
                       names := String.ofList name :: reading.names }

mutual

/-- A group, or flags, from the opening parenthesis on, in at most `fuel` steps. -/
def readGroup : Nat → Reader Part
  | 0 => failure
  | fuel + 1 => do
    advanceBlanks
    let outer ← flags
    match (← left) with
    | '?' :: '=' :: _ | '?' :: '!' :: _ | '?' :: '<' :: '=' :: _ | '?' :: '<' :: '!' :: _ => failure
    | '?' :: 'P' :: '<' :: rest | '?' :: '<' :: rest => do
      setLeft rest
      readGroupName
      readGroupBody fuel true outer
    | '?' :: rest => do
      setLeft rest
      let (seen, inner) ← readFlags (rest.length + 1) [] outer
      let close := (← next) == ')'
      advance
      setFlags inner
      if close then
        if seen.isEmpty then failure
        return .ofFlags
      readGroupBody fuel false outer
    | _ => readGroupBody fuel true outer

/-- The body of a group with its closing parenthesis, behind which the flags are as before. -/
def readGroupBody : Nat → Bool → Flags → Reader Part
  | 0, _, _ => failure
  | fuel + 1, capturing, outer => do
    let body ← readBranches fuel [] []
    if (← next) != ')' then failure
    advance
    setFlags outer
    return .group capturing body

/-- The rest of a pattern or group, behind `branches` and the `parts` of the current one. -/
def readBranches : Nat → List Part → List Part → Reader Part
  | 0, _, _ => failure
  | fuel + 1, branches, parts => do
    skipBlanks
    let again (least : Nat) (most : Option Nat) : Reader Part := do
      match parts.getLast? with
      | some part =>
        if part.isFlags then failure
        readBranches fuel branches (parts.dropLast ++ [part.repeating least most])
      | none => failure
    let mark (least : Nat) (most : Option Nat) : Reader Part := do
      advance
      if (← left).head? == some '?' then advance
      again least most
    match (← left) with
    | [] | ')' :: _ => return .choice (branches ++ [.sequence parts])
    | '|' :: rest => do
      setLeft rest
      readBranches fuel (branches ++ [.sequence parts]) []
    | '(' :: _ => do
      let part ← readGroup fuel
      readBranches fuel branches (parts ++ [part])
    | '[' :: rest => do
      let part ← readClass (2 * rest.length + 2)
      readBranches fuel branches (parts ++ [.ofSet part.set part.depth])
    | '?' :: _ => mark 0 (some 1)
    | '*' :: _ => mark 0 none
    | '+' :: _ => mark 1 none
    | '\x7b' :: _ => do
      let (least, most) ← readBounds
      again least most
    | _ => do
      let part ← readAtom
      readBranches fuel branches (parts ++ [part])

end

def readAll (text : List Char) : Option Part := do
  let (part, reading) ← (readBranches (3 * text.length + 3) [] []).run ⟨text, .initial, []⟩
  if reading.left.isEmpty then some part else none

end Inquiry.Pattern
