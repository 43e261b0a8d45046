import Inquiry.Table
import Inquiry.Text.Alphanumeric
import Inquiry.Text.Blank

/-!
Files of defaults for environment variables.

Each line gives a variable a value, in which other variables can be put. Lines are read up to the
first that is malformed.
-/
namespace Inquiry.Settings

inductive Piece where
  | text (content : String)
  /-- What another variable holds. -/
  | reference (name : String)
deriving DecidableEq

structure Default where
  name : String
  value : List Piece
deriving DecidableEq

namespace Default

/-- Where in a value its reader is. -/
inductive Place where
  | open
  | escape
  /-- Between single quotes, where every character stands for itself. -/
  | quoted
  /-- In the name of a variable behind a dollar sign. -/
  | name (done : String)
  /-- In the name of a variable between braces. -/
  | braced (done : String)
  /-- Behind the value, where only a comment may come. -/
  | behind
  | comment

structure Draft where
  place : Place
  inQuotes : Bool
  /-- What is read, the last piece first. -/
  pieces : List Piece

namespace Draft

def push (d : Draft) (c : Char) : Draft :=
  { d with place := .open, pieces := .text (String.singleton c) :: d.pieces }

def refer (d : Draft) (name : String) : Draft :=
  { d with place := .open, pieces := .reference name :: d.pieces }

/-- Read a character of the value itself. -/
def readOpen (d : Draft) (c : Char) : Draft :=
  if c == '$' then { d with place := .name "" }
  else if c == '\\' then { d with place := .escape }
  else if c == '"' then { d with inQuotes := !d.inQuotes }
  else if d.inQuotes then d.push c
  else if c == '\'' then { d with place := .quoted }
  else if c == ' ' || c == '\t' then { d with place := .behind }
  else d.push c

/-- Read a character. A name ends before the first that is neither letter nor digit, which then
stands for itself unless it is another dollar sign. -/
def read (d : Draft) (c : Char) : Option Draft :=
  match d.place with
  | .open => some (d.readOpen c)
  | .escape =>
    if c == 'n' then some (d.push '\n')
    else if ['\\', '\'', '"', '$', ' '].contains c then some (d.push c)
    else none
  | .quoted =>
    some { (if c == '\'' then d else d.push c) with place := if c == '\'' then .open else .quoted }
  | .name done =>
    if Text.isAlphanumeric c then some { d with place := .name (done.push c) }
    else if c == '\x7b' && done.isEmpty then some { d with place := .braced "" }
    else if c == '$' then some { d.refer done with place := .name "" }
    else some ((d.refer done).push c)
  | .braced done =>
    some (if c == '\x7d' then d.refer done else { d with place := .braced (done.push c) })
  | .behind =>
    if c == ' ' || c == '\t' then some d
    else if c == '#' then some { d with place := .comment }
    else none
  | .comment => some d

def finish (d : Draft) : Option (List Piece) :=
  match d.place with
  | .quoted | .braced _ => none
  | .name done => if d.inQuotes then none else some (d.refer done).pieces.reverse
  | _ => if d.inQuotes then none else some d.pieces.reverse

end Draft

def readValue (text : List Char) : Option (List Piece) := do
  (← text.foldlM Draft.read ⟨.open, false, []⟩).finish

def readName (text : List Char) : Option (String × List Char) :=
  let isNameChar (c : Char) : Bool := c.isAlphanum || c == '_' || c == '.'
  match text with
  | first :: _ =>
    if first.isAlpha || first == '_' then
      some (String.ofList (text.takeWhile isNameChar), Text.trimStart (text.dropWhile isNameChar))
    else none
  | [] => none

def readEquals : List Char → Option (List Char)
  | '=' :: rest => some (Text.trimStart rest)
  | _ => none

/-- A name and what stands behind its equals sign. A word that says that variables are to be
handed on may come first; it can be a name itself. -/
def readAssignment (text : List Char) : Option (String × List Char) := do
  let (name, rest) ← readName text
  match readEquals rest with
  | some rest => return (name, rest)
  | none =>
    if name != "export" then failure
    let (name, rest) ← readName rest
    return (name, ← readEquals rest)

def isEmptyLine : List Char → Bool
  | [] => true
  | first :: _ => first == '#'

def readLine (line : List Char) : Option Default := do
  let (name, value) ← readAssignment line
  let pieces ← if isEmptyLine value then some [] else readValue value
  return ⟨name, pieces⟩

def readLines : List (List Char) → List Default
  | [] => []
  | line :: rest =>
    let line := Text.trim line
    if isEmptyLine line then readLines rest
    else
      match readLine line with
      | some d => d :: readLines rest
      | none => []

def ofText (text : String) : List Default :=
  readLines ((text.splitOn "\n").map String.toList)

end Default

end Inquiry.Settings
