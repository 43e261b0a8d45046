import Inquiry.Pattern.Expression
import Inquiry.Text.Blank
import Inquiry.Text.Property.Division
import Inquiry.Text.Property.Folding
import Inquiry.Text.Property.Script

namespace Inquiry.Pattern

open Text (CharSet lastCodePoint)

def between (first last : Char) : CharSet := ⟨#[(first.toNat, last.toNat)]⟩

def unionAll (sets : List CharSet) : CharSet :=
  .ofRanges (sets.flatMap fun set => set.ranges.toList)

/-- The ASCII sets that are written between brackets and colons. -/
def asciiClasses : List (String × CharSet) :=
  let digit := between '0' '9'
  let lower := between 'a' 'z'
  let upper := between 'A' 'Z'
  let graph := between '!' '~'
  let alnum := unionAll [digit, lower, upper]
  [("alnum", alnum), ("alpha", unionAll [lower, upper]), ("ascii", between '\x00' '\x7F'),
    ("blank", unionAll [between '\t' '\t', between ' ' ' ']),
    ("cntrl", unionAll [between '\x00' '\x1F', between '\x7F' '\x7F']), ("digit", digit),
    ("graph", graph), ("lower", lower), ("print", between ' ' '~'), ("punct", graph.diff alnum),
    ("space", unionAll [between '\t' '\r', between ' ' ' ']), ("upper", upper),
    ("word", asciiWord), ("xdigit", unionAll [digit, between 'A' 'F', between 'a' 'f'])]

def asciiClass? (name : String) : Option CharSet :=
  (asciiClasses.find? (·.1 == name)).map (·.2)

def digits (unicode : Bool) : CharSet :=
  if unicode then (Text.Property.category? "nd").getD ∅ else between '0' '9'

def blanks (unicode : Bool) : CharSet :=
  if unicode then (Text.Property.property? "whitespace").getD ∅
  else (asciiClass? "space").getD ∅

def wordSet (unicode : Bool) : CharSet := if unicode then unicodeWord else asciiWord

/-- The set with both cases of every letter. -/
def foldCase (unicode : Bool) (set : CharSet) : CharSet :=
  if unicode then Text.Property.closeCase set
  else
    let moved (first last : Char) (move : Nat → Nat) : CharSet :=
      ⟨(set.inter (between first last)).ranges.map fun r => (move r.1, move r.2)⟩
    unionAll [set, moved 'A' 'Z' (· + 32), moved 'a' 'z' (· - 32)]

/-- A name without regard to case and marks, and without the word "is" in front. Only the name of
comments, which starts with that word itself, keeps it. -/
def normalizedName (name : String) : String :=
  let chars := name.toList
  let is := (chars.take 2).map Char.toLower == ['i', 's']
  let kept := ((if is then chars.drop 2 else chars).filter fun c =>
    c.toNat < 0x80 && !(c == ' ' || c == '_' || c == '-')).map Char.toLower
  String.ofList (if is && kept == ['c'] then ['i', 's', 'c'] else kept)

/-- The set of a bare name: a property, a category or a script. Three short names are of
categories although properties bear them too. -/
def namedSet? (name : String) : Option CharSet :=
  let name := normalizedName name
  let property :=
    if name ∈ ["cf", "sc", "lc"] then none else Text.Property.property? name
  property <|> Text.Property.category? name <|> Text.Property.script? name

/-- The set of the characters for which something named has a named value. -/
def valuedSet? (name value : String) : Option CharSet :=
  let value := normalizedName value
  match normalizedName name with
  | "gc" | "generalcategory" => Text.Property.category? value
  | "sc" | "script" => Text.Property.script? value
  | "scx" | "scriptextensions" => Text.Property.scriptExtension? value
  | "age" => Text.Property.ages.upTo? value
  | "gcb" | "graphemeclusterbreak" => Text.Property.graphemeBreaks.value? value
  | "wb" | "wordbreak" => Text.Property.wordBreaks.value? value
  | "sb" | "sentencebreak" => Text.Property.sentenceBreaks.value? value
  | _ => none

end Inquiry.Pattern
