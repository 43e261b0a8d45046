import Inquiry.Path
import Inquiry.Text.Blank

namespace Inquiry

structure Settings where
  directory : String
  strict : Bool
deriving DecidableEq

namespace Settings

def directoryVariable : String := "QUESTFLOW_QUESTIONNAIRE_DIR"

def strictVariable : String := "QUESTFLOW_STRICT"

/-- What holds where no variable is set. -/
def plain : Settings := ⟨".", false⟩

/-- The text of the variable for strictness does not mean yes or no. -/
structure NotFlag where
  text : String
deriving DecidableEq

def NotFlag.message (e : NotFlag) : String :=
  "Configuration error: " ++ strictVariable ++ " must be a boolean, got '" ++ e.text ++ "'"

/-- A word for yes or no, without regard to case and to blanks around it. No word means no. -/
def flag? (text : String) : Option Bool :=
  let word := String.ofList ((Text.trim text.toList).map Char.toLower)
  if ["1", "true", "yes", "on"].contains word then some true
  else if ["0", "false", "no", "off", ""].contains word then some false
  else none

def ofVariables (directory strict : Option String) : Except NotFlag Settings := do
  let directory := directory.getD plain.directory
  match strict with
  | none => return ⟨directory, plain.strict⟩
  | some text =>
    match flag? text with
    | some strict => return ⟨directory, strict⟩
    | none => throw ⟨text⟩

/-- Where a questionnaire lies that is asked for by a path. -/
def resolve (s : Settings) (path : String) : String := Path.join s.directory path

def isPlain (s : Settings) : Bool :=
  Path.agree s.directory plain.directory && s.strict == plain.strict

end Settings

end Inquiry
