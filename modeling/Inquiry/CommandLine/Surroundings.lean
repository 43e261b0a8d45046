import Inquiry.Settings.Defaults

namespace Inquiry.CommandLine

/-- How variables and files are looked up, in a monad `m` in which that is possible. -/
structure Surroundings (m : Type → Type) where
  getVariable? : String → m (Option String)
  getFile? : String → m (Option String)

namespace Surroundings

variable {m : Type → Type} [Monad m]

def getFrom (s : Surroundings m) (added : Table String) (name : String) : m (Option String) := do
  return (← s.getVariable? name) <|> added.get? name

open Settings (Default Piece)

/-- Put the values of variables into a value. One that is not set is left out. -/
def expand (s : Surroundings m) (added : Table String) (pieces : List Piece) : m String := do
  let parts ← pieces.mapM fun
    | .text content => pure content
    | .reference name => do return (← s.getFrom added name).getD ""
  return String.join parts

def addDefault (s : Surroundings m) (added : Table String) (d : Default) : m (Table String) := do
  if (← s.getFrom added d.name).isSome then return added
  return added.insert d.name (← s.expand added d.value)

/-- The surroundings with the defaults that a file of them sets, in their order. -/
def withDefaults (s : Surroundings m) (file : String) : m (Surroundings m) := do
  let text := (← s.getFile? file).getD ""
  let added ← (Default.ofText text).foldlM s.addDefault ∅
  return { s with getVariable? := s.getFrom added }

end Surroundings

end Inquiry.CommandLine
