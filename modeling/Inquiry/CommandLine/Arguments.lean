/-!
The arguments of the program: a command with its options, or a request for help.

An option is written as a word behind two dashes or as a letter behind one. Its value follows as
the next argument, behind an equals sign, or right behind the letter. It is settled when the next
option comes or the arguments end, so that a fault of its own shows only then.
-/
namespace Inquiry.CommandLine

inductive Command where
  | validate (file : String)
  | walk (file answers : String)
deriving DecidableEq

inductive Topic where
  | program
  | validate
  | walk
  | help
deriving DecidableEq

inductive Request where
  | command (c : Command)
  | help (topic : Topic)
  | version
deriving DecidableEq

inductive Parameter where
  | file
  | answers
deriving DecidableEq

namespace Parameter

def word : Parameter → String
  | file => "file"
  | answers => "answers"

def letter : Parameter → Char
  | file => 'f'
  | answers => 'a'

/-- The option as it is shown in messages, with a name for its value. -/
def shown (p : Parameter) : String := "--" ++ p.word ++ " <" ++ p.word.toUpper ++ ">"

end Parameter

namespace Topic

def ofWord? : String → Option Topic
  | "validate" => some validate
  | "walk" => some walk
  | "help" => some help
  | _ => none

/-- The options that a command takes, all of which it needs. -/
def parameters : Topic → List Parameter
  | validate => [.file]
  | walk => [.file, .answers]
  | program | help => []

def usage : Topic → String
  | program => "Usage: questflow <COMMAND>"
  | validate => "Usage: questflow validate --file <FILE>"
  | walk => "Usage: questflow walk --file <FILE> --answers <ANSWERS>"
  | help => "Usage: questflow help [COMMAND]..."

end Topic

/-- Why arguments say nothing that the program can do. -/
inductive UsageFault where
  | noCommand
  | unknownCommand (word : String)
  /-- Behind two dashes alone there are no commands. -/
  | commandBehindDashes (word : String)
  | unexpected (argument : String)
  | unexpectedValue (value option : String)
  | missingValue (p : Parameter)
  | repeated (p : Parameter)
  | missing (ps : List Parameter)
deriving DecidableEq

namespace UsageFault

/-- The message; where no command is given, the help on the program stands for it. -/
def message : UsageFault → Option String
  | noCommand => none
  | unknownCommand word => some ("unrecognized subcommand '" ++ word ++ "'")
  | commandBehindDashes word =>
    some ("subcommand '" ++ word ++ "' exists; to use it, remove the '--' before it")
  | unexpected argument => some ("unexpected argument '" ++ argument ++ "' found")
  | unexpectedValue value option =>
    some ("unexpected value '" ++ value ++ "' for '" ++ option ++ "' found; no more were expected")
  | missingValue p =>
    some ("a value is required for '" ++ p.shown ++ "' but none was supplied")
  | repeated p => some ("the argument '" ++ p.shown ++ "' cannot be used multiple times")
  | missing ps => some ("\n  ".intercalate
      ("the following required arguments were not provided:" :: ps.map Parameter.shown))

end UsageFault

inductive Shape where
  | dashes
  | long (word : String) (value : Option String)
  | short (letters : List Char)
  | plain
deriving DecidableEq

def Shape.of (argument : String) : Shape :=
  match argument.toList with
  | ['-', '-'] => .dashes
  | '-' :: '-' :: rest =>
    .long (String.ofList (rest.takeWhile (· != '=')))
      (match rest.dropWhile (· != '=') with
      | [] => none
      | _ :: value => some (String.ofList value))
  | '-' :: first :: rest => .short (first :: rest)
  | _ => .plain

/-- The value that follows a letter at once, with or without an equals sign. -/
def attached : List Char → Option String
  | [] => none
  | '=' :: value => some (String.ofList value)
  | value => some (String.ofList value)

structure Given where
  settled : List (Parameter × String)
  /-- The last option if it is not settled, with its value if that has come. -/
  pending : Option (Parameter × Option String)

/-- Settling an option may fail. A request for help ends the reading too. -/
abbrev Settling := Except (UsageFault ⊕ Topic)

namespace Given

def none : Given := ⟨[], .none⟩

def fail {α : Type} (fault : UsageFault) : Settling α := throw (.inl fault)

def value? (g : Given) (p : Parameter) : Option String :=
  (g.settled.find? (·.1 == p)).map (·.2)

def settleAs (g : Given) (p : Parameter) (value : String) : Settling Given :=
  if (g.value? p).isSome then fail (.repeated p)
  else return { g with settled := (p, value) :: g.settled }

def settle (g : Given) : Settling Given :=
  match g.pending with
  | .none => return g
  | some (p, .none) => fail (.missingValue p)
  | some (p, some value) => { g with pending := .none }.settleAs p value

/-- Begin an option, which settles the one before. -/
def begin (g : Given) (p : Parameter) (value : Option String) : Settling Given := do
  let g ← g.settle
  match value with
  | some value => g.settleAs p value
  | .none => return { g with pending := some (p, .none) }

def read (topic : Topic) (g : Given) (argument : String) : Settling Given := do
  let help : Settling Given := do
    let _ ← g.settle
    throw (.inr topic)
  match Shape.of argument with
  | .long word value =>
    if word == "help" then
      match value with
      | some value => fail (.unexpectedValue value "--help")
      | .none => help
    else
      match topic.parameters.find? (·.word == word) with
      | some p => g.begin p value
      | .none => fail (.unexpected ("--" ++ word))
  | .short [] => return g
  | .short (letter :: rest) =>
    if letter == 'h' then help
    else
      match topic.parameters.find? (·.letter == letter) with
      | some p => g.begin p (attached rest)
      | .none => fail (.unexpected (String.ofList ['-', letter]))
  | _ =>
    match g.pending with
    | some (p, .none) => return { g with pending := some (p, some argument) }
    | _ => fail (.unexpected argument)

/-- Read the arguments of a command. Behind two dashes alone there may be none. -/
def readAll (topic : Topic) : Given → List String → Settling Given
  | g, [] => g.settle
  | g, argument :: rest => do
    if Shape.of argument = .dashes then
      match rest with
      | [] => g.settle
      | next :: _ => fail (.unexpected next)
    else readAll topic (← g.read topic argument) rest

end Given

/-- The command with its options, of which none may be missing. -/
def Topic.readCommand (topic : Topic) (arguments : List String) : Settling Command := do
  let given ← Given.readAll topic .none arguments
  match topic, given.value? .file, given.value? .answers with
  | .validate, some file, _ => return .validate file
  | .walk, some file, some answers => return .walk file answers
  | _, _, _ => Given.fail (.missing (topic.parameters.filter fun p => (given.value? p).isNone))

def readHelp : List String → Except (UsageFault × Topic) Request
  | [] => return .help .program
  | word :: rest =>
    match Topic.ofWord? word, rest with
    | none, _ => throw (.unknownCommand word, .program)
    | some topic, [] => return .help topic
    | some topic, next :: _ => throw (.unknownCommand next, topic)

/-- Read the arguments. An error comes with the topic that its usage is about. -/
def Request.ofArguments : List String → Except (UsageFault × Topic) Request
  | [] => throw (.noCommand, .program)
  | argument :: rest =>
    match Shape.of argument with
    | .dashes =>
      match rest with
      | [] => throw (.noCommand, .program)
      | word :: _ =>
        throw (if (Topic.ofWord? word).isSome then .commandBehindDashes word
          else .unknownCommand word, .program)
    | .long word value =>
      if word == "help" || word == "version" then
        match value with
        | some value => throw (.unexpectedValue value ("--" ++ word), .program)
        | none => return if word == "help" then .help .program else .version
      else throw (.unexpected ("--" ++ word), .program)
    | .short letters =>
      match letters with
      | 'h' :: _ => return .help .program
      | 'V' :: _ => return .version
      | _ => throw (.unexpected (String.ofList ('-' :: letters.take 1)), .program)
    | .plain =>
      match Topic.ofWord? argument with
      | none => throw (.unknownCommand argument, .program)
      | some .help => readHelp rest
      | some topic =>
        match topic.readCommand rest with
        | .ok c => return .command c
        | .error (.inl fault) => throw (fault, topic)
        | .error (.inr topic) => return .help topic

end Inquiry.CommandLine
