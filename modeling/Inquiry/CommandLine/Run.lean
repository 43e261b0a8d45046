import Inquiry.CommandLine.Arguments
import Inquiry.CommandLine.Surroundings
import Inquiry.Json.Writer
import Inquiry.Questionnaire.Loading
import Inquiry.Settings
import Inquiry.Validation
import Inquiry.Walk

namespace Inquiry.CommandLine

/-- What a run leaves: its exit code, what it prints, and what it complains about. -/
structure Outcome where
  exit : UInt32
  output : String
  complaint : String

namespace Outcome

def success (output : String) : Outcome := ⟨0, output, ""⟩

/-- A run that failed after it had printed something. -/
def failure (output reason : String) : Outcome := ⟨1, output, "Error: " ++ reason ++ "\n"⟩

end Outcome

namespace Topic

def helpText (topic : Topic) : String :=
  "\n".intercalate (match topic with
  | .program => [
    topic.usage,
    "",
    "Commands:",
    "  validate  Check a questionnaire's conditional logic",
    "  walk      Walk a questionnaire with scripted answers",
    "  help      Print this message or the help of the given subcommand(s)",
    "",
    "Options:",
    "  -h, --help     Print help",
    "  -V, --version  Print version",
    ""]
  | .validate => [
    "Check a questionnaire's conditional logic",
    "",
    topic.usage,
    "",
    "Options:",
    "  -f, --file <FILE>  Path to the questionnaire file (YAML or JSON)",
    "  -h, --help         Print help",
    ""]
  | .walk => [
    "Walk a questionnaire with scripted answers",
    "",
    topic.usage,
    "",
    "Options:",
    "  -f, --file <FILE>        Path to the questionnaire file (YAML or JSON)",
    "  -a, --answers <ANSWERS>  Mapping of question id to answer (YAML or JSON)",
    "  -h, --help               Print help",
    ""]
  | .help => [
    "Print this message or the help of the given subcommand(s)",
    "",
    topic.usage,
    "",
    "Arguments:",
    "  [COMMAND]...  Print help for the subcommand(s)",
    ""])

end Topic

def UsageFault.outcome (fault : UsageFault) (topic : Topic) : Outcome :=
  ⟨2, "", match fault.message with
    | some message => "error: " ++ message ++ "\n\n" ++ topic.usage
        ++ "\n\nFor more information, try '--help'.\n"
    | none => topic.helpText⟩

/-- Print what a check has found. Warnings fail it in strict runs. -/
def validationOutcome (settings : Settings) (q : Questionnaire) : Outcome :=
  let report := Validation.check q
  let line (kind : String) (issue : Validation.Issue) : String :=
    kind ++ ": " ++ issue.message ++ "\n"
  let lines := String.join
    (report.errors.map (line "error") ++ report.warnings.map (line "warning"))
  if report.isValid && !(settings.strict && !report.warnings.isEmpty) then
    .success (lines ++ "questionnaire '" ++ q.id ++ "' is valid\n")
  else
    .failure lines ("questionnaire '" ++ q.id ++ "' failed validation ("
      ++ toString report.errors.length ++ " errors, "
      ++ toString report.warnings.length ++ " warnings)")

/-- Print what a walk with the answers in a text has come to. Its times are not shown. -/
def walkOutcome (q : Questionnaire) (answers : String) : Outcome :=
  match Yaml.readAnswers answers with
  | .error _ => .failure "" "the answers are malformed"
  | .ok script =>
    match Walk.through q .epoch script with
    | .ok walk => .success (walk.toJson.pretty ++ "\n")
    | .error e => .failure "" e.message

section

variable {m : Type → Type} [Monad m] (around : Surroundings m)

def withQuestionnaire (settings : Settings) (file : String)
    (go : Questionnaire → m Outcome) : m Outcome := do
  let path := settings.resolve file
  let loaded := match ← around.getFile? path with
    | some text => Questionnaire.load text
    | none => .error .unreadableFile
  match loaded with
  | .ok q => go q
  | .error e =>
    let cause := match e.message? with
      | some message => "\n\nCaused by:\n    " ++ message
      | none => ""
    return .failure "" ("loading " ++ path ++ cause)

def Command.run (settings : Settings) : Command → m Outcome
  | .validate file => withQuestionnaire around settings file fun q =>
    pure (validationOutcome settings q)
  | .walk file answers => withQuestionnaire around settings file fun q => do
    match ← around.getFile? answers with
    | some text => return walkOutcome q text
    | none => return .failure "" ("reading " ++ answers)

/-- Where variables get their values from if they are not set. -/
def defaultsFile : String := ".env"

/-- Run the program. Wrong settings show before wrong arguments do. -/
def run (arguments : List String) : m Outcome := do
  let around ← around.withDefaults defaultsFile
  let directory ← around.getVariable? Settings.directoryVariable
  let strict ← around.getVariable? Settings.strictVariable
  match Settings.ofVariables directory strict, Request.ofArguments arguments with
  | .error e, _ => return .failure "" e.message
  | .ok _, .error (fault, topic) => return fault.outcome topic
  | .ok _, .ok (.help topic) => return .success topic.helpText
  | .ok _, .ok .version => return .success "questflow 0.1.0\n"
  | .ok settings, .ok (.command c) => c.run around settings

end

end Inquiry.CommandLine
