import Inquiry.Answers
import Inquiry.Time.Reader

namespace Inquiry

open Decimal (Binary64)

structure Context where
  answers : Answers
  now : Time.Instant

structure Formula where
  description : String
  call : List String → Context → Json

/-- Functions by their names. To register a name again replaces its function. -/
abbrev Registry := Table Formula

structure NotRegistered where
  name : String
deriving DecidableEq

def NotRegistered.message (e : NotRegistered) : String :=
  "Function '" ++ e.name ++ "' is not registered"

def Registry.call (r : Registry) (name : String) (args : List String) (context : Context) :
    Except NotRegistered Json :=
  match r.get? name with
  | some f => .ok (f.call args context)
  | none => .error ⟨name⟩

namespace Formula

/-- The answers to some questions, of which those without one contribute nothing. -/
def given (answers : Answers) (args : List String) : List Json := args.filterMap answers.get?

/-- The numbers that an answer contributes: itself, or those directly in it if it is a list. -/
def numbersOf : Json → List Binary64
  | .array items => items.filterMap Json.number?
  | answer => answer.number?.toList

def numbers (answers : Answers) (args : List String) : List Binary64 :=
  (given answers args).flatMap numbersOf

/-- The items that an answer counts for: those of a list, and one for anything else that is not
blank. -/
def itemCount : Json → Nat
  | .array items => items.length
  | answer => if isBlankAnswer (some answer) then 0 else 1

def count (answers : Answers) (args : List String) : Nat :=
  (given answers args).foldl (fun n answer => n + itemCount answer) 0

/-- The sum in order, if it stays finite. The sum of nothing is minus zero. -/
def total (numbers : List Binary64) : Option Binary64 :=
  numbers.foldlM Binary64.add Binary64.zero.neg

/-- The mean; that of nothing is the integer zero. -/
def mean (numbers : List Binary64) : Json :=
  if numbers.isEmpty then .int 0
  else .ofResult ((total numbers).bind (·.div (.ofNat numbers.length)))

/-- The number that is kept when every number is tried against the one kept before. -/
def select (better : Binary64 → Binary64 → Bool) : List Binary64 → Option Binary64
  | [] => none
  | x :: rest => some (rest.foldl (fun kept y => if better y kept then y else kept) x)

def least (numbers : List Binary64) : Option Binary64 :=
  select (fun x kept => x.rank < kept.rank) numbers

def greatest (numbers : List Binary64) : Option Binary64 :=
  select (fun x kept => kept.rank < x.rank) numbers

def firstAnswer (answers : Answers) (args : List String) : Option Json :=
  args.head?.bind answers.get?

/-- The whole days since the date that the first answer names. -/
def daysAgo (context : Context) (args : List String) : Json :=
  match firstAnswer context.answers args with
  | some (.string text) =>
    match Time.Instant.ofAnswer? text with
    | some t => .int (context.now.daysSince t)
    | none => .null
  | _ => .null

/-- The questions among some whose answers are not blank; of no questions, all answers count. -/
def answeredCount (answers : Answers) (args : List String) : Nat :=
  if args.isEmpty then answers.size
  else ((given answers args).filter fun a => !isBlankAnswer (some a)).length

def constant (description : String) (value : Json) : Formula := ⟨description, fun _ _ => value⟩

/-- A function that answers the answers of its arguments, null for each that has none. -/
def arguments (description : String) : Formula :=
  ⟨description, fun args context =>
    .array (args.map fun id => (context.answers.get? id).getD .null)⟩

end Formula

open Formula in
def Registry.builtins : Registry := .ofList [
  ("count", ⟨"Number of answered items", fun args c => .nat (count c.answers args)⟩),
  ("sum", ⟨"Sum of numeric answers", fun args c => .ofResult (total (numbers c.answers args))⟩),
  ("avg", ⟨"Mean of numeric answers", fun args c => mean (numbers c.answers args)⟩),
  ("min", ⟨"Smallest numeric answer", fun args c => .ofResult (least (numbers c.answers args))⟩),
  ("max", ⟨"Largest numeric answer", fun args c => .ofResult (greatest (numbers c.answers args))⟩),
  ("length", ⟨"Length of a text or list answer", fun args c =>
    .nat ((answerLength? (firstAnswer c.answers args)).getD 0)⟩),
  ("daysAgo", ⟨"Whole days since a date answer", fun args c => daysAgo c args⟩),
  ("answeredCount", ⟨"Number of answered questions", fun args c =>
    .nat (answeredCount c.answers args)⟩)]

end Inquiry
