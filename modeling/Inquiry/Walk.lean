import Inquiry.Session.Interview

namespace Inquiry

open Session

/-- The answers given beforehand, by the ids of their questions. -/
abbrev Script := Table Json

structure Walk where
  route : List String
  answers : Answers
  state : State
  progress : Progress

namespace Walk

variable {σ : Type}

/-- Answer the question shown if the script does; otherwise see whether it has to be answered. -/
def respond (storage : Storage σ) (now : Time.Instant) (script : Script) (q : Question) :
    Interviewing σ Unit :=
  match script.get? q.id with
  | some answer => Interview.record storage now q.id answer
  | none => do let _ ← Interview.isRequired

def stride (storage : Storage σ) (now : Time.Instant) (script : Script) (q : Question) :
    Interviewing σ Step := do
  respond storage now script q
  Interview.next storage now

/-- Go on from the question shown to the end, past at most `fuel` more. The answer tells the
questions shown from there on. -/
def follow (storage : Storage σ) (now : Time.Instant) (script : Script) :
    Nat → Question → Interviewing σ (List String × Answers)
  | 0, q => do
    match ← stride storage now script q with
    | .question _ => return ([q.id], (← Interview.active).state.answers)
    | .completed answers => return ([q.id], answers)
  | fuel + 1, q => do
    match ← stride storage now script q with
    | .question following => do
      let (route, answers) ← follow storage now script fuel following
      return (q.id :: route, answers)
    | .completed answers => return ([q.id], answers)

/-- Walk through a questionnaire of the storage. As every step goes forward, there are no more of
them than questions. -/
def run (storage : Storage σ) (now : Time.Instant) (script : Script) (questionnaire : String) :
    Interviewing σ Walk := do
  let first ← Interview.start storage now questionnaire
  let size := (← Interview.active).questionnaire.size
  let (route, answers) ← follow storage now script size first
  return ⟨route, answers, (← Interview.active).state, ← Interview.progress⟩

def through [SessionIds] (q : Questionnaire) (now : Time.Instant) (script : Script) :
    Except InterviewError Walk :=
  let interview : Interview Connection := ⟨none, .sound (.ofQuestionnaires [q])⟩
  (run Connection.storage now script q.id interview).1

def toJson (w : Walk) : Json :=
  .record [("sessionId", .string w.state.session), ("path", .strings w.route),
    ("skipped", .strings w.state.skipped.keys), ("progress", w.progress.toJson),
    ("responses", w.answers.toJson)]

end Walk

end Inquiry
