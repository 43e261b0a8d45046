import Inquiry.CommandLine.Run

namespace Inquiry.CommandLine

/-- The environment variables of the process, and the files of the system. -/
def Surroundings.ofProcess : Surroundings IO where
  getVariable? := fun name => IO.getEnv name
  getFile? path := do
    try
      return some (← IO.FS.readFile path)
    catch _ => return none

end Inquiry.CommandLine

def main (arguments : List String) : IO UInt32 := do
  let outcome ← Inquiry.CommandLine.run .ofProcess arguments
  IO.print outcome.output
  IO.eprint outcome.complaint
  return outcome.exit
