namespace Inquiry.Path

def isAbsolute (path : String) : Bool := path.startsWith "/"

/-- A path as meant from a directory. An absolute one stays as it is. -/
def join (directory path : String) : String :=
  if isAbsolute path || directory.isEmpty then path
  else if directory.endsWith "/" then directory ++ path
  else directory ++ "/" ++ path

/-- The steps of a path that go somewhere. That a relative path sets out from where one is counts
as a step too. -/
def steps (path : String) : List String :=
  let goesOn (step : String) : Bool := !step.isEmpty && step != "."
  match path.splitOn "/" with
  | "." :: rest => "." :: rest.filter goesOn
  | all => all.filter goesOn

def agree (a b : String) : Bool := isAbsolute a == isAbsolute b && steps a == steps b

end Inquiry.Path
