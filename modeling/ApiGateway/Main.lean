import ApiGateway.CommandLine.Run

/-! The program: it reads the endpoints file, has the command worked out, and prints or writes. -/

namespace ApiGateway.CommandLine

def readFile (name : String) : IO (Option String) := do
  try
    return String.fromUTF8? (← IO.FS.readBinFile name)
  catch _ => return none

/-- Errors of the system are told apart by its codes. -/
def writeErrorText : IO.Error → String
  | .noFileOrDirectory .. => WriteError.notFound.message
  | .inappropriateType _ code _ =>
    (if code = 20 then WriteError.notDirectory else WriteError.isDirectory).message
  | .resourceExhausted _ 36 _ | .invalidArgument _ 36 _ => WriteError.nameTooLong.message
  | e => toString e

def report (o : Outcome) : IO UInt32 := do
  IO.print o.stdout
  for line in o.stderr do
    IO.eprintln line
  return o.code.toUInt32

def execute (c : Command) : IO UInt32 := do
  let file := c.source? (← IO.getEnv "APIGW_ENDPOINTS_FILE")
  let contents ← match file with
    | some name => readFile name
    | none => pure none
  match c.output (file.getD "") contents, c.out? with
  | .error f, _ => report (.failure f)
  | .ok text, none => report (.success text)
  | .ok text, some name =>
    try
      IO.FS.writeFile name text
      report (.success "")
    catch e => report (.failure ⟨[], writeErrorText e⟩)

end ApiGateway.CommandLine

open ApiGateway.CommandLine in
def main (args : List String) : IO UInt32 :=
  match Request.ofArguments args with
  | .run c => execute c
  | .version => report (.success version)
  | .help => report (.success (usage ++ "\n"))
  | .misuse => report .misuse
