import ApiGateway.CommandLine.Arguments
import ApiGateway.CommandLine.Files
import ApiGateway.Endpoint.File
import ApiGateway.Endpoint.Sample
import ApiGateway.Lint
import ApiGateway.ResourceTree.Json

/-! What a command does. It reads one file at most, makes one text, and only then prints the text or
writes it to a file: a command that fails leaves everything as it was. Of its complaint two things
are told, the lines of the linter and the outermost message of the error. The causes behind that
message and the lines of a log are left out, whatever level is logged. -/

namespace ApiGateway.CommandLine

def defaultFile : String := "endpoints.toml"

/-- Why a command has no text to give: lines of its own, and the outermost message of the error,
which ends them. -/
structure Failure where
  notes : List String := []
  message : String
  deriving DecidableEq

def orFail {ε α : Type} (message : ε → String) : Except ε α → Except Failure α
  | .ok a => .ok a
  | .error e => .error ⟨[], message e⟩

namespace Command

/-- The endpoints file: the option, else the environment, else the default. -/
def endpointsFile (environment file : Option String) : String :=
  (file.orElse fun _ => environment).getD defaultFile

def source? (environment : Option String) : Command → Option String
  | generate file _ _ _ | lint file | tree file _ => some (endpointsFile environment file)
  | single .. | .sample _ => none

def out? : Command → Option String
  | generate _ out _ _ | single _ _ _ _ out | .sample out => out
  | lint _ | tree _ _ => none

def lintFailure (problems : List Lint.Problem) : Failure :=
  ⟨problems.map Lint.Problem.message, "Endpoint lint failed"⟩

/-- The text that a command makes of the endpoints file, given by its name and contents. -/
def output (file : String) (contents : Option String) : Command → Except Failure String
  | generate _ _ requireApiKey strict => do
    let es ← orFail LoadError.message (Endpoint.load file contents)
    let es := if requireApiKey then Endpoint.overrideApiKey true es else es
    let problems := if strict then Lint.problems es else []
    if problems ≠ [] then .error (lintFailure problems)
    else orFail Terraform.GenerationError.message (Terraform.generate es)
  | single path method backendUri apiKeyRequired _ => do
    if Text.trim path = "" then .error ⟨[], "Please enter an endpoint path"⟩
    else if Text.trim backendUri = "" then .error ⟨[], "Please enter a backend URI"⟩
    else
      let es ← orFail RowsError.message
        (Row.validate [⟨path, method, backendUri, apiKeyRequired⟩])
      orFail Terraform.GenerationError.message (Terraform.generate es)
  | lint _ => do
    let es ← orFail LoadError.message (Endpoint.load file contents)
    let problems := Lint.problems es
    if problems ≠ [] then .error (lintFailure problems) else .ok "Endpoint lint passed\n"
  | tree _ format => do
    let es ← orFail LoadError.message (Endpoint.load file contents)
    let t ← orFail EmptyPath.message (ResourceTree.build es)
    match format with
    | .text => .ok t.listing
    | .json => .ok (t.toJson ++ "\n")
  | .sample _ => .ok (Row.fileToToml (Endpoint.sample.map Endpoint.row))

end Command

/-- What a run shows: its exit code, the text it prints, and the lines of its complaint as far as
they are told: those of the linter, and then those of the message. -/
structure Outcome where
  code : Nat
  stdout : String
  stderr : List String
  deriving DecidableEq

def version : String := "apigw-tfgen 0.1.0\n"

def usage : String := "Usage: apigw-tfgen <generate|single|lint|tree|example> [OPTIONS]"

def Outcome.success (text : String) : Outcome := ⟨0, text, []⟩

/-- The lines of a text, each without its end; a carriage return before a line feed belongs to
the end. -/
def lines (text : String) : List String :=
  (Text.pieces '\n' text.toList).map fun line =>
    String.ofList (if line.getLast? = some '\r' then line.dropLast else line)

/-- Every message starts on a new line; one with ends of lines in it takes several. No empty lines
are left at the end. What else is written behind the message, the causes of the error one by one, is
no part of these lines. -/
def Outcome.failure (f : Failure) : Outcome :=
  let all := (f.notes ++ ["Error: " ++ f.message]).flatMap lines
  ⟨1, "", (all.reverse.dropWhile (· = "")).reverse⟩

/-- Of what is said about arguments that are not understood only the usage is told. -/
def Outcome.misuse : Outcome := ⟨2, "", [usage]⟩

def runCommand (environment : Option String) (files : Files) (c : Command) : Outcome × Files :=
  let file := (c.source? environment).getD ""
  match c.output file (files.readText? file) with
  | .error f => (.failure f, files)
  | .ok text =>
    match c.out? with
    | none => (.success text, files)
    | some name =>
      match files.write name text with
      | .ok written => (.success "", written)
      | .error e => (.failure ⟨[], e.message⟩, files)

/-- A whole run: arguments, the name of the endpoints file in the environment, and the files before
it, to the outcome and the files after it. -/
def run (args : List String) (environment : Option String) (files : Files) : Outcome × Files :=
  match Request.ofArguments args with
  | .run c => runCommand environment files c
  | .version => (.success version, files)
  | .help => (.success (usage ++ "\n"), files)
  | .misuse => (.misuse, files)

end ApiGateway.CommandLine
