import ApiGateway.Method

/-! The arguments of the program. A command comes first and its options after it, each once; a value
stands behind its option or after an equals sign, and only there it may begin with a hyphen. -/

namespace ApiGateway.CommandLine

inductive TreeFormat
  | text | json
  deriving DecidableEq

def TreeFormat.ofText? : String → Option TreeFormat
  | "text" => some text
  | "json" => some json
  | _ => none

inductive Command
  | generate (file out : Option String) (requireApiKey strict : Bool)
  | single (path : String) (method : Method) (backendUri : String) (apiKeyRequired : Bool)
      (out : Option String)
  | lint (file : Option String)
  | tree (file : Option String) (format : TreeFormat)
  | sample (out : Option String)
  deriving DecidableEq

inductive Request
  | run (c : Command)
  | version
  | help
  | misuse
  deriving DecidableEq

/-- An option of a command, and the values that it takes; a flag takes none. -/
structure Choice where
  name : String
  takes? : Option (String → Bool)

namespace Choice

def flag (name : String) : Choice := ⟨name, none⟩

def text (name : String) : Choice := ⟨name, some fun _ => true⟩

def ofParser {α : Type} (name : String) (parse : String → Option α) : Choice :=
  ⟨name, some fun v => (parse v).isSome⟩

end Choice

/-- The name and the value of an argument with an equals sign in it. -/
def splitValue (arg : String) : String × Option String :=
  let cs := arg.toList
  let name := String.ofList (cs.takeWhile (· ≠ '='))
  if '=' ∈ cs then (name, some (String.ofList ((cs.dropWhile (· ≠ '=')).drop 1))) else (name, none)

/-- Short options may be run together; the first of them counts. -/
def isShort (letter : Char) (arg : String) : Bool := ['-', letter].isPrefixOf arg.toList

def asksForHelp (arg : String) : Bool := arg = "--help" || isShort 'h' arg

def isValue (arg : String) : Bool := arg = "-" || arg.toList.head? ≠ some '-'

inductive OptionsError
  | help | misuse

/-- Options with their values; a flag has an empty one. An option that was given is no choice any
more. What comes first counts: help, or an argument that is not understood. Two hyphens may end the
list. -/
def readOptions (choices : List Choice) : List String → Except OptionsError (List (String × String))
  | [] => .ok []
  | ["--"] => .ok []
  | arg :: rest =>
    if asksForHelp arg then .error .help
    else
      let (name, value) := splitValue arg
      let others := choices.filter (·.name ≠ name)
      match choices.find? (·.name = name), value, rest with
      | some ⟨_, none⟩, none, rest => (readOptions others rest).map ((name, "") :: ·)
      | some ⟨_, some takes⟩, some v, rest =>
        if takes v then (readOptions others rest).map ((name, v) :: ·) else .error .misuse
      | some ⟨_, some takes⟩, none, v :: rest =>
        if isValue v && takes v then (readOptions others rest).map ((name, v) :: ·)
        else .error .misuse
      | _, _, _ => .error .misuse

abbrev Given := List (String × String)

def Given.value? (g : Given) (name : String) : Option String := g.lookup name

def Given.has (g : Given) (name : String) : Bool := (g.lookup name).isSome

/-- What an option stands for, or its default; nothing if its value is not understood. -/
def Given.parsed? {α : Type} (g : Given) (name : String) (parse : String → Option α)
    (default : α) : Option α :=
  match g.value? name with
  | some v => parse v
  | none => some default

/-- The options of a command by its name, and how the command is made from them. -/
def command? : String → Option (List Choice × (Given → Option Command))
  | "generate" => some ([.text "--file", .text "--out", .flag "--require-api-key",
      .flag "--strict"], fun g =>
      some (.generate (g.value? "--file") (g.value? "--out") (g.has "--require-api-key")
        (g.has "--strict")))
  | "single" => some ([.text "--path", .ofParser "--method" Method.ofText?, .text "--backend-uri",
      .flag "--api-key-required", .text "--out"], fun g => do
        let path ← g.value? "--path"
        let backendUri ← g.value? "--backend-uri"
        let method ← g.parsed? "--method" Method.ofText? .get
        return .single path method backendUri (g.has "--api-key-required") (g.value? "--out"))
  | "lint" => some ([.text "--file"], fun g => some (.lint (g.value? "--file")))
  | "tree" => some ([.text "--file", .ofParser "--format" TreeFormat.ofText?], fun g => do
      let format ← g.parsed? "--format" TreeFormat.ofText? .text
      return .tree (g.value? "--file") format)
  | "example" => some ([.text "--out"], fun g => some (.sample (g.value? "--out")))
  | _ => none

def readCommand (name : String) (args : List String) : Request :=
  match command? name with
  | none => .misuse
  | some (choices, make) =>
    match readOptions choices args with
    | .error .help => .help
    | .error .misuse => .misuse
    | .ok given => (make given).elim .misuse .run

/-- Help can be asked for by a command of its own, with the name of another one behind it. -/
def readHelp : List String → Request
  | [] => .help
  | [name] => if name = "help" ∨ (command? name).isSome then .help else .misuse
  | _ => .misuse

def Request.ofArguments : List String → Request
  | [] => .misuse
  | first :: rest =>
    if first = "--version" ∨ isShort 'V' first then .version
    else if asksForHelp first then .help
    else if first = "help" then readHelp rest
    else readCommand first rest

end ApiGateway.CommandLine
