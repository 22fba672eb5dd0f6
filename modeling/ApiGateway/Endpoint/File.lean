import ApiGateway.Endpoint.Decoding
import ApiGateway.Endpoint.Validation
import ApiGateway.Toml.Document

/-! Endpoints files: TOML text with a list of rows. -/

namespace ApiGateway

inductive LoadError
  /-- The file is not there, or it holds no text. -/
  | unreadable (file : String)
  /-- The text is no TOML, or not of this form; an unknown verb is given as the cause. -/
  | malformed (file : String) (cause : Option String)
  | rows (error : RowsError)

namespace LoadError

/-- The outermost message. Why the file cannot be read, and where its text goes wrong, stand behind
it as causes. -/
def message : LoadError → String
  | unreadable file => "failed to read endpoints file " ++ file
  | malformed file _ => "failed to parse endpoints file " ++ file
  | rows error => error.message

/-- The cause behind the message, where it is a verb that is not known. Other causes are worded by
the reader of the file and not told. -/
def cause : LoadError → Option String
  | malformed _ cause => cause
  | _ => none

end LoadError

def Row.ofToml (file text : String) : Except LoadError (List Row) :=
  match Toml.parse text with
  | none => .error (.malformed file none)
  | some v =>
    match Row.fileOfValue .toml v with
    | .ok rows => .ok rows
    | .error (.unknownMethod s) =>
      .error (.malformed file (some (DecodeError.unknownMethod s).message))
    | .error _ => .error (.malformed file none)

/-- The endpoints of a file, given its name and what it was found to hold. -/
def Endpoint.load (file : String) (text : Option String) : Except LoadError (List Endpoint) := do
  match text with
  | none => .error (.unreadable file)
  | some text =>
    let rows ← Row.ofToml file text
    (Row.validate rows).mapError .rows

end ApiGateway
