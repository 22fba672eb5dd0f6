import ApiGateway.Endpoint.Basic

/-! Rows and endpoints read out of values. Both are records of the same four fields, or lists of
them in that order; unknown fields are passed over. The first field at fault is reported, and a
missing one only when all that are there have been read. -/

namespace ApiGateway

/-- What can be expected of a value. -/
inductive Shape
  | text | boolean | sequence | endpoint | row | file
  deriving DecidableEq

def Shape.words : Shape → String
  | text => "a string"
  | boolean => "a boolean"
  | sequence => "a sequence"
  | endpoint => "struct EndpointDescriptor"
  | row => "struct EndpointRow"
  | file => "struct EndpointsFile"

inductive DecodeError
  | wrongKind (found : Value) (expected : Shape)
  | unknownMethod (text : String)
  | missingField (name : String)
  | tooFewElements (count : Nat)
  | tooManyElements (count : Nat)

namespace DecodeError

def message : DecodeError → String
  | wrongKind found expected => "invalid type: " ++ found.kind ++ ", expected " ++ expected.words
  | unknownMethod text => "unsupported HTTP method " ++ text
  | missingField name => "missing field `" ++ name ++ "`"
  | tooFewElements n =>
    "invalid length " ++ toString n ++ ", expected " ++ Shape.endpoint.words ++ " with 4 elements"
  | tooManyElements n => "invalid length " ++ toString n ++ ", expected fewer elements in array"

end DecodeError

/-- Where data formats differ in how records and lists are read. -/
structure DataFormat where
  /-- Fields are visited in the order of their names, not as written. -/
  byName : Bool
  /-- A list that stands for a record may not be longer than the record. -/
  exactLength : Bool

def DataFormat.json : DataFormat := ⟨true, true⟩

def DataFormat.toml : DataFormat := ⟨false, false⟩

def DataFormat.visit (f : DataFormat) (fields : List (String × Value)) : List (String × Value) :=
  if f.byName then fields.mergeSort fun a b => a.1 ≤ b.1 else fields

def Value.asText : Value → Except DecodeError String
  | .text s => .ok s
  | v => .error (.wrongKind v .text)

def Value.asBoolean : Value → Except DecodeError Bool
  | .boolean b => .ok b
  | v => .error (.wrongKind v .boolean)

def Value.asList : Value → Except DecodeError (List Value)
  | .list xs => .ok xs
  | v => .error (.wrongKind v .sequence)

def Value.asMethod (v : Value) : Except DecodeError Method := do
  let s ← v.asText
  match Method.ofText? s with
  | some m => .ok m
  | none => .error (.unknownMethod s)

structure RowDraft where
  path : Option String := none
  method : Option Method := none
  backendUri : Option String := none
  apiKeyRequired : Option Bool := none

namespace RowDraft

def read (p : RowDraft) (field : String × Value) : Except DecodeError RowDraft :=
  match field.1 with
  | "path" => return { p with path := some (← field.2.asText) }
  | "method" => return { p with method := some (← field.2.asMethod) }
  | "backend_uri" => return { p with backendUri := some (← field.2.asText) }
  | "api_key_required" => return { p with apiKeyRequired := some (← field.2.asBoolean) }
  | _ => return p

def readAll (fields : List (String × Value)) : Except DecodeError RowDraft :=
  fields.foldlM read {}

def row (p : RowDraft) : Row :=
  { path := p.path.getD "", method := p.method.getD .get, backendUri := p.backendUri.getD "",
    apiKeyRequired := p.apiKeyRequired.getD false }

/-- An endpoint has no default but for the API key; else the first missing field is named. -/
def endpoint (p : RowDraft) : Except String Endpoint :=
  match p.path, p.method, p.backendUri with
  | some path, some method, some uri => .ok ⟨path, method, uri, p.apiKeyRequired.getD false⟩
  | none, _, _ => .error "path"
  | _, none, _ => .error "method"
  | _, _, none => .error "backend_uri"

end RowDraft

def DataFormat.checkLength (f : DataFormat) (limit : Nat) (xs : List Value) :
    Except DecodeError Unit :=
  if f.exactLength ∧ limit < xs.length then .error (.tooManyElements xs.length) else .ok ()

/-- A moment counts as a record without any of the fields. -/
def Row.ofValue (f : DataFormat) : Value → Except DecodeError Row
  | .record fields => return (← RowDraft.readAll (f.visit fields)).row
  | .moment _ => return {}
  | .list xs => do
    let p ← RowDraft.readAll (Row.fieldNames.zip xs)
    f.checkLength Row.fieldNames.length xs
    return p.row
  | v => .error (.wrongKind v .row)

def Endpoint.ofValue (f : DataFormat) : Value → Except DecodeError Endpoint
  | .record fields => do
    let p ← RowDraft.readAll (f.visit fields)
    p.endpoint.mapError .missingField
  | .moment _ => .error (.missingField "path")
  | .list xs => do
    let p ← RowDraft.readAll (Row.fieldNames.zip xs)
    let e ← p.endpoint.mapError fun _ => .tooFewElements xs.length
    f.checkLength Row.fieldNames.length xs
    return e
  | v => .error (.wrongKind v .endpoint)

def Row.listOfValue (f : DataFormat) (v : Value) : Except DecodeError (List Row) := do
  (← v.asList).mapM (Row.ofValue f)

def Endpoint.listOfValue (f : DataFormat) (v : Value) : Except DecodeError (List Endpoint) := do
  (← v.asList).mapM (Endpoint.ofValue f)

/-- The rows of an endpoints file: its one field, which may be left out. -/
def Row.fileOfValue (f : DataFormat) : Value → Except DecodeError (List Row)
  | .record fields =>
    match fields.lookup "endpoints" with
    | some v => Row.listOfValue f v
    | none => return []
  | .moment _ => return []
  | .list [] => return []
  | .list (v :: vs) => do
    let rows ← Row.listOfValue f v
    f.checkLength 1 (v :: vs)
    return rows
  | v => .error (.wrongKind v .file)

def Row.fileToValue (rows : List Row) : Value :=
  .record [("endpoints", .list (rows.map Row.toValue))]

end ApiGateway
