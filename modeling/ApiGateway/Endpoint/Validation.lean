import ApiGateway.Endpoint.Basic
import ApiGateway.Text.Blank
import ApiGateway.Uri.Absolute

/-! From rows to endpoints. Rows without a path or a backend are passed over; of the others, every
backend has to be an absolute URI. -/

namespace ApiGateway

inductive RowsError
  | noUsableRow
  /-- The first bad URI, counted from one among the rows that are not passed over. -/
  | badBackendUri (position : Nat)
  deriving DecidableEq

def RowsError.message : RowsError → String
  | noUsableRow =>
    "Please add at least one valid endpoint with both endpoint path and backend URI"
  | badBackendUri n => "Endpoint " ++ toString n ++
    ": Please enter a valid backend URI (e.g., https://api.example.com/path)"

namespace Row

def isUsable (r : Row) : Bool := Text.trim r.path ≠ "" && Text.trim r.backendUri ≠ ""

/-- The row without the white space around its path and backend. -/
def endpoint (r : Row) : Endpoint :=
  ⟨Text.trim r.path, r.method, Text.trim r.backendUri, r.apiKeyRequired⟩

def usable (rows : List Row) : List Endpoint := (rows.filter isUsable).map endpoint

def validate (rows : List Row) : Except RowsError (List Endpoint) :=
  let es := usable rows
  if es = [] then .error .noUsableRow
  else
    match es.findIdx? fun e => !Uri.isAbsolute e.backendUri with
    | some i => .error (.badBackendUri (i + 1))
    | none => .ok es

end Row
end ApiGateway
