import ApiGateway.Method
import ApiGateway.Value

/-! Endpoints, and the rows of an endpoints file that they are made from. -/

namespace ApiGateway

/-- One route: where it is reached, by which verb, and the backend that answers it. -/
structure Endpoint where
  path : String
  method : Method
  backendUri : String
  apiKeyRequired : Bool := false
  deriving DecidableEq

/-- What a file says about a route. Whatever it leaves out has a default. -/
structure Row where
  path : String := ""
  method : Method := .get
  backendUri : String := ""
  apiKeyRequired : Bool := false
  deriving DecidableEq

namespace Endpoint

def row (e : Endpoint) : Row := ⟨e.path, e.method, e.backendUri, e.apiKeyRequired⟩

def withApiKey (required : Bool) (e : Endpoint) : Endpoint := { e with apiKeyRequired := required }

def overrideApiKey (required : Bool) (es : List Endpoint) : List Endpoint :=
  es.map (withApiKey required)

end Endpoint

namespace Row

def fieldNames : List String := ["path", "method", "backend_uri", "api_key_required"]

def toValue (r : Row) : Value :=
  .record [("path", .text r.path), ("method", .text r.method.verb),
    ("backend_uri", .text r.backendUri), ("api_key_required", .boolean r.apiKeyRequired)]

end Row

def Endpoint.toValue (e : Endpoint) : Value := e.row.toValue

end ApiGateway
