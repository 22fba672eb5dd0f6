import ApiGateway.Endpoint.Basic
import ApiGateway.Text.Join
import ApiGateway.Toml.Printer

/-! A sample of endpoints, with paths that share their first segments and two verbs on one path, and
the endpoints file that lists them. -/

namespace ApiGateway

def Endpoint.sample : List Endpoint :=
  let person (rest : String) (method : Method) : Endpoint :=
    let path := "/person/users/api/" ++ rest
    ⟨path, method, "https://personapi.api.com" ++ path, true⟩
  let orders (rest : String) (method : Method) : Endpoint :=
    let path := "/orders/api/" ++ rest
    ⟨path, method, "https://orderapi.api.com" ++ path, false⟩
  [person "auth" .post, person "profile" .get, person "profile" .put,
    orders "create" .post, orders "status" .get]

def Row.toToml (r : Row) : String :=
  Text.joinWith "\n"
    ["[[endpoints]]",
      "path = " ++ Toml.basicString r.path,
      "method = " ++ Toml.basicString r.method.verb,
      "backend_uri = " ++ Toml.basicString r.backendUri,
      "api_key_required = " ++ (if r.apiKeyRequired then "true" else "false"),
      ""]

def Row.fileToToml (rows : List Row) : String := Text.joinWith "\n" (rows.map Row.toToml)

end ApiGateway
