import ApiGateway.Decimal
import ApiGateway.Text.Quoted

/-! Data without a schema, as JSON and TOML texts hold it. A record lists its fields in the order in
which they were written. -/

namespace ApiGateway

inductive Value
  | null
  | boolean (b : Bool)
  | integer (n : Int)
  | real (d : Decimal)
  | text (s : String)
  /-- A date, a time or both, as written. -/
  | moment (s : String)
  | list (xs : List Value)
  | record (fields : List (String × Value))

namespace Value

def field? (name : String) : Value → Option Value
  | record fields => fields.lookup name
  | _ => none

/-- How a message names a value that stands in the wrong place. -/
def kind : Value → String
  | null => "null"
  | boolean b => "boolean `" ++ (if b then "true" else "false") ++ "`"
  | integer n => "integer `" ++ toString n ++ "`"
  | real d => "floating point `" ++ d.text ++ "`"
  | text s => "string " ++ Text.quoted s
  | list _ => "sequence"
  | record _ | moment _ => "map"

end Value
end ApiGateway
