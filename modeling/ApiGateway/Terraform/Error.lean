import ApiGateway.Path
import ApiGateway.Text.Quoted

/-! Why no configuration can be generated. -/

namespace ApiGateway

def EmptyPath.message (e : EmptyPath) : String :=
  "Endpoint must contain at least one path segment (got " ++ Text.quoted e.path ++ ")"

namespace Terraform

inductive EmissionError
  | emptyPath (e : EmptyPath)
  | missingParent (path parent : String)
  deriving DecidableEq

def EmissionError.message : EmissionError → String
  | emptyPath e => e.message
  | missingParent path parent =>
    "resource " ++ path ++ " references parent " ++ parent ++ " which is not in the resource tree"

/-- The one error of a generation, whatever ended it. -/
structure GenerationError where
  cause : EmissionError
  deriving DecidableEq

namespace GenerationError

def message (e : GenerationError) : String :=
  "Failed to generate Terraform configuration: " ++ e.cause.message

def emptyPath? (e : GenerationError) : Option EmptyPath :=
  match e.cause with
  | .emptyPath p => some p
  | .missingParent _ _ => none

end GenerationError
end Terraform
end ApiGateway
