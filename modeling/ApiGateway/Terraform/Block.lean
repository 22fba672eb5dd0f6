import ApiGateway.Method
import ApiGateway.Text.Join

/-! The three kinds of blocks of a gateway, and how they are written: a resource for every leading
part of a path, a method for a verb on a resource, and the integration that passes a method on to
its backend. -/

namespace ApiGateway.Terraform

inductive Block
  /-- `parent` is the name of another resource, or nothing below the root. -/
  | resource (name : String) (parent : Option String) (pathPart : String)
  | method (resource : String) (verb : Method) (apiKeyRequired : Bool)
  | integration (resource : String) (verb : Method) (uri : String)
  deriving DecidableEq

inductive Kind
  | resource | method | integration
  deriving DecidableEq

def Kind.text : Kind → String
  | resource => "aws_api_gateway_resource"
  | method => "aws_api_gateway_method"
  | integration => "aws_api_gateway_integration"

def methodName (resource : String) (m : Method) : String := resource ++ "_" ++ m.lower

def integrationName (resource : String) (m : Method) : String :=
  methodName resource m ++ "_integration"

def restApiId : String := "aws_api_gateway_rest_api.this.id"

def rootResourceId : String := "aws_api_gateway_rest_api.this.root_resource_id"

def reference (k : Kind) (name : String) : String := k.text ++ "." ++ name

def idOf (ref : String) : String := ref ++ ".id"

def listOf (ref : String) : String := "[" ++ ref ++ "]"

/-- Text between quotes, as it is. -/
def quote (s : String) : String := "\"" ++ s ++ "\""

/-- Lines `label = value` one below the other. Their labels are filled up to a common width, unless
one is longer. -/
structure Group where
  width : Nat
  attributes : List (String × String)

namespace Group

def line (width : Nat) (label value : String) : String :=
  "  " ++ label ++ String.ofList (List.replicate (width - label.length) ' ') ++ " = " ++ value

def lines (g : Group) : List String :=
  g.attributes.map fun (label, value) => line g.width label value

end Group

namespace Block

def kind : Block → Kind
  | resource .. => .resource
  | method .. => .method
  | integration .. => .integration

def name : Block → String
  | resource name _ _ => name
  | method res m _ => methodName res m
  | integration res m _ => integrationName res m

def groups : Block → List Group
  | resource _ parent pathPart =>
    let ref := parent.map (reference .resource)
    [⟨11, [("rest_api_id", restApiId), ("parent_id", ref.elim rootResourceId idOf),
      ("path_part", quote pathPart)] ++ (ref.map fun r => ("depends_on", listOf r)).toList⟩]
  | method res m apiKeyRequired =>
    let ref := reference .resource res
    [⟨13, [("rest_api_id", restApiId), ("resource_id", idOf ref), ("http_method", quote m.verb),
      ("authorization", quote "NONE"),
      ("api_key_required", if apiKeyRequired then "true" else "false"),
      ("depends_on", listOf ref)]⟩]
  | integration res m uri =>
    let ref := reference .method (methodName res m)
    [⟨11, [("rest_api_id", restApiId), ("resource_id", idOf (reference .resource res)),
      ("http_method", ref ++ ".http_method")]⟩,
      ⟨23, [("integration_http_method", quote m.verb), ("type", quote "HTTP_PROXY"),
        ("uri", quote uri), ("depends_on", listOf ref)]⟩]

/-- How other blocks speak of this one. -/
def address (b : Block) : String := reference b.kind b.name

def attributes (b : Block) : List (String × String) := b.groups.flatMap Group.attributes

/-- The value that a block gives to an attribute, if it has it. -/
def attribute? (label : String) (b : Block) : Option String := b.attributes.lookup label

/-- The block line by line, with an empty line between groups and behind the whole. -/
def lines (b : Block) : List String :=
  ["resource " ++ quote b.kind.text ++ " " ++ quote b.name ++ " \x7b"] ++
    [""].intercalate (b.groups.map Group.lines) ++ ["\x7d", "", ""]

def render (b : Block) : String := Text.joinWith "\n" b.lines

end Block

def render (bs : List Block) : String := Text.joinWith "" (bs.map Block.render)

end ApiGateway.Terraform
