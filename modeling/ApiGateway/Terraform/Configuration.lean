import ApiGateway.Terraform.Emission

/-! The whole configuration for a list of endpoints: resources for all leading parts of the paths,
then a method and then an integration for every endpoint. It is generated whole or not at all. -/

namespace ApiGateway.Terraform

def methodBlock (e : Endpoint) : Except EmptyPath Block :=
  (Path.segments e.path).map fun ss => .method (Path.resourceName ss) e.method e.apiKeyRequired

def integrationBlock (e : Endpoint) : Except EmptyPath Block :=
  (Path.segments e.path).map fun ss => .integration (Path.resourceName ss) e.method e.backendUri

def methodBlocks (es : List Endpoint) : Except EmptyPath (List Block) := es.mapM methodBlock

def integrationBlocks (es : List Endpoint) : Except EmptyPath (List Block) :=
  es.mapM integrationBlock

def blocks (es : List Endpoint) : Except EmissionError (List Block) := do
  let tree ← (ResourceTree.build es).mapError .emptyPath
  let (resources, _) ← emit tree ∅
  let methods ← (methodBlocks es).mapError .emptyPath
  let integrations ← (integrationBlocks es).mapError .emptyPath
  return resources ++ methods ++ integrations

def header : String := "# AWS API Gateway Resources\n\n"

def generate (es : List Endpoint) : Except GenerationError String :=
  match blocks es with
  | .ok bs => .ok (header ++ render bs)
  | .error e => .error ⟨e⟩

/-- The configuration for one route that asks for no API key. -/
def generateSingle (path : String) (m : Method) (backendUri : String) :
    Except GenerationError String :=
  generate [⟨path, m, backendUri, false⟩]

end ApiGateway.Terraform
