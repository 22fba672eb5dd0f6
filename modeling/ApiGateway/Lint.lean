import ApiGateway.Terraform.Configuration

/-! What generation would lose or say twice without a word: paths without segments, different paths
that share a resource name, and endpoints that define the same method. -/

namespace ApiGateway.Lint

inductive Problem
  | emptyPath (position : Nat) (error : EmptyPath)
  | sharedName (paths : List String) (name : String)
  | sharedMethod (positions : List Nat) (name : String)
  deriving DecidableEq

def Problem.message : Problem → String
  | emptyPath position error => "Endpoint " ++ toString position ++ ": " ++ error.message
  | sharedName paths name =>
    "Paths " ++ Text.joinWith ", " paths ++ " all map to resource name " ++ name
  | sharedMethod positions name =>
    "Endpoints " ++ Text.joinWith ", " (positions.map toString) ++ " all define method " ++ name

/-- The members of a list that share a key, for every key that at least two of them have. -/
def shared {α : Type} (key : α → String) (xs : List α) : List (String × List α) :=
  let keys := (Std.ExtTreeSet.ofList (xs.map key)).toList
  (keys.map fun k => (k, xs.filter (key · = k))).filter (1 < ·.2.length)

def numbered (es : List Endpoint) : List (Endpoint × Nat) := es.zipIdx 1

def emptyPaths (es : List Endpoint) : List Problem :=
  (numbered es).filterMap fun (e, i) =>
    match Path.segments e.path with
    | .ok _ => none
    | .error error => some (.emptyPath i error)

/-- The segments of every path that has some, with the verb and the position of the endpoint. -/
def routes (es : List Endpoint) : List (Segments × Method × Nat) :=
  (numbered es).filterMap fun (e, i) =>
    match Path.segments e.path with
    | .ok ss => some (ss, e.method, i)
    | .error _ => none

def tree (es : List Endpoint) : ResourceTree :=
  (routes es).foldl (fun t r => t.insert r.1) .empty

def sharedNames (es : List Endpoint) : List Problem :=
  (shared ResourceTree.Node.name (tree es).toList).map fun (name, nodes) =>
    .sharedName (nodes.map ResourceTree.Node.path) name

def sharedMethods (es : List Endpoint) : List Problem :=
  let methodOf (r : Segments × Method × Nat) : String :=
    Terraform.methodName (Path.resourceName r.1) r.2.1
  (shared methodOf (routes es)).map fun (name, rs) => .sharedMethod (rs.map (·.2.2)) name

def problems (es : List Endpoint) : List Problem :=
  emptyPaths es ++ sharedNames es ++ sharedMethods es

end ApiGateway.Lint
