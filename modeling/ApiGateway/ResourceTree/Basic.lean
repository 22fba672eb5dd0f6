import ApiGateway.Endpoint.Basic
import ApiGateway.Path
import Std.Data.ExtTreeMap
import Std.Data.ExtTreeSet

/-! The tree of all leading parts of a set of paths, each part once. A node is found under the key
of its segments, keeps what they say of it, and holds the keys of its children. Segments with a
slash in them can make two lists of segments share a key; then the node of the first one stands for
both. -/

namespace ApiGateway

abbrev Keys := Std.ExtTreeSet String

/-- What a resource hangs on. -/
inductive Parent
  | root
  | path (key : String)
  deriving DecidableEq

def Parent.ofSegments (ss : Segments) : Parent :=
  if ss.length ≤ 1 then root else path (Path.key ss.dropLast)

namespace ResourceTree

@[ext]
structure Node where
  segments : Segments
  lastSegment : String
  parent : Parent
  name : String
  children : Keys
  deriving DecidableEq

namespace Node

/-- A node for these segments with nothing below it. -/
def ofSegments (ss : Segments) : Node where
  segments := ss
  lastSegment := ss.getLastD ""
  parent := .ofSegments ss
  name := Path.resourceName ss
  children := ∅

def depth (n : Node) : Nat := n.segments.length

def path (n : Node) : String := Path.key n.segments

def addChild (key : String) (n : Node) : Node := { n with children := n.children.insert key }

end Node
end ResourceTree

structure ResourceTree where
  nodes : Std.ExtTreeMap String ResourceTree.Node
  roots : Keys
  deriving DecidableEq

namespace ResourceTree

def empty : ResourceTree := ⟨∅, ∅⟩

def size (t : ResourceTree) : Nat := t.nodes.size

def get? (t : ResourceTree) (key : String) : Option Node := t.nodes[key]?

/-- All nodes, in the order of their keys. -/
def toList (t : ResourceTree) : List Node := t.nodes.toList.map (·.2)

/-- Makes sure of a node for these segments, and of its place under its parent. -/
def grow (t : ResourceTree) (ss : Segments) : ResourceTree :=
  let key := Path.key ss
  let nodes := t.nodes.insertIfNew key (.ofSegments ss)
  match Parent.ofSegments ss with
  | .root => ⟨nodes, t.roots.insert key⟩
  | .path parent => ⟨nodes.modify parent (Node.addChild key), t.roots⟩

def insert (t : ResourceTree) (ss : Segments) : ResourceTree :=
  (Path.ancestry ss).foldl grow t

def insertPath (t : ResourceTree) (path : String) : Except EmptyPath ResourceTree :=
  (Path.segments path).map t.insert

def build (es : List Endpoint) : Except EmptyPath ResourceTree :=
  es.foldlM (fun t e => t.insertPath e.path) empty

end ResourceTree
end ApiGateway
