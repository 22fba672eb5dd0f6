import ApiGateway.ResourceTree.Basic

/-! The nodes of a tree in two orders: shallow ones first, as blocks have to be written, and each
under its parent, as an indented listing shows them. -/

namespace ApiGateway.ResourceTree

/-- By depth, then by name, then by segments. -/
def Node.order (a b : Node) : Ordering :=
  (compare a.depth b.depth).then ((compare a.name b.name).then (compare a.segments b.segments))

def byDepth (t : ResourceTree) : List Node :=
  t.toList.mergeSort fun a b => (a.order b).isLE

def Node.line (level : Nat) (n : Node) : String :=
  Text.joinWith "" (List.replicate level "  ") ++ n.lastSegment ++ " (" ++ n.name ++ ")\n"

/-- The listing of a node and all below it. The key of a child is longer than its own, so a way
down meets every node of the tree once at most. -/
def listingFrom (t : ResourceTree) : Nat → Nat → String → String
  | 0, _, _ => ""
  | fuel + 1, level, key =>
    match t.get? key with
    | none => ""
    | some n =>
      n.line level ++ Text.joinWith "" (n.children.toList.map (listingFrom t fuel (level + 1)))

def listing (t : ResourceTree) : String :=
  Text.joinWith "" (t.roots.toList.map (listingFrom t t.size 0))

end ApiGateway.ResourceTree
