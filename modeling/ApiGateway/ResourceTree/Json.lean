import ApiGateway.Json.Printer
import ApiGateway.ResourceTree.Basic

/-! A resource tree as JSON, with nothing left out. -/

namespace ApiGateway

def Parent.toValue : Parent → Value
  | root => .record [("kind", .text "root")]
  | path key => .record [("kind", .text "path"), ("path", .text key)]

namespace ResourceTree

def textList (ss : List String) : Value := .list (ss.map .text)

def Node.toValue (n : Node) : Value :=
  .record [("segments", textList n.segments), ("last_segment", .text n.lastSegment),
    ("parent", n.parent.toValue), ("identifier", .text n.name),
    ("children", textList n.children.toList)]

def toValue (t : ResourceTree) : Value :=
  .record [("nodes", .record (t.nodes.toList.map fun (key, n) => (key, n.toValue))),
    ("root_children", textList t.roots.toList)]

def toJson (t : ResourceTree) : String := Json.pretty t.toValue

end ResourceTree
end ApiGateway
