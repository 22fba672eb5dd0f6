import ApiGateway.ResourceTree.Listing
import ApiGateway.Terraform.Block
import ApiGateway.Terraform.Error

/-! The resource blocks of a tree. Names that have been emitted before are skipped, so that no
name is declared twice even when several nodes share it. -/

namespace ApiGateway.Terraform

abbrev Emitted := Std.ExtTreeSet String

def parentName (t : ResourceTree) (n : ResourceTree.Node) : Except EmissionError (Option String) :=
  match n.parent with
  | .root => .ok none
  | .path key =>
    match t.get? key with
    | some p => .ok (some p.name)
    | none => .error (.missingParent n.path key)

/-- Blocks for those of the nodes whose names are new, and all names known afterwards. -/
def emitNodes (t : ResourceTree) :
    Emitted → List ResourceTree.Node → Except EmissionError (List Block × Emitted)
  | known, [] => .ok ([], known)
  | known, n :: ns =>
    if n.name ∈ known then emitNodes t known ns
    else do
      let parent ← parentName t n
      let (blocks, known) ← emitNodes t (known.insert n.name) ns
      return (.resource n.name parent n.lastSegment :: blocks, known)

def emit (t : ResourceTree) (known : Emitted) : Except EmissionError (List Block × Emitted) :=
  emitNodes t known t.byDepth

end ApiGateway.Terraform
