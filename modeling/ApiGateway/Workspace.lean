import ApiGateway.Endpoint.File
import ApiGateway.Endpoint.Sample
import ApiGateway.Lint
import ApiGateway.ResourceTree.Json

/-! Working step by step: a list of endpoints, a tree, a copy of a tree, and the names emitted so
far, which outlive the tree. A step that fails changes nothing. -/

namespace ApiGateway

structure Workspace where
  endpoints : List Endpoint
  tree : ResourceTree
  saved : ResourceTree
  emitted : Terraform.Emitted

namespace Workspace

def empty : Workspace := ⟨[], .empty, .empty, ∅⟩

inductive Step
  | insert (ss : Segments)
  | insertPath (path : String)
  | build
  | newTree
  | save
  | mark (name : String)
  | newNames
  | emit
  | set (es : List Endpoint)
  | add (e : Endpoint)
  | load (file : String) (text : Option String)
  | validate (rows : List Row)
  | sample
  | overrideApiKey (required : Bool)
  | reverse

inductive Failure
  | emptyPath (e : EmptyPath)
  | emission (e : Terraform.EmissionError)
  | load (e : LoadError)
  | rows (e : RowsError)

/-- The workspace after a step, and the text of the blocks that the step emitted. -/
def step (w : Workspace) : Step → Except Failure (Workspace × String)
  | .insert ss => .ok ({ w with tree := w.tree.insert ss }, "")
  | .insertPath path => do
    let t ← (w.tree.insertPath path).mapError .emptyPath
    return ({ w with tree := t }, "")
  | .build => do
    let t ← (ResourceTree.build w.endpoints).mapError .emptyPath
    return ({ w with tree := t }, "")
  | .newTree => .ok ({ w with tree := .empty }, "")
  | .save => .ok ({ w with saved := w.tree }, "")
  | .mark name => .ok ({ w with emitted := w.emitted.insert name }, "")
  | .newNames => .ok ({ w with emitted := ∅ }, "")
  | .emit => do
    let (blocks, known) ← (Terraform.emit w.tree w.emitted).mapError .emission
    return ({ w with emitted := known }, Terraform.render blocks)
  | .set es => .ok ({ w with endpoints := es }, "")
  | .add e => .ok ({ w with endpoints := w.endpoints ++ [e] }, "")
  | .load file text => do
    let es ← (Endpoint.load file text).mapError .load
    return ({ w with endpoints := es }, "")
  | .validate rows => do
    let es ← (Row.validate rows).mapError .rows
    return ({ w with endpoints := es }, "")
  | .sample => .ok ({ w with endpoints := Endpoint.sample }, "")
  | .overrideApiKey required =>
    .ok ({ w with endpoints := Endpoint.overrideApiKey required w.endpoints }, "")
  | .reverse => .ok ({ w with endpoints := w.endpoints.reverse }, "")

end Workspace
end ApiGateway
