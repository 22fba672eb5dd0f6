import ApiGateway.Toml.Statement

/-! TOML documents: statements gathered into sections, and the record that the sections make up. A
text is read as a whole or not at all. -/

namespace ApiGateway.Toml

/-- A header with the assignments up to the next one. -/
structure Section where
  isRow : Bool
  key : List String
  body : List (List String × Value)

/-- The assignments before the first header, and the sections. -/
def gather : List Statement → List (List String × Value) × List Section
  | [] => ([], [])
  | .assignment key v :: rest =>
    let (body, sections) := gather rest
    ((key, v) :: body, sections)
  | .table key :: rest =>
    let (body, sections) := gather rest
    ([], ⟨false, key, body⟩ :: sections)
  | .row key :: rest =>
    let (body, sections) := gather rest
    ([], ⟨true, key, body⟩ :: sections)

def Section.add (es : Entries) (s : Section) : Option Entries :=
  if s.isRow then es.addRow s.key s.body else es.addTable s.key s.body

def build (statements : List Statement) : Option Entries := do
  let (body, sections) := gather statements
  let root ← Entries.assignAll [] body
  sections.foldlM Section.add root

/-- One byte order mark may come first. -/
def parse (text : String) : Option Value :=
  let cs := match text.toList with
    | '\ufeff' :: rest => rest
    | cs => cs
  ((readStatements (cs.length + 1) cs).bind build).map Entries.toValue

end ApiGateway.Toml
