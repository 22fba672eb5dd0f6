import ApiGateway.Value

/-! Tables of a TOML document while it is read. Dotted keys and headers may name tables that are not
there yet; how a table came to be decides what may still be added to it. -/

namespace ApiGateway.Toml

inductive Origin
  /-- Named by a header of its own: complete with its section. -/
  | header
  /-- Named on the way to another header: may still get a header. -/
  | implied
  /-- Named on the way of a dotted key: open to dotted keys alone. -/
  | dotted
  deriving DecidableEq

inductive Node
  | value (v : Value)
  | table (origin : Origin) (entries : List (String × Node))
  /-- An array of tables; the last of them is the one that headers go on with. -/
  | rows (tables : List (List (String × Node)))

abbrev Entries := List (String × Node)

namespace Entries

/-- Puts a node in the place of the one with its key, or behind all others. -/
def put (key : String) (node : Node) : Entries → Entries
  | [] => [(key, node)]
  | (k, n) :: rest => if k = key then (key, node) :: rest else (k, n) :: put key node rest

def remove (key : String) (es : Entries) : Entries := es.filter (·.1 ≠ key)

/-- Gives a new key its value. The parts before the last lead through tables that dotted keys made;
tables of headers may only be passed when they are implied, and not as the last one. -/
def assign : List String → String → Value → Entries → Option Entries
  | [], key, v, es => if (es.lookup key).isSome then none else some (put key (.value v) es)
  | p :: ps, key, v, es =>
    match es.lookup p with
    | none => (assign ps key v []).map fun sub => put p (.table .dotted sub) es
    | some (.table .dotted sub) =>
      (assign ps key v sub).map fun sub => put p (.table .dotted sub) es
    | some (.table .implied sub) =>
      if ps = [] then none
      else (assign ps key v sub).map fun sub => put p (.table .implied sub) es
    | some (.rows tables) =>
      match ps, tables.getLast? with
      | _ :: _, some last =>
        (assign ps key v last).map fun sub => put p (.rows (tables.dropLast ++ [sub])) es
      | _, _ => none
    | some (.table .header _) | some (.value _) => none

def assignAll (es : Entries) (body : List (List String × Value)) : Option Entries :=
  body.foldlM (fun es (key, v) => assign key.dropLast (key.getLastD "") v es) es

/-- Changes the table to which a header leads. -/
def alter (f : Entries → Option Entries) : List String → Entries → Option Entries
  | [], es => f es
  | p :: ps, es =>
    match es.lookup p with
    | none => (alter f ps []).map fun sub => put p (.table .implied sub) es
    | some (.table origin sub) => (alter f ps sub).map fun sub => put p (.table origin sub) es
    | some (.rows tables) =>
      match tables.getLast? with
      | some last => (alter f ps last).map fun sub => put p (.rows (tables.dropLast ++ [sub])) es
      | none => none
    | some (.value _) => none

/-- The section of a table: new, or so far implied. -/
def addTable (key : List String) (body : List (List String × Value)) (es : Entries) :
    Option Entries :=
  let name := key.getLastD ""
  alter (fun parent =>
    match parent.lookup name with
    | none => (assignAll [] body).map fun sub => put name (.table .header sub) parent
    | some (.table .implied sub) =>
      (assignAll sub body).map fun sub => put name (.table .header sub) (remove name parent)
    | some _ => none) key.dropLast es

/-- The section of one more row in an array of tables. -/
def addRow (key : List String) (body : List (List String × Value)) (es : Entries) :
    Option Entries :=
  let name := key.getLastD ""
  alter (fun parent =>
    match parent.lookup name with
    | none => (assignAll [] body).map fun row => put name (.rows [row]) parent
    | some (.rows tables) =>
      (assignAll [] body).map fun row => put name (.rows (tables ++ [row])) parent
    | some _ => none) key.dropLast es

end Entries

mutual

def Node.toValue : Node → Value
  | .value v => v
  | .table _ entries => .record (Node.fields entries)
  | .rows tables => .list (Node.records tables)

def Node.fields : List (String × Node) → List (String × Value)
  | [] => []
  | (k, n) :: rest => (k, n.toValue) :: Node.fields rest

def Node.records : List (List (String × Node)) → List Value
  | [] => []
  | t :: rest => .record (Node.fields t) :: Node.records rest

end

def Entries.toValue (es : Entries) : Value := .record (Node.fields es)

end ApiGateway.Toml
