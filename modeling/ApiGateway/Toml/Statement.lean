import ApiGateway.Toml.Lexeme
import ApiGateway.Toml.Moment
import ApiGateway.Toml.Numeral
import ApiGateway.Toml.Table

/-! The statements of a TOML text, one a line: headers and keys with their values. Arrays and inline
tables are nested less than eighty deep, and keys have fewer than eighty parts. -/

namespace ApiGateway.Toml

def maxDepth : Nat := 79

/-- The items of an array, up to its closing bracket; a comma may stand behind the last. Every item
takes a character, so their number is bounded by `fuel`, the length of the text. -/
def readItems (item : List Char → Option (Value × List Char)) :
    Nat → List Char → Option (List Value × List Char)
  | 0, _ => none
  | fuel + 1, cs =>
    match skipLines false cs with
    | ']' :: rest => some ([], rest)
    | cs =>
      match item cs with
      | none => none
      | some (x, rest) =>
        match skipLines false rest with
        | ',' :: rest => (readItems item fuel rest).map fun (xs, rest) => (x :: xs, rest)
        | ']' :: rest => some ([x], rest)
        | _ => none

def readAssignment (item : List Char → Option (Value × List Char)) (cs : List Char) :
    Option ((List String × Value) × List Char) :=
  match readKey maxDepth cs with
  | some (key, '=' :: rest) => (item (skipGaps rest)).map fun (v, rest) => ((key, v), rest)
  | _ => none

/-- The fields of an inline table, up to its closing brace; no comma stands behind the last. -/
def readInlineFields (item : List Char → Option (Value × List Char)) :
    Nat → List Char → Option (List (List String × Value) × List Char)
  | 0, _ => none
  | fuel + 1, cs =>
    match readAssignment item cs with
    | none => none
    | some (field, rest) =>
      match skipGaps rest with
      | ',' :: rest =>
        (readInlineFields item fuel rest).map fun (fields, rest) => (field :: fields, rest)
      | '\x7d' :: rest => some ([field], rest)
      | _ => none

def readInlineTable (item : List Char → Option (Value × List Char)) (cs : List Char) :
    Option (Value × List Char) :=
  match skipGaps cs with
  | '\x7d' :: rest => some (.record [], rest)
  | cs =>
    match readInlineFields item cs.length cs with
    | none => none
    | some (fields, rest) => (Entries.assignAll [] fields).map fun es => (es.toValue, rest)

def readWord (word : String) (v : Value) (cs : List Char) : Option (Value × List Char) :=
  if word.toList.isPrefixOf cs then some (v, cs.drop word.length) else none

def readScalar (cs : List Char) : Option (Value × List Char) :=
  match cs with
  | '"' :: _ | '\x27' :: _ => (readString cs).map fun (s, rest) => (.text s, rest)
  | 't' :: _ => readWord "true" (.boolean true) cs
  | 'f' :: _ => readWord "false" (.boolean false) cs
  | _ =>
    match readMoment cs with
    | some rest => some (.moment (String.ofList (cs.take (cs.length - rest.length))), rest)
    | none => readNumeral cs

/-- A value with at most `depth` brackets open at a time. -/
def readValue : Nat → List Char → Option (Value × List Char)
  | 0, cs => readScalar cs
  | depth + 1, cs =>
    match cs with
    | '[' :: rest =>
      (readItems (readValue depth) rest.length rest).map fun (xs, rest) => (.list xs, rest)
    | '\x7b' :: rest => readInlineTable (readValue depth) rest
    | _ => readScalar cs

inductive Statement
  | table (key : List String)
  | row (key : List String)
  | assignment (key : List String) (v : Value)

/-- A statement, and what stands behind it on its line. -/
def readStatement : List Char → Option (Statement × List Char)
  | '[' :: '[' :: rest =>
    match readKey maxDepth rest with
    | some (key, ']' :: ']' :: rest) => some (.row key, rest)
    | _ => none
  | '[' :: rest =>
    match readKey maxDepth rest with
    | some (key, ']' :: rest) => some (.table key, rest)
    | _ => none
  | cs => (readAssignment (readValue maxDepth) cs).map fun ((key, v), rest) =>
    (.assignment key v, rest)

/-- All statements. Lines are bounded by the length of the text. -/
def readStatements : Nat → List Char → Option (List Statement)
  | 0, _ => none
  | fuel + 1, cs =>
    match skipGaps cs with
    | [] => some []
    | '#' :: rest => (endOfLine? ('#' :: rest)).bind (readStatements fuel)
    | c :: rest =>
      match newline? (c :: rest) with
      | some rest => readStatements fuel rest
      | none =>
        match readStatement (c :: rest) with
        | none => none
        | some (s, rest) =>
          match endOfLine? rest with
          | none => none
          | some rest => (readStatements fuel rest).map (s :: ·)

end ApiGateway.Toml
