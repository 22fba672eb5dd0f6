import ApiGateway.Value

/-! JSON text: string literals, and values laid out over lines with two spaces for each level. -/

namespace ApiGateway.Json

/-- Escapes are for the quote, the backslash and the controls below the space alone. -/
def escape (c : Char) : List Char :=
  if c = '"' then ['\\', '"']
  else if c = '\\' then ['\\', '\\']
  else if c = '\x08' then ['\\', 'b']
  else if c = '\t' then ['\\', 't']
  else if c = '\n' then ['\\', 'n']
  else if c = '\x0c' then ['\\', 'f']
  else if c = '\r' then ['\\', 'r']
  else if c.toNat < 0x20 then '\\' :: 'u' :: Text.hexadecimal 4 c.toNat
  else [c]

def literal (s : String) : List Char := '"' :: s.toList.flatMap escape ++ ['"']

def newline (level : Nat) : List Char := '\n' :: List.replicate (2 * level) ' '

mutual

def layout (level : Nat) : Value → List Char
  | .null => "null".toList
  | .boolean b => (if b then "true" else "false").toList
  | .integer n => (toString n).toList
  | .real d => d.text.toList
  | .text s | .moment s => literal s
  | .list [] => ['[', ']']
  | .list (x :: xs) => '[' :: layoutItems (level + 1) (x :: xs) ++ newline level ++ [']']
  | .record [] => ['\x7b', '\x7d']
  | .record (f :: fs) =>
    '\x7b' :: layoutFields (level + 1) (f :: fs) ++ newline level ++ ['\x7d']

def layoutItems (level : Nat) : List Value → List Char
  | [] => []
  | [x] => newline level ++ layout level x
  | x :: y :: rest => newline level ++ layout level x ++ ',' :: layoutItems level (y :: rest)

def layoutFields (level : Nat) : List (String × Value) → List Char
  | [] => []
  | [(k, v)] => newline level ++ literal k ++ ':' :: ' ' :: layout level v
  | (k, v) :: f :: rest =>
    newline level ++ literal k ++ ':' :: ' ' :: layout level v ++
      ',' :: layoutFields level (f :: rest)

end

def pretty (v : Value) : String := String.ofList (layout 0 v)

end ApiGateway.Json
