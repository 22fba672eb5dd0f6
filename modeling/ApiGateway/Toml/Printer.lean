import ApiGateway.Text.Digits

/-! Strings as TOML writes them on one line between double quotes. -/

namespace ApiGateway.Toml

def escape (c : Char) : List Char :=
  if c = '"' then ['\\', '"']
  else if c = '\\' then ['\\', '\\']
  else if c = '\x08' then ['\\', 'b']
  else if c = '\t' then ['\\', 't']
  else if c = '\n' then ['\\', 'n']
  else if c = '\x0c' then ['\\', 'f']
  else if c = '\r' then ['\\', 'r']
  else if c.toNat < 0x20 ∨ c.toNat = 0x7F then '\\' :: 'u' :: Text.hexadecimal 4 c.toNat
  else [c]

def basicString (s : String) : String :=
  String.ofList ('"' :: s.toList.flatMap escape ++ ['"'])

end ApiGateway.Toml
