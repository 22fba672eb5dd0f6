import ApiGateway.Text.Printable

/-! A text between quotes, written so that it fits on a line and every character can be seen. -/

namespace ApiGateway.Text

def quotedChar (c : Char) : List Char :=
  if c = '\x00' then ['\\', '0']
  else if c = '\t' then ['\\', 't']
  else if c = '\r' then ['\\', 'r']
  else if c = '\n' then ['\\', 'n']
  else if c = '"' then ['\\', '"']
  else if c = '\\' then ['\\', '\\']
  else if isPrintable c then [c]
  else '\\' :: 'u' :: '\x7b' :: hexadecimal 1 c.toNat ++ ['\x7d']

def quoted (s : String) : String :=
  String.ofList ('"' :: s.toList.flatMap quotedChar ++ ['"'])

/-- Visible ASCII stands for itself, quote and backslash apart. -/
theorem quotedChar_of_visible {c : Char} (low : 0x20 ≤ c.toNat) (high : c.toNat < 0x7F)
    (hq : c ≠ '"') (hb : c ≠ '\\') : quotedChar c = [c] := by
  have h0 : c ≠ '\x00' := by rintro rfl; simp at low
  have ht : c ≠ '\t' := by rintro rfl; simp at low
  have hr : c ≠ '\r' := by rintro rfl; simp at low
  have hn : c ≠ '\n' := by rintro rfl; simp at low
  simp [quotedChar, isPrintable, h0, ht, hr, hn, hq, hb, low, high]

end ApiGateway.Text
