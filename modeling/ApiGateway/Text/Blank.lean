/-! White space, and the text that is left when it is taken off both ends. -/

namespace ApiGateway.Text

/-- The twenty-five code points of the Unicode property `White_Space`. -/
def isBlank (c : Char) : Bool :=
  let n := c.toNat
  (9 ≤ n && n ≤ 13) || n == 0x20 || n == 0x85 || n == 0xA0 || n == 0x1680 ||
    (0x2000 ≤ n && n ≤ 0x200A) || n == 0x2028 || n == 0x2029 || n == 0x202F || n == 0x205F ||
    n == 0x3000

def dropEnds (p : Char → Bool) (cs : List Char) : List Char :=
  ((cs.dropWhile p).reverse.dropWhile p).reverse

def trim (s : String) : String := String.ofList (dropEnds isBlank s.toList)

theorem toList_trim (s : String) : (trim s).toList = dropEnds isBlank s.toList := by
  simp [trim]

end ApiGateway.Text
