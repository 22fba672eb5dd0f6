import ApiGateway.Text.Digits
import ApiGateway.Text.Join

/-! Sets of characters, given as ranges of code points. Tables are written in hexadecimal, as words
`low-high` or single code points between blanks. -/

namespace ApiGateway.Text

def words (s : String) : List (List Char) :=
  (pieces ' ' (s.toList.map fun c => if c = '\n' then ' ' else c)).filter (· ≠ [])

abbrev CodePoints := List (Nat × Nat)

namespace CodePoints

def ofText (s : String) : CodePoints :=
  (words s).map fun w =>
    match pieces '-' w with
    | [low, high] => (numberIn 16 low, numberIn 16 high)
    | _ => (numberIn 16 w, numberIn 16 w)

def contains (r : CodePoints) (c : Char) : Bool :=
  r.any fun (low, high) => low ≤ c.toNat && c.toNat ≤ high

end CodePoints
end ApiGateway.Text
