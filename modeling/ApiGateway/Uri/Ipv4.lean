import ApiGateway.Text.CodePoints

/-! Hosts that are meant as IPv4 addresses: one to four numbers, each decimal, octal or hexadecimal,
of which the last fills the bytes that are left. -/

namespace ApiGateway.Uri.Ipv4

/-- A number with the base that its first characters announce. -/
def number? (cs : List Char) : Option Nat :=
  let inBase (base : Nat) (digits : List Char) : Option Nat :=
    if digits.all (Text.isDigitIn base) then some (Text.numberIn base digits) else none
  match cs with
  | [] => none
  | '0' :: 'x' :: digits | '0' :: 'X' :: digits => inBase 16 digits
  | '0' :: d :: digits => inBase 8 (d :: digits)
  | _ => inBase 10 cs

/-- The parts of a name, a last empty one left out. -/
def parts (labels : List (List Char)) : List (List Char) :=
  if labels.getLast? = some [] then labels.dropLast else labels

/-- A name whose last part is a number can only be an address. -/
def isMeant (labels : List (List Char)) : Bool :=
  match (parts labels).getLast? with
  | some last => last ≠ [] && (last.all Char.isDigit || (number? last).isSome)
  | none => false

def isAddress (labels : List (List Char)) : Bool :=
  let ps := parts labels
  match ps.mapM number? with
  | none => false
  | some ns =>
    ns.length ≤ 4 && ns.dropLast.all (· < 256) &&
      ns.getLast?.all (· < Nat.pow 256 (5 - ns.length))

end ApiGateway.Uri.Ipv4
