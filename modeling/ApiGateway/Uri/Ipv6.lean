import ApiGateway.Text.CodePoints

/-! IPv6 addresses: eight groups of up to four hexadecimal digits, the last two of which may be
written as an IPv4 address, and one run of zero groups may be left out. -/

namespace ApiGateway.Uri.Ipv6

def isGroup (cs : List Char) : Bool :=
  cs ≠ [] && cs.length ≤ 4 && cs.all Text.isHexDigit

/-- A number up to 255 without leading zeros. -/
def isByte (cs : List Char) : Bool :=
  cs ≠ [] && cs.length ≤ 3 && cs.all Char.isDigit && (cs.length = 1 || cs.head? ≠ some '0') &&
    Text.numberIn 10 cs < 256

def isDotted (cs : List Char) : Bool :=
  let ps := Text.pieces '.' cs
  ps.length = 4 && ps.all isByte

/-- How many groups a run of them between colons makes up; only the end may be dotted. -/
def groups? (dottedEnd : Bool) (cs : List Char) : Option Nat :=
  if cs = [] then some 0
  else
    let ps := Text.pieces ':' cs
    if ps.all isGroup then some ps.length
    else if dottedEnd && ps.dropLast.all isGroup && ps.getLast?.any isDotted then
      some (ps.length + 1)
    else none

/-- The text before and behind the first double colon. -/
def splitGap : List Char → Option (List Char × List Char)
  | ':' :: ':' :: rest => some ([], rest)
  | c :: rest => (splitGap rest).map fun (l, r) => (c :: l, r)
  | [] => none

def isAddress (cs : List Char) : Bool :=
  match splitGap cs with
  | none => groups? true cs == some 8
  | some (left, right) =>
    match groups? false left, groups? true right with
    | some l, some r => l + r < 8
    | _, _ => false

end ApiGateway.Uri.Ipv6
