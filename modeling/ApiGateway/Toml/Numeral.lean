import ApiGateway.Value

/-! Numbers of TOML. Digits may be parted by single underscores, integers have 64 bits with a sign,
and a number with a fraction must not be too great for a double. -/

namespace ApiGateway.Toml

/-- Digits and underscores, each of which has a digit behind it. -/
def moreDigits (isDigit : Char → Bool) : List Char → List Char × List Char
  | '_' :: c :: cs =>
    if isDigit c then
      let (ds, rest) := moreDigits isDigit cs
      (c :: ds, rest)
    else ([], '_' :: c :: cs)
  | c :: cs =>
    if isDigit c then
      let (ds, rest) := moreDigits isDigit cs
      (c :: ds, rest)
    else ([], c :: cs)
  | [] => ([], [])

def someDigits (isDigit : Char → Bool) : List Char → Option (List Char × List Char)
  | c :: cs =>
    if isDigit c then
      let (ds, rest) := moreDigits isDigit cs
      some (c :: ds, rest)
    else none
  | [] => none

def inBase (base : Nat) (cs : List Char) : Option (Value × List Char) := do
  let (digits, rest) ← someDigits (Text.isDigitIn base) cs
  let n := Text.numberIn base digits
  if n < Nat.pow 2 63 then some (.integer n, rest) else none

def splitSign : List Char → Bool × List Char
  | '-' :: rest => (true, rest)
  | '+' :: rest => (false, rest)
  | cs => (false, cs)

/-- Digits before the point; a zero is never first of several. -/
def wholePart : List Char → Option (List Char × List Char)
  | '0' :: rest => some (['0'], rest)
  | cs => someDigits Char.isDigit cs

def fractionPart : List Char → Option (List Char × List Char)
  | '.' :: rest => someDigits Char.isDigit rest
  | cs => some ([], cs)

def exponentPart : List Char → Option (Int × List Char)
  | c :: rest =>
    if c = 'e' ∨ c = 'E' then
      let (negative, rest) := splitSign rest
      (someDigits Char.isDigit rest).map fun (ds, rest) =>
        let n : Int := Text.numberIn 10 ds
        (if negative then -n else n, rest)
    else some (0, c :: rest)
  | [] => some (0, [])

def readDecimal (negative : Bool) (cs : List Char) : Option (Value × List Char) := do
  let (whole, behindWhole) ← wholePart cs
  let (fraction, behindFraction) ← fractionPart behindWhole
  let (exponent, rest) ← exponentPart behindFraction
  if rest.length = behindWhole.length then
    let n : Int := Text.numberIn 10 whole
    let n := if negative then -n else n
    if -(Nat.pow 2 63 : Int) ≤ n ∧ n < Nat.pow 2 63 then some (.integer n, rest) else none
  else
    let d := Decimal.ofLiteral negative (Text.numberIn 10 (whole ++ fraction))
      (exponent - fraction.length)
    if d = .infinite false then none else some (.real d, rest)

def readNumeral (cs : List Char) : Option (Value × List Char) :=
  match cs with
  | '0' :: 'x' :: rest => inBase 16 rest
  | '0' :: 'o' :: rest => inBase 8 rest
  | '0' :: 'b' :: rest => inBase 2 rest
  | _ =>
    match splitSign cs with
    | (negative, 'i' :: 'n' :: 'f' :: rest) => some (.real (.infinite negative), rest)
    | (_, 'n' :: 'a' :: 'n' :: rest) => some (.real .undefined, rest)
    | (negative, rest) => readDecimal negative rest

end ApiGateway.Toml
