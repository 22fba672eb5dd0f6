/-! Numbers with a fraction as a text writes them: a coefficient and a power of ten. What is kept of
a literal is the double nearest to it, named by the fewest digits that no other double claims. -/

namespace ApiGateway

inductive Decimal
  /-- `coefficient * 10 ^ exponent`, with a sign that zero has too. -/
  | finite (negative : Bool) (coefficient : Nat) (exponent : Int)
  | infinite (negative : Bool)
  | undefined
  deriving DecidableEq

namespace Decimal

/-- The fraction `n / d` times `base ^ k`. -/
def scale (base : Nat) (k : Int) (x : Nat × Nat) : Nat × Nat :=
  if 0 ≤ k then (x.1 * Nat.pow base k.toNat, x.2) else (x.1, x.2 * Nat.pow base (-k).toNat)

def fractionLe (x y : Nat × Nat) : Bool := x.1 * y.2 ≤ y.1 * x.2

def fractionLt (x y : Nat × Nat) : Bool := x.1 * y.2 < y.1 * x.2

/-- The greatest `k` with `base ^ k ≤ x`, looked for one step around `guess`. -/
def magnitude (base : Nat) (guess : Int) (x : Nat × Nat) : Int :=
  if fractionLt x (scale base guess (1, 1)) then guess - 1
  else if fractionLe (scale base (guess + 1) (1, 1)) x then guess + 1
  else guess

def roundHalfEven (x : Nat × Nat) : Nat :=
  let q := x.1 / x.2
  let r := 2 * (x.1 % x.2)
  if r < x.2 then q else if x.2 < r then q + 1 else q + q % 2

/-- Significand and binary exponent of the double nearest to a positive fraction. -/
def nearestDouble (x : Nat × Nat) : Nat × Int :=
  let e := magnitude 2 ((x.1.log2 : Int) - x.2.log2) x
  let q := max (e - 52) (-1074)
  (roundHalfEven (scale 2 (-q) x), q)

def isInfinite (m : Nat) (q : Int) : Bool := fractionLe (Nat.pow 2 1024, 1) (scale 2 q (m, 1))

/-- The neighbours of `v` with `10 ^ k` as their last place, where they lie between `low` and
`high`: the nearer one, or the even one of two equally near. -/
def onGrid (low v high : Nat × Nat) (inclusive : Bool) (k : Int) : Option Nat :=
  let le := if inclusive then fractionLe else fractionLt
  let s := scale 10 (-k)
  let d := (s v).1 / (s v).2
  let below := le (s low) (d, 1)
  let above := le (d + 1, 1) (s high)
  if below && above then some (roundHalfEven (s v))
  else if below then some d
  else if above then some (d + 1)
  else none

def withoutTrailingZeros : Nat → Nat → Int → Nat × Int
  | 0, d, k => (d, k)
  | n + 1, d, k => if d % 10 = 0 then withoutTrailingZeros n (d / 10) (k + 1) else (d, k)

/-- Coefficient and decimal exponent with the fewest digits that identify the double
`m * 2 ^ q`; seventeen digits always do. -/
def fewestDigits (m : Nat) (q : Int) : Nat × Int :=
  let atQuarter (n : Nat) : Nat × Nat := scale 2 (q - 2) (n, 1)
  let v := atQuarter (4 * m)
  let low := atQuarter (if m = Nat.pow 2 52 ∧ -1074 < q then 4 * m - 1 else 4 * m - 2)
  let high := atQuarter (4 * m + 2)
  let p := magnitude 10 (((m.log2 : Int) + q) * 30103 / 100000) v
  let grids := (List.range 17).map fun n : Nat => p - (n : Int)
  match grids.findSome? fun k => (onGrid low v high (m % 2 == 0) k).map (·, k) with
  | some (d, k) => withoutTrailingZeros 17 d k
  | none => (0, 0)

def ofFraction (negative : Bool) (x : Nat × Nat) : Decimal :=
  let (m, q) := nearestDouble x
  if isInfinite m q then infinite negative
  else if m = 0 then finite negative 0 0
  else
    let (d, k) := fewestDigits m q
    finite negative d k

/-- What a literal with this sign, coefficient and power of ten stands for. -/
def ofLiteral (negative : Bool) (coefficient : Nat) (exponent : Int) : Decimal :=
  let digits := (Nat.toDigits 10 coefficient).length + exponent
  if coefficient = 0 ∨ digits < -400 then finite negative 0 0
  else if 400 < digits then infinite negative
  else ofFraction negative (scale 10 exponent (coefficient, 1))

def toNearest (x : Nat × Nat) : Nat × Nat :=
  let (m, q) := nearestDouble x
  scale 2 q (m, 1)

def powerOfTen (n : Nat) : Nat × Nat := toNearest (Nat.pow 10 n, 1)

def multiply (x y : Nat × Nat) : Nat × Nat := (x.1 * y.1, x.2 * y.2)

def divide (x y : Nat × Nat) : Nat × Nat := (x.1 * y.2, x.2 * y.1)

/-- What a literal comes to in double arithmetic: coefficient and power of ten are rounded before
they are multiplied or divided. No power beyond the greatest double is used: smaller literals are
divided twice, and a coefficient of 64 bits leaves nothing after that. -/
def ofProduct (negative : Bool) (coefficient : Nat) (exponent : Int) : Decimal :=
  let x := toNearest (coefficient, 1)
  let n := exponent.natAbs
  if coefficient = 0 ∨ exponent < -616 then finite negative 0 0
  else if exponent < -308 then
    ofFraction negative (divide (toNearest (divide x (powerOfTen 308))) (powerOfTen (n - 308)))
  else if exponent < 0 then ofFraction negative (divide x (powerOfTen n))
  else if 308 < exponent then infinite negative
  else ofFraction negative (multiply x (powerOfTen n))

/-- Positional notation, with one place after the point at least. -/
def positional (coefficient : Nat) (exponent : Int) : List Char :=
  let digits := Nat.toDigits 10 coefficient
  if 0 ≤ exponent then digits ++ List.replicate exponent.toNat '0' ++ ['.', '0']
  else
    let places := (-exponent).toNat
    let padded := List.replicate (places + 1 - digits.length) '0' ++ digits
    padded.take (padded.length - places) ++ '.' :: padded.drop (padded.length - places)

/-- One digit before the point, and a power of ten with its sign. -/
def scientific (coefficient : Nat) (exponent : Int) : List Char :=
  let power (n : Int) : List Char :=
    'e' :: (if n < 0 then '-' else '+') :: Nat.toDigits 10 n.natAbs
  match Nat.toDigits 10 coefficient with
  | [] => []
  | [d] => d :: power exponent
  | d :: ds => d :: '.' :: ds ++ power (exponent + ds.length)

/-- Numbers from `10 ^ -5` up to `10 ^ 16` are written in positional notation. -/
def text : Decimal → String
  | finite negative c e =>
    let point := (Nat.toDigits 10 c).length + e
    let digits := if -5 < point ∧ point ≤ 16 then positional c e else scientific c e
    String.ofList (if negative then '-' :: digits else digits)
  | infinite negative => if negative then "-inf" else "inf"
  | undefined => "NaN"

end Decimal
end ApiGateway
