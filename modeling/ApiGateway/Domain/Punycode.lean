import ApiGateway.Text.Join

/-! Punycode: a label outside ASCII as its ASCII characters, a hyphen, and digits that say which
other characters go where. Only reading is needed. -/

namespace ApiGateway.Domain.Punycode

def base : Nat := 36
def firstThreshold : Nat := 1
def lastThreshold : Nat := 26
def skew : Nat := 38
def damp : Nat := 700
def firstBias : Nat := 72
def firstCode : Nat := 0x80
def limit : Nat := Nat.pow 2 32

def digit? (c : Char) : Option Nat :=
  if c.isLower then some (c.toNat - 'a'.toNat)
  else if c.isDigit then some (c.toNat - '0'.toNat + 26)
  else none

/-- Counts how often the gap shrinks to the range of the last threshold. -/
def shrink : Nat → Nat → Nat → Nat × Nat
  | 0, gap, k => (gap, k)
  | n + 1, gap, k =>
    if (base - firstThreshold) * lastThreshold / 2 < gap then
      shrink n (gap / (base - firstThreshold)) (k + base)
    else (gap, k)

def adapt (gap points : Nat) (isFirst : Bool) : Nat :=
  let gap := if isFirst then gap / damp else gap / 2
  let (gap, k) := shrink 32 (gap + gap / points) 0
  k + (base - firstThreshold + 1) * gap / (gap + skew)

def threshold (k bias : Nat) : Nat := max firstThreshold (min lastThreshold (k - bias))

/-- One number of variable length, and the digits behind it. -/
def number (bias : Nat) : Nat → Nat → Nat → List Char → Option (Nat × List Char)
  | _, _, _, [] => none
  | value, weight, k, c :: cs =>
    match digit? c with
    | none => none
    | some d =>
      let value := value + d * weight
      let t := threshold k bias
      if limit ≤ value then none
      else if d < t then some (value, cs)
      else if limit ≤ weight * (base - t) then none
      else number bias value (weight * (base - t)) (k + base) cs

theorem length_number {bias value weight k n : Nat} {cs rest : List Char}
    (h : number bias value weight k cs = some (n, rest)) : rest.length < cs.length := by
  induction cs generalizing value weight k with
  | nil => simp [number] at h
  | cons c cs ih =>
    simp only [number] at h
    split at h
    · simp at h
    · split at h
      · simp at h
      · split at h
        · simp only [Option.some.injEq, Prod.mk.injEq] at h
          simp [← h.2]
        · split at h
          · simp at h
          · exact Nat.lt_succ_of_lt (ih h)

/-- Puts the characters that the digits describe into `done`. -/
def fill (done : List Char) (code i bias : Nat) (cs : List Char) : Option (List Char) :=
  if cs = [] then some done
  else
    match h : number bias 0 1 base cs with
    | none => none
    | some (gap, rest) =>
      let points := done.length + 1
      let place := i + gap
      let code := code + place / points
      if limit ≤ place ∨ ¬ code.isValidChar then none
      else
        let spot := place % points
        fill (done.take spot ++ Char.ofNat code :: done.drop spot) code (spot + 1)
          (adapt gap points (done.all (·.toNat < firstCode))) rest
  termination_by cs.length
  decreasing_by exact length_number h

/-- The last hyphen parts the ASCII characters from the digits; one at the front parts nothing. -/
def decode (cs : List Char) : Option (List Char) :=
  let digits := (cs.reverse.takeWhile (· ≠ '-')).reverse
  let plain := (cs.take (cs.length - digits.length)).dropLast
  if plain = [] then fill [] firstCode 0 firstBias cs else fill plain firstCode 0 firstBias digits

end ApiGateway.Domain.Punycode
