import ApiGateway.Value

/-! Reading JSON text. Whole numbers that fit 64 bits, signed or not, stay integers; all other
numbers are taken as doubles. Escapes outside the basic plane come as surrogate pairs. -/

namespace ApiGateway.Json

def skipBlank (cs : List Char) : List Char :=
  cs.dropWhile fun c => c == ' ' || c == '\t' || c == '\n' || c == '\r'

def unescape? : Char → Option Char
  | '"' => some '"'
  | '\\' => some '\\'
  | '/' => some '/'
  | 'b' => some '\x08'
  | 'f' => some '\x0c'
  | 'n' => some '\n'
  | 'r' => some '\r'
  | 't' => some '\t'
  | _ => none

def unit? (cs : List Char) : Option Nat :=
  if cs.all Text.isHexDigit then some (Text.numberIn 16 cs) else none

/-- The rest of a string literal behind its opening quote; `done` is reversed. -/
def readText (done : List Char) : List Char → Option (String × List Char)
  | [] => none
  | '"' :: rest => some (String.ofList done.reverse, rest)
  | '\\' :: 'u' :: a :: b :: c :: d :: '\\' :: 'u' :: e :: f :: g :: h :: rest =>
    match unit? [a, b, c, d], unit? [e, f, g, h] with
    | some high, some low =>
      if 0xD800 ≤ high ∧ high < 0xDC00 then
        if 0xDC00 ≤ low ∧ low < 0xE000 then
          readText (Char.ofNat (0x10000 + (high - 0xD800) * 0x400 + (low - 0xDC00)) :: done) rest
        else none
      else if 0xDC00 ≤ high ∧ high < 0xE000 then none
      else readText (Char.ofNat high :: done) ('\\' :: 'u' :: e :: f :: g :: h :: rest)
    | _, _ => none
  | '\\' :: 'u' :: a :: b :: c :: d :: rest =>
    match unit? [a, b, c, d] with
    | some n => if 0xD800 ≤ n ∧ n < 0xE000 then none else readText (Char.ofNat n :: done) rest
    | none => none
  | '\\' :: c :: rest =>
    match unescape? c with
    | some x => readText (x :: done) rest
    | none => none
  | c :: rest => if c.toNat < 0x20 then none else readText (c :: done) rest
  termination_by cs => cs.length

/-- Puts digits behind `n` as long as the number fits 64 bits, and gives those left over. -/
def absorb (n : Nat) : List Char → Nat × List Char
  | [] => (n, [])
  | c :: cs =>
    let more := 10 * n + Text.digitValue c
    if more < Nat.pow 2 64 then absorb more cs else (n, c :: cs)

/-- A number of which only the leading digits that fit 64 bits count. There is none beyond the
greatest double. -/
def realNumber (negative : Bool) (whole fraction : List Char) (power : Int) : Option Value :=
  let (n, left) := absorb 0 whole
  let (n, unused) := absorb n fraction
  match Decimal.ofProduct negative n (power + left.length - (fraction.length - unused.length)) with
  | .finite s c e => some (.real (.finite s c e))
  | _ => none

def wholeNumber (negative : Bool) (digits : List Char) : Option Value :=
  let n := Text.numberIn 10 digits
  if negative ∧ n ≠ 0 ∧ n ≤ Nat.pow 2 63 then some (.integer (-n))
  else if ¬ negative ∧ n < Nat.pow 2 64 then some (.integer n)
  else realNumber negative digits [] 0

/-- One digit at least. -/
def readDigits (cs : List Char) : Option (List Char × List Char) :=
  let (digits, rest) := cs.span Char.isDigit
  if digits = [] then none else some (digits, rest)

/-- The digits in front of the point: a zero alone, or digits of which the first is not zero. -/
def readWhole (cs : List Char) : Option (List Char × List Char) :=
  match readDigits cs with
  | some ('0' :: _ :: _, _) => none
  | found => found

/-- The digits behind the point, none where there is no point. -/
def readFraction : List Char → Option (List Char × List Char)
  | '.' :: rest => readDigits rest
  | rest => some ([], rest)

/-- The power of ten behind an `e`, none where there is no `e`. -/
def readPower (cs : List Char) : Option (Option Int × List Char) :=
  if cs.head? = some 'e' ∨ cs.head? = some 'E' then
    let minus := cs.tail.head? == some '-'
    let rest := if minus ∨ cs.tail.head? == some '+' then cs.tail.tail else cs.tail
    (readDigits rest).map fun (digits, rest) =>
      let n : Int := Text.numberIn 10 digits
      (some (if minus then -n else n), rest)
  else some (none, cs)

def readNumber (cs : List Char) : Option (Value × List Char) := do
  let negative := cs.head? == some '-'
  let (whole, rest) ← readWhole (if negative then cs.tail else cs)
  let (fraction, rest) ← readFraction rest
  let (power, rest) ← readPower rest
  let number ←
    if fraction = [] ∧ power = none then wholeNumber negative whole
    else realNumber negative whole fraction (power.getD 0)
  return (number, rest)

/-- Of several fields with one name the last counts. -/
def lastOfEach : List (String × Value) → List (String × Value)
  | [] => []
  | f :: fs => if fs.any (·.1 = f.1) then lastOfEach fs else f :: lastOfEach fs

def dropWord (word : String) (cs : List Char) : Option (List Char) :=
  if word.toList.isPrefixOf cs then some (cs.drop word.length) else none

mutual

/-- Each call reads a character at least, so the length of the text bounds the calls. -/
def readValue : Nat → List Char → Option (Value × List Char)
  | 0, _ => none
  | n + 1, cs =>
    match skipBlank cs with
    | '"' :: rest => (readText [] rest).map fun (s, rest) => (.text s, rest)
    | '[' :: rest =>
      match skipBlank rest with
      | ']' :: rest => some (.list [], rest)
      | rest => (readItems n rest).map fun (xs, rest) => (.list xs, rest)
    | '\x7b' :: rest =>
      match skipBlank rest with
      | '\x7d' :: rest => some (.record [], rest)
      | rest => (readFields n rest).map fun (fs, rest) => (.record (lastOfEach fs), rest)
    | cs =>
      if let some rest := dropWord "null" cs then some (.null, rest)
      else if let some rest := dropWord "true" cs then some (.boolean true, rest)
      else if let some rest := dropWord "false" cs then some (.boolean false, rest)
      else readNumber cs

def readItems : Nat → List Char → Option (List Value × List Char)
  | 0, _ => none
  | n + 1, cs =>
    match readValue n cs with
    | none => none
    | some (x, rest) =>
      match skipBlank rest with
      | ',' :: rest => (readItems n rest).map fun (xs, rest) => (x :: xs, rest)
      | ']' :: rest => some ([x], rest)
      | _ => none

def readFields : Nat → List Char → Option (List (String × Value) × List Char)
  | 0, _ => none
  | n + 1, cs =>
    match skipBlank cs with
    | '"' :: rest =>
      match readText [] rest with
      | none => none
      | some (k, rest) =>
        match skipBlank rest with
        | ':' :: rest =>
          match readValue n rest with
          | none => none
          | some (v, rest) =>
            match skipBlank rest with
            | ',' :: rest => (readFields n rest).map fun (fs, rest) => ((k, v) :: fs, rest)
            | '\x7d' :: rest => some ([(k, v)], rest)
            | _ => none
        | _ => none
    | _ => none

end

def read (s : String) : Option Value :=
  let cs := s.toList
  match readValue (cs.length + 1) cs with
  | some (v, rest) => if skipBlank rest = [] then some v else none
  | none => none

end ApiGateway.Json
