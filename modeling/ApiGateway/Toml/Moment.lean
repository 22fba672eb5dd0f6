import ApiGateway.Text.Digits

/-! Dates and times of TOML. Impossible days are refused; a minute may have a leap second. The
readers give the characters behind what they read. -/

namespace ApiGateway.Toml

def readDigits (count : Nat) (cs : List Char) : Option (Nat × List Char) :=
  let digits := cs.take count
  if digits.length = count ∧ digits.all Char.isDigit then
    some (Text.numberIn 10 digits, cs.drop count)
  else none

def readMark (mark : Char) : List Char → Option (List Char)
  | c :: rest => if c = mark then some rest else none
  | [] => none

def daysInMonth (year month : Nat) : Nat :=
  if month = 2 then
    if year % 4 = 0 ∧ (year % 100 ≠ 0 ∨ year % 400 = 0) then 29 else 28
  else if month ∈ [4, 6, 9, 11] then 30
  else 31

def readDate (cs : List Char) : Option (List Char) := do
  let (year, cs) ← readDigits 4 cs
  let cs ← readMark '-' cs
  let (month, cs) ← readDigits 2 cs
  let cs ← readMark '-' cs
  let (day, cs) ← readDigits 2 cs
  if 1 ≤ month ∧ month ≤ 12 ∧ 1 ≤ day ∧ day ≤ daysInMonth year month then some cs else none

def readHourMinute (cs : List Char) : Option (List Char) := do
  let (hour, cs) ← readDigits 2 cs
  let cs ← readMark ':' cs
  let (minute, cs) ← readDigits 2 cs
  if hour < 24 ∧ minute < 60 then some cs else none

/-- Hours, minutes and seconds; a fraction needs a digit. -/
def readTime (cs : List Char) : Option (List Char) := do
  let cs ← readHourMinute cs
  let cs ← readMark ':' cs
  let (second, cs) ← readDigits 2 cs
  if 60 < second then none
  else
    match cs with
    | '.' :: d :: rest => some (if d.isDigit then rest.dropWhile Char.isDigit else cs)
    | _ => some cs

def readOffset : List Char → Option (List Char)
  | 'Z' :: rest | 'z' :: rest => some rest
  | '+' :: rest | '-' :: rest => readHourMinute rest
  | _ => none

/-- A date, a time, or a date with a time and perhaps its offset from Greenwich. -/
def readMoment (cs : List Char) : Option (List Char) :=
  match readDate cs with
  | none => readTime cs
  | some (c :: rest) =>
    if c = 'T' ∨ c = 't' ∨ c = ' ' then
      match readTime rest with
      | some behind => some ((readOffset behind).getD behind)
      | none => some (c :: rest)
    else some (c :: rest)
  | some [] => some []

end ApiGateway.Toml
