import ApiGateway.Domain.Composition
import ApiGateway.Domain.Folding
import ApiGateway.Domain.Punycode
import ApiGateway.Domain.Script

/-! Domain names with any characters: the text is folded, taken apart at its dots, labels written in
Punycode are read, and every label has to be well formed. A name in which some label runs from right
to left asks all its labels to keep the rule for mixed directions. -/

namespace ApiGateway.Domain

def isAscii (c : Char) : Bool := c.toNat < 0x80

/-- No table has an entry below 0x80. -/
def isIn (table : Text.CodePoints) (c : Char) : Bool := !isAscii c && table.contains c

def punycodeTag : List Char := ['x', 'n', '-', '-']

def maxPunycode : Nat := 2000

def maxWide : Nat := 1000

/-- Punycode stands only for what could not be written without, in its one written form. -/
def readPunycode (cs : List Char) : Option (List Char) :=
  if cs.all isAscii ∧ cs.length ≤ maxPunycode then
    (Punycode.decode cs).filter fun label =>
      label.any (!isAscii ·) ∧ label.all isFolded ∧ composed label = label
  else none

def readLabel (label : List Char) : Option (List Char) :=
  if punycodeTag.isPrefixOf label then readPunycode (label.drop punycodeTag.length)
  else some label

def joiner : Char := '\u200d'

def nonJoiner : Char := '\u200c'

/-- Joiners stand behind a virama; a non-joiner may also part two letters that would join. -/
def joinersInPlace (before : List Char) : List Char → Bool
  | [] => true
  | c :: after =>
    let behindVirama := before.head?.any (isIn viramas)
    let parts := ((before.dropWhile (isIn joinsThrough)).head?.any (isIn joinsNext)) &&
      ((after.dropWhile (isIn joinsThrough)).head?.any (isIn joinsLast))
    (c != joiner || behindVirama) && (c != nonJoiner || behindVirama || parts) &&
      joinersInPlace (c :: before) after

def isWellFormed (label : List Char) : Bool :=
  !label.head?.any (isIn combining) && joinersInPlace [] label &&
    (label.all isAscii || label.length ≤ maxWide)

/-- The rule for a label of a name with mixed directions: it starts with a letter, keeps to one
direction, and ends in a letter or number when marks are left aside. -/
def keepsDirection (label : List Char) : Bool :=
  match label.map direction with
  | [] => true
  | .left :: ds =>
    let body := (ds.reverse.dropWhile (· = .mark)).reverse
    body.all (fun d => d ≠ .right ∧ d ≠ .arabicNumber) &&
      body.getLast?.all (fun d => d = .left ∨ d = .europeanNumber)
  | .right :: ds =>
    let body := (ds.reverse.dropWhile (· = .mark)).reverse
    body.all (· ≠ .left) &&
      body.getLast?.all (fun d => d = .right ∨ d = .europeanNumber ∨ d = .arabicNumber) &&
      !(body.contains .europeanNumber && body.contains .arabicNumber)
  | _ => false

def isMixed (labels : List (List Char)) : Bool :=
  labels.any (·.any fun c => direction c = .right ∨ direction c = .arabicNumber)

def fold (text : List Char) : Option (List Char) :=
  (text.mapM fold?).map fun parts => composed parts.flatten

/-- The labels of a folded name, or nothing if it is not one. -/
def labels? (folded : List Char) : Option (List (List Char)) :=
  match (Text.pieces '.' folded).mapM readLabel with
  | none => none
  | some labels =>
    if labels.all isWellFormed && (!isMixed labels || labels.all keepsDirection) then some labels
    else none

end ApiGateway.Domain
