import ApiGateway.Text.Digits

/-! The smallest parts of a TOML text: blanks, comments, ends of lines, strings and keys. A reader
gives what it read and the characters behind it. -/

namespace ApiGateway.Toml

def isGap (c : Char) : Bool := c == ' ' || c == '\t'

def skipGaps (cs : List Char) : List Char := cs.dropWhile isGap

/-- What comments and strings may hold: anything but the controls, of which the tab is let in. -/
def isPlain (c : Char) : Bool := c == '\t' || (0x20 ≤ c.toNat && c.toNat ≠ 0x7F)

def newline? : List Char → Option (List Char)
  | '\n' :: rest => some rest
  | '\r' :: '\n' :: rest => some rest
  | _ => none

/-- Blanks, ends of lines and comments, in any number. A comment runs to the end of its line. -/
def skipLines (inComment : Bool) : List Char → List Char
  | '\r' :: '\n' :: rest => skipLines false rest
  | c :: rest =>
    if c = '\n' then skipLines false rest
    else if inComment then
      if isPlain c then skipLines true rest else c :: rest
    else if isGap c then skipLines false rest
    else if c = '#' then skipLines true rest
    else c :: rest
  | [] => []

/-- What may stand behind a statement on its line. -/
def endOfLine? (cs : List Char) : Option (List Char) :=
  let rest := match skipGaps cs with
    | '#' :: more => more.dropWhile isPlain
    | more => more
  if rest = [] then some [] else newline? rest

def scalar? (digits : List Char) : Option Char :=
  let n := Text.numberIn 16 digits
  if digits.all Text.isHexDigit ∧ n.isValidChar then some (Char.ofNat n) else none

def namedEscape? : Char → Option Char
  | 'b' => some '\x08'
  | 't' => some '\t'
  | 'n' => some '\n'
  | 'f' => some '\x0c'
  | 'r' => some '\r'
  | '"' => some '"'
  | '\\' => some '\\'
  | _ => none

/-- The character that an escape stands for; its backslash has been read. -/
def escape? : List Char → Option (Char × List Char)
  | 'u' :: a :: b :: c :: d :: rest => (scalar? [a, b, c, d]).map (·, rest)
  | 'U' :: a :: b :: c :: d :: e :: f :: g :: h :: rest =>
    (scalar? [a, b, c, d, e, f, g, h]).map (·, rest)
  | c :: rest => (namedEscape? c).map (·, rest)
  | [] => none

theorem length_escape? {cs rest : List Char} {x : Char} (h : escape? cs = some (x, rest)) :
    rest.length < cs.length := by
  unfold escape? at h
  split at h <;> simp only [Option.map_eq_some_iff, Prod.mk.injEq, reduceCtorEq] at h
  all_goals
    obtain ⟨_, _, _, rfl⟩ := h
    simp only [List.length_cons]
    omega

/-- A string on one line behind its opening mark. Double quotes know escapes, single ones do not.
`done` is reversed. -/
def readShort (mark : Char) (done : List Char) (cs : List Char) : Option (String × List Char) :=
  match cs with
  | [] => none
  | c :: rest =>
    if c = mark then some (String.ofList done.reverse, rest)
    else if c = '\\' ∧ mark = '"' then
      match _ : escape? rest with
      | some (x, more) => readShort mark (x :: done) more
      | none => none
    else if isPlain c then readShort mark (c :: done) rest
    else none
  termination_by cs.length
  decreasing_by all_goals grind [→ length_escape?]

/-- A string over several lines behind its three opening marks. One or two marks may stand in it,
right before the closing ones too. While `trimming`, white space behind a backslash at the end of a
line is passed over. -/
def readLong (mark : Char) (trimming : Bool) (done : List Char) (cs : List Char) :
    Option (String × List Char) :=
  match cs with
  | [] => none
  | c :: rest =>
    if trimming ∧ (isGap c ∨ c = '\n') then readLong mark true done rest
    else if c = '\r' then
      match rest with
      | '\n' :: more => readLong mark trimming (if trimming then done else '\n' :: done) more
      | _ => none
    else if c = '\n' then readLong mark false ('\n' :: done) rest
    else if c = mark then
      let run := (rest.takeWhile (· = mark)).length
      if 2 ≤ run then
        let kept := min (run - 2) 2
        some (String.ofList (List.replicate kept mark ++ done).reverse, rest.drop (kept + 2))
      else readLong mark false (mark :: done) rest
    else if c = '\\' ∧ mark = '"' then
      if (newline? (skipGaps rest)).isSome then readLong mark true done rest
      else
        match _ : escape? rest with
        | some (x, more) => readLong mark false (x :: done) more
        | none => none
    else if isPlain c then readLong mark false (c :: done) rest
    else none
  termination_by cs.length
  decreasing_by all_goals grind [→ length_escape?]

/-- A line end right behind the opening marks does not count. -/
def readString : List Char → Option (String × List Char)
  | '"' :: '"' :: '"' :: rest => readLong '"' false [] ((newline? rest).getD rest)
  | '\x27' :: '\x27' :: '\x27' :: rest => readLong '\x27' false [] ((newline? rest).getD rest)
  | '"' :: rest => readShort '"' [] rest
  | '\x27' :: rest => readShort '\x27' [] rest
  | _ => none

def isBareKeyChar (c : Char) : Bool := c.isAlphanum || c == '_' || c == '-'

def readKeyPart : List Char → Option (String × List Char)
  | '"' :: rest => readShort '"' [] rest
  | '\x27' :: rest => readShort '\x27' [] rest
  | cs =>
    let name := cs.takeWhile isBareKeyChar
    if name = [] then none else some (String.ofList name, cs.dropWhile isBareKeyChar)

/-- A key of at most `parts` parts with dots between them. -/
def readKey : Nat → List Char → Option (List String × List Char)
  | 0, _ => none
  | parts + 1, cs =>
    match readKeyPart (skipGaps cs) with
    | none => none
    | some (k, rest) =>
      match skipGaps rest with
      | '.' :: more => (readKey parts more).map fun (ks, rest) => (k :: ks, rest)
      | rest => some ([k], rest)

end ApiGateway.Toml
