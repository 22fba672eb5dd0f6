import ApiGateway.Text.Blank

/-! The seven verbs that a gateway method can be bound to, in the order in which they are listed,
and how a verb is read from text: neither white space around it nor the case of its letters
matters. -/

namespace ApiGateway

inductive Method
  | get | post | put | delete | patch | head | options
  deriving DecidableEq

namespace Method

def all : List Method := [get, post, put, delete, patch, head, options]

/-- The verb in capitals, as HTTP writes it. -/
def verb : Method → String
  | get => "GET"
  | post => "POST"
  | put => "PUT"
  | delete => "DELETE"
  | patch => "PATCH"
  | head => "HEAD"
  | options => "OPTIONS"

/-- The verb in small letters, as block names end. -/
def lower : Method → String
  | get => "get"
  | post => "post"
  | put => "put"
  | delete => "delete"
  | patch => "patch"
  | head => "head"
  | options => "options"

def rank (m : Method) : Nat := all.idxOf m

def sort (ms : List Method) : List Method := ms.mergeSort fun a b => a.rank ≤ b.rank

/-- The capital form of a letter, for every letter whose capitals are ASCII; any other stays,
which is enough here because a verb has no other letters. -/
def capitals (c : Char) : List Char :=
  if c = 'ſ' then ['S']
  else if c = 'ı' then ['I']
  else if c = 'ß' then ['S', 'S']
  else if c = 'ﬀ' then ['F', 'F']
  else if c = 'ﬁ' then ['F', 'I']
  else if c = 'ﬂ' then ['F', 'L']
  else if c = 'ﬃ' then ['F', 'F', 'I']
  else if c = 'ﬄ' then ['F', 'F', 'L']
  else if c = 'ﬅ' ∨ c = 'ﬆ' then ['S', 'T']
  else [c.toUpper]

def ofText? (s : String) : Option Method :=
  let text := (Text.dropEnds Text.isBlank s.toList).flatMap capitals
  all.find? fun m => m.verb.toList == text

theorem verb_injective {a b : Method} (h : a.verb = b.verb) : a = b := by
  cases a <;> cases b <;> first | rfl | exact absurd h (by decide)

theorem lower_injective {a b : Method} (h : a.lower = b.lower) : a = b := by
  cases a <;> cases b <;> first | rfl | exact absurd h (by decide)

theorem ofText?_verb (m : Method) : ofText? m.verb = some m := by cases m <;> decide +kernel

end Method
end ApiGateway
