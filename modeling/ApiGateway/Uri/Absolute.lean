import ApiGateway.Text.Blank
import ApiGateway.Uri.Host

/-! Which texts are absolute URIs. White space and controls around the text, and tabs and line ends
within it, do not count. A scheme is needed, and what follows can only go wrong before the path: in
the user, the host or the port. -/

namespace ApiGateway.Uri

inductive SchemeKind
  | file | network | other
  deriving DecidableEq

def networkSchemes : List String := ["http", "https", "ws", "wss", "ftp"]

def SchemeKind.ofScheme (cs : List Char) : SchemeKind :=
  let name := cs.map Char.toLower
  if name = "file".toList then file
  else if networkSchemes.any (·.toList == name) then network
  else other

def isSchemeChar (c : Char) : Bool :=
  c.isAlphanum || c == '+' || c == '-' || c == '.'

def splitScheme (cs : List Char) : Option (SchemeKind × List Char) :=
  let scheme := cs.takeWhile isSchemeChar
  match cs.dropWhile isSchemeChar with
  | ':' :: rest =>
    if scheme.head?.any Char.isAlpha then some (.ofScheme scheme, rest) else none
  | _ => none

def isSlash (c : Char) : Bool := c == '/' || c == '\\'

/-- The end of an authority. A backslash is a slash, except under unknown schemes. -/
def endsAuthority (kind : SchemeKind) (c : Char) : Bool :=
  c == '/' || c == '?' || c == '#' || (c == '\\' && kind ≠ .other)

/-- The text before and behind the last at sign, where there is one. -/
def splitUser (authority : List Char) : Option (List Char) × List Char :=
  let host := (authority.reverse.takeWhile (· ≠ '@')).reverse
  if '@' ∈ authority then (some (authority.take (authority.length - host.length - 1)), host)
  else (none, authority)

/-- The host, up to the first colon outside brackets, and the rest from that colon on. -/
def splitPort (bracket : Bool) : List Char → List Char × List Char
  | [] => ([], [])
  | c :: cs =>
    if c = ':' ∧ ¬ bracket then ([], c :: cs)
    else
      let (host, port) := splitPort (c = '[' ∨ (bracket ∧ c ≠ ']')) cs
      (c :: host, port)

/-- A port is a number of sixteen bits, or left out behind its colon. -/
def isPort (cs : List Char) : Bool :=
  Text.numberIn 10 (cs.takeWhile Char.isDigit) < 65536 &&
    ((cs.dropWhile Char.isDigit).head?.all isSlash)

/-- An empty user and password leave no trace; any other needs a host. -/
def isNamedUser (user : Option (List Char)) : Bool :=
  user.any fun cs => cs ≠ [] && cs ≠ [':']

def isAuthority (kind : SchemeKind) (rest : List Char) : Bool :=
  let authority := rest.takeWhile (!endsAuthority kind ·)
  let (user, behind) := splitUser authority
  let (host, port) := splitPort false behind
  let isHost :=
    if host = [] then
      kind = .other && port = [] && !isNamedUser user &&
        (user ≠ some [] || rest.length = authority.length)
    else if kind = .other then isOpaqueHost host
    else isNetworkHost host
  isHost && (port = [] || isPort (port.drop 1))

def isDriveLetter : List Char → Bool
  | [letter, sign] => letter.isAlpha && (sign == ':' || sign == '|')
  | _ => false

/-- A file may name a host, but neither user nor port. -/
def isFileAuthority (rest : List Char) : Bool :=
  let host := rest.takeWhile (!endsAuthority .file ·)
  host = [] || isDriveLetter host || isNetworkHost host

def isAbsolute (uri : String) : Bool :=
  let cs := (Text.dropEnds (· ≤ ' ') uri.toList).filter fun c => c ≠ '\t' ∧ c ≠ '\n' ∧ c ≠ '\r'
  match splitScheme cs with
  | none => false
  | some (.network, rest) => isAuthority .network (rest.dropWhile isSlash)
  | some (.file, a :: b :: rest) => !(isSlash a && isSlash b) || isFileAuthority rest
  | some (.other, '/' :: '/' :: rest) => isAuthority .other rest
  | some _ => true

end ApiGateway.Uri
