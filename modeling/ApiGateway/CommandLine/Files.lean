import ApiGateway.Text.Join

/-! A working directory as the program sees it: ordinary files by their paths, and the directories
that those paths pass through. Of what lies outside, the directories above it and the root are
known. Devices, links and access rights are no part of it: where a name does not lead to a
directory, it leads to an ordinary file or to nothing. -/

namespace ApiGateway.CommandLine

inductive WriteError
  | notFound | notDirectory | isDirectory | nameTooLong
  deriving DecidableEq

def WriteError.message : WriteError → String
  | notFound => "No such file or directory (os error 2)"
  | notDirectory => "Not a directory (os error 20)"
  | isDirectory => "Is a directory (os error 21)"
  | nameTooLong => "File name too long (os error 36)"

/-- The steps from the working directory to a file. -/
abbrev FilePath := List String

namespace FilePath

def root : String := "/"

def parent : String := ".."

/-- Where a step leads to. Above the root is the root. -/
def next (p : FilePath) (step : String) : FilePath :=
  if step = "." then p
  else if step = parent then
    match p.getLast? with
    | none => [parent]
    | some last => if last = root then p else if last = parent then p ++ [parent] else p.dropLast
  else p ++ [step]

/-- The place where a name starts, and its steps from there. -/
def stepsOf (name : String) : FilePath × List String :=
  (if name.toList.head? = some '/' then [root] else [],
    ((Text.pieces '/' name.toList).filter (· ≠ [])).map String.ofList)

def ofName (name : String) : FilePath := (stepsOf name).2.foldl next (stepsOf name).1

def maxStep : Nat := 255

def maxName : Nat := 4095

end FilePath

structure Files where
  entries : List (FilePath × ByteArray)

namespace Files

open FilePath

def get? (fs : Files) (p : FilePath) : Option ByteArray := fs.entries.lookup p

def isDirectory (fs : Files) (p : FilePath) : Bool :=
  p.all (fun step => step = parent ∨ step = root) ||
    (fs.entries.map (·.1)).any fun q => p.isPrefixOf q && p ≠ q

def enter (fs : Files) (p : FilePath) (step : String) : Except WriteError FilePath :=
  let q := p.next step
  if fs.isDirectory q then .ok q
  else if maxStep < step.utf8ByteSize then .error .nameTooLong
  else .error (if (fs.get? q).isSome then .notDirectory else .notFound)

/-- The place of the file with this name, there or not. The steps of the name are taken one after
the other; a slash at its end asks for a directory. -/
def locate (fs : Files) (name : String) : Except WriteError FilePath :=
  let (start, steps) := stepsOf name
  if name = "" then .error .notFound
  else if maxName < name.utf8ByteSize then .error .nameTooLong
  else do
    let directory ← steps.dropLast.foldlM fs.enter start
    match steps.getLast? with
    | none => .error .isDirectory
    | some last =>
      let p := directory.next last
      if last = "." ∨ last = parent ∨ name.toList.getLast? = some '/' then .error .isDirectory
      else if maxStep < last.utf8ByteSize then .error .nameTooLong
      else if fs.isDirectory p then .error .isDirectory
      else .ok p

def read? (fs : Files) (name : String) : Option ByteArray :=
  match fs.locate name with
  | .ok p => fs.get? p
  | .error _ => none

/-- The text of a file, if it is there and holds text. -/
def readText? (fs : Files) (name : String) : Option String :=
  (fs.read? name).bind String.fromUTF8?

def put (fs : Files) (p : FilePath) (content : ByteArray) : Files :=
  if (fs.get? p).isSome then ⟨fs.entries.map fun e => if e.1 = p then (p, content) else e⟩
  else ⟨fs.entries ++ [(p, content)]⟩

/-- Creates or replaces a file; its directory has to be there. -/
def write (fs : Files) (name : String) (text : String) : Except WriteError Files :=
  (fs.locate name).map fun p => fs.put p text.toUTF8

end Files
end ApiGateway.CommandLine
