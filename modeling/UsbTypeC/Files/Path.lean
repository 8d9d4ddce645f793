import UsbTypeC.Text.Pieces

/-! Paths as texts. Joining keeps whatever was written: an absolute path replaces
what came before it, and an empty one leaves a slash at the end. What a path asks
for is its list of steps, one name at a time; a slash at the end adds the step
`.`, which only a directory can take. -/

namespace UsbTypeC

structure Path where
  text : String
  deriving DecidableEq, Repr

namespace Path

def isAbsolute (path : Path) : Bool :=
  path.text.toList.head? == some '/'

/-- A path below another one. -/
def join (base : Path) (child : String) : Path :=
  if Path.isAbsolute ⟨child⟩ || base.text.isEmpty then ⟨child⟩
  else if base.text.toList.getLast? == some '/' then ⟨base.text ++ child⟩
  else ⟨base.text ++ "/" ++ child⟩

def withoutLeadingSlashes (text : String) : String :=
  String.ofList (text.toList.dropWhile (· == '/'))

/-- The path as seen from a root directory: leading slashes are ignored, and
nothing left means the root itself. -/
def relative (path : Path) : Path :=
  let text := withoutLeadingSlashes path.text
  if text.isEmpty then ⟨"."⟩ else ⟨text⟩

def names (path : Path) : List String :=
  (pieces '/' path.text.toList).map String.ofList

/-- The names to go through, and the step `.` if a slash ends the path. -/
def steps (path : Path) : List String :=
  path.names.filter (· ≠ "") ++ if path.names.getLast? = some "" then ["."] else []

def byteSize (path : Path) : Nat :=
  path.text.utf8ByteSize

def holdsNul (path : Path) : Bool :=
  path.text.toList.contains '\x00'

end Path

end UsbTypeC
