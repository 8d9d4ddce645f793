import UsbTypeC.Files.Tree

/-! What became different between two states of a tree: the new content of each
regular file that is new or holds something else, and what each pipe has received
since. -/

namespace UsbTypeC

inductive Change where
  | content (content : Bytes)
  | received (bytes : Bytes)
  deriving DecidableEq, Repr

namespace Tree

def change? (before : Tree) (entry : Entry) : Option (Location × Change) :=
  match entry.2, before.node? entry.1 with
  | .file content, some (.file old) =>
      if content = old then none else some (entry.1, .content content)
  | .file content, _ => some (entry.1, .content content)
  | .pipe received, some (.pipe old) =>
      if received.length ≤ old.length then none
      else some (entry.1, .received (received.drop old.length))
  | _, _ => none

def changes (before after : Tree) : List (Location × Change) :=
  after.entries.filterMap before.change?

end Tree

end UsbTypeC
