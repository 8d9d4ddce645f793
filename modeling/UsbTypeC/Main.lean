import UsbTypeC.Command
import UsbTypeC.Files.Snapshot

/-! The program. It reads a snapshot of the tree from standard input and runs the
command that its arguments ask for. Behind what the command prints, and an empty
line, stands a line for each entry that the command changed. -/

namespace UsbTypeC

def environmentNames : List String :=
  [Invocation.rootVariable, Invocation.timeoutVariable, Invocation.primaryPortVariable]

def environment : IO (List (String × String)) :=
  environmentNames.filterMapM fun name => do
    return (← IO.getEnv name).map (name, ·)

partial def remainingLines (input : IO.FS.Stream) (lines : List String) :
    IO (List String) := do
  let line ← input.getLine
  if line.isEmpty then return lines.reverse
  else remainingLines input (String.ofList (line.toList.filter (· ≠ '\n')) :: lines)

def runOn (tree : Tree) (arguments : List String) : IO UInt32 := do
  let printed := Command.run {
    tree
    workingDirectory := []
    environment := ← environment
    platformProperties := .unavailable
    colored := ← (← IO.getStdout).isTty } arguments
  IO.print printed.output
  IO.eprint printed.errors
  let changes := Snapshot.changeLines tree printed.tree
  unless changes.isEmpty do
    IO.println ""
    changes.forM IO.println
  return UInt32.ofNat printed.exitCode

end UsbTypeC

def main (arguments : List String) : IO UInt32 := do
  let lines ← UsbTypeC.remainingLines (← IO.getStdin) []
  match UsbTypeC.Snapshot.tree? lines with
  | some tree => UsbTypeC.runOn tree arguments
  | none =>
      IO.eprintln "error: the snapshot has a line that is not an entry"
      return 2
