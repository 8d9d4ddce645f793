import UsbTypeC.Error
import UsbTypeC.Text.Blank
import UsbTypeC.Text.Utf8

/-! System properties as two tools tell and set them. A property counts as unset
when the tool that tells it fails or prints nothing but blanks. -/

namespace UsbTypeC

/-- Whether the tools are installed, how they exit, and what the telling one prints. -/
structure PropertyTool where
  installed : Bool
  exitCode : Nat
  printed : Bytes
  deriving DecidableEq, Repr

namespace PropertyTool

def getCommand (key : String) : List String :=
  ["getprop", key]

def setCommand (key value : String) : List String :=
  ["setprop", key, value]

/-- A word with a NUL in it cannot be handed to a tool. -/
def started (tool : PropertyTool) (command : List String) : Except Fault Unit :=
  if command.any fun word => word.toList.contains '\x00' then .error .invalidInput
  else if tool.installed then .ok ()
  else .error .entityNotFound

def get? (tool : PropertyTool) (key : String) : Option String :=
  match tool.started (getCommand key) with
  | .error _ => none
  | .ok _ =>
      let value := trimmed (Utf8.lossy tool.printed)
      if tool.exitCode = 0 ∧ value ≠ "" then some value else none

def getOrEmpty (tool : PropertyTool) (key : String) : String :=
  (tool.get? key).getD ""

def set (tool : PropertyTool) (key value : String) : Except Error Unit :=
  match tool.started (setCommand key value) with
  | .error fault => .error (.fault fault)
  | .ok _ => if tool.exitCode = 0 then .ok () else .error (.fault .other)

/-- The commands that reach the tools, word by word. -/
def record (tool : PropertyTool) (command : List String) : String :=
  match tool.started command with
  | .ok _ => String.join (command.map (· ++ "\n"))
  | .error _ => ""

end PropertyTool

end UsbTypeC
