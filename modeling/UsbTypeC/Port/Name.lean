import UsbTypeC.Error

/-! Names of ports. A port's files are found by its name, so a name is refused
when it could lead anywhere else: when it is empty, is one of the two names that
every directory gives itself and its parent, or holds a slash or a NUL. -/

namespace UsbTypeC

/-- Whether a text leads to one entry of a directory and to no other place. -/
def PortName.IsValid (text : String) : Prop :=
  text ≠ "" ∧ text ≠ "." ∧ text ≠ ".." ∧ '/' ∉ text.toList ∧ '\x00' ∉ text.toList

instance (text : String) : Decidable (PortName.IsValid text) :=
  inferInstanceAs (Decidable (_ ∧ _ ∧ _ ∧ _ ∧ _))

structure PortName where
  text : String
  valid : PortName.IsValid text
  deriving DecidableEq, Repr

namespace PortName

def of (text : String) : Except Error PortName :=
  if valid : IsValid text then .ok ⟨text, valid⟩ else .error (.badPortName text)

def port0 : PortName where
  text := "port0"
  valid := by decide

def partnerEnding : String := "-partner"

/-- The name of the entry that stands for whatever is attached to the port. -/
def partner (port : PortName) : String :=
  port.text ++ partnerEnding

end PortName

end UsbTypeC
