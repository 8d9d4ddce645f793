import UsbTypeC.Usb.Gadget

/-! What the gadget announces while power is delivered. As long as power delivery
is negotiated it announces that it powers itself, and afterwards it announces
again what it announced before. -/

namespace UsbTypeC

def powerDelivery : String := "usb_power_delivery"

/-- The power operation mode seen last, and what to announce again once power
delivery ends. -/
structure PowerOverride where
  mode : Option String
  saved : Option PowerDraw
  deriving DecidableEq, Repr

namespace PowerOverride

def initial : PowerOverride where
  mode := none
  saved := none

def inForce (power : PowerOverride) : Bool :=
  power.saved.isSome

/-- What is kept already is not replaced, since it was read before the override. -/
def toRestore (power : PowerOverride) (gadget : Gadget) (files : Files) :
    Option PowerDraw :=
  match power.saved with
  | some saved => some saved
  | none => (gadget.announced files).toOption

/-- Only a change of the mode does anything. What to restore is kept on entry, and
forgotten once it is restored. -/
def follow (power : PowerOverride) (gadget : Gadget) (files : Files) (mode : String) :
    PowerOverride × Files :=
  if power.mode = some mode then (power, files)
  else if mode = powerDelivery then
    ({ mode := some mode, saved := power.toRestore gadget files },
      (gadget.announce files .selfPowered).1)
  else match power.saved with
    | some saved => ({ mode := some mode, saved := none }, (gadget.announce files saved).1)
    | none => ({ mode := some mode, saved := none }, files)

end PowerOverride

end UsbTypeC
