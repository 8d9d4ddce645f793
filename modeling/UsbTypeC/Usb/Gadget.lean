import UsbTypeC.Files.Root

/-! The USB gadget: the power it announces to draw, and the controller it is bound
to. -/

namespace UsbTypeC

/-- The power attributes of a gadget configuration, kept as they were read so
that they can be written back unchanged. -/
structure PowerDraw where
  maxPower : String
  attributes : String
  deriving DecidableEq, Repr

/-- No power from the bus, and a mark that says so. -/
def PowerDraw.selfPowered : PowerDraw where
  maxPower := "0"
  attributes := "0xc0"

structure Gadget where
  directory : Path
  configuration : String
  deriving DecidableEq, Repr

namespace Gadget

def attributePath (gadget : Gadget) (name : String) : Path :=
  ((gadget.directory.join "configs").join gadget.configuration).join name

def maxPowerPath (gadget : Gadget) : Path :=
  gadget.attributePath "MaxPower"

def attributesPath (gadget : Gadget) : Path :=
  gadget.attributePath "bmAttributes"

def controllerPath (gadget : Gadget) : Path :=
  gadget.directory.join "UDC"

def announced (gadget : Gadget) (files : Files) : Except Error PowerDraw := do
  let maxPower ← files.readText gadget.maxPowerPath
  let attributes ← files.readText gadget.attributesPath
  .ok { maxPower, attributes }

/-- Both attributes are written even when the first cannot be, and the first
failure is the one that is told. -/
def announce (gadget : Gadget) (files : Files) (draw : PowerDraw) :
    Files × Except Error Unit :=
  let afterFirst := files.tryOverwrite gadget.maxPowerPath draw.maxPower
  let afterBoth := afterFirst.tryOverwrite gadget.attributesPath draw.attributes
  let result := do
    let _ ← files.overwrite gadget.maxPowerPath draw.maxPower
    let _ ← afterFirst.overwrite gadget.attributesPath draw.attributes
    .ok ()
  (afterBoth, result)

def bind (gadget : Gadget) (files : Files) (controller : String) : Except Error Files :=
  files.overwrite gadget.controllerPath controller

end Gadget

end UsbTypeC
