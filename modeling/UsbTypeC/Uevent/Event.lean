import UsbTypeC.Files.Path
import UsbTypeC.Uevent.Message
import UsbTypeC.Uevent.Pattern

/-! Sorting the messages of the kernel into the few kinds that something is done
about. The kinds are tried in a fixed order, and the first that fits decides. -/

namespace UsbTypeC.Uevent

inductive ControllerAction where
  | add
  | remove
  deriving DecidableEq, Repr

/-- An event names what it is about; a device is named by its path in the file system. -/
inductive Event where
  | portChanged (partnerAppeared : Bool)
  | supplyChanged (name : Option String)
  | deviceAppeared (device : Path)
  | interfaceAppeared (device : Path) (interface : String)
  | gadgetController (action : ControllerAction)
  | hostLost (controller : String)
  deriving DecidableEq, Repr

namespace ControllerAction

def name : ControllerAction → String
  | .add => "add"
  | .remove => "remove"

def ofName? : String → Option ControllerAction
  | "add" => some .add
  | "remove" => some .remove
  | _ => none

end ControllerAction

def after? (text : String) (characters : List Char) : Option (List Char) :=
  withoutPrefix? text.toList characters

/-- Devices have their files below `/sys`, at the path that the kernel names. -/
def systemPath (devicePath : List Char) : Path :=
  (Path.mk "/sys").join (String.ofList (devicePath.dropWhile (· == '/')))

def portChanged? (header : List Char) : Option Event :=
  if occursIn "typec/port".toList header then
    some (.portChanged ((after? "add@" header).isSome &&
      (withoutSuffix? "-partner".toList header).isSome))
  else none

def supplyName? (fields : List String) : Option String :=
  fields.findSome? fun field =>
    (after? "POWER_SUPPLY_NAME=" field.toList).map String.ofList

def supplyChanged? (header : List Char) (fields : List String) : Option Event :=
  if occursIn "power_supply/usb".toList header then
    some (.supplyChanged (supplyName? fields))
  else none

def deviceAppeared? (header : List Char) : Option Event := do
  let device ← after? "add@" header
  if hostedDevice device then some (.deviceAppeared (systemPath device)) else none

def interfaceAppeared? (header : List Char) : Option Event := do
  let path ← after? "bind@" header
  let (device, interface) ← interfaceOf? path
  if hostedDevice device then
    some (.interfaceAppeared (systemPath device) (String.ofList interface))
  else none

def controllerChanged? (controller : String) (action : ControllerAction)
    (header : List Char) : Option Event := do
  let path ← after? (action.name ++ "@") header
  if gadgetController controller path then some (.gadgetController action) else none

def gadgetController? (controller : String) (header : List Char) : Option Event :=
  if controller.isEmpty then none
  else controllerChanged? controller .add header <|>
    controllerChanged? controller .remove header

def hostLost? (header : List Char) : Option Event := do
  let path ← after? "offline@" header
  if lostHost path then
    (controller? header).map fun controller => .hostLost (String.ofList controller)
  else none

/-- The gadget's controller is known by name, or not at all if the name is empty.
Interfaces are of no interest while wakeup is ignored. -/
def event? (controller : String) (wakeupIgnored : Bool) (message : Bytes) : Option Event :=
  let header := (header message).toList
  portChanged? header <|>
    supplyChanged? header (fields message) <|>
    deviceAppeared? header <|>
    (if wakeupIgnored then none else interfaceAppeared? header) <|>
    gadgetController? controller header <|>
    hostLost? header

end UsbTypeC.Uevent
