import UsbTypeC.Error

/-! System properties: texts under keys. A store that refuses to be written fails
every write in the same way. -/

namespace UsbTypeC

structure Properties where
  values : List (String × String)
  refusal : Option Fault
  deriving DecidableEq, Repr

namespace Properties

/-- The name of the platform's USB controller. -/
def controllerKey : String := "vendor.usb.controller"

/-- Holds `1` to keep the debug bridge from binding the gadget. -/
def adbDisabledKey : String := "vendor.sys.usb.adb.disabled"

/-- Holds `running` while the debug bridge is up. -/
def adbStateKey : String := "init.svc.adbd"

def empty : Properties where
  values := []
  refusal := none

/-- Where there are no system properties, all of them are unset and stay so. -/
def unavailable : Properties where
  values := []
  refusal := some .entityNotFound

def get? (properties : Properties) (key : String) : Option String :=
  properties.values.lookup key

def getOrEmpty (properties : Properties) (key : String) : String :=
  (properties.get? key).getD ""

def insert (values : List (String × String)) (key value : String) :
    List (String × String) :=
  (key, value) :: values.filter fun entry => entry.1 != key

/-- Writing a property, unless the store refuses. -/
def set (properties : Properties) (key value : String) : Except Error Properties :=
  match properties.refusal with
  | some fault => .error (.fault fault)
  | none => .ok { properties with values := insert properties.values key value }

/-- Writing where a failure is of no consequence. -/
def trySet (properties : Properties) (key value : String) : Properties :=
  match properties.set key value with
  | .ok properties => properties
  | .error _ => properties

end Properties

end UsbTypeC
