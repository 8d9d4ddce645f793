import UsbTypeC.Usb.PlatformController
import UsbTypeC.Text.Numeral

/-! Letting USB devices sleep while they are idle. A new device may sleep when
its vendor and product are on a list; a device with an audio or a hub interface
may sleep whatever it is. -/

namespace UsbTypeC

structure DeviceId where
  vendor : Nat
  product : Nat
  deriving DecidableEq, Repr

def usbDevices : Path := ⟨"sys/bus/usb/devices"⟩

def audioClass : Nat := 1

def hubClass : Nat := 9

/-- The devices that may sleep, and how often the class of an interface is read before
it counts as missing. -/
structure Autosuspend where
  allowed : List DeviceId
  classReads : Nat
  deriving DecidableEq, Repr

namespace Autosuspend

/-- Waking the system is enabled only on a device that may sleep. -/
def letSleep (files : Files) (device : Path) : Files × Bool :=
  match files.overwrite (device.join "power/control") "auto" with
  | .error _ => (files, false)
  | .ok files =>
      match files.overwrite (device.join "power/wakeup") "enabled" with
      | .error _ => (files, false)
      | .ok files => (files, true)

def deviceId (files : Files) (device : Path) : Except Error DeviceId := do
  let vendor ← files.readValue (device.join "idVendor")
  let product ← files.readValue (device.join "idProduct")
  match numeralValue? 16 0x10000 vendor, numeralValue? 16 0x10000 product with
  | some vendor, some product => .ok { vendor, product }
  | _, _ => .error .malformed

/-- Letting a device sleep that is on the list. The answer tells whether it may now. -/
def admitDevice (policy : Autosuspend) (files : Files) (device : Path) : Files × Bool :=
  match deviceId files device with
  | .error _ => (files, false)
  | .ok id => if id ∈ policy.allowed then letSleep files device else (files, false)

/-- A class that reads as nothing may not be there yet, and is read again as
often as the policy allows. -/
def classText (files : Files) (path : Path) : Nat → String
  | 0 => ""
  | attempts + 1 =>
      match files.readValue path with
      | .ok text => if text.isEmpty then classText files path attempts else text
      | .error _ => classText files path attempts

def interfaceClass (policy : Autosuspend) (files : Files) (interface : Path) : Option Nat :=
  numeralValue? 16 0x100
    (classText files (interface.join "bInterfaceClass") policy.classReads)

/-- Letting a device sleep for one of its interfaces. -/
def admitInterface (policy : Autosuspend) (files : Files) (device : Path)
    (interface : String) : Files × Bool :=
  match policy.interfaceClass files (device.join interface) with
  | some number =>
      if number = audioClass ∨ number = hubClass then letSleep files device
      else (files, false)
  | none => (files, false)

/-- The interfaces of a device are tried in turn until one lets it sleep. -/
def admitByInterfaces (policy : Autosuspend) (device : Path) :
    Files → List String → Files
  | files, [] => files
  | files, interface :: rest =>
      match policy.admitInterface files device interface with
      | (files, true) => files
      | (files, false) => admitByInterfaces policy device files rest

def interfaces (listing : List ListedEntry) : List String :=
  (listing.filter fun entry =>
    entry.entryType = .directory ∧ ':' ∈ entry.name.toList).map ListedEntry.name

def admitPresent (policy : Autosuspend) (files : Files) (device : Path) : Files :=
  match files.listing device with
  | .ok listing => policy.admitByInterfaces device files (interfaces listing)
  | .error _ => files

/-- The devices that are already there: every link among the USB devices that is
not an interface and leads to a place below the root. -/
def presentDevices (files : Files) : List Path :=
  match files.listing usbDevices with
  | .error _ => []
  | .ok listing =>
      (listing.filter fun entry =>
        entry.entryType = .symlink ∧ ':' ∉ entry.name.toList).filterMap fun entry =>
          (files.realPath (usbDevices.join entry.name)).toOption

/-- The answer tells whether wakeup is to be ignored. If it is not, the devices
that are already there are treated as if their interfaces had just appeared. -/
def settleWakeup (policy : Autosuspend) (files : Files) : Files × Bool :=
  if PlatformController.canWake files then
    ((presentDevices files).foldl policy.admitPresent files, false)
  else (files, true)

end Autosuspend

end UsbTypeC
