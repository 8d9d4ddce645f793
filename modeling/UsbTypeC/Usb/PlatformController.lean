import UsbTypeC.Files.Root
import UsbTypeC.Text.Pieces

/-! The USB controllers among the devices of the platform: whether one of them can
wake the system, and whether one is a host. -/

namespace UsbTypeC

def platformDevices : Path := ⟨"sys/bus/platform/devices"⟩

namespace PlatformController

def nameMark : String := "susb"

def least? : List String → Option String
  | [] => none
  | name :: rest =>
      match least? rest with
      | some least => some (if name < least then name else least)
      | none => some name

/-- The USB controller of the platform is the first, by name, of the devices whose
names carry the mark. -/
def first? (files : Files) : Option String :=
  match files.listing platformDevices with
  | .error _ => none
  | .ok listing =>
      least? ((listing.map ListedEntry.name).filter fun name =>
        occursIn nameMark.toList name.toList)

def canWake (files : Files) : Bool :=
  match first? files with
  | some controller =>
      files.has ((platformDevices.join controller).join "power/wakeup")
  | none => false

end PlatformController

def hostMark : String := "xhci-hcd"

/-- A platform controller is in host mode while it has a host controller below
it. -/
def Files.hasHostController (files : Files) (controller : String) : Bool :=
  if controller.isEmpty || controller.toList.contains '/' then false
  else match files.listing (platformDevices.join controller) with
    | .ok listing => listing.any fun entry => occursIn hostMark.toList entry.name.toList
    | .error _ => false

end UsbTypeC
