import UsbTypeC.Port.Status
import UsbTypeC.Report.Style

/-! The status of all ports as a tree of lines: a heading for every port, and
below it a line for each thing that is known about it. -/

namespace UsbTypeC.StatusTree

def branch : String := "│── "

def trunk : String := "│   "

def line (text : String) : String :=
  text ++ "\n"

def heading (colored : Bool) (text : String) : String :=
  Style.boldBrightGreen.apply colored text ++ Style.boldBrightGreen.apply colored ":"

def property (colored : Bool) (label value : String) : String :=
  trunk ++ Style.boldBlue.apply colored "✱" ++ "   " ++
    Style.bold.apply colored (label ++ ":") ++ " " ++ value

def flag (colored : Bool) (value : Bool) : String :=
  Style.magenta.apply colored (if value then "true" else "false")

def role (colored : Bool) (name : Option String) : String :=
  match name with
  | some name => Style.brightCyan.apply colored name
  | none => Style.gray.apply colored "none"

def names (colored : Bool) (list : List String) : String :=
  Style.brightCyan.apply colored (", ".intercalate list)

def namesOrNone (colored : Bool) (list : List String) : String :=
  if list.isEmpty then Style.gray.apply colored "(none)" else names colored list

def contaminantLines (colored : Bool) (info : ContaminantState) : List String :=
  [property colored "Contaminant detection"
      (Style.magenta.apply colored info.detection.name),
    property colored "Contaminant protection"
      (Style.magenta.apply colored info.protection.name),
    property colored "Protection modes"
      (namesOrNone colored (info.protectionModes.map ProtectionMode.name))]

def portHeading (colored : Bool) (port : PortName) : String :=
  branch ++ heading colored ("Port " ++ Style.boldYellow.apply colored port.text)

def portLines (colored : Bool) (status : PortStatus) : List String :=
  [portHeading colored status.port,
    property colored "Connected" (flag colored status.connected),
    property colored "Power role" (role colored (status.powerRole.map PowerRole.name)),
    property colored "Data role" (role colored (status.dataRole.map DataRole.name)),
    property colored "Mode" (role colored (status.mode.map PortMode.name)),
    property colored "Can change mode" (flag colored status.modeChangeable),
    property colored "Can change data role" (flag colored status.dataRoleChangeable),
    property colored "Can change power role" (flag colored status.powerRoleChangeable),
    property colored "Supported modes"
      (names colored (status.offeredModes.map PortMode.name))] ++
  match status.contaminant with
  | some info => contaminantLines colored info
  | none => []

def lines (colored : Bool) (ports : List PortStatus) : List String :=
  heading colored "Ports" ::
    if ports.isEmpty then [branch ++ Style.gray.apply colored "(none)"]
    else ports.flatMap (portLines colored)

/-- The whole tree, each line ended by a line break. -/
def render (colored : Bool) (ports : List PortStatus) : String :=
  String.join ((lines colored ports).map line)

end UsbTypeC.StatusTree
