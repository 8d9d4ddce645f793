import UsbTypeC.Error

/-! The roles a port can take, by which name they are asked for, and what is
written to a control file to request one. -/

namespace UsbTypeC

inductive RoleKind where
  | power
  | data
  | mode
  deriving DecidableEq, Repr

inductive PowerRole where
  | source
  | sink
  deriving DecidableEq, Repr

inductive DataRole where
  | host
  | device
  deriving DecidableEq, Repr

/-- In mode `ufp` a port faces a host, in mode `dfp` it faces a device, and in mode
`drp` either side may negotiate. -/
inductive PortMode where
  | ufp
  | dfp
  | drp
  | audioAccessory
  | debugAccessory
  deriving DecidableEq, Repr

/-- A role that a port can be asked to take. -/
inductive Role where
  | power (role : PowerRole)
  | data (role : DataRole)
  | mode (mode : PortMode)
  deriving DecidableEq, Repr

/-- A role as a role attribute spells it. -/
inductive RoleWord where
  | source
  | sink
  | host
  | device
  | none
  deriving DecidableEq, Repr

inductive Accessory where
  | none
  | analogAudio
  | debug
  deriving DecidableEq, Repr

def parsed (value? : Option α) : Except Error α :=
  match value? with
  | some value => .ok value
  | none => .error .malformed

namespace RoleKind

def name : RoleKind → String
  | .power => "power"
  | .data => "data"
  | .mode => "mode"

def ofName? : String → Option RoleKind
  | "power" => some .power
  | "power_role" => some .power
  | "data" => some .data
  | "data_role" => some .data
  | "mode" => some .mode
  | _ => none

end RoleKind

namespace PowerRole

def name : PowerRole → String
  | .source => "source"
  | .sink => "sink"

def ofName? : String → Option PowerRole
  | "source" => some .source
  | "sink" => some .sink
  | _ => none

end PowerRole

namespace DataRole

def name : DataRole → String
  | .host => "host"
  | .device => "device"

def ofName? : String → Option DataRole
  | "host" => some .host
  | "device" => some .device
  | _ => none

end DataRole

namespace PortMode

def name : PortMode → String
  | .ufp => "ufp"
  | .dfp => "dfp"
  | .drp => "drp"
  | .audioAccessory => "audio_accessory"
  | .debugAccessory => "debug_accessory"

def ofName? : String → Option PortMode
  | "ufp" => some .ufp
  | "dfp" => some .dfp
  | "drp" => some .drp
  | "audio_accessory" => some .audioAccessory
  | "debug_accessory" => some .debugAccessory
  | _ => none

end PortMode

namespace RoleWord

def name : RoleWord → String
  | .source => "source"
  | .sink => "sink"
  | .host => "host"
  | .device => "device"
  | .none => "none"

def ofName? : String → Option RoleWord
  | "source" => some .source
  | "sink" => some .sink
  | "host" => some .host
  | "device" => some .device
  | "none" => some .none
  | _ => Option.none

end RoleWord

namespace Accessory

def name : Accessory → String
  | .none => "none"
  | .analogAudio => "analog_audio"
  | .debug => "debug"

def ofName? : String → Option Accessory
  | "none" => some .none
  | "analog_audio" => some .analogAudio
  | "debug" => some .debug
  | _ => Option.none

end Accessory

namespace Role

def ofName? (kind : RoleKind) (name : String) : Option Role :=
  match kind with
  | .power => (PowerRole.ofName? name).map .power
  | .data => (DataRole.ofName? name).map .data
  | .mode => (PortMode.ofName? name).map .mode

def kind : Role → RoleKind
  | .power _ => .power
  | .data _ => .data
  | .mode _ => .mode

/-- The mode a port falls back to when a forced role fails. -/
def dual : String := "dual"

/-- The text that requests a role. A mode is requested in the words of power roles. -/
def control : Role → String
  | .power .source => "source"
  | .power .sink => "sink"
  | .data .host => "host"
  | .data .device => "device"
  | .mode .ufp => "sink"
  | .mode .dfp => "source"
  | .mode .drp => dual
  | .mode .audioAccessory => "none"
  | .mode .debugAccessory => "none"

def name : Role → String
  | .power role => role.name
  | .data role => role.name
  | .mode chosen => chosen.name

def display (role : Role) : String :=
  role.kind.name ++ ":" ++ role.name

end Role

end UsbTypeC
