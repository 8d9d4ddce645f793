import UsbTypeC.Port.Enumeration
import UsbTypeC.Port.Status

/-! Asking for the status of all ports. A survey succeeds for every port or fails
as a whole: the first role that cannot be told ends it, and a connected port's
roles are asked for in the order power, data, mode. Only the contaminant state is
never a reason to fail. -/

namespace UsbTypeC

namespace Files

def contaminantPresent (files : Files) (path : Path) : Except Error Bool :=
  (files.readValue path).map fun text => text.toList.head? == some '1'

/-- A role as it is told, in the words for roles. -/
def roleWord (files : Files) (port : PortName) (kind : RoleKind) :
    Except Error RoleWord := do
  let text ← files.role port kind
  match RoleWord.ofName? text with
  | some word => .ok word
  | none => .error (.unknownRole text)

def powerRole (files : Files) (port : PortName) : Except Error (Option PowerRole) := do
  match ← files.roleWord port .power with
  | .source => .ok (some .source)
  | .sink => .ok (some .sink)
  | .none => .ok none
  | word => .error (.unknownRole word.name)

def dataRole (files : Files) (port : PortName) : Except Error (Option DataRole) := do
  match ← files.roleWord port .data with
  | .host => .ok (some .host)
  | .device => .ok (some .device)
  | .none => .ok none
  | word => .error (.unknownRole word.name)

/-- The mode may be told by a port type or by a data role, so the words of both
are understood. An attached accessory decides the mode by itself. -/
def negotiatedMode (files : Files) (port : PortName) : Except Error (Option PortMode) := do
  match ← files.roleWord port .mode with
  | .source => .ok (some .dfp)
  | .host => .ok (some .dfp)
  | .sink => .ok (some .ufp)
  | .device => .ok (some .ufp)
  | .none => .ok none

def mode (files : Files) (port : PortName) : Except Error (Option PortMode) := do
  match Accessory.ofName? (← files.accessoryMode port) with
  | some .analogAudio => .ok (some .audioAccessory)
  | some .debug => .ok (some .debugAccessory)
  | _ => files.negotiatedMode port

end Files

/-- What a survey needs to know beside the files: which port has a contaminant
detection, and where that tells its state. -/
structure Survey where
  primaryPort : PortName
  contaminantFile : Option Path
  deriving DecidableEq, Repr

structure PortRoles where
  power : Option PowerRole
  data : Option DataRole
  mode : Option PortMode
  deriving DecidableEq, Repr

namespace Survey

def roles (files : Files) (entry : FoundPort) : Except Error PortRoles := do
  if entry.connected then
    let power ← files.powerRole entry.name
    let data ← files.dataRole entry.name
    let mode ← files.mode entry.name
    .ok { power, data, mode }
  else
    .ok { power := none, data := none, mode := none }

/-- Roles can be swapped with a partner that negotiates power delivery. -/
def mayChangeRoles (files : Files) (entry : FoundPort) : Bool :=
  entry.connected &&
    match files.supportsPowerDelivery entry.name with
    | .ok supported => supported
    | .error _ => false

/-- Without a state to read, the primary port protects from nothing. -/
def contaminantState (survey : Survey) (files : Files) (port : PortName) :
    ContaminantState :=
  if port = survey.primaryPort then
    match survey.contaminantFile.map files.contaminantPresent with
    | some (.ok true) => { ContaminantState.default with detection := .detected }
    | some (.ok false) => { ContaminantState.default with detection := .notDetected }
    | _ => { ContaminantState.default with protectionModes := [], protection := .none }
  else ContaminantState.default

def statusOf (survey : Survey) (files : Files) (detail : StatusDetail)
    (entry : FoundPort) : Except Error PortStatus := do
  let roles ← roles files entry
  .ok {
    port := entry.name
    connected := entry.connected
    powerRole := roles.power
    dataRole := roles.data
    mode := roles.mode
    modeChangeable := true
    dataRoleChangeable := mayChangeRoles files entry
    powerRoleChangeable := mayChangeRoles files entry
    offeredModes := detail.offeredModes
    contaminant :=
      if detail.tellsContaminant then some (survey.contaminantState files entry.name) else none }

/-- The status of every port, or what kept it from being told. -/
def statuses (survey : Survey) (files : Files) (detail : StatusDetail) :
    Except Error (List PortStatus) := do
  let entries ← files.ports
  if entries.isEmpty then .error .noPortFound
  else entries.mapM (survey.statusOf files detail)

/-- A failed survey tells nothing about any port. -/
def report (survey : Survey) (files : Files) (detail : StatusDetail) :
    List PortStatus × Outcome :=
  match survey.statuses files detail with
  | .ok ports => (ports, .success)
  | .error _ => ([], .error)

end Survey

end UsbTypeC
