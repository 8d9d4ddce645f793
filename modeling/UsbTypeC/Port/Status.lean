import UsbTypeC.Port.Name
import UsbTypeC.Port.Role

/-! What is known about a port at one moment. How much of it is told depends on
the detail that is asked for; each one tells all that the one before it does. -/

namespace UsbTypeC

/-- How much a status tells, from little to much. -/
inductive StatusDetail where
  | legacy
  | modes
  | contaminant
  deriving DecidableEq, Repr

inductive Detection where
  | notSupported
  | disabled
  | notDetected
  | detected
  deriving DecidableEq, Repr

inductive ProtectionMode where
  | forceSink
  | forceDisable
  deriving DecidableEq, Repr

inductive Protection where
  | none
  | forceSink
  | forceDisable
  | disabled
  deriving DecidableEq, Repr

structure ContaminantState where
  protectionModes : List ProtectionMode
  canEnableProtection : Bool
  canEnableDetection : Bool
  protection : Protection
  detection : Detection
  deriving DecidableEq, Repr

/-- The roles are absent while nothing is attached, and the contaminant state is
absent in the details that do not tell it. -/
structure PortStatus where
  port : PortName
  connected : Bool
  powerRole : Option PowerRole
  dataRole : Option DataRole
  mode : Option PortMode
  modeChangeable : Bool
  dataRoleChangeable : Bool
  powerRoleChangeable : Bool
  offeredModes : List PortMode
  contaminant : Option ContaminantState
  deriving DecidableEq, Repr

/-- Whether what a notification tells about came out well. -/
inductive Outcome where
  | success
  | error
  deriving DecidableEq, Repr

namespace StatusDetail

def name : StatusDetail → String
  | .legacy => "legacy"
  | .modes => "modes"
  | .contaminant => "contaminant"

def ofName? : String → Option StatusDetail
  | "legacy" => some .legacy
  | "modes" => some .modes
  | "contaminant" => some .contaminant
  | _ => none

def rank : StatusDetail → Nat
  | .legacy => 0
  | .modes => 1
  | .contaminant => 2

def order (left right : StatusDetail) : Ordering :=
  compare left.rank right.rank

def offeredModes : StatusDetail → List PortMode
  | .legacy => [.dfp]
  | .modes => [.drp, .audioAccessory]
  | .contaminant => [.drp, .audioAccessory]

/-- Only the richest detail tells about contaminants. -/
def tellsContaminant (detail : StatusDetail) : Bool :=
  contaminant.rank ≤ detail.rank

end StatusDetail

def Detection.name : Detection → String
  | .notSupported => "not_supported"
  | .disabled => "disabled"
  | .notDetected => "not_detected"
  | .detected => "detected"

def ProtectionMode.name : ProtectionMode → String
  | .forceSink => "force_sink"
  | .forceDisable => "force_disable"

def Protection.name : Protection → String
  | .none => "none"
  | .forceSink => "force_sink"
  | .forceDisable => "force_disable"
  | .disabled => "disabled"

/-- What is told about a port that has no contaminant detection of its own. -/
def ContaminantState.default : ContaminantState where
  protectionModes := [.forceSink, .forceDisable]
  canEnableProtection := false
  canEnableDetection := false
  protection := .forceSink
  detection := .notSupported

namespace Outcome

def ofResult : Except Error α → Outcome
  | .ok _ => .success
  | .error _ => .error

def ofSuccess (success : Bool) : Outcome :=
  if success then .success else .error

def name : Outcome → String
  | .success => "success"
  | .error => "error"

end Outcome

end UsbTypeC
