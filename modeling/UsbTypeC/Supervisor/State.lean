import UsbTypeC.Configuration
import UsbTypeC.Notification
import UsbTypeC.Port.Survey
import UsbTypeC.Property
import UsbTypeC.RoleChange

/-! The supervisor of the Type-C ports: the files and properties it works on,
who observes it, and what it remembers from one event to the next. -/

namespace UsbTypeC

/-- Everything that a later answer can depend on. The deliveries are a record of what
observers were told, and nothing is ever decided by them. -/
structure Supervisor where
  configuration : Configuration
  controller : String
  files : Files
  properties : Properties
  observer : Option Observer
  registrations : Nat
  watching : Bool
  contaminantFile : Option Path
  wakeupIgnored : Bool
  powerOverride : PowerOverride
  contaminantPresent : Bool
  partner : Handshake
  switching : Bool
  deliveries : List Delivery

namespace Supervisor

/-- The name of the gadget's controller is looked up once, when the supervisor
starts, for telling events apart. -/
def started (configuration : Configuration) (properties : Properties) (files : Files) :
    Supervisor where
  configuration := configuration
  controller := properties.getOrEmpty Properties.controllerKey
  files := files
  properties := properties
  observer := none
  registrations := 0
  watching := false
  contaminantFile := none
  wakeupIgnored := false
  powerOverride := .initial
  contaminantPresent := false
  partner := .idle
  switching := false
  deliveries := []

def opened (configuration : Configuration) (properties : Properties) (tree : Tree)
    (workingDirectory : Location) : Except Error Supervisor :=
  (Files.opened tree workingDirectory configuration.root).map
    (started configuration properties)

def survey (state : Supervisor) : Survey where
  primaryPort := state.configuration.primaryPort
  contaminantFile := state.contaminantFile

def statuses (state : Supervisor) (detail : StatusDetail) :
    Except Error (List PortStatus) :=
  state.survey.statuses state.files detail

def deliver (state : Supervisor) (observer : Observer) (notification : Notification) :
    Supervisor :=
  { state with deliveries := state.deliveries ++ [observer.deliver notification] }

/-- Telling the observer, if there is one, about every port. -/
def tellStatuses (state : Supervisor) : Supervisor :=
  match state.observer with
  | none => state
  | some observer =>
      let (ports, outcome) := state.survey.report state.files observer.detail
      state.deliver observer (.statuses ports outcome)

def tellSwitch (state : Supervisor) (port : PortName) (role : Role)
    (outcome : Outcome) : Supervisor :=
  match state.observer with
  | none => state
  | some observer => state.deliver observer (.switched port role outcome)

end Supervisor

end UsbTypeC
