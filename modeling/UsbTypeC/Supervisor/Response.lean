import UsbTypeC.Supervisor.State
import UsbTypeC.Uevent.Event

/-! What is done about each kind of event. -/

namespace UsbTypeC.Supervisor

/-- The power operation mode of the primary port decides over the gadget's power
budget. A mode that cannot be read decides nothing. -/
def followPowerMode (state : Supervisor) : Supervisor :=
  match state.files.powerOperationMode state.configuration.primaryPort with
  | .error _ => state
  | .ok mode =>
      let (powerOverride, files) :=
        state.powerOverride.follow state.configuration.gadget state.files mode
      { state with powerOverride, files }

def afterPortChange (state : Supervisor) (partnerAppeared : Bool) : Supervisor :=
  let signalled := if partnerAppeared then { state with partner := .confirmed } else state
  signalled.followPowerMode.tellStatuses

/-- A port without a partner goes back to dual role, so that one left in a forced
role can still attach. -/
def releaseIfIdle (files : Files) (entry : FoundPort) : Files :=
  if files.partnerPresent entry.name then files
  else files.tryOverwrite (files.controlPath entry.name .mode) Role.dual

def releaseIdlePorts (state : Supervisor) : Supervisor :=
  match state.files.ports with
  | .error _ => state
  | .ok entries => { state with files := entries.foldl releaseIfIdle state.files }

def tellsContaminant (state : Supervisor) : Bool :=
  match state.observer with
  | some observer => observer.detail.tellsContaminant
  | none => false

/-- The presence of a contaminant, if this supply, this observer and this device
have anything to say about it. -/
def contaminantReading? (state : Supervisor) (name : Option String) : Option Bool :=
  if state.tellsContaminant ∧ (name = none ∨ name = some "usb") then
    match state.contaminantFile with
    | some path => (state.files.contaminantPresent path).toOption
    | none => none
  else none

/-- While a switch is in flight it owns the mode files, and no port is reset. -/
def afterSupplyChange (state : Supervisor) (name : Option String) : Supervisor :=
  match state.contaminantReading? name with
  | none => state
  | some present =>
      let cached := { state with contaminantPresent := present }
      let told := if state.contaminantPresent = present then cached else cached.tellStatuses
      if told.switching then told else told.releaseIdlePorts

def setAdbDisabled (state : Supervisor) (value : String) : Supervisor :=
  { state with properties := state.properties.trySet Properties.adbDisabledKey value }

/-- Without the debug bridge around to bind the gadget, it has to be done here. -/
def bindGadget (state : Supervisor) : Supervisor :=
  if state.properties.getOrEmpty Properties.adbStateKey = "running" then state
  else
    let controller := state.properties.getOrEmpty Properties.controllerKey
    match state.configuration.gadget.bind state.files controller with
    | .ok files => { state with files }
    | .error _ => state

def afterControllerChange (state : Supervisor) : Uevent.ControllerAction → Supervisor
  | .add => (state.setAdbDisabled "0").bindGadget
  | .remove => state.setAdbDisabled "1"

def controllerModePath (controller : String) : Path :=
  (platformDevices.join controller).join "mode"

/-- Going through mode `none` makes the controller look for its devices again. -/
def reviveHost (state : Supervisor) (controller : String) : Supervisor :=
  let path := controllerModePath controller
  { state with files := (state.files.tryOverwrite path "none").tryOverwrite path "host" }

/-- What an event is answered with. -/
def respond (state : Supervisor) : Uevent.Event → Supervisor
  | .portChanged partnerAppeared => state.afterPortChange partnerAppeared
  | .supplyChanged name => state.afterSupplyChange name
  | .deviceAppeared device =>
      { state with
        files := (state.configuration.autosuspend.admitDevice state.files device).1 }
  | .interfaceAppeared device interface =>
      { state with
        files := (state.configuration.autosuspend.admitInterface state.files device
          interface).1 }
  | .gadgetController action => state.afterControllerChange action
  | .hostLost controller => state.reviveHost controller

def event? (state : Supervisor) (message : Bytes) : Option Uevent.Event :=
  Uevent.event? state.controller state.wakeupIgnored message

/-- A message of no known kind changes nothing. -/
def receive (state : Supervisor) (message : Bytes) : Supervisor :=
  match state.event? message with
  | some event => state.respond event
  | none => state

end UsbTypeC.Supervisor
