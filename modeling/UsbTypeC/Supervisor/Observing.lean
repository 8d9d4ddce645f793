import UsbTypeC.Supervisor.State

/-! Registering observers. Events are watched while there is an observer. The
first one makes the supervisor look around: whether wakeup is supported, whether
the controller is a host, and where the contaminant state is told. An observer
that takes the place of another changes nothing else. -/

namespace UsbTypeC.Supervisor

def lookAround (state : Supervisor) : Supervisor :=
  let (files, wakeupIgnored) := state.configuration.autosuspend.settleWakeup state.files
  let controller := state.properties.getOrEmpty Properties.controllerKey
  let disabled := if files.hasHostController controller then "1" else "0"
  { state with
    files := files
    wakeupIgnored := wakeupIgnored
    properties := state.properties.trySet Properties.adbDisabledKey disabled
    contaminantFile := state.configuration.contaminantFiles.find? files.has }

/-- Only the step from no observer to one looks around. -/
def register (state : Supervisor) (observer : Option Observer) : Supervisor :=
  let replaced := { state with observer }
  match state.observer, observer with
  | none, some _ => lookAround { replaced with watching := true }
  | some _, none => { replaced with watching := false }
  | _, _ => replaced

/-- Observers are numbered in the order in which they are registered. -/
def attach (state : Supervisor) (detail : StatusDetail) (failure : Option DeliveryFailure) :
    Supervisor :=
  let observer := { number := state.registrations, detail, failure }
  { state with registrations := state.registrations + 1 }.register (some observer)

def detach (state : Supervisor) : Supervisor :=
  state.register none

end UsbTypeC.Supervisor
