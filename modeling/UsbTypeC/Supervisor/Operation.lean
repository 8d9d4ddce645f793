import UsbTypeC.Supervisor.Response
import UsbTypeC.Supervisor.Observing
import UsbTypeC.Files.Edit

/-! What a supervisor can be asked to do, and what it answers. A role switch is
the only request during which something else can happen: a mode switch waits for
its partner, and meanwhile every other request is served. -/

namespace UsbTypeC

/-- What can be asked for at any time, a switch that waits included. -/
inductive Step where
  | attach (detail : StatusDetail) (failure : Option DeliveryFailure)
  | detach
  | statuses (detail : StatusDetail)
  | tellStatuses
  | detectContaminant (port : String) (enable : Bool)
  | protectFromContaminant (port : String) (enable : Bool)
  | receive (message : Bytes)
  | askWatching
  | askWakeupIgnored
  | askPrimaryPort
  | setProperty (key value : String)
  | getProperty (key : String)
  | edit (place : Location) (edit : Edit)
  deriving DecidableEq, Repr

inductive Operation where
  | step (step : Step)
  | requestRole (port : String) (role : Role) (meanwhile : List Step)
  deriving DecidableEq, Repr

inductive Reply where
  | nothing
  | ports (ports : List PortStatus)
  | flag (flag : Bool)
  | text (text : String)
  | property (value : Option String)
  deriving DecidableEq, Repr

abbrev Answer := Except Error Reply

/-- The record of attempted writes is kept of those that a role switch makes itself. -/
structure OperationAnswer where
  answer : Answer
  meanwhile : Option (List Answer)
  attempts : List Attempt

namespace Supervisor

def edited (state : Supervisor) (place : Location) (edit : Edit) : Supervisor :=
  { state with files := { state.files with tree := state.files.tree.edited place edit } }

/-- The contaminant state is always detected and always protected from, so the two
requests to enable it only tell it again. -/
def step (state : Supervisor) : Step → Supervisor × Answer
  | .attach detail failure => (state.attach detail failure, .ok .nothing)
  | .detach => (state.detach, .ok .nothing)
  | .statuses detail => (state, (state.statuses detail).map .ports)
  | .tellStatuses => (state.tellStatuses, .ok .nothing)
  | .detectContaminant _ _ => (state.tellStatuses, .ok .nothing)
  | .protectFromContaminant _ _ => (state.tellStatuses, .ok .nothing)
  | .receive message => (state.receive message, .ok .nothing)
  | .askWatching => (state, .ok (.flag state.watching))
  | .askWakeupIgnored => (state, .ok (.flag state.wakeupIgnored))
  | .askPrimaryPort => (state, .ok (.text state.configuration.primaryPort.text))
  | .setProperty key value =>
      match state.properties.set key value with
      | .ok properties => ({ state with properties }, .ok .nothing)
      | .error error => (state, .error error)
  | .getProperty key => (state, .ok (.property (state.properties.get? key)))
  | .edit place edit => (state.edited place edit, .ok .nothing)

def steps (state : Supervisor) : List Step → Supervisor × List Answer
  | [] => (state, [])
  | step :: rest =>
      let (next, answer) := state.step step
      let (last, answers) := next.steps rest
      (last, answer :: answers)

/-- A switch that is in flight shares the files and the partner signal with what
is served meanwhile. -/
def switchPort (state : Supervisor) (port : PortName) (role : Role)
    (meanwhile : List Step) : Supervisor × OperationAnswer :=
  let ended := RoleChange.run state.files state.partner port role fun files partner =>
    let (served, answers) := steps { state with files, partner, switching := true } meanwhile
    (served.files, served.partner, (served, answers))
  let served := (ended.meanwhile.map Prod.fst).getD state
  let settled :=
    { served with files := ended.files, partner := ended.partner, switching := false }
  (settled.tellSwitch port role (.ofResult ended.result),
    { answer := ended.result.map fun _ => .nothing
      meanwhile := some ((ended.meanwhile.map Prod.snd).getD [])
      attempts := ended.attempts })

def requestRole (state : Supervisor) (port : String) (role : Role)
    (meanwhile : List Step) : Supervisor × OperationAnswer :=
  match PortName.of port with
  | .error error => (state, { answer := .error error, meanwhile := none, attempts := [] })
  | .ok port => state.switchPort port role meanwhile

/-- One operation, and what it answers. -/
def operate (state : Supervisor) : Operation → Supervisor × OperationAnswer
  | .step step =>
      let (next, answer) := state.step step
      (next, { answer, meanwhile := none, attempts := [] })
  | .requestRole port role meanwhile => state.requestRole port role meanwhile

/-- One operation after another, each on the state that the last one left. -/
def run (state : Supervisor) : List Operation → Supervisor × List OperationAnswer
  | [] => (state, [])
  | operation :: rest =>
      let (next, answer) := state.operate operation
      let (last, answers) := next.run rest
      (last, answer :: answers)

end Supervisor

end UsbTypeC
