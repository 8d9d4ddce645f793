import Mathlib.Control.Monad.Basic
import UsbTypeC.Proofs.Supervisor.Footprint
import UsbTypeC.Proofs.Usb.PowerBudget

/-! The power attributes along a run. A history of the run remembers the mode that was
read last and what the attributes hold outside of power delivery, and it tells at every
moment what they hold and what is kept to be announced again. -/

namespace UsbTypeC

/-- Whether a step brings an event of a port, which makes the power operation mode
be read. -/
def Step.tellsPort : Step → Bool
  | .receive message => (Uevent.portChanged? (Uevent.header message).toList).isSome
  | _ => false

theorem Step.tellsPort_of_fromOutside {step : Step} (outside : step.fromOutside = true) :
    step.tellsPort = false := by
  cases step with
  | edit place edit => rfl
  | _ => cases outside

/-- The mode that was read last, and what the attributes held before the last stretch of
power delivery or were given from outside since. -/
structure PowerHistory where
  mode : Option String
  own : Except Fault (Bytes × Bytes)

namespace Supervisor

def held (state : Supervisor) : Except Fault (Bytes × Bytes) :=
  state.configuration.gadget.held state.files

def Holds (state : Supervisor) (draw : PowerDraw) : Prop :=
  state.configuration.gadget.Holds state.files draw

def readMode (state : Supervisor) : Except Error String :=
  state.files.powerOperationMode state.configuration.primaryPort

/-- What is held when a stretch of power delivery begins is taken down, and what is
given from outside while there is none. -/
def recorded (state : Supervisor) (history : PowerHistory) (step : Step) : PowerHistory :=
  if step.fromOutside then
    if history.mode = some powerDelivery then history
    else { history with own := (state.step step).1.held }
  else if step.tellsPort then
    match state.readMode with
    | .error _ => history
    | .ok mode =>
        if mode = powerDelivery ∧ history.mode ≠ some powerDelivery then
          { mode := some mode, own := state.held }
        else { history with mode := some mode }
  else history

/-- The history of a run, in which nothing has been read at first. -/
def historyFrom (state : Supervisor) (history : PowerHistory) : List Step → PowerHistory
  | [] => history
  | step :: rest => (state.step step).1.historyFrom (state.recorded history step) rest

def history (state : Supervisor) (served : List Step) : PowerHistory :=
  state.historyFrom { mode := none, own := state.held } served

/-- The attributes are left to the supervisor: whatever it writes for another reason
is elsewhere, and a change from outside leaves two files with texts, which it changes
only as long as there is no override. -/
def Spares (state : Supervisor) (step : Step) : Prop :=
  if step.fromOutside then
    (∃ draw, (state.step step).1.Holds draw) ∧
      (state.powerOverride.inForce = true → (state.step step).1.held = state.held)
  else if step.tellsPort then True
  else ∀ path ∈ state.stepPaths step, state.configuration.gadget.Misses state.files path

def AllSpare (state : Supervisor) : List Step → Prop
  | [] => True
  | step :: rest => state.Spares step ∧ (state.step step).1.AllSpare rest

/-- The history tells what the override remembers and what the attributes hold. -/
structure Agrees (state : Supervisor) (history : PowerHistory) : Prop where
  mode : state.powerOverride.mode = history.mode
  budget : ∃ own : PowerDraw, history.own = .ok own.bytes ∧
    state.powerOverride.Keeps state.configuration.gadget state.files own

/-- Only the event of a port has to do with the override. -/
theorem step_elsewhere (state : Supervisor) {step : Step}
    (elsewhere : step.tellsPort = false) :
    (state.step step).1.configuration = state.configuration ∧
      (state.step step).1.powerOverride = state.powerOverride := by
  by_cases received : ∃ message, step = .receive message
  · rcases received with ⟨message, rfl⟩
    rcases receive_cases state message with
      ⟨partnerAppeared, told, _⟩ | ⟨_, _, _, _, _, changed⟩
    · rw [Step.tellsPort, told] at elsewhere
      cases elsewhere
    · change (state.receive message).configuration = _ ∧
        (state.receive message).powerOverride = _
      rw [changed]
      exact ⟨rfl, rfl⟩
  · have other : ∀ message, step ≠ .receive message :=
      fun message equal => received ⟨message, equal⟩
    rcases step_changes state other with ⟨_, _, _, _, _, _, _, _, changed⟩
    rw [changed]
    exact ⟨rfl, rfl⟩

theorem followPowerMode_of_error {state : Supervisor} {error : Error}
    (unread : state.readMode = .error error) : state.followPowerMode = state := by
  rw [readMode] at unread
  rw [followPowerMode, unread]

theorem followPowerMode_of_ok {state : Supervisor} {mode : String}
    (read : state.readMode = .ok mode) :
    state.followPowerMode =
      { state with
        powerOverride :=
          (state.powerOverride.follow state.configuration.gadget state.files mode).1
        files :=
          (state.powerOverride.follow state.configuration.gadget state.files mode).2 } := by
  rw [readMode] at read
  rw [followPowerMode, read]

/-- The event of a port makes the override follow the mode that can be read. -/
theorem step_of_tellsPort (state : Supervisor) {step : Step}
    (port : step.tellsPort = true) :
    (state.step step).1.configuration = state.configuration ∧
      (state.step step).1.powerOverride = state.followPowerMode.powerOverride ∧
      (state.step step).1.files = state.followPowerMode.files := by
  cases step with
  | receive message =>
      rcases receive_cases state message with
        ⟨partnerAppeared, _, answered⟩ | ⟨silent, _⟩
      · rcases afterPortChange_follows state partnerAppeared with ⟨_, changed⟩
        rcases followPowerMode_changes state with ⟨_, _, followed⟩
        change (state.receive message).configuration = _ ∧
          (state.receive message).powerOverride = _ ∧ (state.receive message).files = _
        rw [answered, changed, followed]
        exact ⟨rfl, rfl, rfl⟩
      · rw [Step.tellsPort, silent] at port
        cases port
  | _ => cases port

/-- A change from outside is not made while the override is in force, or leaves the
attributes as they are. -/
theorem Agrees.outside {state : Supervisor} {history : PowerHistory} {step : Step}
    (agrees : state.Agrees history) (outside : step.fromOutside = true)
    (spares : state.Spares step) :
    (state.step step).1.Agrees (state.recorded history step) := by
  rcases step_elsewhere state (Step.tellsPort_of_fromOutside outside) with
    ⟨sameConfiguration, samePower⟩
  rcases agrees.budget with ⟨own, taken, keeps⟩
  rw [Spares, if_pos outside] at spares
  rcases spares with ⟨⟨draw, holds⟩, kept⟩
  rw [Holds, sameConfiguration] at holds
  rw [recorded, if_pos outside]
  by_cases delivery : history.mode = some powerDelivery
  · rw [if_pos delivery]
    have inDelivery := agrees.mode.trans delivery
    have saved := keeps.saved
    have before := keeps.holds
    rw [if_pos inDelivery] at saved before
    have same : (state.step step).1.held = state.held :=
      kept (by rw [PowerOverride.inForce, saved]; rfl)
    rw [Supervisor.held, sameConfiguration] at same
    refine ⟨by rw [samePower]; exact agrees.mode, own, taken, ?_⟩
    rw [samePower, sameConfiguration]
    refine .of_delivery inDelivery saved ?_
    rw [← before.eq_of_held holds same]
    exact holds
  · rw [if_neg delivery]
    have saved := keeps.saved
    rw [if_neg (agrees.mode ▸ delivery)] at saved
    refine ⟨by rw [samePower]; exact agrees.mode, draw, ?_, ?_⟩
    · rw [Supervisor.held, sameConfiguration]
      exact holds.held
    · rw [samePower, sameConfiguration]
      exact .of_other (agrees.mode ▸ delivery) saved holds

/-- The mode that is read is the one that the override follows. -/
theorem Agrees.port {state : Supervisor} {history : PowerHistory} {step : Step}
    (agrees : state.Agrees history) (port : step.tellsPort = true) :
    (state.step step).1.Agrees (state.recorded history step) := by
  have inside : step.fromOutside = false :=
    Bool.eq_false_iff.mpr fun outside =>
      Bool.false_ne_true ((Step.tellsPort_of_fromOutside outside).symm.trans port)
  rcases step_of_tellsPort state port with ⟨sameConfiguration, power, files⟩
  rcases agrees.budget with ⟨own, taken, keeps⟩
  rw [recorded, if_neg (Bool.eq_false_iff.mp inside), if_pos port]
  cases read : state.readMode with
  | error error =>
      rw [followPowerMode_of_error read] at power files
      refine ⟨power ▸ agrees.mode, own, taken, ?_⟩
      rw [power, files, sameConfiguration]
      exact keeps
  | ok mode =>
      have followed := keeps.follow mode
      rw [followPowerMode_of_ok read] at power files
      dsimp only at power files ⊢
      have follows : (state.step step).1.powerOverride.mode = some mode := by
        rw [power, PowerOverride.follow_mode]
      split
      · next entering =>
        have outside : state.powerOverride.mode ≠ some powerDelivery :=
          agrees.mode ▸ entering.2
        have before := keeps.holds
        rw [if_neg outside] at before
        refine ⟨follows, own, before.held, ?_⟩
        rw [power, files, sameConfiguration]
        exact followed
      · refine ⟨follows, own, taken, ?_⟩
        rw [power, files, sameConfiguration]
        exact followed

/-- Whatever else the supervisor does passes the attributes by. -/
theorem Agrees.elsewhere {state : Supervisor} {history : PowerHistory} {step : Step}
    (agrees : state.Agrees history) (inside : step.fromOutside = false)
    (elsewhere : step.tellsPort = false) (spares : state.Spares step) :
    (state.step step).1.Agrees (state.recorded history step) := by
  rcases step_elsewhere state elsewhere with ⟨sameConfiguration, samePower⟩
  rcases agrees.budget with ⟨own, taken, keeps⟩
  rw [Spares, if_neg (Bool.eq_false_iff.mp inside),
    if_neg (Bool.eq_false_iff.mp elsewhere)] at spares
  rw [recorded, if_neg (Bool.eq_false_iff.mp inside),
    if_neg (Bool.eq_false_iff.mp elsewhere)]
  refine ⟨samePower ▸ agrees.mode, own, taken, ?_⟩
  rw [samePower, sameConfiguration]
  exact ⟨keeps.saved, keeps.holds.writtenThrough (writtenThrough_step state inside) spares⟩

theorem Agrees.step {state : Supervisor} {history : PowerHistory} {step : Step}
    (agrees : state.Agrees history) (spares : state.Spares step) :
    (state.step step).1.Agrees (state.recorded history step) := by
  cases outside : step.fromOutside with
  | true => exact agrees.outside outside spares
  | false =>
      cases port : step.tellsPort with
      | true => exact agrees.port port
      | false => exact agrees.elsewhere outside port spares

theorem Agrees.steps {state : Supervisor} {history : PowerHistory} {served : List Step}
    (agrees : state.Agrees history) (spare : state.AllSpare served) :
    (state.steps served).1.Agrees (state.historyFrom history served) := by
  induction served generalizing state history with
  | nil => exact agrees
  | cons step rest induction => exact induction (agrees.step spare.1) spare.2

end Supervisor

end UsbTypeC
