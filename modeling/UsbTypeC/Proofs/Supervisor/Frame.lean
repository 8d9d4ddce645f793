import UsbTypeC.Proofs.Uevent.Event
import UsbTypeC.Supervisor.Operation

/-! What a supervisor keeps while it answers. Each statement names the parts that can
come out different; every other part is what it was before. -/

namespace UsbTypeC.Supervisor

theorem tellStatuses_changes (state : Supervisor) :
    ∃ deliveries, state.tellStatuses = { state with deliveries } := by
  rw [tellStatuses]
  split
  · exact ⟨state.deliveries, rfl⟩
  · exact ⟨_, rfl⟩

theorem tellSwitch_changes (state : Supervisor) (port : PortName) (role : Role)
    (outcome : Outcome) :
    ∃ deliveries, state.tellSwitch port role outcome = { state with deliveries } := by
  rw [tellSwitch]
  split
  · exact ⟨state.deliveries, rfl⟩
  · exact ⟨_, rfl⟩

theorem followPowerMode_changes (state : Supervisor) :
    ∃ files powerOverride, state.followPowerMode = { state with files, powerOverride } := by
  rw [followPowerMode]
  split
  · exact ⟨state.files, state.powerOverride, rfl⟩
  · exact ⟨_, _, rfl⟩

/-- The power mode is followed in the same way whatever is known about a partner. -/
theorem followPowerMode_partner (state : Supervisor) (partner : Handshake) :
    { state with partner }.followPowerMode = { state.followPowerMode with partner } := by
  rw [followPowerMode, followPowerMode]
  dsimp only
  cases state.files.powerOperationMode state.configuration.primaryPort with
  | error error => rfl
  | ok mode => rfl

theorem afterPortChange_follows (state : Supervisor) (partnerAppeared : Bool) :
    ∃ deliveries,
      state.afterPortChange partnerAppeared =
        { state.followPowerMode with
          deliveries
          partner := if partnerAppeared then .confirmed else state.partner } := by
  rw [afterPortChange]
  cases partnerAppeared with
  | false =>
      rcases tellStatuses_changes state.followPowerMode with ⟨deliveries, told⟩
      rcases followPowerMode_changes state with ⟨_, _, followed⟩
      refine ⟨deliveries, told.trans ?_⟩
      rw [followed]
      rfl
  | true =>
      rcases tellStatuses_changes { state.followPowerMode with partner := .confirmed } with
        ⟨deliveries, told⟩
      refine ⟨deliveries, Eq.trans ?_ told⟩
      exact congrArg tellStatuses (followPowerMode_partner state .confirmed)

theorem afterPortChange_changes (state : Supervisor) (partnerAppeared : Bool) :
    ∃ files powerOverride deliveries,
      state.afterPortChange partnerAppeared =
        { state with
          files, powerOverride, deliveries
          partner := if partnerAppeared then .confirmed else state.partner } := by
  rcases afterPortChange_follows state partnerAppeared with ⟨deliveries, changed⟩
  rcases followPowerMode_changes state with ⟨files, powerOverride, followed⟩
  refine ⟨files, powerOverride, deliveries, ?_⟩
  rw [changed, followed]

theorem releaseIdlePorts_changes (state : Supervisor) :
    ∃ files, state.releaseIdlePorts = { state with files } := by
  rw [releaseIdlePorts]
  split
  · exact ⟨state.files, rfl⟩
  · exact ⟨_, rfl⟩

/-- Either a supply event has nothing to say, or the contaminant state is taken note
of and told, and the idle ports are released unless a switch is in flight. -/
theorem afterSupplyChange_cases (state : Supervisor) (name : Option String) :
    state.afterSupplyChange name = state ∨
      ∃ contaminantPresent deliveries,
        state.afterSupplyChange name =
          if state.switching then { state with contaminantPresent, deliveries }
          else { state with contaminantPresent, deliveries }.releaseIdlePorts := by
  rw [afterSupplyChange]
  split
  · exact .inl rfl
  · next present _ =>
    have told : ∃ deliveries,
        (if state.contaminantPresent = present then
          { state with contaminantPresent := present }
        else { state with contaminantPresent := present }.tellStatuses) =
          { state with contaminantPresent := present, deliveries } := by
      split
      · exact ⟨state.deliveries, rfl⟩
      · exact tellStatuses_changes { state with contaminantPresent := present }
    rcases told with ⟨deliveries, told⟩
    exact .inr ⟨present, deliveries, by simp only [told]⟩

theorem afterSupplyChange_changes (state : Supervisor) (name : Option String) :
    ∃ files contaminantPresent deliveries,
      state.afterSupplyChange name =
        { state with files, contaminantPresent, deliveries } := by
  rcases afterSupplyChange_cases state name with same | ⟨present, deliveries, changed⟩
  · exact ⟨state.files, state.contaminantPresent, state.deliveries, same⟩
  · rw [changed]
    split
    · exact ⟨state.files, present, deliveries, rfl⟩
    · rcases releaseIdlePorts_changes
          { state with contaminantPresent := present, deliveries } with ⟨files, released⟩
      exact ⟨files, present, deliveries, released⟩

theorem bindGadget_changes (state : Supervisor) :
    ∃ files, state.bindGadget = { state with files } := by
  rw [bindGadget]
  split
  · exact ⟨state.files, rfl⟩
  · simp only
    split
    · exact ⟨_, rfl⟩
    · exact ⟨state.files, rfl⟩

theorem afterControllerChange_changes (state : Supervisor)
    (action : Uevent.ControllerAction) :
    ∃ files properties,
      state.afterControllerChange action = { state with files, properties } := by
  cases action with
  | add =>
      rcases bindGadget_changes (state.setAdbDisabled "0") with ⟨files, bound⟩
      exact ⟨files, _, bound⟩
  | remove => exact ⟨state.files, _, rfl⟩

theorem register_changes (state : Supervisor) (observer : Option Observer) :
    ∃ files properties watching contaminantFile wakeupIgnored,
      state.register observer =
        { state with
          files, properties, observer, watching, contaminantFile, wakeupIgnored } := by
  unfold register
  simp only
  split
  · exact ⟨_, _, _, _, _, rfl⟩
  · exact ⟨state.files, state.properties, false, state.contaminantFile,
      state.wakeupIgnored, rfl⟩
  · exact ⟨state.files, state.properties, state.watching, state.contaminantFile,
      state.wakeupIgnored, rfl⟩

/-- The signal of the partner and the power override are for the events of ports. -/
theorem respond_changes (state : Supervisor) {event : Uevent.Event}
    (elsewhere : ∀ partnerAppeared, event ≠ .portChanged partnerAppeared) :
    ∃ files properties contaminantPresent deliveries,
      state.respond event =
        { state with files, properties, contaminantPresent, deliveries } := by
  cases event with
  | portChanged partnerAppeared => exact absurd rfl (elsewhere partnerAppeared)
  | supplyChanged name =>
      rcases afterSupplyChange_changes state name with
        ⟨files, contaminantPresent, deliveries, changed⟩
      exact ⟨files, state.properties, contaminantPresent, deliveries, changed⟩
  | deviceAppeared device =>
      exact ⟨_, state.properties, state.contaminantPresent, state.deliveries, rfl⟩
  | interfaceAppeared device interface =>
      exact ⟨_, state.properties, state.contaminantPresent, state.deliveries, rfl⟩
  | gadgetController action =>
      rcases afterControllerChange_changes state action with ⟨files, properties, changed⟩
      exact ⟨files, properties, state.contaminantPresent, state.deliveries, changed⟩
  | hostLost controller =>
      exact ⟨_, state.properties, state.contaminantPresent, state.deliveries, rfl⟩

/-- Either a message tells of a port, or it leaves the signal of the partner and the power
override alone. -/
theorem receive_cases (state : Supervisor) (message : Bytes) :
    (∃ partnerAppeared,
      Uevent.portChanged? (Uevent.header message).toList =
          some (.portChanged partnerAppeared) ∧
        state.receive message = state.afterPortChange partnerAppeared) ∨
      Uevent.portChanged? (Uevent.header message).toList = none ∧
        ∃ files properties contaminantPresent deliveries,
          state.receive message =
            { state with files, properties, contaminantPresent, deliveries } := by
  have port (partnerAppeared : Bool) := Uevent.event?_eq_portChanged_iff state.controller
    state.wakeupIgnored message partnerAppeared
  cases told : Uevent.portChanged? (Uevent.header message).toList with
  | some event =>
      rcases Uevent.eq_portChanged_of_portChanged? told with ⟨partnerAppeared, rfl⟩
      refine .inl ⟨partnerAppeared, rfl, ?_⟩
      rw [receive, event?, (port partnerAppeared).mpr told]
      rfl
  | none =>
      refine .inr ⟨rfl, ?_⟩
      rw [receive]
      cases found : state.event? message with
      | none => exact ⟨_, _, _, _, rfl⟩
      | some event =>
          apply respond_changes
          rintro partnerAppeared rfl
          have shown := (port partnerAppeared).mp found
          rw [told] at shown
          cases shown

/-- Nothing but a message touches what is remembered about ports. -/
theorem step_changes (state : Supervisor) {step : Step}
    (other : ∀ message, step ≠ .receive message) :
    ∃ files properties observer registrations watching contaminantFile wakeupIgnored
        deliveries,
      (state.step step).1 =
        { state with
          files, properties, observer, registrations, watching, contaminantFile
          wakeupIgnored, deliveries } := by
  have told (told : Supervisor) (equal : told = state.tellStatuses) :
      ∃ files properties observer registrations watching contaminantFile wakeupIgnored
          deliveries,
        told =
          { state with
            files, properties, observer, registrations, watching, contaminantFile
            wakeupIgnored, deliveries } := by
    rcases tellStatuses_changes state with ⟨deliveries, changed⟩
    exact ⟨_, _, _, _, _, _, _, _, equal.trans changed⟩
  cases step with
  | attach detail failure =>
      rcases register_changes { state with registrations := state.registrations + 1 }
          (some { number := state.registrations, detail, failure }) with
        ⟨files, properties, watching, contaminantFile, wakeupIgnored, changed⟩
      exact ⟨files, properties, _, _, watching, contaminantFile, wakeupIgnored, _, changed⟩
  | detach =>
      rcases register_changes state none with
        ⟨files, properties, watching, contaminantFile, wakeupIgnored, changed⟩
      exact ⟨files, properties, _, _, watching, contaminantFile, wakeupIgnored, _, changed⟩
  | tellStatuses => exact told _ rfl
  | detectContaminant port enable => exact told _ rfl
  | protectFromContaminant port enable => exact told _ rfl
  | receive message => exact absurd rfl (other message)
  | setProperty key value =>
      simp only [Supervisor.step]
      split <;> exact ⟨_, _, _, _, _, _, _, _, rfl⟩
  | statuses detail => exact ⟨_, _, _, _, _, _, _, _, rfl⟩
  | askWatching => exact ⟨_, _, _, _, _, _, _, _, rfl⟩
  | askWakeupIgnored => exact ⟨_, _, _, _, _, _, _, _, rfl⟩
  | askPrimaryPort => exact ⟨_, _, _, _, _, _, _, _, rfl⟩
  | getProperty key => exact ⟨_, _, _, _, _, _, _, _, rfl⟩
  | edit place edit => exact ⟨_, _, _, _, _, _, _, _, rfl⟩

/-- No step changes the configuration, or whether a switch is in flight. -/
theorem kept_step (state : Supervisor) (step : Step) :
    (state.step step).1.configuration = state.configuration ∧
      (state.step step).1.switching = state.switching := by
  by_cases message : ∃ message, step = .receive message
  · rcases message with ⟨message, rfl⟩
    change (state.receive message).configuration = state.configuration ∧
      (state.receive message).switching = state.switching
    rcases receive_cases state message with
      ⟨partnerAppeared, _, answered⟩ | ⟨_, _, _, _, _, changed⟩
    · rcases afterPortChange_changes state partnerAppeared with ⟨_, _, _, changed⟩
      rw [answered, changed]
      exact ⟨rfl, rfl⟩
    · rw [changed]
      exact ⟨rfl, rfl⟩
  · have other : ∀ message, step ≠ .receive message :=
      fun received equal => message ⟨received, equal⟩
    rcases step_changes state other with ⟨_, _, _, _, _, _, _, _, changed⟩
    rw [changed]
    exact ⟨rfl, rfl⟩

theorem kept_steps (state : Supervisor) (served : List Step) :
    (state.steps served).1.configuration = state.configuration ∧
      (state.steps served).1.switching = state.switching := by
  induction served generalizing state with
  | nil => exact ⟨rfl, rfl⟩
  | cons step rest induction =>
      have first := kept_step state step
      have later := induction (state.step step).1
      exact ⟨later.1.trans first.1, later.2.trans first.2⟩

end UsbTypeC.Supervisor
