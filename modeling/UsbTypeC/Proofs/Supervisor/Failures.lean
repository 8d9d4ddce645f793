import Mathlib.Data.List.Forall2
import UsbTypeC.Proofs.Property
import UsbTypeC.Proofs.Supervisor.Deliveries

/-! Failures of others. An observer may fail to take what it is told, and the property store
may refuse to be written. To see that neither makes a difference, a supervisor is stripped
of all that they can have a part in; whatever it does commutes with that. -/

namespace UsbTypeC

def Observer.stripped (observer : Observer) : Observer :=
  { observer with failure := none }

def Delivery.stripped (delivery : Delivery) : Delivery :=
  { delivery with observer := delivery.observer.stripped, failure := none }

/-- A store without the one property that the supervisor writes, into which it cannot be
written either. -/
def Properties.stripped (properties : Properties) : Properties where
  values := properties.values.filter fun entry => entry.1 != adbDisabledKey
  refusal := some .other

def Step.stripped : Step → Step
  | .attach detail _ => .attach detail none
  | step => step

def Operation.stripped : Operation → Operation
  | .step request => .step request.stripped
  | .requestRole port role meanwhile => .requestRole port role (meanwhile.map Step.stripped)

/-- Setting a property from outside, or asking for the one that may be different. -/
def Step.usesProperties : Step → Bool
  | .setProperty _ _ => true
  | .getProperty key => key = Properties.adbDisabledKey
  | _ => false

def Operation.usesProperties : Operation → Bool
  | .step request => request.usesProperties
  | .requestRole _ _ meanwhile => meanwhile.any Step.usesProperties

def Supervisor.stripped (state : Supervisor) : Supervisor :=
  { state with
    observer := state.observer.map Observer.stripped
    properties := state.properties.stripped
    deliveries := state.deliveries.map Delivery.stripped }

/-- What a stretch leaves and answers, with the state that it leaves stripped. -/
def Supervisor.strippedResult {α : Type} (result : Supervisor × α) : Supervisor × α :=
  (result.1.stripped, result.2)

def Moment.stripped : Moment → Moment
  | .served state step => .served state.stripped step.stripped
  | .switched state port role answer => .switched state.stripped port role answer

namespace Properties

theorem get?_stripped (properties : Properties) {key : String} (other : key ≠ adbDisabledKey) :
    properties.stripped.get? key = properties.get? key :=
  lookup_filter_other properties.values other

theorem getOrEmpty_stripped (properties : Properties) {key : String}
    (other : key ≠ adbDisabledKey) :
    properties.stripped.getOrEmpty key = properties.getOrEmpty key := by
  rw [getOrEmpty, getOrEmpty, get?_stripped properties other]

theorem trySet_stripped (properties : Properties) (key value : String) :
    properties.stripped.trySet key value = properties.stripped :=
  trySet_of_refused rfl key value

theorem stripped_trySet (properties : Properties) (value : String) :
    (properties.trySet adbDisabledKey value).stripped = properties.stripped := by
  cases refusal : properties.refusal with
  | none =>
      rw [trySet_of_writable refusal]
      simp [stripped, insert]
  | some fault => rw [trySet_of_refused refusal]

end Properties

namespace RoleChange

def Ended.map {α β : Type} (change : α → β) (ended : Ended α) : Ended β :=
  { ended with meanwhile := ended.meanwhile.map change }

/-- What else happened while a switch waited has no part in how it ends. -/
theorem run_map {α β : Type} (change : α → β) (files : Files) (partner : Handshake)
    (port : PortName) (role : Role) (meanwhile : Files → Handshake → Files × Handshake × α) :
    run files partner port role
        (fun requested signal =>
          let waited := meanwhile requested signal
          (waited.1, waited.2.1, change waited.2.2)) =
      (run files partner port role meanwhile).map change := by
  cases role with
  | mode chosen =>
      rw [run_mode, run_mode]
      cases attempt : files.overwrite (files.controlPath port .mode)
          (Role.mode chosen).control with
      | error error =>
          rw [mode_of_error attempt, mode_of_error attempt]
          rfl
      | ok requested =>
          rw [mode_of_ok attempt, mode_of_ok attempt]
          rcases meanwhile requested .awaiting with ⟨waited, signal, happened⟩
          cases signal <;> rfl
  | power role => rfl
  | data role => rfl

end RoleChange

namespace Supervisor

theorem stripped_tellStatuses (state : Supervisor) :
    state.stripped.tellStatuses = state.tellStatuses.stripped := by
  rw [tellStatuses, tellStatuses]
  cases observed : state.observer with
  | none => simp [stripped, observed]
  | some observer =>
      simp [stripped, observed, deliver, Observer.deliver, Delivery.stripped, Observer.stripped,
        survey]

theorem stripped_tellSwitch (state : Supervisor) (port : PortName) (role : Role)
    (outcome : Outcome) :
    state.stripped.tellSwitch port role outcome =
      (state.tellSwitch port role outcome).stripped := by
  rw [tellSwitch, tellSwitch]
  cases observed : state.observer with
  | none => simp [stripped, observed]
  | some observer =>
      simp [stripped, observed, deliver, Observer.deliver, Delivery.stripped, Observer.stripped]

theorem stripped_followPowerMode (state : Supervisor) :
    state.stripped.followPowerMode = state.followPowerMode.stripped := by
  have mode : state.stripped.files.powerOperationMode state.stripped.configuration.primaryPort =
      state.files.powerOperationMode state.configuration.primaryPort := rfl
  rw [followPowerMode, followPowerMode, mode]
  cases state.files.powerOperationMode state.configuration.primaryPort <;> rfl

theorem stripped_afterPortChange (state : Supervisor) (partnerAppeared : Bool) :
    state.stripped.afterPortChange partnerAppeared =
      (state.afterPortChange partnerAppeared).stripped := by
  rw [afterPortChange, afterPortChange, ← stripped_tellStatuses, ← stripped_followPowerMode]
  cases partnerAppeared <;> rfl

theorem stripped_releaseIdlePorts (state : Supervisor) :
    state.stripped.releaseIdlePorts = state.releaseIdlePorts.stripped := by
  have ports : state.stripped.files.ports = state.files.ports := rfl
  rw [releaseIdlePorts, releaseIdlePorts, ports]
  cases state.files.ports <;> rfl

theorem contaminantReading?_stripped (state : Supervisor) (name : Option String) :
    state.stripped.contaminantReading? name = state.contaminantReading? name := by
  have tells : state.stripped.tellsContaminant = state.tellsContaminant := by
    rw [tellsContaminant, tellsContaminant, stripped]
    cases state.observer <;> rfl
  rw [contaminantReading?, contaminantReading?, tells]
  rfl

theorem stripped_afterSupplyChange (state : Supervisor) (name : Option String) :
    state.stripped.afterSupplyChange name = (state.afterSupplyChange name).stripped := by
  rw [afterSupplyChange, afterSupplyChange, contaminantReading?_stripped]
  cases state.contaminantReading? name with
  | none => rfl
  | some present =>
      let cached : Supervisor := { state with contaminantPresent := present }
      have told : (if state.contaminantPresent = present then cached.stripped
          else cached.stripped.tellStatuses) =
          (if state.contaminantPresent = present then cached else cached.tellStatuses).stripped := by
        rw [stripped_tellStatuses]
        exact (apply_ite stripped _ _ _).symm
      have released (told : Supervisor) :
          (if told.stripped.switching then told.stripped
            else told.stripped.releaseIdlePorts) =
            (if told.switching then told else told.releaseIdlePorts).stripped := by
        rw [stripped_releaseIdlePorts]
        exact (apply_ite stripped _ _ _).symm
      exact (congrArg (fun told : Supervisor =>
        if told.switching then told else told.releaseIdlePorts) told).trans (released _)

theorem stripped_setAdbDisabled (state : Supervisor) (value : String) :
    (state.setAdbDisabled value).stripped = state.stripped := by
  simp only [stripped, setAdbDisabled, Properties.stripped_trySet]

theorem setAdbDisabled_stripped (state : Supervisor) (value : String) :
    state.stripped.setAdbDisabled value = state.stripped := by
  simp only [stripped, setAdbDisabled, Properties.trySet_stripped]

theorem stripped_bindGadget (state : Supervisor) :
    state.stripped.bindGadget = state.bindGadget.stripped := by
  have same (key : String) (other : key ≠ Properties.adbDisabledKey) :
      state.stripped.properties.getOrEmpty key = state.properties.getOrEmpty key :=
    Properties.getOrEmpty_stripped state.properties other
  rw [bindGadget, bindGadget, same _ (by decide), same _ (by decide)]
  split
  · rfl
  · have bound (controller : String) :
        state.stripped.configuration.gadget.bind state.stripped.files controller =
          state.configuration.gadget.bind state.files controller := rfl
    dsimp only
    rw [bound]
    cases state.configuration.gadget.bind state.files
      (state.properties.getOrEmpty Properties.controllerKey) <;> rfl

theorem stripped_afterControllerChange (state : Supervisor)
    (action : Uevent.ControllerAction) :
    state.stripped.afterControllerChange action =
      (state.afterControllerChange action).stripped := by
  cases action with
  | add =>
      simp only [afterControllerChange]
      rw [setAdbDisabled_stripped, ← stripped_bindGadget, stripped_setAdbDisabled]
  | remove =>
      simp only [afterControllerChange]
      rw [setAdbDisabled_stripped, stripped_setAdbDisabled]

theorem stripped_respond (state : Supervisor) (event : Uevent.Event) :
    state.stripped.respond event = (state.respond event).stripped := by
  cases event with
  | portChanged partnerAppeared => exact stripped_afterPortChange state partnerAppeared
  | supplyChanged name => exact stripped_afterSupplyChange state name
  | gadgetController action => exact stripped_afterControllerChange state action
  | deviceAppeared device => rfl
  | interfaceAppeared device interface => rfl
  | hostLost controller => rfl

theorem stripped_receive (state : Supervisor) (message : Bytes) :
    state.stripped.receive message = (state.receive message).stripped := by
  have told : state.stripped.event? message = state.event? message := rfl
  rw [receive, receive, told]
  cases state.event? message with
  | none => rfl
  | some event => exact stripped_respond state event

theorem stripped_lookAround (state : Supervisor) :
    state.stripped.lookAround = state.lookAround.stripped := by
  have controller : state.stripped.properties.getOrEmpty Properties.controllerKey =
      state.properties.getOrEmpty Properties.controllerKey :=
    Properties.getOrEmpty_stripped state.properties (by decide)
  simp only [lookAround, controller]
  simp only [stripped, Properties.trySet_stripped, Properties.stripped_trySet]

theorem stripped_register (state : Supervisor) (observer : Option Observer) :
    state.stripped.register (observer.map Observer.stripped) =
      (state.register observer).stripped := by
  unfold register
  cases held : state.observer with
  | none =>
      cases observer with
      | none => simp [stripped, held]
      | some next =>
          simp only [stripped, held, Option.map_none, Option.map_some]
          exact stripped_lookAround { state with observer := some next, watching := true }
  | some last => cases observer <;> simp [stripped, held]

/-- Every answer is the same, and so is what is left behind. -/
theorem stripped_step (state : Supervisor) {step : Step} (own : step.usesProperties = false) :
    state.stripped.step step.stripped = strippedResult (state.step step) := by
  cases step with
  | attach detail failure =>
      exact congrArg (fun next => (next, (.ok .nothing : Answer)))
        (stripped_register { state with registrations := state.registrations + 1 }
          (some { number := state.registrations, detail, failure }))
  | detach =>
      exact congrArg (fun next => (next, (.ok .nothing : Answer))) (stripped_register state none)
  | tellStatuses =>
      exact congrArg (fun next => (next, (.ok .nothing : Answer))) (stripped_tellStatuses state)
  | detectContaminant port enable =>
      exact congrArg (fun next => (next, (.ok .nothing : Answer))) (stripped_tellStatuses state)
  | protectFromContaminant port enable =>
      exact congrArg (fun next => (next, (.ok .nothing : Answer))) (stripped_tellStatuses state)
  | receive message =>
      exact congrArg (fun next => (next, (.ok .nothing : Answer)))
        (stripped_receive state message)
  | setProperty key value => cases own
  | getProperty key =>
      have other : key ≠ Properties.adbDisabledKey := by simpa [Step.usesProperties] using own
      have same : state.stripped.properties.get? key = state.properties.get? key :=
        Properties.get?_stripped state.properties other
      simp only [Step.stripped, Supervisor.step, strippedResult, same]
  | statuses detail => rfl
  | askWatching => rfl
  | askWakeupIgnored => rfl
  | askPrimaryPort => rfl
  | edit place edit => rfl

theorem stripped_steps (state : Supervisor) {steps : List Step}
    (own : steps.any Step.usesProperties = false) :
    state.stripped.steps (steps.map Step.stripped) = strippedResult (state.steps steps) := by
  induction steps generalizing state with
  | nil => rfl
  | cons step rest induction =>
      rw [List.any_cons, Bool.or_eq_false_iff] at own
      have first := stripped_step state own.1
      have later := induction (state.step step).1 own.2
      simp only [List.map_cons, Supervisor.steps, first, strippedResult] at later ⊢
      rw [later]

theorem stripped_serving (state : Supervisor) {meanwhile : List Step}
    (own : meanwhile.any Step.usesProperties = false) :
    state.stripped.serving (meanwhile.map Step.stripped) =
      fun requested signal =>
        let waited := state.serving meanwhile requested signal
        (waited.1, waited.2.1, strippedResult waited.2.2) := by
  funext requested signal
  have served := stripped_steps
    { state with files := requested, partner := signal, switching := true } own
  simp only [serving]
  have same : { state.stripped with files := requested, partner := signal, switching := true } =
      { state with files := requested, partner := signal, switching := true }.stripped := rfl
  rw [same, served]
  rfl

theorem stripped_ending (state : Supervisor) (port : PortName) (role : Role)
    (ended : RoleChange.Ended (Supervisor × List Answer)) :
    state.stripped.ending port role (ended.map strippedResult) =
      strippedResult (state.ending port role ended) := by
  rcases ended with ⟨⟨files, attempts⟩, partner, result, meanwhile⟩
  cases meanwhile with
  | none =>
      exact congrArg (fun next => (next, _)) (stripped_tellSwitch
        { state with files, partner, switching := false } port role (.ofResult result))
  | some happened =>
      exact congrArg (fun next => (next, _)) (stripped_tellSwitch
        { happened.1 with files, partner, switching := false } port role (.ofResult result))

theorem stripped_switchPort (state : Supervisor) (port : PortName) (role : Role)
    {meanwhile : List Step} (own : meanwhile.any Step.usesProperties = false) :
    state.stripped.switchPort port role (meanwhile.map Step.stripped) =
      strippedResult (state.switchPort port role meanwhile) := by
  rw [switchPort_eq_ending, switchPort_eq_ending, stripped_serving state own,
    RoleChange.run_map]
  exact stripped_ending state port role _

theorem stripped_operate (state : Supervisor) {operation : Operation}
    (own : operation.usesProperties = false) :
    state.stripped.operate operation.stripped = strippedResult (state.operate operation) := by
  cases operation with
  | step step =>
      have served := stripped_step state own
      simp only [Operation.stripped, operate, served]
      rfl
  | requestRole port role meanwhile =>
      simp only [Operation.stripped, operate, requestRole]
      cases PortName.of port with
      | error error => rfl
      | ok port => exact stripped_switchPort state port role own

theorem stripped_run (state : Supervisor) {operations : List Operation}
    (own : ∀ operation ∈ operations, operation.usesProperties = false) :
    state.stripped.run (operations.map Operation.stripped) =
      strippedResult (state.run operations) := by
  induction operations generalizing state with
  | nil => rfl
  | cons operation rest induction =>
      have first := stripped_operate state (own operation List.mem_cons_self)
      have later := induction (state.operate operation).1
        fun other mem => own other (List.mem_cons_of_mem operation mem)
      simp only [List.map_cons, run, first, strippedResult] at later ⊢
      rw [later]

theorem stripped_stepMoments (state : Supervisor) {steps : List Step}
    (own : steps.any Step.usesProperties = false) :
    state.stripped.stepMoments (steps.map Step.stripped) =
      (state.stepMoments steps).map Moment.stripped := by
  induction steps generalizing state with
  | nil => rfl
  | cons step rest induction =>
      rw [List.any_cons, Bool.or_eq_false_iff] at own
      have later := induction (state.step step).1 own.2
      simp only [List.map_cons, stepMoments, stripped_step state own.1, strippedResult]
      rw [later]
      rfl

theorem stripped_switchMoments (state : Supervisor) (port : PortName) (role : Role)
    {meanwhile : List Step} (own : meanwhile.any Step.usesProperties = false) :
    state.stripped.switchMoments port role (meanwhile.map Step.stripped) =
      (state.switchMoments port role meanwhile).map Moment.stripped := by
  have asked : state.stripped.requested? port role = state.requested? port role := by
    cases role <;> rfl
  simp only [switchMoments, asked, stripped_switchPort state port role own]
  cases state.requested? port role with
  | none => rfl
  | some requested =>
      have waiting : state.stripped.waiting requested = (state.waiting requested).stripped := rfl
      simp only [waiting, stripped_stepMoments _ own, stripped_steps _ own, strippedResult,
        List.map_append]
      rfl

theorem stripped_operationMoments (state : Supervisor) {operation : Operation}
    (own : operation.usesProperties = false) :
    state.stripped.operationMoments operation.stripped =
      (state.operationMoments operation).map Moment.stripped := by
  cases operation with
  | step step => rfl
  | requestRole port role meanwhile =>
      simp only [Operation.stripped, operationMoments]
      cases PortName.of port with
      | error error => rfl
      | ok port => exact stripped_switchMoments state port role own

theorem stripped_moments (state : Supervisor) {operations : List Operation}
    (own : ∀ operation ∈ operations, operation.usesProperties = false) :
    state.stripped.moments (operations.map Operation.stripped) =
      (state.moments operations).map Moment.stripped := by
  induction operations generalizing state with
  | nil => rfl
  | cons operation rest induction =>
      have first := own operation List.mem_cons_self
      have later := induction (state.operate operation).1
        fun other mem => own other (List.mem_cons_of_mem operation mem)
      simp only [List.map_cons, moments, List.map_append, stripped_operate state first,
        strippedResult, stripped_operationMoments state first]
      rw [later]

/-- Two supervisors that differ in nothing but the failures of observers and the property of
the debug bridge. -/
structure Alike (first second : Supervisor) : Prop where
  configuration : second.configuration = first.configuration
  controller : second.controller = first.controller
  files : second.files = first.files
  properties : ∀ key, key ≠ Properties.adbDisabledKey →
    second.properties.get? key = first.properties.get? key
  observer : second.observer.map (fun observer => (observer.number, observer.detail)) =
    first.observer.map fun observer => (observer.number, observer.detail)
  registrations : second.registrations = first.registrations
  watching : second.watching = first.watching
  contaminantFile : second.contaminantFile = first.contaminantFile
  wakeupIgnored : second.wakeupIgnored = first.wakeupIgnored
  powerOverride : second.powerOverride = first.powerOverride
  contaminantPresent : second.contaminantPresent = first.contaminantPresent
  partner : second.partner = first.partner
  switching : second.switching = first.switching
  deliveries :
    second.deliveries.map (fun delivery =>
        (delivery.observer.number, delivery.observer.detail, delivery.notification)) =
      first.deliveries.map fun delivery =>
        (delivery.observer.number, delivery.observer.detail, delivery.notification)

theorem alike_of_stripped_eq {first second : Supervisor}
    (same : second.stripped = first.stripped) : Alike first second where
  configuration := congrArg (·.configuration) same
  controller := congrArg (·.controller) same
  files := congrArg (·.files) same
  properties key other := by
    rw [← Properties.get?_stripped first.properties other,
      ← Properties.get?_stripped second.properties other]
    exact congrArg (·.properties.get? key) same
  observer := by
    have told := congrArg (·.observer.map fun observer => (observer.number, observer.detail)) same
    simpa [stripped, Observer.stripped, Function.comp_def] using told
  registrations := congrArg (·.registrations) same
  watching := congrArg (·.watching) same
  contaminantFile := congrArg (·.contaminantFile) same
  wakeupIgnored := congrArg (·.wakeupIgnored) same
  powerOverride := congrArg (·.powerOverride) same
  contaminantPresent := congrArg (·.contaminantPresent) same
  partner := congrArg (·.partner) same
  switching := congrArg (·.switching) same
  deliveries := by
    have told := congrArg (·.deliveries.map fun delivery =>
      (delivery.observer.number, delivery.observer.detail, delivery.notification)) same
    simpa [stripped, Delivery.stripped, Observer.stripped, Function.comp_def] using told

end Supervisor

/-- The same is done at both moments, to supervisors that are alike. -/
def Moment.Alike : Moment → Moment → Prop
  | .served first asked, .served second other =>
      first.Alike second ∧ other.stripped = asked.stripped
  | .switched first port role answer, .switched second otherPort otherRole otherAnswer =>
      first.Alike second ∧ otherPort = port ∧ otherRole = role ∧ otherAnswer = answer
  | _, _ => False

theorem Moment.alike_of_stripped_eq {first second : Moment}
    (same : second.stripped = first.stripped) : first.Alike second := by
  cases first with
  | served state step =>
      cases second with
      | served other asked =>
          rcases Moment.served.inj same with ⟨states, steps⟩
          exact ⟨Supervisor.alike_of_stripped_eq states, steps⟩
      | switched other port role answer => cases same
  | switched state port role answer =>
      cases second with
      | served other asked => cases same
      | switched other otherPort otherRole otherAnswer =>
          rcases Moment.switched.inj same with ⟨states, ports, roles, answers⟩
          exact ⟨Supervisor.alike_of_stripped_eq states, ports, roles, answers⟩

theorem Step.usesProperties_stripped (step : Step) :
    step.stripped.usesProperties = step.usesProperties := by
  cases step <;> rfl

theorem Operation.usesProperties_stripped (operation : Operation) :
    operation.stripped.usesProperties = operation.usesProperties := by
  cases operation with
  | step step => exact step.usesProperties_stripped
  | requestRole port role meanwhile =>
      simp only [stripped, usesProperties, List.any_map, Function.comp_def,
        Step.usesProperties_stripped]

namespace Supervisor

/-- The same operations are asked of two supervisors that start alike, whichever observers
fail in either run, and whether a store refuses every write or not. All answers are the
same, and at every moment of the runs, those while a switch waits included, and at their
ends, so is everything else but the failures and the property of the debug bridge. -/
theorem run_despite_failures (configuration : Configuration) (properties : Properties)
    (files : Files) (refusal : Option Fault) (operations despite : List Operation)
    (same : despite.map Operation.stripped = operations.map Operation.stripped)
    (own : ∀ operation ∈ operations, operation.usesProperties = false) :
    let first := started configuration properties files
    let second := started configuration { properties with refusal } files
    (second.run despite).2 = (first.run operations).2 ∧
      (first.run operations).1.Alike (second.run despite).1 ∧
      List.Forall₂ Moment.Alike (first.moments operations) (second.moments despite) := by
  intro first second
  have ownDespite : ∀ operation ∈ despite, operation.usesProperties = false := by
    intro operation mem
    have listed : operation.stripped ∈ operations.map Operation.stripped :=
      same ▸ List.mem_map_of_mem mem
    rcases List.mem_map.mp listed with ⟨asked, asks, equal⟩
    rw [← operation.usesProperties_stripped, ← equal, asked.usesProperties_stripped]
    exact own asked asks
  have start : second.stripped = first.stripped := rfl
  -- Both runs are the run of the stripped supervisor through the stripped operations.
  have runs : strippedResult (second.run despite) = strippedResult (first.run operations) := by
    rw [← stripped_run first own, ← stripped_run second ownDespite, start, same]
  have courses : (second.moments despite).map Moment.stripped =
      (first.moments operations).map Moment.stripped := by
    rw [← stripped_moments first own, ← stripped_moments second ownDespite, start, same]
  have pairs : List.Forall₂ (fun asked other => Moment.stripped asked = Moment.stripped other)
      (first.moments operations) (second.moments despite) := by
    have equal : List.Forall₂ Eq ((first.moments operations).map Moment.stripped)
        ((second.moments despite).map Moment.stripped) := by
      rw [List.forall₂_eq_eq_eq]
      exact courses.symm
    exact List.forall₂_map_right_iff.mp (List.forall₂_map_left_iff.mp equal)
  have answers : (strippedResult (second.run despite)).2 =
      (strippedResult (first.run operations)).2 := by
    rw [runs]
  exact ⟨answers, alike_of_stripped_eq (congrArg Prod.fst runs),
    pairs.imp fun _ _ equal => Moment.alike_of_stripped_eq equal.symm⟩

/-- A port whose mode can be switched. -/
def switchableFiles : Files where
  root := { workingDirectory := [], path := ⟨"/"⟩, directory := [] }
  tree := {
    entries := [
      ([.text "sys"], .directory),
      ([.text "class", .text "sys"], .directory),
      ([.text "typec", .text "class", .text "sys"], .directory),
      ([.text "port0", .text "typec", .text "class", .text "sys"], .directory),
      ([.text "port_type", .text "port0", .text "typec", .text "class", .text "sys"],
        .file (Utf8.bytes "[dual] source sink"))]
    distinct := by decide }

/-- An observer is told about a mode switch that an attaching partner confirms. -/
def observedSwitch (failure : Option DeliveryFailure) : List Operation :=
  [.step (.attach .modes failure),
    .requestRole "port0" (.mode .dfp) [.receive (Utf8.bytes "add@/typec/port0-partner")]]

theorem run_despite_failures_observedSwitch :
    let first := started .default .empty switchableFiles
    let second := started .default { Properties.empty with refusal := some .other } switchableFiles
    let taken := first.run (observedSwitch none)
    let lost := second.run (observedSwitch (some { reason := "dead object" }))
    lost.2 = taken.2 ∧
      lost.1.files = taken.1.files ∧
      taken.1.deliveries.map Delivery.failure = [none, none] ∧
      lost.1.deliveries.map Delivery.failure =
        [some { reason := "dead object" }, some { reason := "dead object" }] ∧
      taken.1.properties.get? Properties.adbDisabledKey = some "0" ∧
      lost.1.properties.get? Properties.adbDisabledKey = none := by
  intro first second taken lost
  have alike := run_despite_failures .default .empty switchableFiles (some .other)
    (observedSwitch none) (observedSwitch (some { reason := "dead object" })) (by decide)
    (by decide)
  refine ⟨alike.1, alike.2.1.files, ?_, ?_, ?_, ?_⟩ <;> decide +kernel

end Supervisor

end UsbTypeC
