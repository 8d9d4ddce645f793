import UsbTypeC.Proofs.Files.Rewriting
import UsbTypeC.Proofs.Port.Detail
import UsbTypeC.Proofs.Supervisor.Deliveries

/-! Asking for the statuses of the ports without ever observing them. Where the contaminant
state is told is found out for observers only. Without it the ports are told just as well
or as badly, but the primary port is told to have no contaminant detection, whether it has
one or not. -/

namespace UsbTypeC

/-- A status as it is told when the contaminant detection of the primary port is not known. -/
def PortStatus.withoutDetection (primaryPort : PortName) (status : PortStatus) : PortStatus :=
  if status.port = primaryPort then { status with contaminant := some .undetected } else status

theorem PortStatus.withoutDetection_eq_iff (primaryPort : PortName) (status : PortStatus) :
    status.withoutDetection primaryPort = status ↔
      (status.port = primaryPort → status.contaminant = some .undetected) := by
  rw [withoutDetection]
  by_cases primary : status.port = primaryPort
  · rw [if_pos primary]
    constructor
    · exact fun same _ => (congrArg PortStatus.contaminant same).symm
    · intro told
      exact congrArg (fun contaminant => { status with contaminant }) (told primary).symm
  · rw [if_neg primary]
    exact ⟨fun _ here => absurd here primary, fun _ => rfl⟩

namespace Survey

theorem contaminantState_eq_undetected_iff (survey : Survey) (files : Files) :
    survey.contaminantState files survey.primaryPort = .undetected ↔
      survey.contaminantReading files = none := by
  rw [contaminantState_of_reading]
  cases survey.contaminantReading files with
  | none => simp
  | some present => cases present <;> simp <;> decide

/-- A survey that does not know where the contaminant state is told. -/
def unaware (survey : Survey) : Survey :=
  { survey with contaminantFile := none }

theorem toldStatus_unaware (survey : Survey) (files : Files) (entry : FoundPort) :
    survey.unaware.toldStatus files .contaminant entry =
      (survey.toldStatus files .contaminant entry).withoutDetection survey.primaryPort := by
  have changed : survey.unaware.toldStatus files .contaminant entry =
      { survey.toldStatus files .contaminant entry with
        contaminant := some (survey.unaware.contaminantState files entry.name) } := by
    rw [contaminantState_eq_told]
    rfl
  by_cases primary : entry.name = survey.primaryPort
  · have state : survey.unaware.contaminantState files entry.name = .undetected :=
      if_pos primary
    rw [changed, state]
    exact (if_pos primary).symm
  · have state : survey.unaware.contaminantState files entry.name =
        survey.contaminantState files entry.name :=
      (if_neg primary).trans (if_neg primary).symm
    rw [changed, state, contaminantState_eq_told]
    exact (if_neg primary).symm

/-- The statuses that are told without knowing where the contaminant state is told. -/
theorem statuses_unaware (survey : Survey) (files : Files) :
    survey.unaware.statuses files .contaminant =
      (survey.statuses files .contaminant).map
        (List.map (PortStatus.withoutDetection survey.primaryPort)) := by
  rcases statuses_cases files with ⟨error, same⟩ | ⟨entries, told⟩
  · rw [same, same]
    rfl
  · rw [told, told, Except.map, List.map_map]
    exact congrArg Except.ok
      (List.map_congr_left fun entry _ => survey.toldStatus_unaware files entry)

theorem withoutDetection_toldStatus_iff (survey : Survey) (files : Files) (entry : FoundPort) :
    (survey.toldStatus files .contaminant entry).withoutDetection survey.primaryPort =
        survey.toldStatus files .contaminant entry ↔
      (entry.name = survey.primaryPort → survey.contaminantReading files = none) := by
  rw [PortStatus.withoutDetection_eq_iff]
  apply forall_congr'
  intro primary
  have told : (survey.toldStatus files .contaminant entry).contaminant =
      some (survey.contaminantState files entry.name) :=
    (survey.contaminant_toldStatus files .contaminant entry).trans (if_pos rfl)
  rw [told, Option.some_inj, ← contaminantState_eq_undetected_iff]
  rw [show entry.name = survey.primaryPort from primary]

/-- Not knowing makes no difference if and only if there is nothing to be known, or nobody
to tell it of. -/
theorem statuses_unaware_iff (survey : Survey) (files : Files) :
    survey.unaware.statuses files .contaminant = survey.statuses files .contaminant ↔
      ∀ ports, survey.statuses files .contaminant = .ok ports →
        survey.primaryPort ∈ ports.map PortStatus.port →
          survey.contaminantReading files = none := by
  rw [statuses_unaware]
  rcases statuses_cases files with ⟨error, same⟩ | ⟨entries, told⟩
  · rw [same]
    exact ⟨fun _ _ impossible => (nomatch impossible), fun _ => rfl⟩
  · rw [told, Except.map, Except.ok.injEq, List.map_map]
    simp only [List.map_inj_left, Function.comp_apply, withoutDetection_toldStatus_iff]
    constructor
    · intro each ports same mem
      cases same
      rcases List.mem_map.mp mem with ⟨status, inside, named⟩
      rcases List.mem_map.mp inside with ⟨entry, present, rfl⟩
      exact each entry present named
    · intro unread entry present named
      have inside := List.mem_map_of_mem (f := survey.toldStatus files .contaminant) present
      exact unread _ rfl (List.mem_map.mpr ⟨_, inside, named⟩)

end Survey

/-- A survey that looks for the contaminant state among the configured candidates. -/
def Configuration.survey (configuration : Configuration) (files : Files) : Survey where
  primaryPort := configuration.primaryPort
  contaminantFile := configuration.contaminantFiles.find? files.has

def Operation.attaches : Operation → Bool
  | .step asked => asked.attaches
  | .requestRole _ _ meanwhile => meanwhile.any Step.attaches

namespace Supervisor

/-- A supervisor of that configuration that has never had an observer. -/
structure Unwatched (configuration : Configuration) (state : Supervisor) : Prop where
  configuration : state.configuration = configuration
  observer : state.observer = none
  contaminantFile : state.contaminantFile = none

namespace Unwatched

variable {configuration : Configuration} {state : Supervisor}

theorem start (configuration : Configuration) (properties : Properties) (files : Files) :
    (started configuration properties files).Unwatched configuration where
  configuration := rfl
  observer := rfl
  contaminantFile := rfl

theorem detach (unwatched : state.Unwatched configuration) : state.detach = state := by
  rcases state with ⟨configuration, controller, files, properties, observer⟩
  cases unwatched.observer
  rfl

theorem step (unwatched : state.Unwatched configuration) {step : Step}
    (never : step.attaches = false) : (state.step step).1.Unwatched configuration := by
  by_cases detaches : step = .detach
  · rw [detaches]
    change state.detach.Unwatched configuration
    rw [unwatched.detach]
    exact unwatched
  · have same := step_unobserved state never detaches
    exact ⟨same.configuration.trans unwatched.configuration,
      same.observer.trans unwatched.observer,
      same.contaminantFile.trans unwatched.contaminantFile⟩

theorem steps (unwatched : state.Unwatched configuration) {steps : List Step}
    (never : steps.any Step.attaches = false) :
    (state.steps steps).1.Unwatched configuration := by
  induction steps generalizing state with
  | nil => exact unwatched
  | cons step rest induction =>
      rw [List.any_cons, Bool.or_eq_false_iff] at never
      exact induction (unwatched.step never.1) never.2

theorem switchPort (unwatched : state.Unwatched configuration) (port : PortName) (role : Role)
    {meanwhile : List Step} (never : meanwhile.any Step.attaches = false) :
    (state.switchPort port role meanwhile).1.Unwatched configuration := by
  rw [switchPort_eq_ending, ending, meanwhile_run]
  have served : (((state.requested? port role).map fun requested =>
      (state.waiting requested).steps meanwhile).map Prod.fst |>.getD state).Unwatched
        configuration := by
    cases state.requested? port role with
    | none => exact unwatched
    | some requested =>
        have waiting : (state.waiting requested).Unwatched configuration :=
          ⟨unwatched.configuration, unwatched.observer, unwatched.contaminantFile⟩
        exact waiting.steps never
  let ended := RoleChange.run state.files state.partner port role (state.serving meanwhile)
  rcases tellSwitch_changes _ port role (.ofResult ended.result) with ⟨_, changed⟩
  exact changed ▸ ⟨served.configuration, served.observer, served.contaminantFile⟩

theorem operate (unwatched : state.Unwatched configuration) {operation : Operation}
    (never : operation.attaches = false) :
    (state.operate operation).1.Unwatched configuration := by
  cases operation with
  | step step => exact unwatched.step never
  | requestRole port role meanwhile =>
      rw [Supervisor.operate, requestRole]
      cases PortName.of port with
      | error error => exact unwatched
      | ok port => exact unwatched.switchPort port role never

theorem run (unwatched : state.Unwatched configuration) {operations : List Operation}
    (never : operations.any Operation.attaches = false) :
    (state.run operations).1.Unwatched configuration := by
  induction operations generalizing state with
  | nil => exact unwatched
  | cons operation rest induction =>
      rw [List.any_cons, Bool.or_eq_false_iff] at never
      exact induction (unwatched.operate never.1) never.2

/-- The first observer makes the supervisor look for where the contaminant state is told. -/
theorem survey_attach (unwatched : state.Unwatched configuration) (detail : StatusDetail)
    (failure : Option DeliveryFailure) :
    let watched := state.attach detail failure
    watched.survey = configuration.survey watched.files := by
  rcases state with ⟨_, controller, files, properties, observer⟩
  cases unwatched.configuration
  cases unwatched.observer
  rfl

theorem survey_eq (unwatched : state.Unwatched configuration) (files : Files) :
    state.survey = (configuration.survey files).unaware := by
  rw [Supervisor.survey, unwatched.configuration, unwatched.contaminantFile]
  rfl

end Unwatched

/-- Whatever a supervisor has done without ever having an observer, asking it for the
statuses differs from asking after an observer has come, which leaves the files alone, in
what is told of the primary port. The difference shows unless the statuses cannot be told,
or the primary port is not among them, or the first of the configured files that is there
does not tell the contaminant state. -/
theorem statuses_unwatched (configuration : Configuration) (properties : Properties)
    (files : Files) (operations : List Operation)
    (never : operations.any Operation.attaches = false) (detail : StatusDetail)
    (failure : Option DeliveryFailure) :
    let unwatched := ((started configuration properties files).run operations).1
    let watched := unwatched.attach detail failure
    let survey := configuration.survey unwatched.files
    watched.files = unwatched.files →
      watched.statuses .contaminant = survey.statuses unwatched.files .contaminant ∧
      unwatched.statuses .contaminant =
        (watched.statuses .contaminant).map
          (List.map (PortStatus.withoutDetection configuration.primaryPort)) ∧
      (unwatched.statuses .contaminant = watched.statuses .contaminant ↔
        ∀ ports, watched.statuses .contaminant = .ok ports →
          configuration.primaryPort ∈ ports.map PortStatus.port →
            survey.contaminantReading unwatched.files = none) := by
  intro unwatched watched survey kept
  have idle : unwatched.Unwatched configuration :=
    (Unwatched.start configuration properties files).run never
  -- The observer has made the supervisor look for the file in the very same files.
  have known : watched.statuses .contaminant = survey.statuses unwatched.files .contaminant := by
    have looked := idle.survey_attach detail failure
    dsimp only at looked
    rw [statuses, looked, kept]
  have unknown : unwatched.statuses .contaminant =
      survey.unaware.statuses unwatched.files .contaminant := by
    rw [statuses, idle.survey_eq unwatched.files]
  rw [known, unknown]
  exact ⟨rfl, survey.statuses_unaware unwatched.files,
    survey.statuses_unaware_iff unwatched.files⟩

/-- A port of a device that tells whether there is moisture. -/
def moistureFiles : Files where
  tree := {
    entries := [
      ([.text "sys"], .directory),
      ([.text "class", .text "sys"], .directory),
      ([.text "typec", .text "class", .text "sys"], .directory),
      ([.text "port0", .text "typec", .text "class", .text "sys"], .directory),
      ([.text "power_supply", .text "class", .text "sys"], .directory),
      ([.text "usb", .text "power_supply", .text "class", .text "sys"], .directory),
      ([.text "moisture_detected", .text "usb", .text "power_supply", .text "class",
        .text "sys"], .file (Utf8.bytes "0\n"))]
    distinct := by decide }
  root := { workingDirectory := [], path := ⟨"/"⟩, directory := [] }

def moistureSupervisor : Supervisor :=
  started .default .empty moistureFiles

theorem files_attach_moistureSupervisor :
    (moistureSupervisor.attach .contaminant none).files = moistureFiles := by
  apply Files.eq_of_entries
  · decide +kernel
  · decide +kernel

/-- What is told of a port to which nothing is attached. -/
def idleStatus (contaminant : ContaminantState) : PortStatus where
  port := .port0
  connected := false
  powerRole := none
  dataRole := none
  mode := none
  modeChangeable := true
  dataRoleChangeable := false
  powerRoleChangeable := false
  offeredModes := [.drp, .audioAccessory]
  contaminant := some contaminant

theorem statuses_unwatched_moistureSupervisor :
    let watched := moistureSupervisor.attach .contaminant none
    let dry := { ContaminantState.default with detection := .notDetected }
    watched.statuses .contaminant = .ok [idleStatus dry] ∧
      moistureSupervisor.statuses .contaminant = .ok [idleStatus .undetected] := by
  intro watched dry
  have told := statuses_unwatched .default .empty moistureFiles [] rfl .contaminant none
    files_attach_moistureSupervisor
  have known : watched.statuses .contaminant = .ok [idleStatus dry] := by
    decide +kernel
  have unknown := told.2.1.trans (congrArg _ known)
  exact ⟨known, unknown.trans (by decide +kernel)⟩

/-- Asking without an observer is not always answered as it is with one. -/
theorem statuses_not_always_agree :
    ¬ ∀ (configuration : Configuration) (properties : Properties) (files : Files)
        (detail : StatusDetail) (failure : Option DeliveryFailure),
      let unwatched := started configuration properties files
      let watched := unwatched.attach detail failure
      watched.files = files →
        unwatched.statuses .contaminant = watched.statuses .contaminant := by
  intro claimed
  have same := claimed .default .empty moistureFiles .contaminant none
    files_attach_moistureSupervisor
  exact absurd same (by decide +kernel)

end Supervisor

end UsbTypeC
