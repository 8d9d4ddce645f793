import Mathlib.Control.Monad.Basic
import UsbTypeC.Proofs.Files.LastName
import UsbTypeC.Proofs.Supervisor.Deliveries
import UsbTypeC.Proofs.Supervisor.Footprint

/-! Who may write the mode files. While a mode switch waits they are its own: everything else
that is done meanwhile writes elsewhere, and an event that would put idle ports back into dual
role only takes note of what it tells. Once the switch has ended such an event resets the
idle ports again. -/

namespace UsbTypeC

open Files

/-- What is written for any other reason than the mode of a port. -/
inductive Configuration.WritesElsewhere (configuration : Configuration) : Path → Prop where
  | power {path : Path} (mem : path ∈ configuration.gadget.powerPaths) :
      WritesElsewhere configuration path
  | binding : WritesElsewhere configuration configuration.gadget.controllerPath
  | sleep {path : Path} (device : Path) (mem : path ∈ Autosuspend.sleepPaths device) :
      WritesElsewhere configuration path
  | host (controller : String) :
      WritesElsewhere configuration (Supervisor.controllerModePath controller)

/-- From one state of the files to another by writing elsewhere. -/
def Configuration.WrittenElsewhere (configuration : Configuration) (before after : Files) :
    Prop :=
  ∃ paths, (∀ path ∈ paths, configuration.WritesElsewhere path) ∧
    WrittenThrough paths before after

namespace Configuration.WrittenElsewhere

variable {configuration : Configuration} {before between after : Files} {place : Location}

theorem refl (configuration : Configuration) (files : Files) :
    configuration.WrittenElsewhere files files :=
  ⟨[], fun _ mem => absurd mem List.not_mem_nil, .refl [] files⟩

theorem trans (first : configuration.WrittenElsewhere before between)
    (second : configuration.WrittenElsewhere between after) :
    configuration.WrittenElsewhere before after := by
  rcases first with ⟨paths, elsewhere, written⟩
  rcases second with ⟨more, moreElsewhere, moreWritten⟩
  refine ⟨paths ++ more, ?_, written.append moreWritten⟩
  intro path mem
  rcases List.mem_append.mp mem with mem | mem
  · exact elsewhere path mem
  · exact moreElsewhere path mem

theorem outline (written : configuration.WrittenElsewhere before after) :
    after.outline = before.outline := by
  rcases written with ⟨_, _, through⟩
  exact through.outline

theorem node?_eq (written : configuration.WrittenElsewhere before after)
    (apart : ∀ path, configuration.WritesElsewhere path → before.locate path ≠ .ok place) :
    after.tree.node? place = before.tree.node? place := by
  rcases written with ⟨paths, elsewhere, through⟩
  exact through.node?_eq fun path mem => apart path (elsewhere path mem)

end Configuration.WrittenElsewhere

namespace Supervisor

theorem node?_releaseIfIdle {files : Files} {place : Location}
    (dual : files.tree.node? place = some (.file (Utf8.bytes Role.dual))) (entry : FoundPort) :
    (releaseIfIdle files entry).tree.node? place = some (.file (Utf8.bytes Role.dual)) := by
  rw [releaseIfIdle]
  split
  · exact dual
  · exact node?_tryOverwrite_of_written dual _

theorem node?_foldl_releaseIfIdle {place : Location} (entries : List FoundPort) {files : Files}
    (dual : files.tree.node? place = some (.file (Utf8.bytes Role.dual))) :
    (entries.foldl releaseIfIdle files).tree.node? place =
      some (.file (Utf8.bytes Role.dual)) := by
  induction entries generalizing files with
  | nil => exact dual
  | cons entry rest induction => exact induction (node?_releaseIfIdle dual entry)

theorem outline_foldl_releaseIfIdle (entries : List FoundPort) (files : Files) :
    (entries.foldl releaseIfIdle files).outline = files.outline := by
  induction entries generalizing files with
  | nil => rfl
  | cons entry rest induction =>
      refine (induction (releaseIfIdle files entry)).trans ?_
      rw [releaseIfIdle]
      split
      · rfl
      · exact (writtenThrough_tryOverwrite files _ Role.dual).outline

/-- A reset puts every port that is listed and idle back into dual role. -/
theorem node?_releaseIdlePorts {state : Supervisor} {entries : List FoundPort}
    (found : state.files.ports = .ok entries) {entry : FoundPort} (mem : entry ∈ entries)
    (idle : state.files.partnerPresent entry.name = false) {place : Location} {content : Bytes}
    (control : state.files.node (state.files.controlPath entry.name .mode) =
      .ok (place, .file content)) :
    state.releaseIdlePorts.files.tree.node? place = some (.file (Utf8.bytes Role.dual)) := by
  rcases List.append_of_mem mem with ⟨earlier, later, rfl⟩
  rw [releaseIdlePorts, found]
  dsimp only
  rw [List.foldl_append, List.foldl_cons]
  apply node?_foldl_releaseIfIdle
  -- What the ports in front of this one have written to is still a file, if it is this one.
  have outline := outline_foldl_releaseIfIdle earlier state.files
  rcases node_file_of_outline_eq outline control with ⟨_, control⟩
  rw [releaseIfIdle, partnerPresent_eq_of_outline_eq outline, idle,
    controlPath_eq_of_outline_eq outline]
  exact (node_eq_ok_iff.mp (node_tryOverwrite_same Role.dual control)).2

/-- Only the event of a supply is answered through the mode files. -/
theorem writesElsewhere_of_mem_eventPaths {state : Supervisor} {event : Uevent.Event}
    (other : ∀ name, event ≠ .supplyChanged name) {path : Path}
    (mem : path ∈ state.eventPaths event) : state.configuration.WritesElsewhere path := by
  cases event with
  | portChanged partnerAppeared => exact .power mem
  | supplyChanged name => exact absurd rfl (other name)
  | deviceAppeared device => exact .sleep device mem
  | interfaceAppeared device interface => exact .sleep device mem
  | gadgetController action =>
      cases action with
      | add =>
          rw [List.mem_singleton.mp mem]
          exact .binding
      | remove => cases mem
  | hostLost controller =>
      rw [List.mem_singleton.mp mem]
      exact .host controller

theorem writesElsewhere_of_mem_stepPaths {state : Supervisor} {step : Step}
    (other : ∀ message name, step = .receive message →
      state.event? message ≠ some (.supplyChanged name)) {path : Path}
    (mem : path ∈ state.stepPaths step) : state.configuration.WritesElsewhere path := by
  cases step with
  | attach detail failure =>
      rw [stepPaths] at mem
      split at mem
      · rcases List.mem_flatMap.mp mem with ⟨device, _, sleeps⟩
        exact .sleep device sleeps
      · cases mem
  | receive message =>
      rw [stepPaths] at mem
      cases told : state.event? message with
      | none =>
          rw [told] at mem
          cases mem
      | some event =>
          rw [told] at mem
          refine writesElsewhere_of_mem_eventPaths ?_ mem
          rintro name rfl
          exact other message name rfl told
  | _ => cases mem

/-- A reading of the contaminant state is taken note of, and told if it is news. -/
def noted (state : Supervisor) (present : Bool) : Supervisor :=
  { state with
    contaminantPresent := present
    deliveries := state.deliveries ++
      if state.contaminantPresent = present then []
      else state.observer.toList.map fun observer =>
        { observer
          notification := state.statusNotification observer.detail
          failure := observer.failure } }

theorem files_noted (state : Supervisor) (present : Bool) :
    (state.noted present).files = state.files :=
  rfl

/-- The event of a supply that has something to say resets the idle ports, unless a switch is
in flight; it is taken note of in any case. -/
theorem receive_of_reading {state : Supervisor} {message : Bytes} {name : Option String}
    {present : Bool} (told : state.event? message = some (.supplyChanged name))
    (read : state.contaminantReading? name = some present) :
    state.receive message =
      if state.switching then state.noted present
      else (state.noted present).releaseIdlePorts := by
  have noted : (if state.contaminantPresent = present then
        { state with contaminantPresent := present }
      else { state with contaminantPresent := present }.tellStatuses) = state.noted present := by
    rw [Supervisor.noted]
    split
    · rw [List.append_nil]
    · rcases tellStatuses_changes { state with contaminantPresent := present } with
        ⟨deliveries, changed⟩
      have sent := deliveries_tellStatuses { state with contaminantPresent := present }
      rw [changed] at sent ⊢
      exact congrArg (fun deliveries => { state with contaminantPresent := present, deliveries })
        sent
  rw [receive, told]
  change state.afterSupplyChange name = _
  rw [afterSupplyChange, read]
  dsimp only
  rw [noted]
  rfl

theorem receive_of_no_reading {state : Supervisor} {message : Bytes} {name : Option String}
    (told : state.event? message = some (.supplyChanged name))
    (unread : state.contaminantReading? name = none) : state.receive message = state := by
  rw [receive, told]
  change state.afterSupplyChange name = state
  rw [afterSupplyChange, unread]

/-- While a switch is in flight, nothing that is served is written to the mode files. -/
theorem writtenElsewhere_step {state : Supervisor} {step : Step}
    (inFlight : state.switching = true) (inside : step.fromOutside = false) :
    state.configuration.WrittenElsewhere state.files (state.step step).1.files := by
  by_cases supply : ∃ message name, step = .receive message ∧
      state.event? message = some (.supplyChanged name)
  · rcases supply with ⟨message, name, rfl, told⟩
    have kept : (state.receive message).files = state.files := by
      cases read : state.contaminantReading? name with
      | none => rw [receive_of_no_reading told read]
      | some present =>
          rw [receive_of_reading told read, if_pos inFlight]
          rfl
    change state.configuration.WrittenElsewhere state.files (state.receive message).files
    rw [kept]
    exact .refl state.configuration state.files
  · refine ⟨state.stepPaths step, ?_, writtenThrough_step state inside⟩
    intro path mem
    apply writesElsewhere_of_mem_stepPaths _ mem
    intro message name received told
    exact supply ⟨message, name, received, told⟩

/-- A supervisor whose switch waits since a given state, from which it has only written
elsewhere. -/
structure InFlight (start state : Supervisor) : Prop where
  switching : state.switching = true
  configuration : state.configuration = start.configuration
  written : start.configuration.WrittenElsewhere start.files state.files

theorem InFlight.step {start state : Supervisor} (inFlight : start.InFlight state) {step : Step}
    (inside : step.fromOutside = false) : start.InFlight (state.step step).1 := by
  rcases kept_step state step with ⟨configuration, switching⟩
  have written := writtenElsewhere_step inFlight.switching inside
  rw [inFlight.configuration] at written
  exact ⟨switching.trans inFlight.switching, configuration.trans inFlight.configuration,
    inFlight.written.trans written⟩

theorem InFlight.steps {start state : Supervisor} (inFlight : start.InFlight state)
    {steps : List Step} (inside : ∀ step ∈ steps, step.fromOutside = false) :
    (∀ moment ∈ state.stepMoments steps, start.InFlight moment.state) ∧
      start.InFlight (state.steps steps).1 := by
  induction steps generalizing state with
  | nil => exact ⟨fun moment mem => absurd mem List.not_mem_nil, inFlight⟩
  | cons step rest induction =>
      have next := inFlight.step (inside step List.mem_cons_self)
      have later := induction next fun other mem => inside other (List.mem_cons_of_mem step mem)
      refine ⟨?_, later.2⟩
      intro moment mem
      rcases List.mem_cons.mp mem with rfl | mem
      · exact inFlight
      · exact later.1 moment mem

theorem inFlight_switchMoments {state : Supervisor} {port : PortName} {mode : PortMode}
    {requested : Files}
    (written : state.files.overwrite (state.files.controlPath port .mode)
      (Role.mode mode).control = .ok requested)
    {meanwhile : List Step} (inside : ∀ step ∈ meanwhile, step.fromOutside = false)
    {moment : Moment} (mem : moment ∈ state.switchMoments port (.mode mode) meanwhile) :
    (state.waiting requested).InFlight moment.state := by
  have waiting : (state.waiting requested).InFlight (state.waiting requested) :=
    ⟨rfl, rfl, .refl _ _⟩
  have served := waiting.steps inside
  rw [switchMoments_mode_of_ok written] at mem
  rcases List.mem_append.mp mem with mem | mem
  · exact served.1 moment mem
  · rw [List.mem_singleton.mp mem]
    exact served.2

theorem switching_switchPort (state : Supervisor) (port : PortName) (role : Role)
    (meanwhile : List Step) : (state.switchPort port role meanwhile).1.switching = false := by
  rw [switchPort_eq_ending, ending]
  dsimp only
  rcases tellSwitch_changes _ port role _ with ⟨_, changed⟩
  rw [changed]

theorem run_nil (state : Supervisor) : state.run [] = (state, []) :=
  rfl

/-- No switch is in flight between two operations. -/
theorem switching_run {state : Supervisor} (idle : state.switching = false)
    (operations : List Operation) : (state.run operations).1.switching = false := by
  induction operations generalizing state with
  | nil => exact idle
  | cons operation rest induction =>
      apply induction
      cases operation with
      | step step => exact (kept_step state step).2.trans idle
      | requestRole port role meanwhile =>
          simp only [requestRole]
          cases PortName.of port with
          | error error => exact idle
          | ok port => exact switching_switchPort state port role meanwhile

/-- The mode files of the ports that are listed are written for no other reason. A directory
is no such file, as it cannot be written. -/
def ModeFilesApart (state : Supervisor) : Prop :=
  ∀ entries, state.files.ports = .ok entries → ∀ entry ∈ entries, ∀ place node,
    state.files.node (state.files.controlPath entry.name .mode) = .ok (place, node) →
      node ≠ .directory →
        ∀ path, state.configuration.WritesElsewhere path → state.files.locate path ≠ .ok place

/-- The names that the control file of a mode may have. -/
def modeNames : List String :=
  ["port_type", "data_role"]

/-- The names of all other files that are written. -/
def otherNames : List String :=
  ["MaxPower", "bmAttributes", "UDC", "control", "wakeup", "mode"]

theorem endsIn_controlPath_mode (files : Files) (port : PortName) :
    ∃ name ∈ modeNames, (files.controlPath port .mode).EndsIn name := by
  have ends (name : String) : (port.attributePath name).EndsIn name :=
    .join (.inl rfl) port.directory
  unfold Files.controlPath
  dsimp only
  split
  · exact ⟨_, List.mem_cons_self, ends "port_type"⟩
  · exact ⟨_, List.mem_cons_of_mem _ List.mem_cons_self, ends "data_role"⟩

theorem endsIn_of_writesElsewhere {configuration : Configuration} {path : Path}
    (elsewhere : configuration.WritesElsewhere path) :
    ∃ name ∈ otherNames, path.EndsIn name := by
  have below (part : String) (name : String) : Path.EndsIn ⟨part ++ "/" ++ name⟩ name :=
    .inr ⟨part.toList, by simp⟩
  cases elsewhere with
  | power mem =>
      rcases List.mem_cons.mp mem with rfl | mem
      · exact ⟨"MaxPower", by decide, .join (.inl rfl) _⟩
      · rw [List.mem_singleton.mp mem]
        exact ⟨"bmAttributes", by decide, .join (.inl rfl) _⟩
  | binding => exact ⟨"UDC", by decide, .join (.inl rfl) _⟩
  | sleep device mem =>
      rcases List.mem_cons.mp mem with rfl | mem
      · exact ⟨"control", by decide, .join (below "power" "control") device⟩
      · rw [List.mem_singleton.mp mem]
        exact ⟨"wakeup", by decide, .join (below "power" "wakeup") device⟩
  | host controller => exact ⟨"mode", by decide, .join (.inl rfl) _⟩

/-- The names differ, so only a link that goes by one of them could make the mode file of a
port written for another reason. -/
theorem modeFilesApart_of_unlinked {state : Supervisor}
    (unlinked : ∀ name ∈ modeNames ++ otherNames, state.files.tree.Unlinked name) :
    state.ModeFilesApart := by
  have valid : ∀ name ∈ modeNames ++ otherNames, PortName.IsValid name := by decide
  have different : ∀ name ∈ modeNames, name ∉ otherNames := by decide
  intro entries listed entry mem place node found _ path elsewhere same
  rcases endsIn_controlPath_mode state.files entry.name with ⟨mode, modeMem, ends⟩
  rcases endsIn_of_writesElsewhere elsewhere with ⟨other, otherMem, otherEnds⟩
  have modeListed := List.mem_append_left otherNames modeMem
  have otherListed := List.mem_append_right modeNames otherMem
  have named := head?_locate (unlinked _ modeListed) (valid _ modeListed) ends
    (node_eq_ok_iff.mp found).1
  have otherNamed := head?_locate (unlinked _ otherListed) (valid _ otherListed) otherEnds same
  rw [named] at otherNamed
  cases otherNamed
  exact different mode modeMem otherMem

/-- From the request to the end of the wait the control file of a mode switch holds the
request and the mode files of all other ports stay as they were, whatever is served
meanwhile. The event of a supply is taken note of and told all the same, and as soon as the
switch has ended such an event puts every idle port back into dual role. -/
theorem waitingSwitch_owns_modeFiles (state : Supervisor) {entries : List FoundPort}
    (listed : state.files.ports = .ok entries) (apart : state.ModeFilesApart)
    {entry : FoundPort} (mem : entry ∈ entries) {place : Location} {content : Bytes}
    (control : state.files.node (state.files.controlPath entry.name .mode) =
      .ok (place, .file content))
    (mode : PortMode) (meanwhile : List Step)
    (inside : ∀ step ∈ meanwhile, step.fromOutside = false) :
    let switch : Operation := .requestRole entry.name.text (.mode mode) meanwhile
    (∀ moment ∈ state.operationMoments switch,
        moment.state.files.tree.node? place =
            some (.file (Utf8.bytes (Role.mode mode).control)) ∧
          ∀ other ∈ entries, ∀ elsewhere,
            state.files.locate (state.files.controlPath other.name .mode) = .ok elsewhere →
              elsewhere ≠ place →
                moment.state.files.tree.node? elsewhere = state.files.tree.node? elsewhere) ∧
      (∀ (waiting : Supervisor) (message : Bytes) (name : Option String) (present : Bool),
        .served waiting (.receive message) ∈ state.operationMoments switch →
          waiting.event? message = some (.supplyChanged name) →
            waiting.contaminantReading? name = some present →
              waiting.receive message = waiting.noted present) ∧
      ∀ (later : List Operation) (message : Bytes) (name : Option String) (present : Bool),
        let ended := ((state.operate switch).1.run later).1
        ended.event? message = some (.supplyChanged name) →
          ended.contaminantReading? name = some present →
            ended.receive message = (ended.noted present).releaseIdlePorts ∧
            ∀ ports, ended.files.ports = .ok ports → ∀ port ∈ ports,
              ended.files.partnerPresent port.name = false → ∀ location held,
                ended.files.node (ended.files.controlPath port.name .mode) =
                    .ok (location, .file held) →
                  (ended.receive message).files.tree.node? location =
                    some (.file (Utf8.bytes Role.dual)) := by
  intro switch
  -- The control file can be written, so the switch comes to waiting.
  let path := state.files.controlPath entry.name .mode
  let requested := state.files.tryOverwrite path (Role.mode mode).control
  have written : state.files.overwrite path (Role.mode mode).control = .ok requested :=
    overwrite_of_file control _
  have holds := (node_eq_ok_iff.mp (node_tryOverwrite_same (Role.mode mode).control control)).2
  have request := writtenThrough_overwrite written
  have owned : ∀ moment ∈ state.operationMoments switch,
      (state.waiting requested).InFlight moment.state := by
    rw [operationMoments_text]
    exact fun moment mem => inFlight_switchMoments written inside mem
  -- Where the mode files are does not change, so nothing leads there from elsewhere.
  have kept {moment : Moment} (mem : moment ∈ state.operationMoments switch) {other : FoundPort}
      (otherMem : other ∈ entries) {location : Location}
      (leads : state.files.locate (state.files.controlPath other.name .mode) = .ok location) :
      moment.state.files.tree.node? location = requested.tree.node? location := by
    have through := (owned moment mem).written
    by_cases writable : ∃ node, state.files.tree.node? location = some node ∧ node ≠ .directory
    · rcases writable with ⟨node, held, writable⟩
      refine through.node?_eq fun path elsewhere => ?_
      change requested.locate path ≠ .ok location
      rw [request.locate_eq]
      exact apart entries listed other otherMem location node
        (node_eq_ok_iff.mpr ⟨leads, held⟩) writable path elsewhere
    · have unwritable : ∀ node, state.files.tree.node? location = some node → node = .directory :=
        fun node held => Decidable.byContradiction fun differs => writable ⟨node, held, differs⟩
      have whole : moment.state.files.outline = state.files.outline :=
        through.outline.trans request.outline
      rw [node?_eq_of_unwritable whole unwritable,
        node?_eq_of_unwritable request.outline unwritable]
  have leads := (node_eq_ok_iff.mp control).1
  refine ⟨fun moment there => ⟨?_, ?_⟩, ?_, ?_⟩
  · exact (kept there mem leads).trans holds
  · intro other otherMem elsewhere otherLeads different
    rw [kept there otherMem otherLeads]
    refine request.node?_eq fun path single => ?_
    rw [List.mem_singleton.mp single, leads]
    exact fun same => different (Except.ok.inj same).symm
  · intro waiting message name present there told read
    have inFlight : waiting.switching = true := (owned _ there).switching
    rw [receive_of_reading told read, if_pos inFlight]
  · intro later message name present ended told read
    have idle : ended.switching = false := by
      apply switching_run
      change (state.requestRole entry.name.text (.mode mode) meanwhile).1.switching = false
      rw [requestRole_text]
      exact switching_switchPort state entry.name (.mode mode) meanwhile
    have reset : ended.receive message = (ended.noted present).releaseIdlePorts := by
      rw [receive_of_reading told read, idle]
      rfl
    refine ⟨reset, fun ports found port portMem unattached location held file => ?_⟩
    rw [reset]
    exact @node?_releaseIdlePorts (ended.noted present) _ found _ portMem unattached _ _ file

def port1 : PortName where
  text := "port1"
  valid := by decide

/-- Two ports to which nothing is attached, in the places that links lead to, and a supply
that tells of moisture. -/
def floodedPorts : Supervisor :=
  let files : Files :=
    { root := { workingDirectory := [], path := ⟨"/"⟩, directory := [] }
      tree := {
        entries := [
          ([.text "sys"], .directory),
          ([.text "class", .text "sys"], .directory),
          ([.text "typec", .text "class", .text "sys"], .directory),
          ([.text "port0", .text "typec", .text "class", .text "sys"],
            .link ⟨"../../devices/port0"⟩),
          ([.text "port1", .text "typec", .text "class", .text "sys"],
            .link ⟨"../../devices/port1"⟩),
          ([.text "devices", .text "sys"], .directory),
          ([.text "port0", .text "devices", .text "sys"], .directory),
          ([.text "port_type", .text "port0", .text "devices", .text "sys"],
            .file (Utf8.bytes "[dual] source sink\n")),
          ([.text "port1", .text "devices", .text "sys"], .directory),
          ([.text "port_type", .text "port1", .text "devices", .text "sys"],
            .file (Utf8.bytes "dual [source] sink\n")),
          ([.text "power_supply", .text "class", .text "sys"], .directory),
          ([.text "usb", .text "power_supply", .text "class", .text "sys"], .directory),
          ([.text "moisture_detected", .text "usb", .text "power_supply", .text "class",
            .text "sys"], .file (Utf8.bytes "1\n"))]
        distinct := by decide } }
  (started .default .empty files).attach .contaminant none

/-- The supply speaks up while the switch of one port waits, and again after it. -/
theorem waitingSwitch_owns_modeFiles_floodedPorts :
    let supply := Utf8.bytes "change@/devices/power_supply/usb"
    let meanwhile := [.receive supply, .receive (Utf8.bytes "add@/typec/port0-partner")]
    let switch : Operation := .requestRole PortName.port0.text (.mode .dfp) meanwhile
    let place (port : PortName) : Location :=
      [.text "port_type", .text port.text, .text "devices", .text "sys"]
    (∀ moment ∈ floodedPorts.operationMoments switch,
        moment.state.files.tree.node? (place .port0) = some (.file (Utf8.bytes "source")) ∧
          moment.state.files.tree.node? (place port1) =
            floodedPorts.files.tree.node? (place port1)) ∧
      (∃ waiting, .served waiting (.receive supply) ∈ floodedPorts.operationMoments switch ∧
        waiting.contaminantPresent = false ∧ waiting.receive supply = waiting.noted true) ∧
      ∀ port ∈ [.port0, port1],
        ((floodedPorts.operate switch).1.receive supply).files.tree.node? (place port) =
          some (.file (Utf8.bytes Role.dual)) := by
  intro supply meanwhile switch place
  have listed : floodedPorts.files.ports = .ok [⟨.port0, false⟩, ⟨port1, false⟩] := by
    decide +kernel
  have first : ⟨.port0, false⟩ ∈ [(⟨.port0, false⟩ : FoundPort), ⟨port1, false⟩] :=
    List.mem_cons_self
  have second : ⟨port1, false⟩ ∈ [(⟨.port0, false⟩ : FoundPort), ⟨port1, false⟩] :=
    List.mem_cons_of_mem _ List.mem_cons_self
  have unlinked : ∀ name ∈ modeNames ++ otherNames, floodedPorts.files.tree.Unlinked name :=
    fun name mem => Tree.unlinked_of_entries (by revert name; decide +kernel)
  have control : floodedPorts.files.node (floodedPorts.files.controlPath .port0 .mode) =
      .ok (place .port0, .file (Utf8.bytes "[dual] source sink\n")) := by decide +kernel
  rcases waitingSwitch_owns_modeFiles floodedPorts listed (modeFilesApart_of_unlinked unlinked)
    first control .dfp meanwhile (by decide) with ⟨during, noted, after⟩
  refine ⟨fun moment mem => ⟨(during moment mem).1, ?_⟩, ?_, ?_⟩
  · exact (during moment mem).2 _ second (place port1) (by decide +kernel) (by decide)
  · let requested := floodedPorts.files.tryOverwrite
      (floodedPorts.files.controlPath .port0 .mode) (Role.mode .dfp).control
    let waiting := floodedPorts.waiting requested
    have begins : .served waiting (.receive supply) ∈ floodedPorts.operationMoments switch := by
      have written := overwrite_of_file control (Role.mode .dfp).control
      rw [operationMoments_text, switchMoments_mode_of_ok written]
      exact List.mem_append_left _ List.mem_cons_self
    have reads : waiting.contaminantPresent = false ∧
        waiting.event? supply = some (.supplyChanged none) ∧
        waiting.contaminantReading? none = some true := by decide +kernel
    rcases reads with ⟨dry, told, read⟩
    exact ⟨waiting, begins, dry, noted waiting supply none true begins told read⟩
  · let ended := (floodedPorts.operate switch).1
    have reads : ended.event? supply = some (.supplyChanged none) ∧
        ended.contaminantReading? none = some true ∧
        ended.files.ports = .ok [⟨.port0, false⟩, ⟨port1, false⟩] ∧
        (∀ port ∈ [.port0, port1], ended.files.partnerPresent port = false) ∧
        ended.files.node (ended.files.controlPath .port0 .mode) =
          .ok (place .port0, .file (Utf8.bytes "source")) ∧
        ended.files.node (ended.files.controlPath port1 .mode) =
          .ok (place port1, .file (Utf8.bytes "dual [source] sink\n")) := by decide +kernel
    rcases reads with ⟨told, read, found, idle, control0, control1⟩
    have reset := after []
    simp only [run_nil] at reset
    have dual := (reset supply none true told read).2 _ found
    intro port mem
    rcases List.mem_cons.mp mem with rfl | mem
    · exact dual _ first (idle _ List.mem_cons_self) _ _ control0
    · rw [List.mem_singleton.mp mem]
      exact dual _ second (idle _ (List.mem_cons_of_mem _ List.mem_cons_self)) _ _ control1

end Supervisor

end UsbTypeC
