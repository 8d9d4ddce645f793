import UsbTypeC.Proofs.Usb.Autosuspend
import UsbTypeC.Proofs.Usb.PowerBudget
import UsbTypeC.Proofs.Supervisor.Handshake

/-! What a supervisor may write. Each request comes with the paths through which
it may write, told from the state in which it is served; what none of them leads to
stays as it is, and no request adds, takes away or turns an entry into another kind.
Only an edit from outside does that. -/

namespace UsbTypeC

open Files

namespace Files

theorem controlPath_eq_of_outline_eq {before after : Files}
    (same : after.outline = before.outline) (port : PortName) (kind : RoleKind) :
    after.controlPath port kind = before.controlPath port kind := by
  cases kind with
  | power => rfl
  | data => rfl
  | mode =>
      unfold controlPath
      dsimp only
      rw [has_eq_of_outline_eq same]

theorem partnerPresent_eq_of_outline_eq {before after : Files}
    (same : after.outline = before.outline) (port : PortName) :
    after.partnerPresent port = before.partnerPresent port :=
  has_eq_of_outline_eq same port.partnerDirectory

/-- The mode files of the ports that have no partner. -/
def idleModePaths (files : Files) : List Path :=
  match files.ports with
  | .error _ => []
  | .ok entries =>
      (entries.filter fun entry => !files.partnerPresent entry.name).map fun entry =>
        files.controlPath entry.name .mode

theorem mem_idleModePaths {files : Files} {entries : List FoundPort} {entry : FoundPort}
    (found : files.ports = .ok entries) (mem : entry ∈ entries)
    (idle : files.partnerPresent entry.name = false) :
    files.controlPath entry.name .mode ∈ files.idleModePaths := by
  rw [idleModePaths]
  rw [found]
  exact List.mem_map.mpr ⟨entry, List.mem_filter.mpr ⟨mem, by simp [idle]⟩, rfl⟩

end Files

namespace Supervisor

theorem writtenThrough_releaseIdlePorts (state : Supervisor) :
    WrittenThrough state.files.idleModePaths state.files state.releaseIdlePorts.files := by
  rw [releaseIdlePorts]
  split
  · exact .refl _ _
  · next entries found =>
    refine writtenThrough_foldl releaseIfIdle entries state.files rfl ?_
    intro entry mem later same
    rw [releaseIfIdle]
    split
    · exact .refl _ later
    · next occupied =>
      have idle : state.files.partnerPresent entry.name = false := by
        rw [← partnerPresent_eq_of_outline_eq same]
        exact Bool.eq_false_iff.mpr occupied
      have mode := mem_idleModePaths found mem idle
      rw [← controlPath_eq_of_outline_eq same] at mode
      exact (writtenThrough_tryOverwrite later _ Role.dual).weaken
        (List.cons_subset.mpr ⟨mode, List.nil_subset _⟩)

theorem files_tellStatuses (state : Supervisor) :
    state.tellStatuses.files = state.files := by
  rcases tellStatuses_changes state with ⟨_, told⟩
  rw [told]

theorem writtenThrough_followPowerMode (state : Supervisor) :
    WrittenThrough state.configuration.gadget.powerPaths state.files
      state.followPowerMode.files := by
  rw [followPowerMode]
  split
  · exact .refl _ _
  · exact state.powerOverride.writtenThrough_follow state.configuration.gadget state.files _

theorem writtenThrough_afterPortChange (state : Supervisor) (partnerAppeared : Bool) :
    WrittenThrough state.configuration.gadget.powerPaths state.files
      (state.afterPortChange partnerAppeared).files := by
  rcases afterPortChange_follows state partnerAppeared with ⟨_, changed⟩
  rw [changed]
  exact writtenThrough_followPowerMode state

theorem writtenThrough_afterSupplyChange (state : Supervisor) (name : Option String) :
    WrittenThrough state.files.idleModePaths state.files
      (state.afterSupplyChange name).files := by
  rcases afterSupplyChange_cases state name with same | ⟨present, deliveries, changed⟩
  · rw [same]
    exact .refl _ _
  · rw [changed]
    split
    · exact .refl _ _
    · exact writtenThrough_releaseIdlePorts
        { state with contaminantPresent := present, deliveries }

theorem writtenThrough_bindGadget (state : Supervisor) :
    WrittenThrough [state.configuration.gadget.controllerPath] state.files
      state.bindGadget.files := by
  rw [bindGadget]
  split
  · exact .refl _ _
  · dsimp only
    split
    · next bound => exact writtenThrough_overwrite bound
    · exact .refl _ _

theorem writtenThrough_reviveHost (state : Supervisor) (controller : String) :
    WrittenThrough [controllerModePath controller] state.files
      (state.reviveHost controller).files :=
  (writtenThrough_tryOverwrite state.files _ "none").trans
    (writtenThrough_tryOverwrite _ _ "host")

/-- The paths through which an event may be answered. -/
def eventPaths (state : Supervisor) : Uevent.Event → List Path
  | .portChanged _ => state.configuration.gadget.powerPaths
  | .supplyChanged _ => state.files.idleModePaths
  | .deviceAppeared device => Autosuspend.sleepPaths device
  | .interfaceAppeared device _ => Autosuspend.sleepPaths device
  | .gadgetController .add => [state.configuration.gadget.controllerPath]
  | .gadgetController .remove => []
  | .hostLost controller => [controllerModePath controller]

theorem writtenThrough_respond (state : Supervisor) (event : Uevent.Event) :
    WrittenThrough (state.eventPaths event) state.files (state.respond event).files := by
  cases event with
  | portChanged partnerAppeared => exact writtenThrough_afterPortChange state partnerAppeared
  | supplyChanged name => exact writtenThrough_afterSupplyChange state name
  | deviceAppeared device =>
      exact state.configuration.autosuspend.writtenThrough_admitDevice state.files device
  | interfaceAppeared device interface =>
      exact state.configuration.autosuspend.writtenThrough_admitInterface state.files device
        interface
  | gadgetController action =>
      cases action with
      | add => exact writtenThrough_bindGadget (state.setAdbDisabled "0")
      | remove => exact .refl _ _
  | hostLost controller => exact writtenThrough_reviveHost state controller

/-- The paths through which one request may write. Registering an observer where
there was none looks around among the devices that are there. -/
def stepPaths (state : Supervisor) : Step → List Path
  | .attach _ _ =>
      if state.observer = none then
        (Autosuspend.presentDevices state.files).flatMap Autosuspend.sleepPaths
      else []
  | .receive message =>
      match state.event? message with
      | some event => state.eventPaths event
      | none => []
  | _ => []

end Supervisor

/-- An edit is made from outside; everything else is asked of the supervisor. -/
def Step.fromOutside : Step → Bool
  | .edit _ _ => true
  | _ => false

namespace Supervisor

theorem writtenThrough_attach (state : Supervisor) (detail : StatusDetail)
    (failure : Option DeliveryFailure) :
    WrittenThrough (state.stepPaths (.attach detail failure)) state.files
      (state.attach detail failure).files := by
  unfold attach register stepPaths
  cases observed : state.observer with
  | none => exact state.configuration.autosuspend.writtenThrough_settleWakeup state.files
  | some observer => exact .refl _ _

theorem writtenThrough_step (state : Supervisor) {step : Step}
    (inside : step.fromOutside = false) :
    WrittenThrough (state.stepPaths step) state.files (state.step step).1.files := by
  have told : WrittenThrough [] state.files state.tellStatuses.files := by
    rw [files_tellStatuses]
    exact .refl _ _
  cases step with
  | attach detail failure => exact writtenThrough_attach state detail failure
  | detach =>
      change WrittenThrough [] state.files (state.register none).files
      unfold register
      cases state.observer <;> exact .refl _ _
  | tellStatuses => exact told
  | detectContaminant port enable => exact told
  | protectFromContaminant port enable => exact told
  | receive message =>
      change WrittenThrough _ state.files (state.receive message).files
      unfold receive stepPaths
      dsimp only
      cases state.event? message with
      | none => exact .refl _ _
      | some event => exact writtenThrough_respond state event
  | setProperty key value =>
      simp only [Supervisor.step]
      split <;> exact .refl _ _
  | edit place edit => cases inside
  | statuses detail => exact .refl _ _
  | askWatching => exact .refl _ _
  | askWakeupIgnored => exact .refl _ _
  | askPrimaryPort => exact .refl _ _
  | getProperty key => exact .refl _ _

/-- The paths of one step after another, each told from the state that the last one
left. -/
def stepsPaths (state : Supervisor) : List Step → List Path
  | [] => []
  | step :: rest => state.stepPaths step ++ (state.step step).1.stepsPaths rest

theorem writtenThrough_steps (state : Supervisor) {served : List Step}
    (inside : ∀ step ∈ served, step.fromOutside = false) :
    WrittenThrough (state.stepsPaths served) state.files (state.steps served).1.files := by
  induction served generalizing state with
  | nil => exact .refl _ _
  | cons step rest induction =>
      have first := writtenThrough_step state (inside step List.mem_cons_self)
      have later := induction (state.step step).1
        fun other mem => inside other (List.mem_cons_of_mem step mem)
      exact first.append later

theorem files_ending (state : Supervisor) (port : PortName) (role : Role)
    (ended : RoleChange.Ended (Supervisor × List Answer)) :
    (state.ending port role ended).1.files = ended.files := by
  rcases tellSwitch_changes
      { (ended.meanwhile.map Prod.fst).getD state with
        files := ended.files, partner := ended.partner, switching := false }
      port role (.ofResult ended.result) with ⟨_, told⟩
  exact congrArg Supervisor.files told

theorem writtenThrough_direct (files : Files) (port : PortName) (role : Role) :
    WrittenThrough [files.controlPath port role.kind] files
      (RoleChange.direct (.unwritten files) port role).1.files := by
  rw [RoleChange.direct_unwritten]
  dsimp only
  split
  · exact .refl _ files
  · next requested written =>
    have through := writtenThrough_overwrite written
    split
    · exact through
    · split <;> exact through

/-- The paths of a switch: the control file of its role, and what is asked for while
it waits. -/
def switchPaths (state : Supervisor) (port : PortName) (role : Role)
    (meanwhile : List Step) : List Path :=
  state.files.controlPath port role.kind ::
    match role with
    | .mode mode =>
        match state.files.overwrite (state.files.controlPath port .mode)
            (Role.mode mode).control with
        | .ok requested => (state.waiting requested).stepsPaths meanwhile
        | .error _ => []
    | _ => []

theorem writtenThrough_switchPort_mode (state : Supervisor) (port : PortName)
    (mode : PortMode) {meanwhile : List Step}
    (inside : ∀ step ∈ meanwhile, step.fromOutside = false) :
    WrittenThrough (state.switchPaths port (.mode mode) meanwhile) state.files
      (state.switchPort port (.mode mode) meanwhile).1.files := by
  unfold switchPaths
  dsimp only
  cases attempt : state.files.overwrite (state.files.controlPath port .mode)
      (Role.mode mode).control with
  | error error =>
      rw [switchPort_mode_of_error state attempt, files_tellSwitch_settled]
      exact writtenThrough_tryOverwrite state.files _ Role.dual
  | ok requested =>
      have served := (writtenThrough_overwrite attempt).append
        (writtenThrough_steps (state.waiting requested) inside)
      rw [switchPort_mode_of_ok state attempt]
      dsimp only
      split
      · rw [files_tellSwitch_settled]
        exact served
      · rw [files_tellSwitch_settled]
        have fallback := writtenThrough_tryOverwrite
          ((state.waiting requested).steps meanwhile).1.files
          (state.files.controlPath port .mode) Role.dual
        exact served.trans (fallback.weaken (List.subset_append_left _ _))

theorem writtenThrough_switchPort (state : Supervisor) (port : PortName) (role : Role)
    {meanwhile : List Step} (inside : ∀ step ∈ meanwhile, step.fromOutside = false) :
    WrittenThrough (state.switchPaths port role meanwhile) state.files
      (state.switchPort port role meanwhile).1.files := by
  cases role with
  | mode mode => exact writtenThrough_switchPort_mode state port mode inside
  | power role =>
      rw [switchPort_eq_ending, files_ending]
      exact writtenThrough_direct state.files port (.power role)
  | data role =>
      rw [switchPort_eq_ending, files_ending]
      exact writtenThrough_direct state.files port (.data role)

/-- The paths through which one operation may write. A name that is no name of a port
leads nowhere. -/
def operationPaths (state : Supervisor) : Operation → List Path
  | .step step => state.stepPaths step
  | .requestRole port role meanwhile =>
      match PortName.of port with
      | .ok port => state.switchPaths port role meanwhile
      | .error _ => []

end Supervisor

def Operation.fromOutside : Operation → Bool
  | .step request => request.fromOutside
  | .requestRole _ _ meanwhile => meanwhile.any Step.fromOutside

namespace Supervisor

theorem writtenThrough_operate (state : Supervisor) {operation : Operation}
    (inside : operation.fromOutside = false) :
    WrittenThrough (state.operationPaths operation) state.files
      (state.operate operation).1.files := by
  cases operation with
  | step step => exact writtenThrough_step state inside
  | requestRole port role meanwhile =>
      have served : ∀ step ∈ meanwhile, step.fromOutside = false := by
        intro step mem
        exact Bool.eq_false_iff.mpr fun outside =>
          Bool.eq_false_iff.mp inside (List.any_eq_true.mpr ⟨step, mem, outside⟩)
      change WrittenThrough _ state.files (state.requestRole port role meanwhile).1.files
      unfold requestRole operationPaths
      dsimp only
      cases PortName.of port with
      | error error => exact .refl _ _
      | ok port => exact writtenThrough_switchPort state port role served

/-- The paths of one operation after another, each told from the state that the last
one left. -/
def runPaths (state : Supervisor) : List Operation → List Path
  | [] => []
  | operation :: rest =>
      state.operationPaths operation ++ (state.operate operation).1.runPaths rest

theorem writtenThrough_run (state : Supervisor) {operations : List Operation}
    (inside : ∀ operation ∈ operations, operation.fromOutside = false) :
    WrittenThrough (state.runPaths operations) state.files
      (state.run operations).1.files := by
  induction operations generalizing state with
  | nil => exact .refl _ _
  | cons operation rest induction =>
      have first := writtenThrough_operate state (inside operation List.mem_cons_self)
      have later := induction (state.operate operation).1
        fun other mem => inside other (List.mem_cons_of_mem operation mem)
      exact first.append later

/-- No operation adds, takes away, moves or turns an entry into another kind, and
what an operation changes the content of is where one of its paths leads. The paths
lead to the same places all the time, and links may make several of them lead to one. -/
theorem run_within_footprint (state : Supervisor) (operations : List Operation)
    (inside : ∀ operation ∈ operations, operation.fromOutside = false) :
    let after := (state.run operations).1.files
    after.outline = state.files.outline ∧
      ∀ location, after.tree.node? location ≠ state.files.tree.node? location →
        ∃ path ∈ state.runPaths operations, state.files.locate path = .ok location := by
  have written := writtenThrough_run state inside
  exact ⟨written.outline, written.reached⟩

/-- One port, whose control file is a link to a file beside it. -/
def linkedPort : Supervisor :=
  .started .default .empty
    { root := { workingDirectory := [], path := ⟨"/"⟩, directory := [] }
      tree := {
        entries := [
          ([.text "sys"], .directory),
          ([.text "class", .text "sys"], .directory),
          ([.text "typec", .text "class", .text "sys"], .directory),
          ([.text "port0", .text "typec", .text "class", .text "sys"], .directory),
          ([.text "port_type", .text "port0", .text "typec", .text "class", .text "sys"],
            .link ⟨"../../kind"⟩),
          ([.text "kind", .text "class", .text "sys"], .file (Utf8.bytes "[source] sink"))]
        distinct := by decide } }

/-- A mode switch that nobody confirms leaves its mark behind the link. -/
theorem run_within_footprint_linkedPort :
    let operations : List Operation := [.requestRole "port0" (.mode .ufp) [.tellStatuses]]
    let location : Location := [.text "kind", .text "class", .text "sys"]
    (∀ operation ∈ operations, operation.fromOutside = false) ∧
      (linkedPort.run operations).1.files.tree.node? location =
        some (.file (Utf8.bytes Role.dual)) ∧
      ∃ path ∈ linkedPort.runPaths operations,
        linkedPort.files.locate path = .ok location := by
  intro operations location
  have inside : ∀ operation ∈ operations, operation.fromOutside = false := by decide
  have after : (linkedPort.run operations).1.files.tree.node? location =
      some (.file (Utf8.bytes Role.dual)) := by decide +kernel
  have before : linkedPort.files.tree.node? location =
      some (.file (Utf8.bytes "[source] sink")) := by decide +kernel
  refine ⟨inside, after, (run_within_footprint linkedPort operations inside).2 location ?_⟩
  rw [after, before]
  decide +kernel

end Supervisor

end UsbTypeC
