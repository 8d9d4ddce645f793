import Mathlib.Control.Monad.Basic
import UsbTypeC.Proofs.Files.Rewriting
import UsbTypeC.Proofs.Supervisor.Course
import UsbTypeC.Proofs.Supervisor.DirectSwitch

/-! What the ports are told to be after a switch. A role that was taken is told of the port
that took it, and everything else as before; but a port that is left in dual role, by request
or because its partner did not attach again, keeps all ports from being told. -/

namespace UsbTypeC

namespace Supervisor

open Files

theorem statuses_tellSwitch (state : Supervisor) (port : PortName) (role : Role)
    (outcome : Outcome) (detail : StatusDetail) :
    (state.tellSwitch port role outcome).statuses detail = state.statuses detail := by
  rcases tellSwitch_changes state port role outcome with ⟨_, changed⟩
  rw [changed]
  rfl

/-- What a switch that does not wait leads to. -/
theorem switchPort_direct (state : Supervisor) {port : PortName} {role : Role}
    (direct : role.kind ≠ .mode) {place : Location} {content : Bytes}
    (control : state.files.node (state.files.controlPath port role.kind) =
      .ok (place, .file content)) (meanwhile : List Step) :
    let files := state.files.tryOverwrite (state.files.controlPath port role.kind) role.control
    state.switchPort port role meanwhile =
      ({ state with files, switching := false }.tellSwitch port role .success,
        { answer := .ok .nothing
          meanwhile := some []
          attempts := [⟨state.files.controlPath port role.kind, role.control⟩] }) := by
  rw [switchPort_of_direct state port direct meanwhile]
  rw [RoleChange.direct_of_file control]
  rfl

/-- While a mode switch waits and nothing that is asked for changes, the ports differ from what
they were in one mode and in nothing else. -/
theorem rewritten_of_sameSight {state waited : Supervisor} {detail : StatusDetail}
    {port : PortName} {mode : PortMode} {place : RoleKind → Location}
    (connected : port ∈ state.files.connectedPorts) (asked : state.files.asksMode port = true)
    (own : state.survey.OwnRoles state.files detail port place)
    (configured : waited.configuration = state.configuration)
    (unchanged : state.survey.SameSight waited.survey
      (state.files.tryOverwrite (port.rolePath .mode) (Role.mode mode).control)
      waited.files detail) :
    state.survey.RoleRewritten waited.survey state.files waited.files detail port .mode ∧
      waited.survey.OwnRoles waited.files detail port place ∧
      waited.files.node (port.rolePath .mode) =
        .ok (place .mode, .file (Utf8.bytes (Role.mode mode).control)) := by
  have first := own.rewritten .mode (Role.mode mode).control
  rcases own.file .mode with ⟨content, control⟩
  have held := node_tryOverwrite_same (Role.mode mode).control control
  have request := own.transfer first ⟨_, held⟩
  rw [← Survey.connectedPorts_eq first.listing] at connected
  rw [asksMode, ← Survey.accessoryMode_eq first.partner] at asked
  have primary : waited.survey.primaryPort = state.survey.primaryPort :=
    congrArg Configuration.primaryPort configured
  have second := unchanged.rewritten primary connected asked .mode
  have kept := (unchanged.atRole connected asked .mode).trans held
  exact ⟨first.trans second, request.transfer second ⟨_, kept⟩, kept⟩

section OwnRoles

variable {state : Supervisor} {detail : StatusDetail} {ports : List PortStatus}
variable {port : PortName} {place : RoleKind → Location}
variable (known : state.statuses detail = .ok ports)
variable (connected : port ∈ state.files.connectedPorts)
variable (asked : state.files.asksMode port = true)
variable (own : state.survey.OwnRoles state.files detail port place)
include known connected asked own

theorem statuses_of_switchedDirectly {role : Role} (direct : role.kind ≠ .mode)
    (meanwhile : List Step) :
    (state.switchPort port role meanwhile).1.statuses detail = .ok (ports.map fun status =>
      if status.port = port then status.taking role else status) := by
  rcases own.file role.kind with ⟨content, control⟩
  have rewritten := own.rewritten role.kind role.control
  have held := node_tryOverwrite_same role.control control
  rw [← own.controlPath_eq] at control
  have taken := switchPort_direct state direct control meanwhile
  rw [own.controlPath_eq] at taken
  rw [taken, statuses_tellSwitch]
  exact Survey.statuses_of_taken rewritten known connected asked
    (own.transfer rewritten ⟨_, held⟩).has_mode (readSelected_of_control held)
    fun mode equal => absurd (congrArg Role.kind equal) direct

/-- A mode switch that ends well leaves the port in the mode that was asked for, and any other
leaves it in dual role. -/
theorem statuses_of_switchedMode (mode : PortMode) (meanwhile : List Step)
    (unchanged : ∀ requested, state.requested? port (.mode mode) = some requested →
      let waited := ((state.waiting requested).steps meanwhile).1
      state.survey.SameSight waited.survey requested waited.files detail) :
    let switched := state.switchPort port (.mode mode) meanwhile
    (switched.2.answer = .ok .nothing → mode = .ufp ∨ mode = .dfp →
        switched.1.statuses detail = .ok (ports.map fun status =>
          if status.port = port then status.taking (.mode mode) else status)) ∧
      (switched.2.answer = .ok .nothing → mode = .drp →
        ∀ other, switched.1.statuses other = .error (.unknownRole Role.dual)) ∧
      ∀ error, switched.2.answer = .error error →
        ∀ other, switched.1.statuses other = .error (.unknownRole Role.dual) := by
  let requested := state.files.tryOverwrite (port.rolePath .mode) (Role.mode mode).control
  let waited := ((state.waiting requested).steps meanwhile).1
  rcases own.file .mode with ⟨content, control⟩
  have written : state.files.overwrite (state.files.controlPath port .mode)
      (Role.mode mode).control = .ok requested := by
    rw [own.controlPath_eq]
    exact overwrite_of_file control _
  have asks : state.requested? port (.mode mode) = some requested := by
    rw [requested?, written]
    rfl
  have configured : waited.configuration = state.configuration :=
    (kept_steps (state.waiting requested) meanwhile).1
  rcases rewritten_of_sameSight connected asked own configured (unchanged requested asks) with
    ⟨rewritten, waitedOwn, held⟩
  rw [switchPort_mode_of_ok state written, own.controlPath_eq]
  dsimp only
  split
  · refine ⟨fun _ reported => ?_, fun _ dual other => ?_, fun error refused => ?_⟩
    · rw [statuses_tellSwitch]
      exact Survey.statuses_of_taken rewritten known connected asked waitedOwn.has_mode
        (readSelected_of_control held) fun chosen equal => by cases equal; exact reported
    · subst dual
      rw [statuses_tellSwitch]
      exact Survey.statuses_of_dual rewritten known connected asked waitedOwn.has_mode
        (readSelected_of_control held) other
    · cases refused
  · refine ⟨(fun taken => by cases taken), (fun taken => by cases taken), fun _ _ other => ?_⟩
    have fallback := waitedOwn.rewritten .mode Role.dual
    have dual := node_tryOverwrite_same (Role.mode .drp).control held
    rw [statuses_tellSwitch]
    exact Survey.statuses_of_dual (rewritten.trans fallback) known connected asked
      (waitedOwn.transfer fallback ⟨_, dual⟩).has_mode (readSelected_of_control dual) other

end OwnRoles

/-- A port with an accessory that leaves its mode open and with files of its own for its roles
is asked to take a role, and nothing that is looked at changes while the switch waits. If the
role is taken, and it is one that can be told, then what is told differs from before in that
role of that port. A port that is left in dual role, by request or because the mode switch
failed, keeps all ports from being told, in whatever detail. -/
theorem statuses_of_switched (state : Supervisor) {detail : StatusDetail}
    {ports : List PortStatus} (known : state.statuses detail = .ok ports)
    {entries : List FoundPort} (listed : state.files.ports = .ok entries) {entry : FoundPort}
    (mem : entry ∈ entries) (connected : entry.connected = true)
    (plain : ∀ accessory ∈ ["analog_audio", "debug"],
      state.files.accessoryMode entry.name ≠ .ok accessory)
    {place : RoleKind → Location}
    (own : state.survey.OwnRoles state.files detail entry.name place)
    (role : Role) (meanwhile : List Step)
    (unchanged : ∀ requested, state.requested? entry.name role = some requested →
      let waited := ((state.waiting requested).steps meanwhile).1
      state.survey.SameSight waited.survey requested waited.files detail) :
    let switched := state.requestRole entry.name.text role meanwhile
    (switched.2.answer = .ok .nothing →
        (∀ mode, role = .mode mode → mode = .ufp ∨ mode = .dfp) →
          switched.1.statuses detail = .ok (ports.map fun status =>
            if status.port = entry.name then status.taking role else status)) ∧
      (switched.2.answer = .ok .nothing → role = .mode .drp →
        ∀ other, switched.1.statuses other = .error (.unknownRole "dual")) ∧
      ∀ mode error, role = .mode mode → switched.2.answer = .error error →
        ∀ other, switched.1.statuses other = .error (.unknownRole "dual") := by
  intro switched
  have switchedEq : switched = state.switchPort entry.name role meanwhile :=
    requestRole_text state entry.name role meanwhile
  have attached := Survey.mem_connectedPorts listed mem connected
  have asked : state.files.asksMode entry.name = true := by
    rcases Survey.entries_of_statuses known with ⟨found, foundListed, _, clear, _⟩
    rw [listed] at foundListed
    cases foundListed
    exact Survey.asksMode_of_clear connected (clear entry mem) plain
  rw [switchedEq]
  by_cases waits : ∃ mode, role = .mode mode
  · rcases waits with ⟨mode, rfl⟩
    rcases statuses_of_switchedMode known attached asked own mode meanwhile unchanged with
      ⟨taken, dual, failed⟩
    refine ⟨fun ended reported => taken ended (reported mode rfl), fun ended equal => ?_, ?_⟩
    · cases equal
      exact dual ended rfl
    · exact fun _ error _ refused => failed error refused
  · have direct : role.kind ≠ .mode := by
      cases role with
      | mode mode => exact absurd ⟨mode, rfl⟩ waits
      | _ => simp [Role.kind]
    refine ⟨fun _ _ => ?_, fun _ equal => absurd ⟨_, equal⟩ waits,
      fun mode _ equal => absurd ⟨mode, equal⟩ waits⟩
    exact statuses_of_switchedDirectly known attached asked own direct meanwhile

/-- A port whose partner is no accessory and negotiates power delivery. -/
def pairedPort : Supervisor :=
  let port (names : List Name) : Location :=
    names ++ [.text "port0", .text "typec", .text "class", .text "sys"]
  let partner (names : List Name) : Location :=
    names ++ [.text "port0-partner", .text "typec", .text "class", .text "sys"]
  .started .default .empty
    { root := { workingDirectory := [], path := ⟨"/"⟩, directory := [] }
      tree := {
        entries := [
          ([.text "sys"], .directory),
          ([.text "class", .text "sys"], .directory),
          ([.text "typec", .text "class", .text "sys"], .directory),
          (port [], .directory),
          (port [.text "power_role"], .file (Utf8.bytes "source [sink]\n")),
          (port [.text "data_role"], .file (Utf8.bytes "host [device]\n")),
          (port [.text "port_type"], .file (Utf8.bytes "dual source [sink]\n")),
          (partner [], .directory),
          (partner [.text "accessory_mode"], .file (Utf8.bytes "none\n")),
          (partner [.text "supports_usb_power_delivery"], .file (Utf8.bytes "yes\n"))]
        distinct := by decide } }

def pairedStatus : PortStatus where
  port := .port0
  connected := true
  powerRole := some .sink
  dataRole := some .device
  mode := some .ufp
  modeChangeable := true
  dataRoleChangeable := true
  powerRoleChangeable := true
  offeredModes := [.drp, .audioAccessory]
  contaminant := none

/-- The port takes another mode if its partner comes back, and is left in dual role if not. -/
theorem statuses_of_switched_pairedPort :
    let switched (meanwhile : List Step) :=
      (pairedPort.requestRole PortName.port0.text (.mode .dfp) meanwhile).1
    pairedPort.statuses .modes = .ok [pairedStatus] ∧
      (switched [.receive (Utf8.bytes "add@/typec/port0-partner")]).statuses .modes =
        .ok [{ pairedStatus with mode := some .dfp }] ∧
      ∀ detail, (switched []).statuses detail = .error (.unknownRole "dual") := by
  intro switched
  let place (kind : RoleKind) : Location := .text kind.attribute ::
    [.text "port0", .text "typec", .text "class", .text "sys"]
  have known : pairedPort.statuses .modes = .ok [pairedStatus] := by decide +kernel
  have listed : pairedPort.files.ports = .ok [⟨.port0, true⟩] := by decide +kernel
  have mem : ⟨.port0, true⟩ ∈ [(⟨.port0, true⟩ : FoundPort)] := List.mem_singleton_self _
  have plain : ∀ accessory ∈ ["analog_audio", "debug"],
      pairedPort.files.accessoryMode .port0 ≠ .ok accessory := by decide +kernel
  have own : pairedPort.survey.OwnRoles pairedPort.files .modes .port0 place := by
    refine ⟨fun kind => ?_, fun kind other => ?_, fun kind => ?_⟩
    · cases kind with
      | power => exact ⟨Utf8.bytes "source [sink]\n", by decide +kernel⟩
      | data => exact ⟨Utf8.bytes "host [device]\n", by decide +kernel⟩
      | mode => exact ⟨Utf8.bytes "dual source [sink]\n", by decide +kernel⟩
    · cases kind <;> cases other <;> decide
    · cases kind <;> decide +kernel
  let requested := pairedPort.files.tryOverwrite
    (pairedPort.files.controlPath .port0 .mode) (Role.mode .dfp).control
  have asks : pairedPort.requested? .port0 (.mode .dfp) = some requested := by
    rcases own.file .mode with ⟨content, control⟩
    rw [← own.controlPath_eq] at control
    rw [requested?, overwrite_of_file control]
    rfl
  -- The files stay as they are while the switch waits, with and without a partner.
  have unchanged {meanwhile : List Step}
      (kept : let waited := ((pairedPort.waiting requested).steps meanwhile).1
        waited.survey = pairedPort.survey ∧ waited.files.root = requested.root ∧
          waited.files.tree.entries = requested.tree.entries) :
      ∀ written, pairedPort.requested? .port0 (.mode .dfp) = some written →
        let waited := ((pairedPort.waiting written).steps meanwhile).1
        pairedPort.survey.SameSight waited.survey written waited.files .modes := by
    intro written asked waited
    rw [asks] at asked
    cases asked
    have files : waited.files = requested := eq_of_entries kept.2.1 kept.2.2
    rw [show waited.survey = pairedPort.survey from kept.1, files]
    exact .refl _ _ _
  have taken := statuses_of_switched pairedPort known listed mem rfl plain own (.mode .dfp)
    [.receive (Utf8.bytes "add@/typec/port0-partner")] (unchanged (by decide +kernel))
  have left := statuses_of_switched pairedPort known listed mem rfl plain own (.mode .dfp) []
    (unchanged (by decide +kernel))
  refine ⟨known, ?_, ?_⟩
  · exact taken.1 (by decide +kernel) fun mode same => .inr (by cases same; rfl)
  · exact left.2.2 .dfp .noPartner rfl (by decide +kernel)

end Supervisor

end UsbTypeC
