import UsbTypeC.Proofs.Files.Writing
import UsbTypeC.Proofs.Port.Survey

/-! What a survey looks at, and that it depends on nothing but what it finds there. Which paths
are looked at depends on the files itself: only a port to which something is attached is looked
at, and its mode only if no accessory decides that. -/

namespace UsbTypeC

/-- The attribute of a port that tells a role. -/
def RoleKind.attribute : RoleKind → String
  | .power => "power_role"
  | .data => "data_role"
  | .mode => "port_type"

namespace PortName

def rolePath (port : PortName) (kind : RoleKind) : Path :=
  port.attributePath kind.attribute

def partnerPaths (port : PortName) : List Path :=
  [port.partnerAttributePath "accessory_mode",
    port.partnerAttributePath "supports_usb_power_delivery"]

end PortName

namespace Files

section SameNode

variable {before after : Files} {path : Path} (same : after.node path = before.node path)
include same

theorem readSelected_eq_of_node_eq : after.readSelected path = before.readSelected path := by
  rw [readSelected, readValue_eq_of_node_eq same, readSelected]

theorem contaminantPresent_eq_of_node_eq :
    after.contaminantPresent path = before.contaminantPresent path := by
  rw [contaminantPresent, readValue_eq_of_node_eq same, contaminantPresent]

end SameNode

/-- The ports to which something is attached. -/
def connectedPorts (files : Files) : List PortName :=
  match files.ports with
  | .ok entries => (entries.filter FoundPort.connected).map FoundPort.name
  | .error _ => []

/-- An accessory may decide the mode of a port, and then nothing else is asked for it. -/
def asksMode (files : Files) (port : PortName) : Bool :=
  match files.accessoryMode port with
  | .ok accessory => (PortMode.accessories.lookup accessory).isNone
  | .error _ => false

/-- The paths that are looked at for a port to which something is attached. -/
def portPaths (files : Files) (port : PortName) : List Path :=
  [port.rolePath .power, port.rolePath .data] ++
    (if files.asksMode port then [port.rolePath .mode] else []) ++ port.partnerPaths

end Files

namespace Survey

variable {survey later : Survey} {before after : Files} {detail : StatusDetail}
variable {port : PortName}

/-- The contaminant state is looked at for the primary port, if that is there. -/
def contaminantPaths (survey : Survey) (files : Files) (detail : StatusDetail) : List Path :=
  match files.ports with
  | .ok entries =>
      if detail.tellsContaminant ∧ survey.primaryPort ∈ entries.map FoundPort.name then
        survey.contaminantFile.toList
      else []
  | .error _ => []

/-- All paths that a survey looks at. -/
def paths (survey : Survey) (files : Files) (detail : StatusDetail) : List Path :=
  files.connectedPorts.flatMap files.portPaths ++ survey.contaminantPaths files detail

/-- The same paths are looked at, and the same is found at each of them. -/
structure SameSight (survey later : Survey) (before after : Files) (detail : StatusDetail) :
    Prop where
  listing : after.listing portsDirectory = before.listing portsDirectory
  paths : later.paths after detail = survey.paths before detail
  found : ∀ path ∈ survey.paths before detail, after.node path = before.node path

theorem ports_eq (listing : after.listing portsDirectory = before.listing portsDirectory) :
    after.ports = before.ports := by
  rw [Files.ports, listing, Files.ports]

theorem connectedPorts_eq
    (listing : after.listing portsDirectory = before.listing portsDirectory) :
    after.connectedPorts = before.connectedPorts := by
  rw [Files.connectedPorts, ports_eq listing, Files.connectedPorts]

theorem contaminantPaths_eq
    (listing : after.listing portsDirectory = before.listing portsDirectory) :
    survey.contaminantPaths after detail = survey.contaminantPaths before detail := by
  rw [contaminantPaths, ports_eq listing, contaminantPaths]

theorem mem_connectedPorts {files : Files} {entries : List FoundPort} {entry : FoundPort}
    (listed : files.ports = .ok entries) (mem : entry ∈ entries)
    (connected : entry.connected = true) : entry.name ∈ files.connectedPorts := by
  rw [Files.connectedPorts, listed]
  exact List.mem_map_of_mem (List.mem_filter.mpr ⟨mem, connected⟩)

theorem connected_of_mem {files : Files} {entries : List FoundPort}
    (listed : files.ports = .ok entries) (mem : port ∈ files.connectedPorts) :
    ∃ entry ∈ entries, entry.connected = true ∧ entry.name = port := by
  rw [Files.connectedPorts, listed] at mem
  rcases List.mem_map.mp mem with ⟨entry, found, named⟩
  rcases List.mem_filter.mp found with ⟨entryMem, connected⟩
  exact ⟨entry, entryMem, connected, named⟩

section SamePort

/-! A port is told about by what is found at its own paths. -/

variable (partner : ∀ path ∈ port.partnerPaths, after.node path = before.node path)
include partner

theorem accessoryMode_eq : after.accessoryMode port = before.accessoryMode port :=
  Files.readValue_eq_of_node_eq (partner _ List.mem_cons_self)

theorem supportsPowerDelivery_eq :
    saysYes after (port.partnerAttributePath "supports_usb_power_delivery") =
      saysYes before (port.partnerAttributePath "supports_usb_power_delivery") := by
  rw [saysYes, saysYes, Files.readValue_eq_of_node_eq
    (partner _ (List.mem_cons_of_mem _ List.mem_cons_self))]

theorem portPaths_eq : after.portPaths port = before.portPaths port := by
  rw [Files.portPaths, Files.portPaths, Files.asksMode, accessoryMode_eq partner, Files.asksMode]

end SamePort

theorem attributeTold_eq_of_node_eq {α : Type} {path : Path}
    (same : after.node path = before.node path) (words : List (String × α)) :
    attributeTold after path words = attributeTold before path words := by
  rw [attributeTold, Files.readValue_eq_of_node_eq same, attributeTold]

theorem powerTold_eq
    (power : after.node (port.rolePath .power) = before.node (port.rolePath .power)) :
    powerTold after port = powerTold before port :=
  attributeTold_eq_of_node_eq power PowerRole.words

theorem dataTold_eq
    (data : after.node (port.rolePath .data) = before.node (port.rolePath .data)) :
    dataTold after port = dataTold before port :=
  attributeTold_eq_of_node_eq data DataRole.words

/-- A port that has no file for its mode tells the mode by its data role. -/
theorem role_mode_eq
    (mode : after.node (port.rolePath .mode) = before.node (port.rolePath .mode))
    (data : after.has (port.rolePath .mode) = false →
      after.node (port.rolePath .data) = before.node (port.rolePath .data)) :
    after.role port .mode = before.role port .mode := by
  have present := Files.has_eq_of_node_eq mode
  change after.readSelected (if after.has (port.rolePath .mode) then port.rolePath .mode
      else port.rolePath .data) =
    before.readSelected (if before.has (port.rolePath .mode) then port.rolePath .mode
      else port.rolePath .data)
  rw [← present]
  cases held : after.has (port.rolePath .mode) with
  | true => exact Files.readSelected_eq_of_node_eq mode
  | false => exact Files.readSelected_eq_of_node_eq (data held)

theorem modeTold_eq
    (partner : ∀ path ∈ port.partnerPaths, after.node path = before.node path)
    (role : before.asksMode port = true → after.role port .mode = before.role port .mode) :
    modeTold after port = modeTold before port := by
  rw [modeTold_eq_role, accessoryMode_eq partner, modeTold_eq_role]
  cases attached : before.accessoryMode port with
  | error error => rfl
  | ok accessory =>
      dsimp only [Except.bind]
      cases decided : PortMode.accessories.lookup accessory with
      | some mode => rfl
      | none =>
          have asked : before.asksMode port = true := by
            rw [Files.asksMode, attached]
            exact congrArg Option.isNone decided
          dsimp only
          rw [role asked]

theorem modeTold_of_asked {files : Files} (asked : files.asksMode port = true) :
    modeTold files port = (files.role port .mode).bind (understood PortMode.words) := by
  rw [modeTold_eq_role]
  rw [Files.asksMode] at asked
  cases attached : files.accessoryMode port with
  | error error =>
      rw [attached] at asked
      cases asked
  | ok accessory =>
      rw [attached] at asked
      dsimp only [Except.bind]
      rw [Option.isNone_iff_eq_none.mp asked]

/-- What is told about a port, as far as its partner and the contaminant state decide it. -/
theorem toldStatus_eq {entry : FoundPort}
    (partner : entry.connected = true →
      ∀ path ∈ entry.name.partnerPaths, after.node path = before.node path)
    (contaminant : detail.tellsContaminant = true →
      later.contaminantState after entry.name = survey.contaminantState before entry.name) :
    later.toldStatus after detail entry =
      { survey.toldStatus before detail entry with
        powerRole := present entry (powerTold after entry.name)
        dataRole := present entry (dataTold after entry.name)
        mode := present entry (modeTold after entry.name) } := by
  have delivery :
      (entry.connected &&
          saysYes after (entry.name.partnerAttributePath "supports_usb_power_delivery")) =
        (entry.connected &&
          saysYes before (entry.name.partnerAttributePath "supports_usb_power_delivery")) := by
    cases connected : entry.connected with
    | false => rfl
    | true => rw [supportsPowerDelivery_eq (partner connected)]
  rw [toldStatus, toldStatus, delivery]
  by_cases tells : detail = .contaminant
  · have same := contaminant (StatusDetail.tellsContaminant_iff.mpr tells)
    rw [contaminantState_eq_told, contaminantState_eq_told] at same
    rw [same]
  · rw [if_neg tells, if_neg tells]

theorem contaminantState_eq {entries : List FoundPort} {entry : FoundPort}
    (listed : before.ports = .ok entries) (mem : entry ∈ entries)
    (primary : later.primaryPort = survey.primaryPort)
    (listing : after.listing portsDirectory = before.listing portsDirectory)
    (paths : later.contaminantPaths after detail = survey.contaminantPaths before detail)
    (found : ∀ path ∈ survey.contaminantPaths before detail, after.node path = before.node path)
    (tells : detail.tellsContaminant = true) :
    later.contaminantState after entry.name = survey.contaminantState before entry.name := by
  rw [contaminantState, contaminantState, primary]
  split
  · next isPrimary =>
    have there : survey.primaryPort ∈ entries.map FoundPort.name :=
      List.mem_map.mpr ⟨entry, mem, isPrimary⟩
    have looked (other : Survey) (same : other.primaryPort = survey.primaryPort) (files : Files)
        (ports : files.ports = .ok entries) :
        other.contaminantPaths files detail = other.contaminantFile.toList := by
      rw [contaminantPaths, ports]
      exact if_pos ⟨tells, same ▸ there⟩
    rw [looked survey rfl before listed] at paths found
    rw [looked later primary after ((ports_eq listing).trans listed)] at paths
    have same : later.contaminantFile = survey.contaminantFile := by
      simpa using congrArg List.head? paths
    rw [same]
    cases known : survey.contaminantFile with
    | none => rfl
    | some path =>
        have same := found path (by rw [known]; exact List.mem_singleton_self path)
        rw [Option.map_some, Option.map_some, Files.contaminantPresent_eq_of_node_eq same]
  · rfl

/-- Once the ports are listed, the first obstacle decides. -/
theorem statuses_of_ports (survey : Survey) {files : Files} {entries : List FoundPort}
    (listed : files.ports = .ok entries) (nonempty : entries ≠ []) (detail : StatusDetail) :
    survey.statuses files detail =
      match (entries.flatMap (obstacles files)).head? with
      | some error => .error error
      | none => .ok (entries.map (survey.toldStatus files detail)) := by
  refine Eq.trans ?_ (mapM_of_obstacles (statusOf_eq survey files detail) entries)
  rw [statuses, listed]
  exact if_neg (by simpa using nonempty)

theorem entries_of_statuses {files : Files} {ports : List PortStatus}
    (known : survey.statuses files detail = .ok ports) :
    ∃ entries, files.ports = .ok entries ∧ entries ≠ [] ∧
      (∀ entry ∈ entries, obstacles files entry = []) ∧
      ports = entries.map (survey.toldStatus files detail) := by
  cases listed : files.ports with
  | error error =>
      rw [statuses, listed] at known
      cases known
  | ok entries =>
      have nonempty : entries ≠ [] := by
        rintro rfl
        rw [statuses, listed] at known
        cases known
      rw [statuses_of_ports survey listed nonempty] at known
      cases hindered : (entries.flatMap (obstacles files)).head? with
      | some error =>
          rw [hindered] at known
          cases known
      | none =>
          rw [hindered] at known
          cases known
          refine ⟨entries, rfl, nonempty, fun entry mem => ?_, rfl⟩
          exact List.flatMap_eq_nil_iff.mp (List.head?_eq_none_iff.mp hindered) entry mem

theorem obstacles_of_connected {files : Files} {entry : FoundPort}
    (connected : entry.connected = true) :
    obstacles files entry =
      (failure? (powerTold files entry.name)).toList ++
        (failure? (dataTold files entry.name)).toList ++
        (failure? (modeTold files entry.name)).toList :=
  if_pos connected

/-- A port is told about by what is found at its paths, apart from its contaminant state. -/
theorem told_eq {entry : FoundPort}
    (contaminant : detail.tellsContaminant = true →
      later.contaminantState after entry.name = survey.contaminantState before entry.name)
    (found : entry.connected = true →
      ∀ path ∈ before.portPaths entry.name, after.node path = before.node path) :
    obstacles after entry = obstacles before entry ∧
      later.toldStatus after detail entry = survey.toldStatus before detail entry := by
  have partner (connected : entry.connected = true) :
      ∀ path ∈ entry.name.partnerPaths, after.node path = before.node path :=
    fun path partner => found connected path (List.mem_append_right _ partner)
  cases connected : entry.connected with
  | false =>
      have idle (files : Files) : obstacles files entry = [] :=
        if_neg (by rw [connected]; decide)
      rw [toldStatus_eq partner contaminant, idle, idle]
      simp [toldStatus, present, connected]
  | true =>
      have power := powerTold_eq
        (found connected (entry.name.rolePath .power) (by simp [Files.portPaths]))
      have dataNode :=
        found connected (entry.name.rolePath .data) (by simp [Files.portPaths])
      have mode := modeTold_eq (partner connected) fun asked =>
        role_mode_eq (found connected _ (by simp [Files.portPaths, asked])) fun _ => dataNode
      rw [obstacles_of_connected connected, obstacles_of_connected connected,
        toldStatus_eq partner contaminant, power, dataTold_eq dataNode, mode]
      exact ⟨rfl, rfl⟩

/-- If nothing keeps the roles of a port from being told, its accessory is known. -/
theorem accessoryMode_of_clear {files : Files} {entry : FoundPort}
    (connected : entry.connected = true) (clear : obstacles files entry = []) :
    ∃ accessory, files.accessoryMode entry.name = .ok accessory := by
  rw [obstacles_of_connected connected, List.append_eq_nil_iff] at clear
  cases attached : files.accessoryMode entry.name with
  | ok accessory => exact ⟨accessory, rfl⟩
  | error error =>
      have hindered : modeTold files entry.name = .error error := by
        rw [modeTold_eq_role, attached]
        rfl
      rw [hindered] at clear
      cases clear.2

theorem asksMode_of_clear {files : Files} {entry : FoundPort}
    (connected : entry.connected = true) (clear : obstacles files entry = [])
    (plain : ∀ accessory ∈ ["analog_audio", "debug"],
      files.accessoryMode entry.name ≠ .ok accessory) :
    files.asksMode entry.name = true := by
  rcases accessoryMode_of_clear connected clear with ⟨accessory, attached⟩
  have undecided : PortMode.accessories.lookup accessory = none := by
    rw [List.lookup_eq_none_iff]
    intro decisive mem
    have different : accessory ≠ decisive.1 := by
      rintro rfl
      exact plain decisive.1 (List.mem_map_of_mem mem) attached
    simpa using different
  rw [Files.asksMode, attached]
  exact congrArg Option.isNone undecided

namespace SameSight

theorem refl (survey : Survey) (files : Files) (detail : StatusDetail) :
    SameSight survey survey files files detail :=
  ⟨rfl, rfl, fun _ _ => rfl⟩

theorem atPort (same : SameSight survey later before after detail)
    (connected : port ∈ before.connectedPorts) :
    ∀ path ∈ before.portPaths port, after.node path = before.node path :=
  fun path mem => same.found path
    (List.mem_append_left _ (List.mem_flatMap.mpr ⟨port, connected, mem⟩))

theorem atRole (same : SameSight survey later before after detail)
    (connected : port ∈ before.connectedPorts) (asked : before.asksMode port = true)
    (kind : RoleKind) : after.node (port.rolePath kind) = before.node (port.rolePath kind) := by
  apply same.atPort connected
  rw [Files.portPaths, if_pos asked]
  cases kind <;> simp

theorem contaminantPaths_eq (same : SameSight survey later before after detail) :
    later.contaminantPaths after detail = survey.contaminantPaths before detail := by
  have ports : after.connectedPorts.flatMap after.portPaths =
      before.connectedPorts.flatMap before.portPaths := by
    rw [connectedPorts_eq same.listing, List.flatMap_def, List.flatMap_def]
    refine congrArg List.flatten (List.map_congr_left fun port mem => ?_)
    exact portPaths_eq fun path partner =>
      same.atPort mem path (List.mem_append_right _ partner)
  have paths := same.paths
  rw [Survey.paths, ports, Survey.paths] at paths
  exact List.append_cancel_left paths

/-- What a survey tells depends on nothing but what it looks at. -/
theorem statuses_eq (same : SameSight survey later before after detail)
    (primary : later.primaryPort = survey.primaryPort) :
    later.statuses after detail = survey.statuses before detail := by
  have ports := ports_eq same.listing
  cases listed : before.ports with
  | error error =>
      rw [statuses, ports, listed, statuses, listed]
      rfl
  | ok entries =>
      by_cases empty : entries = []
      · subst empty
        rw [statuses, ports, listed, statuses, listed]
        rfl
      · have told (entry : FoundPort) (mem : entry ∈ entries) :=
          told_eq (contaminantState_eq listed mem primary same.listing same.contaminantPaths_eq
              fun path looked => same.found path (List.mem_append_right _ looked))
            fun connected => same.atPort (mem_connectedPorts listed mem connected)
        have hindered : entries.flatMap (obstacles after) =
            entries.flatMap (obstacles before) := by
          rw [List.flatMap_def, List.flatMap_def]
          exact congrArg List.flatten (List.map_congr_left fun entry mem => (told entry mem).1)
        rw [statuses_of_ports later (ports.trans listed) empty,
          statuses_of_ports survey listed empty, hindered,
          List.map_congr_left fun entry mem => (told entry mem).2]

end SameSight

end Survey

end UsbTypeC
