import Mathlib.Control.Monad.Basic
import UsbTypeC.Proofs.Port.Partner
import UsbTypeC.Proofs.Port.Sight
import UsbTypeC.Proofs.Supervisor.Ownership

/-! Which ports are put back into dual role when the idle ones are reset. A reset goes by the
path of the partner, where a status goes by the listing of the ports. -/

namespace UsbTypeC

namespace Files

/-- The ports that are listed and whose partner's path leads nowhere. -/
def idlePorts (files : Files) : List PortName :=
  match files.ports with
  | .ok entries => (entries.map FoundPort.name).filter fun port => !files.partnerPresent port
  | .error _ => []

/-- A port that is asked for dual role; a port that cannot be asked stays as it is. -/
def askedForDual (files : Files) (port : PortName) : Files :=
  files.tryOverwrite (files.controlPath port .mode) Role.dual

variable {files : Files} {entries : List FoundPort} {entry : FoundPort}

theorem mem_idlePorts (found : files.ports = .ok entries) {port : PortName} :
    port ∈ files.idlePorts ↔
      port ∈ entries.map FoundPort.name ∧ files.partnerPresent port = false := by
  rw [idlePorts, found]
  dsimp only
  rw [List.mem_filter, Bool.not_eq_true']

theorem mem_idlePorts_of_mem (found : files.ports = .ok entries) (mem : entry ∈ entries) :
    entry.name ∈ files.idlePorts ↔ files.partnerPresent entry.name = false := by
  rw [mem_idlePorts found]
  exact and_iff_right (List.mem_map_of_mem mem)

theorem idleModePaths_eq (files : Files) :
    files.idleModePaths = files.idlePorts.map fun port => files.controlPath port .mode := by
  rw [idleModePaths, idlePorts]
  cases files.ports with
  | error error => rfl
  | ok entries =>
      dsimp only
      rw [List.filter_map, List.map_map]
      rfl

theorem idlePorts_eq_of_outline_eq {before after : Files}
    (same : after.outline = before.outline) : after.idlePorts = before.idlePorts := by
  rw [idlePorts, Files.ports, listing_eq_of_outline_eq same, ← Files.ports, idlePorts]
  cases before.ports with
  | error error => rfl
  | ok entries =>
      dsimp only
      simp only [partnerPresent_eq_of_outline_eq same]

/-- A port whose status can be told as that of a connected port is not idle: its accessory
lies below the partner's path. -/
theorem partnerPresent_of_clear (connected : entry.connected = true)
    (clear : Survey.obstacles files entry = []) : files.partnerPresent entry.name = true := by
  rcases Survey.accessoryMode_of_clear connected clear with ⟨accessory, told⟩
  exact partnerPresent_of_accessoryMode told

/-- A reset and the listing differ about a port exactly if the listing and the partner's path
do. -/
theorem connected_versus_idlePorts (found : files.ports = .ok entries) (mem : entry ∈ entries) :
    (entry.connected = true ∧ entry.name ∈ files.idlePorts ↔ files.PartnerAstray entry.name) ∧
      (entry.connected = false ∧ entry.name ∉ files.idlePorts ↔
        files.PartnerMistaken entry.name) := by
  rw [mem_idlePorts_of_mem found mem, Bool.not_eq_false]
  exact connected_versus_partnerPresent found mem

end Files

namespace Supervisor

theorem foldl_releaseIfIdle {start : Files} (entries : List FoundPort) {files : Files}
    (same : files.outline = start.outline) :
    entries.foldl releaseIfIdle files =
      ((entries.map FoundPort.name).filter fun port => !start.partnerPresent port).foldl
        Files.askedForDual files := by
  induction entries generalizing files with
  | nil => rfl
  | cons entry rest induction =>
      have present := Files.partnerPresent_eq_of_outline_eq same entry.name
      rw [List.foldl_cons, List.map_cons, List.filter_cons, releaseIfIdle, present]
      cases start.partnerPresent entry.name with
      | true => exact induction same
      | false =>
          have written := Files.writtenThrough_tryOverwrite files
            (files.controlPath entry.name .mode) Role.dual
          exact induction (written.outline.trans same)

/-- A reset asks the idle ports for dual role, and no other port. -/
theorem releaseIdlePorts_eq (state : Supervisor) :
    state.releaseIdlePorts =
      { state with files := state.files.idlePorts.foldl Files.askedForDual state.files } := by
  rw [releaseIdlePorts, Files.idlePorts]
  cases state.files.ports with
  | error error => rfl
  | ok entries =>
      dsimp only
      rw [foldl_releaseIfIdle entries rfl]

theorem outline_releaseIdlePorts (state : Supervisor) :
    state.releaseIdlePorts.files.outline = state.files.outline :=
  (writtenThrough_releaseIdlePorts state).outline

/-- A port without a partner is put back into dual role, whatever becomes of the others. -/
theorem node?_releaseIdlePorts_of_idle {state : Supervisor} {port : PortName}
    (idle : port ∈ state.files.idlePorts) {place : Location} {content : Bytes}
    (control : state.files.node (state.files.controlPath port .mode) =
      .ok (place, .file content)) :
    state.releaseIdlePorts.files.tree.node? place = some (.file (Utf8.bytes Role.dual)) := by
  cases found : state.files.ports with
  | error error =>
      rw [Files.idlePorts, found] at idle
      cases idle
  | ok entries =>
      rcases (Files.mem_idlePorts found).mp idle with ⟨listed, absent⟩
      rcases List.mem_map.mp listed with ⟨entry, mem, rfl⟩
      exact node?_releaseIdlePorts found mem absent control

theorem node?_releaseIdlePorts_apart {state : Supervisor} {place : Location}
    (apart : ∀ port ∈ state.files.idlePorts,
      state.files.locate (state.files.controlPath port .mode) ≠ .ok place) :
    state.releaseIdlePorts.files.tree.node? place = state.files.tree.node? place := by
  apply (writtenThrough_releaseIdlePorts state).node?_eq
  rw [Files.idleModePaths_eq]
  intro path mem
  rcases List.mem_map.mp mem with ⟨port, idle, rfl⟩
  exact apart port idle

/-- Once the idle ports are reset, resetting them again changes no file. -/
theorem node?_releaseIdlePorts_again {state again : Supervisor}
    (same : again.files = state.releaseIdlePorts.files) {place : Location} {content : Bytes}
    (held : again.files.tree.node? place = some (.file content)) :
    again.releaseIdlePorts.files.tree.node? place = some (.file content) := by
  have outline : again.files.outline = state.files.outline :=
    same ▸ outline_releaseIdlePorts state
  have ports := Files.idlePorts_eq_of_outline_eq outline
  by_cases reset : ∃ port ∈ state.files.idlePorts,
      state.files.locate (state.files.controlPath port .mode) = .ok place
  · rcases reset with ⟨port, idle, leads⟩
    have control : again.files.node (again.files.controlPath port .mode) =
        .ok (place, .file content) := by
      rw [Files.controlPath_eq_of_outline_eq outline, Files.node_eq_ok_iff,
        Files.locate_eq_of_outline_eq outline]
      exact ⟨leads, held⟩
    rcases Files.node_file_of_outline_eq outline.symm control with ⟨earlier, before⟩
    rw [Files.controlPath_eq_of_outline_eq outline] at before
    -- The first reset has written what the second one writes.
    have first := node?_releaseIdlePorts_of_idle idle before
    rw [← same, held] at first
    rw [first]
    exact node?_releaseIdlePorts_of_idle (ports ▸ idle) control
  · rw [node?_releaseIdlePorts_apart, held]
    intro port idle
    rw [Files.controlPath_eq_of_outline_eq outline, Files.locate_eq_of_outline_eq outline]
    exact fun leads => reset ⟨port, ports ▸ idle, leads⟩

/-- A reset and a status differ about a port exactly if the listing and the path of its partner
differ, so a reset may ask a connected port for dual role and pass over one that is not. But no
status is told of a connected port that is reset, and the port that is passed over has something
by the name of its partner that is neither a directory nor a link. -/
theorem idlePorts_versus_statuses (state : Supervisor) {entries : List FoundPort}
    (found : state.files.ports = .ok entries) :
    state.releaseIdlePorts =
        { state with files := state.files.idlePorts.foldl Files.askedForDual state.files } ∧
      (∀ entry ∈ entries,
        (entry.name ∈ state.files.idlePorts ↔ state.files.partnerPresent entry.name = false) ∧
        (entry.connected = true ∧ entry.name ∈ state.files.idlePorts ↔
          state.files.PartnerAstray entry.name) ∧
        (entry.connected = false ∧ entry.name ∉ state.files.idlePorts ↔
          state.files.PartnerMistaken entry.name)) ∧
      ∀ (detail : StatusDetail) (statuses : List PortStatus),
        state.statuses detail = .ok statuses →
          statuses.map (fun status => (⟨status.port, status.connected⟩ : FoundPort)) = entries ∧
            ∀ status ∈ statuses,
              (status.connected = true → status.port ∉ state.files.idlePorts) ∧
              (status.connected = false →
                (status.port ∉ state.files.idlePorts ↔
                  state.files.PartnerMistaken status.port)) := by
  refine ⟨state.releaseIdlePorts_eq, ?_, ?_⟩
  · intro entry mem
    exact ⟨Files.mem_idlePorts_of_mem found mem, Files.connected_versus_idlePorts found mem⟩
  · intro detail statuses told
    rcases Survey.entries_of_statuses told with ⟨listed, same, _, clear, rfl⟩
    cases found.symm.trans same
    refine ⟨?_, ?_⟩
    · rw [List.map_map]
      exact List.map_id'' (fun entry => rfl) entries
    · intro status statusMem
      rcases List.mem_map.mp statusMem with ⟨entry, mem, rfl⟩
      refine ⟨?_, ?_⟩
      · intro connected idle
        have present := Files.partnerPresent_of_clear connected (clear entry mem)
        rw [(Files.mem_idlePorts_of_mem found mem).mp idle] at present
        cases present
      · intro alone
        exact (and_iff_right alone).symm.trans (Files.connected_versus_idlePorts found mem).2

/-- A port that is plugged in, and one with a file by the name of its partner. -/
def mistakenPartner : Supervisor :=
  started .default .empty (seenFromTop
    [([.text "sys"], .directory),
      ([.text "class", .text "sys"], .directory),
      ([.text "typec", .text "class", .text "sys"], .directory),
      ([.text "port0", .text "typec", .text "class", .text "sys"], .directory),
      ([.text "power_role", .text "port0", .text "typec", .text "class", .text "sys"],
        .file (Utf8.bytes "source [sink]\n")),
      ([.text "data_role", .text "port0", .text "typec", .text "class", .text "sys"],
        .file (Utf8.bytes "host [device]\n")),
      ([.text "port0-partner", .text "typec", .text "class", .text "sys"], .directory),
      ([.text "accessory_mode", .text "port0-partner", .text "typec", .text "class",
        .text "sys"], .file (Utf8.bytes "none\n")),
      ([.text "port1", .text "typec", .text "class", .text "sys"], .directory),
      ([.text "data_role", .text "port1", .text "typec", .text "class", .text "sys"],
        .file (Utf8.bytes "[host] device\n")),
      ([.text "port1-partner", .text "typec", .text "class", .text "sys"], .file [])]
    (by decide))

/-- Nothing is attached to the second port, and still it is passed over. -/
theorem idlePorts_versus_statuses_mistakenPartner :
    mistakenPartner.releaseIdlePorts = mistakenPartner ∧
      ∃ statuses, mistakenPartner.statuses .legacy = .ok statuses ∧
        statuses.map (fun status => (⟨status.port, status.connected⟩ : FoundPort)) =
          [⟨.port0, true⟩, ⟨port1, false⟩] ∧
        ∀ status ∈ statuses, status.port ∉ mistakenPartner.files.idlePorts := by
  have found : mistakenPartner.files.ports = .ok [⟨.port0, true⟩, ⟨port1, false⟩] := by
    decide +kernel
  rcases idlePorts_versus_statuses mistakenPartner found with ⟨reset, listed, told⟩
  have mistaken : mistakenPartner.files.PartnerMistaken port1 :=
    ⟨.file [], by decide +kernel, by decide, by decide, by decide⟩
  have idle : mistakenPartner.files.idlePorts = [] := by decide +kernel
  refine ⟨?_, ?_⟩
  · rw [reset, idle]
    rfl
  · have answered : (mistakenPartner.statuses .legacy).toOption.isSome = true := by
      decide +kernel
    cases known : mistakenPartner.statuses .legacy with
    | error error =>
        rw [known] at answered
        cases answered
    | ok statuses =>
        rcases told .legacy statuses known with ⟨same, each⟩
        refine ⟨statuses, rfl, same, ?_⟩
        intro status mem
        cases connected : status.connected with
        | true => exact (each status mem).1 connected
        | false =>
            have entryMem : ⟨status.port, status.connected⟩ ∈
                [(⟨.port0, true⟩ : FoundPort), ⟨port1, false⟩] := by
              rw [← same]
              exact List.mem_map_of_mem mem
            have second : status.port = port1 := by
              rw [connected] at entryMem
              simpa using entryMem
            exact ((each status mem).2 connected).mpr (second ▸ mistaken)

/-- A port that is plugged in, if one asks the listing: the link to its partner leads nowhere. -/
def danglingPartner : Files :=
  seenFromTop
    [([.text "sys"], .directory),
      ([.text "class", .text "sys"], .directory),
      ([.text "typec", .text "class", .text "sys"], .directory),
      ([.text "port0", .text "typec", .text "class", .text "sys"], .directory),
      ([.text "port0-partner", .text "typec", .text "class", .text "sys"], .link ⟨"gone"⟩)]
    (by decide)

/-- A port that is listed as connected need not have a partner, as far as its path tells. -/
theorem connected_not_always_partnerPresent :
    ¬ ∀ (files : Files) (entries : List FoundPort), files.ports = .ok entries →
        ∀ entry ∈ entries, entry.connected = files.partnerPresent entry.name := by
  intro claimed
  have same := claimed danglingPartner [⟨.port0, true⟩] (by decide +kernel) _
    List.mem_cons_self
  exact absurd same (by decide +kernel)

end Supervisor

end UsbTypeC
