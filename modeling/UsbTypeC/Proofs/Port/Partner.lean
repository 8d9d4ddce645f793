import UsbTypeC.Proofs.Files.Child
import UsbTypeC.Proofs.Port.Listing

/-! Whether something is attached to a port. The listing of the ports tells it by the entry of
the partner, and the partner's path tells it by where it leads. Both look at the same entry,
but not in the same way. -/

namespace UsbTypeC

theorem PortName.valid_partner (port : PortName) : IsValid port.partner := by
  have letters : port.partner.toList = port.text.toList ++ partnerEnding.toList :=
    String.toList_append
  have dash : '-' ∈ port.partner.toList := by
    rw [letters]
    exact List.mem_append_right _ (by decide)
  have other (text : String) (free : '-' ∉ text.toList) : port.partner ≠ text := by
    intro same
    rw [same] at dash
    exact free dash
  refine ⟨other "" (by decide), other "." (by decide), other ".." (by decide), ?_, ?_⟩
  · rw [letters, List.mem_append, not_or]
    exact ⟨port.valid.2.2.2.1, by decide⟩
  · rw [letters, List.mem_append, not_or]
    exact ⟨port.valid.2.2.2.2, by decide⟩

namespace Files

/-- What stands in the directory of the ports under the name of a port's partner. -/
def partnerNode? (files : Files) (port : PortName) : Option Node :=
  match files.node portsDirectory with
  | .ok (place, _) => files.tree.node? (.text port.partner :: place)
  | .error _ => none

variable {files : Files} {entries : List FoundPort} {entry : FoundPort}

/-- Ports are found in a directory, by what its listing shows. -/
theorem listing_of_ports (found : files.ports = .ok entries) :
    ∃ place listing, files.node portsDirectory = .ok (place, .directory) ∧
      files.listing portsDirectory = .ok listing ∧ entries = FoundPort.ofListing listing := by
  rw [Files.ports] at found
  cases listed : files.listing portsDirectory with
  | error error =>
      rw [listed] at found
      cases found
  | ok listing =>
      rw [listed] at found
      cases found
      rcases node_of_listing listed with ⟨place, stands⟩
      exact ⟨place, listing, stands, rfl, rfl⟩

/-- A directory or a link that goes by the partner's name connects a port. -/
theorem connected_iff_partnerNode (found : files.ports = .ok entries) (mem : entry ∈ entries) :
    entry.connected = true ↔ ∃ node, files.partnerNode? entry.name = some node ∧
      (node.entryType = .directory ∨ node.entryType = .symlink) := by
  rcases listing_of_ports found with ⟨place, listing, stands, listed, rfl⟩
  rw [FoundPort.connected_ofListing_iff mem, Shows, partnerNode?, stands]
  constructor
  · intro shown
    rcases shown with ⟨listedEntry, listedMem, name, kind⟩
    rcases (mem_listing_iff stands listed).mp listedMem with ⟨node, there, same⟩
    rw [name] at there
    exact ⟨node, there, same ▸ kind⟩
  · intro there
    rcases there with ⟨node, there, kind⟩
    refine ⟨⟨entry.name.partner, node.entryType⟩, ?_, rfl, kind⟩
    exact (mem_listing_iff stands listed).mpr ⟨node, there, rfl⟩

/-- Anything but a link is found by the partner's path. -/
theorem partnerPresent_iff_partnerNode (found : files.ports = .ok entries) {port : PortName}
    (unlinked : ∀ target, files.partnerNode? port ≠ some (.link target)) :
    files.partnerPresent port = true ↔
      (files.partnerNode? port).isSome ∧ port.partner.utf8ByteSize ≤ Tree.longestName := by
  rcases listing_of_ports found with ⟨place, _, stands, _, _⟩
  rw [partnerNode?, stands] at unlinked ⊢
  exact has_join (by decide) (by decide) port.valid_partner stands (by decide) unlinked

/-- The entry of a partner whose path leads nowhere: a link to what is not there, or a
directory with a name that is too long for any path. -/
def PartnerAstray (files : Files) (port : PortName) : Prop :=
  (∃ target, files.partnerNode? port = some (.link target)) ∧
      files.partnerPresent port = false ∨
    files.partnerNode? port = some .directory ∧
      Tree.longestName < port.partner.utf8ByteSize

/-- Something goes by the name of a partner that is neither a directory nor a link. -/
def PartnerMistaken (files : Files) (port : PortName) : Prop :=
  ∃ node, files.partnerNode? port = some node ∧
    node.entryType ≠ .directory ∧ node.entryType ≠ .symlink ∧
    port.partner.utf8ByteSize ≤ Tree.longestName

/-- These are the only ways in which the listing and the path can differ. -/
theorem connected_versus_partnerPresent (found : files.ports = .ok entries)
    (mem : entry ∈ entries) :
    (entry.connected = true ∧ files.partnerPresent entry.name = false ↔
        files.PartnerAstray entry.name) ∧
      (entry.connected = false ∧ files.partnerPresent entry.name = true ↔
        files.PartnerMistaken entry.name) := by
  have connected := connected_iff_partnerNode found mem
  rw [← Bool.not_eq_true, ← Bool.not_eq_true, connected, PartnerAstray, PartnerMistaken,
    ← Bool.not_eq_true]
  by_cases linked : ∃ target, files.partnerNode? entry.name = some (.link target)
  · rcases linked with ⟨target, linked⟩
    simp [linked, Node.entryType]
  · have unlinked : ∀ target, files.partnerNode? entry.name ≠ some (.link target) :=
      fun target same => linked ⟨target, same⟩
    rw [partnerPresent_iff_partnerNode found unlinked]
    cases there : files.partnerNode? entry.name with
    | none => simp
    | some node =>
        cases node with
        | link target => exact absurd there (unlinked target)
        | _ => simp [Node.entryType]

theorem node_of_readValue {path : Path} {value : String}
    (read : files.readValue path = .ok value) : ∃ found, files.node path = .ok found := by
  rw [readValue, readText, content] at read
  cases found : files.node path with
  | error fault =>
      rw [found] at read
      cases read
  | ok place => exact ⟨place, rfl⟩

/-- What is attached can be told only from within the partner's directory. -/
theorem partnerPresent_of_accessoryMode {port : PortName} {accessory : String}
    (told : files.accessoryMode port = .ok accessory) : files.partnerPresent port = true := by
  have below := Path.not_absolute_of_free port.valid_partner.2.2.2.1
  have ports : portsDirectory.EndsInName := by decide
  have ends : port.partnerDirectory.EndsInName :=
    Path.endsInName_join ports below (Path.endsInName_of_valid port.valid_partner)
  have inside : port.partnerDirectory.isAbsolute = false := Path.isAbsolute_join ports below
  rcases node_of_readValue told with ⟨⟨location, node⟩, found⟩
  rcases node_of_locate_join ends inside (by decide) (node_eq_ok_iff.mp found).1 with
    ⟨place, stands⟩
  exact has_eq_true_iff.mpr ⟨place, .directory, stands⟩

end Files

end UsbTypeC
