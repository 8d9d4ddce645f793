import Mathlib.Control.Monad.Basic
import UsbTypeC.Proofs.Files.Outline
import UsbTypeC.Proofs.Port.Enumeration

/-! Which ports the listing of a directory tells of. Every entry that is a directory or a
link may have its say, and what becomes of a port depends on what is said about it and not
on the order in which it is said. -/

namespace UsbTypeC

/-- A directory or a link of that name is listed. -/
def Shows (listing : List ListedEntry) (name : String) : Prop :=
  ∃ entry ∈ listing, entry.name = name ∧
    (entry.entryType = .directory ∨ entry.entryType = .symlink)

theorem PortName.eq_of_text {left right : PortName} (same : left.text = right.text) :
    left = right := by
  rcases left with ⟨_, _⟩
  rcases right with ⟨_, _⟩
  cases same
  rfl

namespace FoundPort

section Names

variable {text : String} {entry : ListedEntry} {port : FoundPort}

theorem named_eq_some_iff {connected : Bool} :
    named connected text = some port ↔ port.name.text = text ∧ port.connected = connected := by
  rw [named]
  constructor
  · intro equal
    split at equal
    · cases equal
      exact ⟨rfl, rfl⟩
    · cases equal
  · rcases port with ⟨⟨spelled, valid⟩, flag⟩
    intro same
    cases same.1
    cases same.2
    exact dif_pos valid

/-- A name that ends like that of a partner holds a dash. -/
theorem dash_mem_of_partner {front : List Char}
    (ends : text.toList = front ++ PortName.partnerEnding.toList) : '-' ∈ text.toList := by
  rw [ends]
  exact List.mem_append_right front (by decide)

/-- A name speaks for a connected port as that of its partner, and for a port about which
nothing else is known as the port's own. -/
theorem ofName?_eq_some_iff :
    ofName? text = some port ↔
      (port.connected = true ∧ text = port.name.partner) ∨
        (port.connected = false ∧ text = port.name.text ∧
          '-' ∉ text.toList ∧ '.' ∉ text.toList) := by
  have partner : text = port.name.partner ↔
      text.toList = port.name.text.toList ++ PortName.partnerEnding.toList := by
    rw [PortName.partner, ← String.toList_append]
    exact String.toList_inj.symm
  rw [ofName?]
  cases cut : withoutSuffix? PortName.partnerEnding.toList text.toList with
  | some front =>
      have ends := (withoutSuffix?_eq_some_iff _ _ _).mp cut
      have dashed := dash_mem_of_partner ends
      have same : text = port.name.partner ↔ port.name.text = String.ofList front := by
        rw [partner, ends, List.append_cancel_right_eq, ← String.toList_inj,
          String.toList_ofList, eq_comm]
      dsimp only
      rw [named_eq_some_iff, same, and_comm]
      exact (or_iff_left fun plain => plain.2.2.1 dashed).symm
  | none =>
      have other : text ≠ port.name.partner := by
        intro equal
        rw [(withoutSuffix?_eq_some_iff _ _ _).mpr (partner.mp equal)] at cut
        cases cut
      dsimp only
      split
      · next marked =>
        simp only [other]
        rcases marked with dash | dot
        · simp [dash]
        · simp [dot]
      · next plain =>
        rw [not_or] at plain
        rw [named_eq_some_iff, or_iff_right fun partnered => other partnered.2]
        exact ⟨fun same => ⟨same.2, same.1.symm, plain⟩, fun said => ⟨said.2.1.symm, said.1⟩⟩

theorem ofListed?_eq_some_iff :
    ofListed? entry = some port ↔
      (entry.entryType = .directory ∨ entry.entryType = .symlink) ∧
        ofName? entry.name = some port := by
  rw [ofListed?]
  cases entry.entryType <;> simp

end Names

section Said

variable {entry port : FoundPort} {entries said found other : List FoundPort}

theorem name_mem_insert_iff {name : PortName} :
    name ∈ (insert entry entries).map FoundPort.name ↔
      name = entry.name ∨ name ∈ entries.map FoundPort.name := by
  induction entries with
  | nil => simp [insert]
  | cons head tail induction =>
      rw [insert]
      split
      · simp
      · split
        · next same =>
          have sameName : entry.name = head.name := PortName.eq_of_text same
          simp [sameName]
        · rw [List.map_cons, List.mem_cons, induction, List.map_cons, List.mem_cons]
          exact or_left_comm

/-- Where each name stands once, a port is connected if any entry of its name is. -/
theorem Ascending.connected_iff (ascending : Ascending entries) (mem : port ∈ entries) :
    port.connected = true ↔
      ∃ held ∈ entries, held.name = port.name ∧ held.connected = true := by
  constructor
  · intro connected
    exact ⟨port, mem, rfl, connected⟩
  · intro witnessed
    rcases witnessed with ⟨held, heldMem, same, connected⟩
    rw [ascending.eq_of_name mem heldMem same.symm]
    exact connected

/-- An entry that joins others can connect the port of its own name. -/
theorem connected_insert_iff (ascending : Ascending entries)
    (mem : port ∈ insert entry entries) :
    port.connected = true ↔
      ∃ held ∈ entry :: entries, held.name = port.name ∧ held.connected = true := by
  induction entries with
  | nil =>
      rw [insert] at mem
      exact Ascending.connected_iff (List.pairwise_singleton _ entry) mem
  | cons head tail induction =>
      rcases List.pairwise_cons.mp ascending with ⟨headLeast, tailAscending⟩
      rw [insert] at mem
      split at mem
      · next less =>
        have joined : insert entry (head :: tail) = entry :: head :: tail := by
          rw [insert, if_pos less]
        exact Ascending.connected_iff (joined ▸ ascending_insert entry ascending) mem
      · next notLess =>
        split at mem
        · next same =>
          have sameName : entry.name = head.name := PortName.eq_of_text same
          have joined : insert entry (head :: tail) =
              ⟨head.name, entry.connected || head.connected⟩ :: tail := by
            rw [insert, if_neg notLess, if_pos same]
          rw [Ascending.connected_iff (joined ▸ ascending_insert entry ascending) mem]
          simp only [List.mem_cons, exists_eq_or_imp, Bool.or_eq_true, sameName, and_or_left,
            or_assoc]
        · next different =>
          have joined : insert entry (head :: tail) = head :: insert entry tail := by
            rw [insert, if_neg notLess, if_neg different]
          have whole := joined ▸ ascending_insert entry ascending
          simp only [List.mem_cons, exists_eq_or_imp]
          rcases List.mem_cons.mp mem with rfl | later
          · have apart : entry.name ≠ port.name := fun same => different (congrArg _ same)
            rw [ascending.connected_iff List.mem_cons_self]
            simp [apart]
          · have apart : head.name ≠ port.name := by
              intro same
              have less := (List.pairwise_cons.mp whole).1 port later
              rw [same] at less
              exact String.lt_irrefl _ less
            rw [induction tailAscending later]
            simp [apart]

/-- Every name that is said is found once, and connected if anything that is said about it
says so. -/
structure SumsUp (said found : List FoundPort) : Prop where
  ascending : Ascending found
  named : ∀ name, name ∈ found.map FoundPort.name ↔ name ∈ said.map FoundPort.name
  connected : ∀ port ∈ found, (port.connected = true ↔
    ∃ word ∈ said, word.name = port.name ∧ word.connected = true)

theorem sumsUp_foldr (said : List FoundPort) : SumsUp said (said.foldr insert []) := by
  induction said with
  | nil => exact ⟨.nil, fun _ => .rfl, fun _ mem => absurd mem List.not_mem_nil⟩
  | cons word rest induction =>
      refine ⟨ascending_insert word induction.ascending, ?_, ?_⟩
      · intro name
        rw [List.foldr_cons, name_mem_insert_iff, induction.named, List.map_cons, List.mem_cons]
      · intro port mem
        rw [connected_insert_iff induction.ascending mem]
        simp only [List.mem_cons, exists_eq_or_imp]
        apply or_congr_right
        constructor
        · intro held
          rcases held with ⟨held, heldMem, same, connected⟩
          rw [← same]
          exact (induction.connected held heldMem).mp connected
        · intro spoken
          rcases spoken with ⟨later, laterMem, same, connected⟩
          have named := (induction.named later.name).mpr (List.mem_map_of_mem laterMem)
          rcases List.mem_map.mp named with ⟨held, heldMem, heldName⟩
          refine ⟨held, heldMem, heldName.trans same, ?_⟩
          exact (induction.connected held heldMem).mpr ⟨later, laterMem, heldName.symm, connected⟩

namespace SumsUp

theorem of_perm {order : List FoundPort} (sums : SumsUp said found) (perm : order.Perm said) :
    SumsUp order found where
  ascending := sums.ascending
  named name := (sums.named name).trans ((perm.map _).mem_iff).symm
  connected port mem := by
    rw [sums.connected port mem]
    simp only [perm.mem_iff]

theorem subset (sums : SumsUp said found) (others : SumsUp said other) : found ⊆ other := by
  intro port mem
  have named := (sums.named port.name).mp (List.mem_map_of_mem mem)
  rcases List.mem_map.mp ((others.named port.name).mpr named) with ⟨held, heldMem, same⟩
  have connected : port.connected = true ↔ held.connected = true := by
    rw [sums.connected port mem, others.connected held heldMem, same]
  have equal : port = held := by
    rcases port with ⟨_, _⟩
    rcases held with ⟨_, _⟩
    cases same
    exact congrArg _ (Bool.eq_iff_iff.mpr connected)
  exact equal ▸ heldMem

theorem nodup (sums : SumsUp said found) : found.Nodup := by
  apply sums.ascending.imp
  intro left right less same
  rw [same] at less
  exact String.lt_irrefl _ less

/-- There is but one way to sum up. -/
theorem unique (sums : SumsUp said found) (others : SumsUp said other) : found = other := by
  have perm : found.Perm other := by
    rw [List.perm_ext_iff_of_nodup sums.nodup others.nodup]
    exact fun port => ⟨fun mem => sums.subset others mem, fun mem => others.subset sums mem⟩
  apply List.Perm.eq_of_pairwise _ sums.ascending others.ascending perm
  intro left right _ _ less greater
  exact absurd greater (String.lt_asymm less)

end SumsUp

end Said

section Shown

variable {listing : List ListedEntry}

theorem mem_said_iff {port : FoundPort} :
    port ∈ listing.filterMap ofListed? ↔
      (port.connected = true ∧ Shows listing port.name.partner) ∨
        (port.connected = false ∧ Shows listing port.name.text ∧
          '-' ∉ port.name.text.toList ∧ '.' ∉ port.name.text.toList) := by
  simp only [List.mem_filterMap, ofListed?_eq_some_iff, ofName?_eq_some_iff, Shows]
  constructor
  · intro said
    rcases said with ⟨entry, mem, kind, ⟨connected, name⟩ | ⟨idle, name, plain⟩⟩
    · exact .inl ⟨connected, entry, mem, name, kind⟩
    · exact .inr ⟨idle, ⟨entry, mem, name, kind⟩, name ▸ plain⟩
  · intro shown
    rcases shown with ⟨connected, entry, mem, name, kind⟩ | ⟨idle, ⟨entry, mem, name, kind⟩, plain⟩
    · exact ⟨entry, mem, kind, .inl ⟨connected, name⟩⟩
    · exact ⟨entry, mem, kind, .inr ⟨idle, name, name.symm ▸ plain⟩⟩

theorem connected_ofListing_iff {port : FoundPort} (mem : port ∈ ofListing listing) :
    port.connected = true ↔ Shows listing port.name.partner := by
  rw [(sumsUp_foldr _).connected port mem]
  simp only [mem_said_iff]
  constructor
  · intro said
    rcases said with ⟨word, ⟨_, shown⟩ | ⟨idle, _⟩, same, connected⟩
    · exact same ▸ shown
    · rw [connected] at idle
      cases idle
  · intro shown
    exact ⟨⟨port.name, true⟩, .inl ⟨rfl, shown⟩, rfl, rfl⟩

/-- A name is found if it is shown as that of a port or through its partner. -/
theorem name_mem_ofListing_iff {name : String} :
    name ∈ (ofListing listing).map (fun port => port.name.text) ↔
      PortName.IsValid name ∧
        ((Shows listing name ∧ '-' ∉ name.toList ∧ '.' ∉ name.toList) ∨
          Shows listing (name ++ PortName.partnerEnding)) := by
  have spoken (port : PortName) : port ∈ (ofListing listing).map FoundPort.name ↔
      (Shows listing port.text ∧ '-' ∉ port.text.toList ∧ '.' ∉ port.text.toList) ∨
        Shows listing port.partner := by
    rw [ofListing, (sumsUp_foldr _).named, List.mem_map]
    simp only [mem_said_iff]
    constructor
    · intro said
      rcases said with ⟨word, ⟨_, shown⟩ | ⟨_, plain⟩, rfl⟩
      · exact .inr shown
      · exact .inl plain
    · intro shown
      rcases shown with plain | partner
      · exact ⟨⟨port, false⟩, .inr ⟨rfl, plain⟩, rfl⟩
      · exact ⟨⟨port, true⟩, .inl ⟨rfl, partner⟩, rfl⟩
  have texts : (ofListing listing).map (fun port => port.name.text) =
      ((ofListing listing).map FoundPort.name).map PortName.text := by
    rw [List.map_map]
    rfl
  rw [texts, List.mem_map]
  constructor
  · intro found
    rcases found with ⟨port, mem, rfl⟩
    exact ⟨port.valid, (spoken port).mp mem⟩
  · intro shown
    exact ⟨⟨name, shown.1⟩, (spoken ⟨name, shown.1⟩).mpr shown.2, rfl⟩

theorem ofListing_of_perm {order : List ListedEntry} (perm : order.Perm listing) :
    ofListing order = ofListing listing :=
  (sumsUp_foldr _).unique ((sumsUp_foldr _).of_perm (perm.filterMap ofListed?))

/-- The ports that the listing of a directory tells of, in the order of their names. -/
structure Enumerates (listing : List ListedEntry) (entries : List FoundPort) : Prop where
  ascending : Ascending entries
  named : ∀ name, name ∈ entries.map (fun entry => entry.name.text) ↔
    PortName.IsValid name ∧
      ((Shows listing name ∧ '-' ∉ name.toList ∧ '.' ∉ name.toList) ∨
        Shows listing (name ++ "-partner"))
  connected : ∀ entry ∈ entries,
    (entry.connected = true ↔ Shows listing (entry.name.text ++ "-partner"))

theorem enumerates_ofListing (listing : List ListedEntry) :
    Enumerates listing (ofListing listing) where
  ascending := ascending_ofListing listing
  named _ := name_mem_ofListing_iff
  connected _ mem := connected_ofListing_iff mem

end Shown

end FoundPort

/-- However the directory of the ports is listed, the same ports are found. They come in
ascending order of their names, each name once; a name is found if it is valid and shown
either plainly or through its partner, and only a partner that is shown connects a port. -/
theorem ports_exact (listing : List ListedEntry) :
    ∃ found : List FoundPort,
      (∀ (files : Files) (order : List ListedEntry), order.Perm listing →
        files.listing portsDirectory = .ok order → files.ports = .ok found) ∧
      (found.Pairwise fun left right => left.name.text < right.name.text) ∧
      (∀ name, name ∈ found.map (fun port => port.name.text) ↔
        PortName.IsValid name ∧
          ((Shows listing name ∧ '-' ∉ name.toList ∧ '.' ∉ name.toList) ∨
            Shows listing (name ++ "-partner"))) ∧
      ∀ port ∈ found,
        (port.connected = true ↔ Shows listing (port.name.text ++ "-partner")) := by
  refine ⟨FoundPort.ofListing listing, ?_, FoundPort.ascending_ofListing listing,
    fun _ => FoundPort.name_mem_ofListing_iff,
    fun _ mem => FoundPort.connected_ofListing_iff mem⟩
  intro files order perm listed
  rw [Files.ports, listed]
  exact congrArg Except.ok (FoundPort.ofListing_of_perm perm)

/-- Two ports that are plugged in, one of which is shown by its partner only, one that is
not, and much that is no port. -/
def crowdedEntries : List Entry :=
  [([.text "sys"], .directory),
    ([.text "class", .text "sys"], .directory),
    ([.text "typec", .text "class", .text "sys"], .directory),
    ([.text "port2", .text "typec", .text "class", .text "sys"], .directory),
    ([.text "port0-partner", .text "typec", .text "class", .text "sys"], .directory),
    ([.text "port0", .text "typec", .text "class", .text "sys"], .link ⟨"../port0"⟩),
    ([.text "port0-cable", .text "typec", .text "class", .text "sys"], .directory),
    ([.text "port1.0-partner", .text "typec", .text "class", .text "sys"], .link ⟨"../port1"⟩),
    ([.text "port1.0", .text "typec", .text "class", .text "sys"], .directory),
    ([.text "port2-partner", .text "typec", .text "class", .text "sys"], .file []),
    ([.text "-partner", .text "typec", .text "class", .text "sys"], .directory)]

/-- Listed the other way round, the directory tells of the same ports. -/
theorem ports_exact_crowdedEntries :
    let found : List FoundPort := [⟨.port0, true⟩, ⟨⟨"port1.0", by decide⟩, true⟩,
      ⟨⟨"port2", by decide⟩, false⟩]
    (seenFromTop crowdedEntries (by decide)).ports = .ok found ∧
      (seenFromTop crowdedEntries.reverse (by decide)).ports = .ok found := by
  intro found
  let forwards := seenFromTop crowdedEntries (by decide)
  let backwards := seenFromTop crowdedEntries.reverse (by decide)
  let listing : List ListedEntry :=
    [⟨"port2", .directory⟩, ⟨"port0-partner", .directory⟩, ⟨"port0", .symlink⟩,
      ⟨"port0-cable", .directory⟩, ⟨"port1.0-partner", .symlink⟩, ⟨"port1.0", .directory⟩,
      ⟨"port2-partner", .regularFile⟩, ⟨"-partner", .directory⟩]
  have listed : forwards.listing portsDirectory = .ok listing := by decide +kernel
  have reversed : backwards.listing portsDirectory = .ok listing.reverse := by decide +kernel
  have known : forwards.ports = .ok found := by decide +kernel
  rcases ports_exact listing with ⟨same, told, _⟩
  have forwardsSame := told forwards listing (.refl _) listed
  rw [known] at forwardsSame
  refine ⟨known, ?_⟩
  rw [told backwards _ listing.reverse_perm reversed]
  exact forwardsSame.symm

end UsbTypeC
