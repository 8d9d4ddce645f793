import UsbTypeC.Port.Enumeration

/-! The order of the ports that are found. -/

namespace UsbTypeC.FoundPort

/-- Ascending names, each of which stands once. -/
def Ascending (entries : List FoundPort) : Prop :=
  entries.Pairwise fun left right => left.name.text < right.name.text

/-- Inserting brings in no name but that of the entry. -/
theorem name_of_mem_insert {entry found : FoundPort} {entries : List FoundPort}
    (mem : found ∈ insert entry entries) :
    found.name.text = entry.name.text ∨
      ∃ held ∈ entries, found.name.text = held.name.text := by
  induction entries with
  | nil => exact .inl (by rw [List.mem_singleton.mp mem])
  | cons head tail induction =>
      rw [insert] at mem
      split at mem
      · rcases List.mem_cons.mp mem with rfl | later
        · exact .inl rfl
        · exact .inr ⟨found, later, rfl⟩
      · split at mem
        · rcases List.mem_cons.mp mem with rfl | later
          · exact .inr ⟨head, List.mem_cons_self, rfl⟩
          · exact .inr ⟨found, List.mem_cons_of_mem head later, rfl⟩
        · rcases List.mem_cons.mp mem with rfl | later
          · exact .inr ⟨found, List.mem_cons_self, rfl⟩
          · rcases induction later with same | ⟨held, heldMem, same⟩
            · exact .inl same
            · exact .inr ⟨held, List.mem_cons_of_mem head heldMem, same⟩

theorem ascending_insert (entry : FoundPort) {entries : List FoundPort}
    (ascending : Ascending entries) : Ascending (insert entry entries) := by
  induction entries with
  | nil => exact List.pairwise_singleton _ _
  | cons head tail induction =>
      rcases List.pairwise_cons.mp ascending with ⟨headLeast, tailAscending⟩
      rw [insert]
      split
      · next less =>
        refine List.pairwise_cons.mpr ⟨?_, ascending⟩
        intro later mem
        rcases List.mem_cons.mp mem with rfl | mem
        · exact less
        · exact String.lt_trans less (headLeast later mem)
      · next notLess =>
        split
        · exact List.pairwise_cons.mpr ⟨headLeast, tailAscending⟩
        · next different =>
          refine List.pairwise_cons.mpr ⟨?_, induction tailAscending⟩
          intro later mem
          rcases name_of_mem_insert mem with same | ⟨held, heldMem, same⟩
          · rw [same]
            exact String.not_le.mp fun reverse =>
              different (String.le_antisymm reverse (String.not_lt.mp notLess))
          · rw [same]
            exact headLeast held heldMem

/-- However a directory is listed, the ports come in ascending order of their names. -/
theorem ascending_ofListing (listing : List ListedEntry) : Ascending (ofListing listing) := by
  rw [ofListing]
  induction listing.filterMap ofListed? with
  | nil => exact .nil
  | cons entry rest induction => exact ascending_insert entry induction

/-- A name tells which port is meant. -/
theorem Ascending.eq_of_name {entries : List FoundPort} (ascending : Ascending entries)
    {entry other : FoundPort} (mem : entry ∈ entries) (otherMem : other ∈ entries)
    (same : entry.name = other.name) : entry = other := by
  induction entries with
  | nil => cases mem
  | cons head tail induction =>
      rcases List.pairwise_cons.mp ascending with ⟨headLeast, tailAscending⟩
      have later {found : FoundPort} (there : found ∈ tail) : head.name ≠ found.name := by
        intro equal
        have less := headLeast found there
        rw [equal] at less
        exact String.lt_irrefl _ less
      rcases List.mem_cons.mp mem with rfl | below
      · rcases List.mem_cons.mp otherMem with rfl | otherBelow
        · rfl
        · exact absurd same (later otherBelow)
      · rcases List.mem_cons.mp otherMem with rfl | otherBelow
        · exact absurd same.symm (later below)
        · exact induction tailAscending below otherBelow

end UsbTypeC.FoundPort

namespace UsbTypeC

theorem Files.ascending_of_ports {files : Files} {entries : List FoundPort}
    (listed : files.ports = .ok entries) : FoundPort.Ascending entries := by
  rw [Files.ports] at listed
  cases found : files.listing portsDirectory with
  | error error =>
      rw [found] at listed
      cases listed
  | ok listing =>
      rw [found] at listed
      cases listed
      exact FoundPort.ascending_ofListing listing

end UsbTypeC
