import UsbTypeC.Proofs.Files.Writing

/-! Writes made one after another. A file ends with the text of one of the writes that reach it,
or as it was if none does, so where all that reach it write the same text their order makes no
difference. -/

namespace UsbTypeC.Files

/-- Two paths that lead to one file. -/
def SharesFile (files : Files) (left right : Path) : Prop :=
  ∃ place content, files.node left = .ok (place, .file content) ∧ files.locate right = .ok place

theorem not_sharesFile_of_locate_ne {files : Files} {left right : Path}
    (apart : files.locate left ≠ files.locate right) : ¬ files.SharesFile left right := by
  rintro ⟨place, content, found, leads⟩
  exact apart ((node_eq_ok_iff.mp found).1.trans leads.symm)

/-- One write after another, whatever comes of each. -/
def overwriteAll (files : Files) (writes : List (Path × String)) : Files :=
  writes.foldl (fun files write => files.tryOverwrite write.1 write.2) files

theorem overwriteAll_append (files : Files) (earlier later : List (Path × String)) :
    files.overwriteAll (earlier ++ later) = (files.overwriteAll earlier).overwriteAll later :=
  List.foldl_append

theorem writtenThrough_overwriteAll (files : Files) (writes : List (Path × String)) :
    WrittenThrough (writes.map Prod.fst) files (files.overwriteAll writes) := by
  refine writtenThrough_foldl _ writes files rfl fun write mem later _ => ?_
  refine (writtenThrough_tryOverwrite later write.1 write.2).weaken ?_
  exact List.cons_subset.mpr ⟨List.mem_map_of_mem mem, List.nil_subset _⟩

/-- What one file comes to hold. -/
theorem file_overwriteAll {files : Files} (writes : List (Path × String)) {place : Location}
    {content : Bytes} (held : files.tree.node? place = some (.file content)) :
    (∃ write ∈ writes, files.locate write.1 = .ok place ∧
        (files.overwriteAll writes).tree.node? place = some (.file (Utf8.bytes write.2))) ∨
      (∀ write ∈ writes, files.locate write.1 ≠ .ok place) ∧
        (files.overwriteAll writes).tree.node? place = some (.file content) := by
  induction writes generalizing files content with
  | nil => exact .inr ⟨fun write mem => absurd mem List.not_mem_nil, held⟩
  | cons first rest induction =>
      have written := writtenThrough_tryOverwrite files first.1 first.2
      -- What the first write leaves is what the others find.
      have afterFirst : ∃ between,
          (files.tryOverwrite first.1 first.2).tree.node? place = some (.file between) ∧
            (files.locate first.1 = .ok place ∧ between = Utf8.bytes first.2 ∨
              files.locate first.1 ≠ .ok place ∧ between = content) := by
        by_cases leads : files.locate first.1 = .ok place
        · have same := node_tryOverwrite_same first.2 (node_eq_ok_iff.mpr ⟨leads, held⟩)
          exact ⟨_, (node_eq_ok_iff.mp same).2, .inl ⟨leads, rfl⟩⟩
        · refine ⟨content, (written.node?_eq fun path mem => ?_).trans held, .inr ⟨leads, rfl⟩⟩
          rwa [List.mem_singleton.mp mem]
      rcases afterFirst with ⟨between, found, origin⟩
      have others := induction found
      simp only [written.locate_eq] at others
      rcases others with ⟨write, mem, leads, ends⟩ | ⟨untouched, ends⟩
      · exact .inl ⟨write, List.mem_cons_of_mem first mem, leads, ends⟩
      · rcases origin with ⟨leads, rfl⟩ | ⟨elsewhere, rfl⟩
        · exact .inl ⟨first, List.mem_cons_self, leads, ends⟩
        · exact .inr ⟨List.forall_mem_cons.mpr ⟨elsewhere, untouched⟩, ends⟩

/-- A value is changed by nothing but a write to its file. -/
theorem readValue_overwriteAll (files : Files) (writes : List (Path × String)) (path : Path) :
    (files.overwriteAll writes).readValue path = files.readValue path ∨
      ∃ write ∈ writes, files.SharesFile write.1 path ∧
        (files.overwriteAll writes).readValue path = .ok (trimmed write.2) := by
  have written := writtenThrough_overwriteAll files writes
  by_cases isFile : ∃ place content, files.node path = .ok (place, .file content)
  · rcases isFile with ⟨place, content, found⟩
    rcases node_eq_ok_iff.mp found with ⟨leads, held⟩
    have leadsAfter := (written.locate_eq path).trans leads
    rcases file_overwriteAll writes held with ⟨write, mem, reached, ends⟩ | ⟨_, ends⟩
    · refine .inr ⟨write, mem, ⟨place, content, node_eq_ok_iff.mpr ⟨reached, held⟩, leads⟩, ?_⟩
      rw [readValue, readText_of_node (node_eq_ok_iff.mpr ⟨leadsAfter, ends⟩)]
      rfl
    · have same := (node_eq_ok_iff.mpr ⟨leadsAfter, ends⟩).trans found.symm
      exact .inl (readValue_eq_of_node_eq same)
  · have other : ∀ place held, files.node path ≠ .ok (place, .file held) :=
      fun place held found => isFile ⟨place, held, found⟩
    refine .inl ?_
    rw [readValue, readText, content_eq_of_no_file written.outline other, readValue, readText]

end UsbTypeC.Files
