import UsbTypeC.Proofs.Files.Rewriting
import UsbTypeC.Proofs.Text.Blank

/-! Writing through one path and looking through others. Paths that lead to one file see what is
written through any of them, paths that lead elsewhere see no difference, and whether a write
succeeds has nothing to do with what the files hold. -/

namespace UsbTypeC

namespace Node

/-- A node that has been opened for writing, by which a file loses what it held. -/
def emptied : Node → Except Fault Node
  | .directory => .error .isADirectory
  | .file _ => .ok (.file [])
  | .link _ => .error .filesystemLoop
  | node => .ok node

/-- An open node that takes bytes behind those that it has. -/
def extended (content : Bytes) : Node → Except Fault Node
  | .directory => .error .isADirectory
  | .file held => .ok (.file (held ++ content))
  | .link _ => .error .filesystemLoop
  | .pipe received => .ok (.pipe (received ++ content))
  | .device .null => .ok (.device .null)
  | .device .full =>
      if content.isEmpty then .ok (.device .full) else .error .noStorageSpace

theorem written_eq_bind (content : Bytes) (node : Node) :
    node.written content = node.emptied.bind (extended content) := by
  cases node with
  | device device => cases device <;> rfl
  | _ => rfl

/-- A node that refuses to take bytes had nothing that opening could take away. -/
theorem eq_of_extended_eq_error {node opened : Node} {content : Bytes} {fault : Fault}
    (empty : node.emptied = .ok opened) (refused : opened.extended content = .error fault) :
    opened = node := by
  cases node with
  | directory => cases empty
  | file held =>
      cases empty
      cases refused
  | link target => cases empty
  | pipe received => exact (Except.ok.inj empty).symm
  | device device => exact (Except.ok.inj empty).symm

end Node

namespace Tree

theorem replace_replace (tree : Tree) (location : Location) (first second : Node) :
    (tree.replace location first).replace location second = tree.replace location second := by
  apply eq_of_entries
  simp only [replace, List.map_map]
  apply List.map_congr_left
  intro entry _
  by_cases here : entry.1 = location <;> simp [replaceEntry, here]

theorem replace_self {tree : Tree} {location : Location} {node : Node}
    (below : location ≠ []) (present : tree.node? location = some node) :
    tree.replace location node = tree := by
  apply eq_of_entries
  have kept : ∀ entry ∈ tree.entries, replaceEntry location node entry = id entry := by
    rintro ⟨place, held⟩ mem
    by_cases here : place = location
    · subst here
      have equal : some held = some node := (node?_of_mem_entries below mem).symm.trans present
      cases equal
      exact if_pos rfl
    · exact if_neg here
  exact (List.map_congr_left kept).trans (List.map_id _)

end Tree

namespace Files

/-- Writing in two steps. The node is opened before it takes the text, and stays as opening left
it if it refuses the text. -/
def overwriteBySteps (files : Files) (path : Path) (text : String) : Files × Except Error Unit :=
  match files.node path with
  | .error fault => (files, .error (.fault fault))
  | .ok (location, node) =>
      match node.emptied with
      | .error fault => (files, .error (.fault fault))
      | .ok empty =>
          let opened := { files with tree := files.tree.replace location empty }
          match empty.extended (Utf8.bytes text) with
          | .error fault => (opened, .error (.fault fault))
          | .ok after => ({ opened with tree := opened.tree.replace location after }, .ok ())

theorem overwriteBySteps_eq (files : Files) (path : Path) (text : String) :
    files.overwriteBySteps path text =
      (files.tryOverwrite path text, (files.overwrite path text).map fun _ => ()) := by
  rw [overwriteBySteps, tryOverwrite, overwrite]
  cases found : files.node path with
  | error fault => rfl
  | ok place =>
      rcases place with ⟨location, node⟩
      dsimp only
      rw [Node.written_eq_bind]
      cases empty : node.emptied with
      | error fault => rfl
      | ok opened =>
          dsimp only [Except.bind]
          cases taken : opened.extended (Utf8.bytes text) with
          | ok after =>
              dsimp only [Except.map]
              rw [Tree.replace_replace]
          | error fault =>
              have below : location ≠ [] := by
                rintro rfl
                cases (node_eq_ok_iff.mp found).2
                cases empty
              rw [Node.eq_of_extended_eq_error empty taken,
                Tree.replace_self below (node_eq_ok_iff.mp found).2]
              rfl

/-- Whether a write succeeds, and why not, does not depend on what the files hold. -/
theorem map_overwrite_eq_of_outline_eq {files refilled : Files}
    (same : refilled.outline = files.outline) (path : Path) (text : String) :
    (refilled.overwrite path text).map (fun _ => ()) =
      (files.overwrite path text).map fun _ => () := by
  cases attempt : files.overwrite path text with
  | error error =>
      rw [overwrite_eq_error_of_outline_eq same attempt]
  | ok after =>
      cases again : refilled.overwrite path text with
      | ok later => rfl
      | error error =>
          cases (overwrite_eq_error_of_outline_eq same.symm again).symm.trans attempt

theorem readValue_eq_ok_iff {files : Files} {path : Path} {text value : String}
    (read : files.readText path = .ok text) :
    files.readValue path = .ok value ↔ TrimsTo text.toList value.toList := by
  rw [readValue, read, trimsTo_iff]
  constructor
  · intro same
    rw [← Except.ok.inj same]
    exact String.toList_ofList.symm
  · intro same
    rw [Except.map, trimmed, same, String.ofList_toList]

/-- A file can be written, and then every path that leads to it reads the text, and as its value
the text without the blanks around it. No write is seen through a path that leads elsewhere, and
none changes whether there is anything to be read, what is listed or where a real path goes. A
write that fails leaves everything as it was, although a file is emptied before it takes the text.
Whether a write succeeds, and why not, is the same whatever the files hold. -/
theorem overwrite_exact (files : Files) (path : Path) (text : String) :
    (∀ place content, files.node path = .ok (place, .file content) →
      ∃ after, files.overwrite path text = .ok after ∧
        ∀ other, files.locate other = .ok place →
          after.readText other = .ok text ∧
            ∀ value, after.readValue other = .ok value ↔ TrimsTo text.toList value.toList) ∧
    (∀ after, files.overwrite path text = .ok after →
      files.overwriteBySteps path text = (after, .ok ()) ∧
      (∀ other, files.locate other ≠ files.locate path →
        after.readText other = files.readText other) ∧
      ∀ other, after.has other = files.has other ∧ after.listing other = files.listing other ∧
        after.realPath other = files.realPath other) ∧
    (∀ error, files.overwrite path text = .error error →
      files.tryOverwrite path text = files ∧
        files.overwriteBySteps path text = (files, .error error)) ∧
    ∀ refilled : Files, refilled.outline = files.outline →
      (refilled.overwrite path text).map (fun _ => ()) =
        (files.overwrite path text).map fun _ => () := by
  refine ⟨?_, ?_, ?_, fun refilled same => map_overwrite_eq_of_outline_eq same path text⟩
  · intro place content found
    refine ⟨files.tryOverwrite path text, overwrite_of_file found text, fun other leads => ?_⟩
    have holds := (node_eq_ok_iff.mp (node_tryOverwrite_same text found)).2
    have leadsAfter := ((writtenThrough_tryOverwrite files path text).locate_eq other).trans leads
    have read := readText_of_node (node_eq_ok_iff.mpr ⟨leadsAfter, holds⟩)
    exact ⟨read, fun value => readValue_eq_ok_iff read⟩
  · intro after written
    have through := writtenThrough_overwrite written
    refine ⟨?_, fun other apart => ?_, fun other => ⟨?_, ?_, ?_⟩⟩
    · rw [overwriteBySteps_eq, tryOverwrite, written]
      rfl
    · apply readText_eq_of_node_eq
      apply through.node_eq_of_apart
      intro written mem location here there
      rw [List.mem_singleton.mp mem] at here
      exact apart (there.trans here.symm)
    · exact has_eq_of_outline_eq through.outline other
    · exact listing_eq_of_outline_eq through.outline other
    · exact realPath_eq_of_outline_eq through.outline other
  · intro error refused
    have kept : files.tryOverwrite path text = files := by rw [tryOverwrite, refused]
    refine ⟨kept, ?_⟩
    rw [overwriteBySteps_eq, kept, refused]
    rfl

/-- Two ways to one file, beside another file and a device that has no space. -/
def aliasedFiles : Files where
  root := { workingDirectory := [], path := ⟨"/"⟩, directory := [] }
  tree := {
    entries := [
      ([.text "power"], .directory),
      ([.text "level", .text "power"], .file (Utf8.bytes "on\n")),
      ([.text "control", .text "power"], .file (Utf8.bytes "auto\n")),
      ([.text "way"], .link ⟨"power/"⟩),
      ([.text "again"], .link ⟨"way/../way/level"⟩),
      ([.text "full"], .device .full)]
    distinct := by decide }

/-- What is written by the one way is read by the other, and not in the file beside it. What the
device refuses is refused whatever the files hold. -/
theorem overwrite_exact_aliasedFiles :
    let place : Location := [.text "level", .text "power"]
    aliasedFiles.node ⟨"/way//level"⟩ = .ok (place, .file (Utf8.bytes "on\n")) ∧
      aliasedFiles.locate ⟨"again"⟩ = .ok place ∧
      ∃ after, aliasedFiles.overwrite ⟨"/way//level"⟩ " off\n" = .ok after ∧
        after.readText ⟨"again"⟩ = .ok " off\n" ∧
        after.readValue ⟨"again"⟩ = .ok "off" ∧
        after.readText ⟨"power/control"⟩ = .ok "auto\n" ∧
        after.realPath ⟨"again"⟩ = .ok ⟨"/power/level"⟩ ∧
        after.overwriteBySteps ⟨"full"⟩ "on" = (after, .error (.fault .noStorageSpace)) ∧
        (aliasedFiles.overwrite ⟨"full"⟩ "on").map (fun _ => ()) =
          (after.overwrite ⟨"full"⟩ "on").map fun _ => () := by
  intro place
  have found : aliasedFiles.node ⟨"/way//level"⟩ = .ok (place, .file (Utf8.bytes "on\n")) := by
    decide +kernel
  have leads : aliasedFiles.locate ⟨"again"⟩ = .ok place := by decide +kernel
  have told := overwrite_exact aliasedFiles ⟨"/way//level"⟩ " off\n"
  rcases told.1 place _ found with ⟨after, written, seen⟩
  rcases told.2.1 after written with ⟨_, elsewhere, everywhere⟩
  have read := seen ⟨"again"⟩ leads
  have trims : TrimsTo " off\n".toList "off".toList := trimsTo_iff.mpr (by decide +kernel)
  have beside : after.readText ⟨"power/control"⟩ = .ok "auto\n" :=
    (elsewhere ⟨"power/control"⟩ (by decide +kernel)).trans (by decide +kernel)
  have real : after.realPath ⟨"again"⟩ = .ok ⟨"/power/level"⟩ :=
    (everywhere ⟨"again"⟩).2.2.trans (by decide +kernel)
  have same := outline_overwrite written
  have refused : aliasedFiles.overwrite ⟨"full"⟩ "on" = .error (.fault .noStorageSpace) :=
    overwrite_eq_error_iff.mpr ⟨.noStorageSpace, rfl,
      .inr ⟨([.text "full"], .device .full), by decide +kernel, by decide⟩⟩
  have toldFull := overwrite_exact after ⟨"full"⟩ "on"
  exact ⟨found, leads, after, written, read.1, (read.2 "off").mpr trims, beside, real,
    (toldFull.2.2.1 _ (overwrite_eq_error_of_outline_eq same refused)).2,
    toldFull.2.2.2 aliasedFiles same.symm⟩

end Files

end UsbTypeC
