import UsbTypeC.Proofs.Files.Outline
import UsbTypeC.Proofs.Text.Utf8

/-! Files that are written through some paths and through no others. Since writing
keeps the outline, a path leads to the same place before and after, and one write
after another stays within the places that all the paths together lead to. -/

namespace UsbTypeC

namespace Files

theorem node_eq_ok_iff {files : Files} {path : Path} {location : Location} {node : Node} :
    files.node path = .ok (location, node) ↔
      files.locate path = .ok location ∧ files.tree.node? location = some node := by
  rw [Files.node]
  cases files.locate path with
  | error fault => simp [bind, Except.bind]
  | ok place =>
      simp only [bind, Except.bind]
      cases found : files.tree.node? place with
      | none =>
          constructor
          · intro equal
            cases equal
          · rintro ⟨equal, present⟩
            cases equal
            rw [found] at present
            cases present
      | some held =>
          constructor
          · intro equal
            cases equal
            exact ⟨rfl, found⟩
          · rintro ⟨equal, present⟩
            cases equal
            rw [found] at present
            cases present
            rfl

/-- What a write that succeeds has done. -/
theorem overwrite_eq_ok {files after : Files} {path : Path} {text : String}
    (written : files.overwrite path text = .ok after) :
    ∃ location held node, files.node path = .ok (location, held) ∧
      held.written (Utf8.bytes text) = .ok node ∧
      after = { files with tree := files.tree.replace location node } := by
  rw [overwrite] at written
  cases found : files.node path with
  | error fault =>
      rw [found] at written
      cases written
  | ok place =>
      rcases place with ⟨location, held⟩
      simp only [found] at written
      cases put : held.written (Utf8.bytes text) with
      | error fault =>
          rw [put] at written
          cases written
      | ok node =>
          simp only [put] at written
          cases written
          exact ⟨location, held, node, rfl, put, rfl⟩

/-- What kept a write from succeeding. -/
theorem overwrite_eq_error_iff {files : Files} {path : Path} {text : String} {error : Error} :
    files.overwrite path text = .error error ↔
      ∃ fault, error = .fault fault ∧ (files.node path = .error fault ∨
        ∃ found, files.node path = .ok found ∧
          found.2.written (Utf8.bytes text) = .error fault) := by
  rw [overwrite]
  constructor
  · intro refused
    cases found : files.node path with
    | error fault =>
        rw [found] at refused
        cases refused
        exact ⟨fault, rfl, .inl rfl⟩
    | ok place =>
        rcases place with ⟨location, node⟩
        simp only [found] at refused
        cases put : node.written (Utf8.bytes text) with
        | ok after =>
            rw [put] at refused
            cases refused
        | error fault =>
            rw [put] at refused
            cases refused
            exact ⟨fault, rfl, .inr ⟨_, rfl, put⟩⟩
  · intro refused
    rcases refused with ⟨fault, rfl, missing | ⟨place, found, put⟩⟩
    · rw [missing]
    · simp only [found, put]

theorem overwrite_outline_eq_error_iff {files : Files} {path : Path} {text : String}
    {error : Error} :
    files.outline.overwrite path text = .error error ↔
      files.overwrite path text = .error error := by
  rw [overwrite_eq_error_iff, overwrite_eq_error_iff, node_outline]
  cases files.node path with
  | error fault => simp [Except.map]
  | ok found => simp [Except.map, Node.written_outline_eq_error_iff]

theorem content_outline {files : Files} {path : Path}
    (other : ∀ place held, files.node path ≠ .ok (place, .file held)) :
    files.outline.content path = files.content path := by
  rw [content, content, node_outline]
  cases found : files.node path with
  | error fault => rfl
  | ok held =>
      rcases held with ⟨place, node⟩
      exact Node.content_outline fun content isFile => other place content (isFile ▸ found)

/-- The top directory cannot be written. -/
theorem below_of_written {files : Files} {path : Path} {location : Location}
    {held node : Node} {content : Bytes} (found : files.node path = .ok (location, held))
    (written : held.written content = .ok node) : location ≠ [] := by
  rintro rfl
  have top := (node_eq_ok_iff.mp found).2
  cases top
  cases written

theorem outline_overwrite {files after : Files} {path : Path} {text : String}
    (written : files.overwrite path text = .ok after) : after.outline = files.outline := by
  rcases overwrite_eq_ok written with ⟨location, held, node, found, put, rfl⟩
  have kept := files.tree.outline_replace (below_of_written found put)
    (node_eq_ok_iff.mp found).2 (Node.outline_written put)
  exact congrArg (fun tree => { files with tree }) kept

/-- From one state of the files to another by nothing but writes through the paths. -/
structure WrittenThrough (paths : List Path) (before after : Files) : Prop where
  outline : after.outline = before.outline
  reached : ∀ location, after.tree.node? location ≠ before.tree.node? location →
    ∃ path ∈ paths, before.locate path = .ok location

namespace WrittenThrough

variable {paths more : List Path} {before between after : Files}

theorem refl (paths : List Path) (files : Files) : WrittenThrough paths files files where
  outline := rfl
  reached _ changed := absurd rfl changed

theorem weaken (written : WrittenThrough paths before after) (subset : paths ⊆ more) :
    WrittenThrough more before after where
  outline := written.outline
  reached location changed := by
    rcases written.reached location changed with ⟨path, mem, leads⟩
    exact ⟨path, subset mem, leads⟩

/-- A place that the second stretch changed is looked for by a path in the files as
they are then, and these lead where they led before. -/
theorem trans (first : WrittenThrough paths before between)
    (second : WrittenThrough paths between after) : WrittenThrough paths before after where
  outline := second.outline.trans first.outline
  reached location changed := by
    by_cases early : between.tree.node? location = before.tree.node? location
    · have late : after.tree.node? location ≠ between.tree.node? location := by
        rw [early]
        exact changed
      rcases second.reached location late with ⟨path, mem, leads⟩
      exact ⟨path, mem, (locate_eq_of_outline_eq first.outline path).symm.trans leads⟩
    · exact first.reached location early

theorem append (first : WrittenThrough paths before between)
    (second : WrittenThrough more between after) :
    WrittenThrough (paths ++ more) before after :=
  (first.weaken (List.subset_append_left _ _)).trans
    (second.weaken (List.subset_append_right _ _))

/-- A place that none of the paths leads to holds what it held. -/
theorem node?_eq (written : WrittenThrough paths before after) {location : Location}
    (apart : ∀ path ∈ paths, before.locate path ≠ .ok location) :
    after.tree.node? location = before.tree.node? location := by
  apply Decidable.byContradiction
  intro changed
  rcases written.reached location changed with ⟨path, mem, leads⟩
  exact apart path mem leads

theorem locate_eq (written : WrittenThrough paths before after) (path : Path) :
    after.locate path = before.locate path :=
  locate_eq_of_outline_eq written.outline path

/-- A path that leads to none of the places where the others lead finds what it found. -/
theorem node_eq_of_apart (written : WrittenThrough paths before after) {path : Path}
    (apart : ∀ other ∈ paths, ∀ location, before.locate other = .ok location →
      before.locate path ≠ .ok location) : after.node path = before.node path := by
  rw [node, node, written.locate_eq]
  cases leads : before.locate path with
  | error fault => rfl
  | ok location =>
      have kept := written.node?_eq fun other mem here => apart other mem location here leads
      simp only [bind, Except.bind, kept]

end WrittenThrough

theorem writtenThrough_overwrite {files after : Files} {path : Path} {text : String}
    (written : files.overwrite path text = .ok after) : WrittenThrough [path] files after where
  outline := outline_overwrite written
  reached location changed := by
    rcases overwrite_eq_ok written with ⟨place, held, node, found, put, rfl⟩
    have leads := (node_eq_ok_iff.mp found).1
    by_cases here : location = place
    · exact ⟨path, List.mem_singleton_self path, here ▸ leads⟩
    · apply absurd _ changed
      cases location with
      | nil => rfl
      | cons name above =>
          exact (files.tree.node?_replace place node _ (List.cons_ne_nil _ _)).trans
            (if_neg here)

theorem writtenThrough_tryOverwrite (files : Files) (path : Path) (text : String) :
    WrittenThrough [path] files (files.tryOverwrite path text) := by
  rw [tryOverwrite]
  cases written : files.overwrite path text with
  | error error => exact .refl _ files
  | ok after => exact writtenThrough_overwrite written

/-- One change after another, each through paths that the files keep offering. -/
theorem writtenThrough_foldl {α : Type} {paths : List Path} {start : Files}
    (change : Files → α → Files) :
    ∀ (items : List α) (files : Files), files.outline = start.outline →
      (∀ item ∈ items, ∀ files : Files, files.outline = start.outline →
        WrittenThrough paths files (change files item)) →
      WrittenThrough paths files (items.foldl change files)
  | [], files, _, _ => .refl _ files
  | item :: rest, files, same, each => by
      have first := each item List.mem_cons_self files same
      have outline := first.outline.trans same
      exact first.trans (writtenThrough_foldl change rest _ outline
        fun later mem => each later (List.mem_cons_of_mem item mem))

section Content

variable {files : Files} {path : Path} {location : Location} {node : Node}

theorem content_of_node (found : files.node path = .ok (location, node)) :
    files.content path = node.content := by
  rw [content, found]
  rfl

theorem readText_of_node {text : String}
    (found : files.node path = .ok (location, .file (Utf8.bytes text))) :
    files.readText path = .ok text := by
  rw [readText, content_of_node found]
  simp only [Node.content, Utf8.text?_bytes]

/-- What a write makes of a node is found through the same path afterwards. -/
theorem node_of_overwrite {after : Files} {text : String}
    (written : files.overwrite path text = .ok after) :
    ∃ location held node, files.node path = .ok (location, held) ∧
      held.written (Utf8.bytes text) = .ok node ∧ after.node path = .ok (location, node) := by
  rcases overwrite_eq_ok written with ⟨location, held, node, found, put, replaced⟩
  rcases node_eq_ok_iff.mp found with ⟨leads, present⟩
  refine ⟨location, held, node, found, put, ?_⟩
  rw [node_eq_ok_iff, (writtenThrough_overwrite written).locate_eq, replaced]
  refine ⟨leads, ?_⟩
  rw [Tree.node?_replace _ _ _ _ (below_of_written found put), if_pos rfl, present]
  rfl

/-- A file can always be written. -/
theorem overwrite_of_file {content : Bytes}
    (found : files.node path = .ok (location, .file content)) (text : String) :
    files.overwrite path text = .ok (files.tryOverwrite path text) := by
  have written : files.overwrite path text =
      .ok { files with tree := files.tree.replace location (.file (Utf8.bytes text)) } := by
    rw [overwrite, found]
    rfl
  rw [tryOverwrite, written]

/-- A file holds what was written to it. -/
theorem node_tryOverwrite_same {content : Bytes} (text : String)
    (found : files.node path = .ok (location, .file content)) :
    (files.tryOverwrite path text).node path = .ok (location, .file (Utf8.bytes text)) := by
  rcases node_of_overwrite (overwrite_of_file found text) with ⟨_, _, _, again, put, after⟩
  cases found.symm.trans again
  cases put
  exact after

/-- Writing elsewhere is not seen. -/
theorem WrittenThrough.node_eq {paths : List Path} {after : Files}
    (written : WrittenThrough paths files after)
    (apart : ∀ other ∈ paths, files.locate other ≠ .ok location)
    (found : files.node path = .ok (location, node)) :
    after.node path = .ok (location, node) := by
  rcases node_eq_ok_iff.mp found with ⟨leads, present⟩
  rw [node_eq_ok_iff, written.locate_eq, written.node?_eq apart]
  exact ⟨leads, present⟩

end Content

/-- A place that holds what is written goes on holding it, wherever the write leads. -/
theorem node?_tryOverwrite_of_written {files : Files} {place : Location} {text : String}
    (holds : files.tree.node? place = some (.file (Utf8.bytes text))) (path : Path) :
    (files.tryOverwrite path text).tree.node? place = some (.file (Utf8.bytes text)) := by
  by_cases leads : files.locate path = .ok place
  · have found : files.node path = .ok (place, .file (Utf8.bytes text)) :=
      node_eq_ok_iff.mpr ⟨leads, holds⟩
    exact (node_eq_ok_iff.mp (node_tryOverwrite_same text found)).2
  · rw [(writtenThrough_tryOverwrite files path text).node?_eq, holds]
    intro other mem
    rwa [List.mem_singleton.mp mem]

section SameNode

variable {before after : Files} {path : Path} (same : after.node path = before.node path)
include same

theorem has_eq_of_node_eq : after.has path = before.has path := by
  rw [has, same, has]

theorem readText_eq_of_node_eq : after.readText path = before.readText path := by
  unfold readText content
  rw [same]

theorem readValue_eq_of_node_eq : after.readValue path = before.readValue path :=
  congrArg (Except.map trimmed) (readText_eq_of_node_eq same)

end SameNode

section SameOutline

variable {before after : Files} (same : after.outline = before.outline)
include same

theorem map_outline_node?_eq (place : Location) :
    (after.tree.node? place).map Node.outline = (before.tree.node? place).map Node.outline := by
  have trees : after.tree.outline = before.tree.outline := congrArg Files.tree same
  rw [← Tree.node?_outline, trees, Tree.node?_outline]

/-- Whether a write fails, and how, does not depend on what the files hold. -/
theorem overwrite_eq_error_of_outline_eq {path : Path} {text : String} {error : Error}
    (refused : before.overwrite path text = .error error) :
    after.overwrite path text = .error error := by
  rw [← overwrite_outline_eq_error_iff, same, overwrite_outline_eq_error_iff]
  exact refused

/-- A write may change what a file holds, but it stays a file. -/
theorem node?_file_of_outline_eq {place : Location} {content : Bytes}
    (held : before.tree.node? place = some (.file content)) :
    ∃ content, after.tree.node? place = some (.file content) := by
  have outlined := map_outline_node?_eq same place
  rw [held] at outlined
  rcases Option.map_eq_some_iff.mp outlined with ⟨node, found, isFile⟩
  cases node with
  | file content => exact ⟨content, found⟩
  | _ => cases isFile

theorem node_file_of_outline_eq {path : Path} {place : Location} {content : Bytes}
    (found : before.node path = .ok (place, .file content)) :
    ∃ content, after.node path = .ok (place, .file content) := by
  rcases node_eq_ok_iff.mp found with ⟨leads, held⟩
  rcases node?_file_of_outline_eq same held with ⟨later, heldLater⟩
  exact ⟨later, node_eq_ok_iff.mpr ⟨(locate_eq_of_outline_eq same path).trans leads, heldLater⟩⟩

/-- What is no file reads as before. -/
theorem content_eq_of_no_file {path : Path}
    (other : ∀ place held, before.node path ≠ .ok (place, .file held)) :
    after.content path = before.content path := by
  have otherAfter : ∀ place held, after.node path ≠ .ok (place, .file held) := by
    intro place held found
    rcases node_file_of_outline_eq same.symm found with ⟨content, there⟩
    exact other place content there
  rw [← content_outline otherAfter, same, content_outline other]

/-- There is nothing in a directory that a write could change. -/
theorem node?_eq_of_unwritable {place : Location}
    (unwritable : ∀ node, before.tree.node? place = some node → node = .directory) :
    after.tree.node? place = before.tree.node? place := by
  have outlined := map_outline_node?_eq same place
  cases held : before.tree.node? place with
  | none =>
      rw [held] at outlined
      exact Option.map_eq_none_iff.mp outlined
  | some node =>
      rw [held, unwritable node held] at outlined
      rcases Option.map_eq_some_iff.mp outlined with ⟨later, found, isDirectory⟩
      rw [found, unwritable node held]
      cases later with
      | directory => rfl
      | _ => cases isDirectory

end SameOutline

end Files

end UsbTypeC
