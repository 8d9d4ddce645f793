import UsbTypeC.Proofs.Files.Writing

/-! Writing seen entry by entry. A path leads to at most one entry, and a write through it
leaves every other entry alone. What can be read can be written, and one write after
another leaves what the last one wrote. -/

namespace UsbTypeC

namespace Node

variable {node : Node} {held : Bytes}

/-- A node after an attempt to write into it. -/
def rewritten (content : Bytes) (node : Node) : Node :=
  match node.written content with
  | .ok after => after
  | .error _ => node

theorem rewritten_rewritten (readable : node.content = .ok held) (first second : Bytes) :
    (node.rewritten first).rewritten second = node.rewritten second := by
  cases node with
  | file content => rfl
  | device device =>
      cases device with
      | null => rfl
      | full => cases readable
  | _ => cases readable

theorem rewritten_content (readable : node.content = .ok held) : node.rewritten held = node := by
  cases node with
  | file content =>
      cases readable
      rfl
  | device device =>
      cases device with
      | null => rfl
      | full => cases readable
  | _ => cases readable

end Node

namespace Files

variable {files after : Files} {path : Path} {entry : Entry}

/-- A path reaches an entry by its location. The top directory has none. -/
def Reaches (files : Files) (path : Path) (location : Location) : Prop :=
  files.locate path = .ok location ∧ location ≠ []

instance (files : Files) (path : Path) (location : Location) :
    Decidable (files.Reaches path location) :=
  match located : files.locate path with
  | .ok place =>
      decidable_of_iff (place = location ∧ location ≠ []) (by simp [Reaches, located])
  | .error fault => .isFalse fun reaches => by cases located.symm.trans reaches.1

def rewrittenEntry (files : Files) (path : Path) (text : String) (entry : Entry) : Entry :=
  if files.Reaches path entry.1 then (entry.1, entry.2.rewritten (Utf8.bytes text)) else entry

theorem Reaches.node_eq (reaches : files.Reaches path entry.1) (mem : entry ∈ files.tree.entries) :
    files.node path = .ok entry :=
  node_eq_ok_iff.mpr ⟨reaches.1, Tree.node?_of_mem_entries reaches.2 mem⟩

/-- A write that cannot be made changes no entry. -/
theorem rewrittenEntry_of_error {text : String} {error : Error}
    (refused : files.overwrite path text = .error error) (mem : entry ∈ files.tree.entries) :
    files.rewrittenEntry path text entry = entry := by
  rw [rewrittenEntry]
  split
  · next reaches =>
    rw [overwrite, reaches.node_eq mem] at refused
    cases written : entry.2.written (Utf8.bytes text) with
    | error fault =>
        rw [Node.rewritten, written]
    | ok node =>
        simp only [written] at refused
        cases refused
  · rfl

theorem entries_tryOverwrite (files : Files) (path : Path) (text : String) :
    (files.tryOverwrite path text).tree.entries =
      files.tree.entries.map (files.rewrittenEntry path text) := by
  rw [tryOverwrite]
  cases attempt : files.overwrite path text with
  | error error =>
      have kept : files.tree.entries.map (files.rewrittenEntry path text) =
          files.tree.entries.map id :=
        List.map_congr_left fun _ mem => rewrittenEntry_of_error attempt mem
      exact (kept.trans (List.map_id _)).symm
  | ok after =>
      rcases overwrite_eq_ok attempt with ⟨location, held, node, found, put, rfl⟩
      apply List.map_congr_left
      intro entry mem
      rw [rewrittenEntry, Tree.replaceEntry]
      by_cases here : entry.1 = location
      · have reaches : files.Reaches path entry.1 :=
          ⟨here ▸ (node_eq_ok_iff.mp found).1, here ▸ below_of_written found put⟩
        have same := (reaches.node_eq mem).symm.trans found
        cases same
        rw [if_pos reaches, if_pos here, Node.rewritten, put]
      · have apart : ¬ files.Reaches path entry.1 := fun reaches =>
          here (Except.ok.inj (reaches.1.symm.trans (node_eq_ok_iff.mp found).1))
        rw [if_neg apart, if_neg here]

theorem eq_of_entries (root : after.root = files.root)
    (entries : after.tree.entries = files.tree.entries) : after = files := by
  have trees := Tree.eq_of_entries entries
  cases after
  cases files
  cases root
  cases trees
  rfl

theorem rewrittenEntry_of_writtenThrough {paths : List Path}
    (written : WrittenThrough paths files after) (path : Path) (text : String) (entry : Entry) :
    after.rewrittenEntry path text entry = files.rewrittenEntry path text entry := by
  have same : after.Reaches path entry.1 ↔ files.Reaches path entry.1 := by
    rw [Reaches, Reaches, written.locate_eq]
  simp only [rewrittenEntry, same]

end Files

end UsbTypeC
