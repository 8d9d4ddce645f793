import UsbTypeC.Files.Root

/-! The outline of a tree: its entries without what files and pipes hold. Where a
path leads and what a listing tells can be read off the outline alone, and writing
keeps the outline as it is, so no write ever changes where a path leads. -/

namespace UsbTypeC

/-- A tree whose top directory is the root. -/
def seenFromTop (entries : List Entry) (distinct : (entries.map Prod.fst).Nodup) : Files where
  root := { workingDirectory := [], path := ⟨"/"⟩, directory := [] }
  tree := { entries, distinct }

/-- A node without what it holds. -/
def Node.outline : Node → Node
  | .file _ => .file []
  | .pipe _ => .pipe []
  | node => node

theorem Node.entryType_outline (node : Node) : node.outline.entryType = node.entryType := by
  cases node <;> rfl

/-- What is written takes the place of content, never of anything else. -/
theorem Node.outline_written {node after : Node} {content : Bytes}
    (written : node.written content = .ok after) : after.outline = node.outline := by
  cases node with
  | directory => cases written
  | file held =>
      cases written
      rfl
  | link target => cases written
  | pipe received =>
      cases written
      rfl
  | device device =>
      cases device with
      | null =>
          cases written
          rfl
      | full =>
          simp only [Node.written] at written
          split at written
          · cases written
            rfl
          · cases written

/-- Whether a node can be written, and why not, has nothing to do with what it holds. -/
theorem Node.written_outline_eq_error_iff {node : Node} {content : Bytes} {fault : Fault} :
    node.outline.written content = .error fault ↔ node.written content = .error fault := by
  cases node with
  | file held => exact iff_of_false (fun refused => by cases refused) fun refused => by cases refused
  | pipe received =>
      exact iff_of_false (fun refused => by cases refused) fun refused => by cases refused
  | directory => exact Iff.rfl
  | link target => exact Iff.rfl
  | device device => exact Iff.rfl

/-- Only a file tells what it holds. -/
theorem Node.content_outline {node : Node} (other : ∀ held, node ≠ .file held) :
    node.outline.content = node.content := by
  cases node with
  | file held => exact absurd rfl (other held)
  | _ => rfl

namespace Tree

def outlinedEntry (entry : Entry) : Entry :=
  (entry.1, entry.2.outline)

theorem locations_map_outlinedEntry (entries : List Entry) :
    (entries.map outlinedEntry).map Prod.fst = entries.map Prod.fst := by
  simp [List.map_map, Function.comp_def, outlinedEntry]

def outline (tree : Tree) : Tree where
  entries := tree.entries.map outlinedEntry
  distinct := by
    rw [locations_map_outlinedEntry]
    exact tree.distinct

private theorem lookup_map_outlinedEntry (place : Location) :
    ∀ entries : List Entry,
      (entries.map outlinedEntry).lookup place = (entries.lookup place).map Node.outline
  | [] => rfl
  | (head, held) :: rest => by
      have restCase := lookup_map_outlinedEntry place rest
      by_cases found : place = head
      · simp [outlinedEntry, found]
      · simp [outlinedEntry, List.lookup_cons, restCase,
          show (place == head) = false by simpa using found]

theorem node?_outline (tree : Tree) (place : Location) :
    tree.outline.node? place = (tree.node? place).map Node.outline := by
  cases place with
  | nil => rfl
  | cons name above => exact lookup_map_outlinedEntry _ tree.entries

theorem children_outline (tree : Tree) (parent : Location) :
    tree.outline.children parent =
      (tree.children parent).map fun child => (child.1, child.2.outline) := by
  unfold children outline
  rw [List.filterMap_map, List.map_filterMap]
  congr 1
  funext ⟨location, node⟩
  cases location with
  | nil => rfl
  | cons name above => by_cases here : above = parent <;> simp [outlinedEntry, here]

/-! Every step of a walk asks for nothing but whether a node is a directory or a
link. -/

theorem descend_outline (tree : Tree)
    (follow : Location → List String → Except Fault Location)
    (place : Location) (steps : List String) :
    tree.outline.descend follow place steps = tree.descend follow place steps := by
  induction steps generalizing place with
  | nil => rfl
  | cons step rest induction =>
      simp only [descend, node?_outline, induction]
      cases held : tree.node? place with
      | none => rfl
      | some node =>
          cases node with
          | directory =>
              cases next : tree.node? (.text step :: place) with
              | none => rfl
              | some node => cases node <;> rfl
          | file content => rfl
          | link target => rfl
          | pipe received => rfl
          | device device => rfl

theorem walk_outline (tree : Tree) (links : Nat) (place : Location) (steps : List String) :
    tree.outline.walk links place steps = tree.walk links place steps := by
  induction links generalizing place steps with
  | zero => exact tree.descend_outline _ place steps
  | succ links induction =>
      have same : tree.outline.walk links = tree.walk links := by
        funext place steps
        exact induction place steps
      rw [walk, walk, same]
      exact tree.descend_outline _ place steps

theorem follow_outline (tree : Tree) (current : Location) (path : Path) :
    tree.outline.follow current path = tree.follow current path :=
  tree.walk_outline linkLimit _ _

theorem lookup_eq_of_mem {location : Location} {node : Node} :
    ∀ {entries : List Entry}, (entries.map Prod.fst).Nodup →
      (location, node) ∈ entries → entries.lookup location = some node
  | (head, held) :: rest, distinct, mem => by
      have parts := List.nodup_cons.mp distinct
      rcases List.mem_cons.mp mem with equal | restMem
      · cases equal
        simp
      · have fresh : location ≠ head := fun equal =>
          parts.1 (List.mem_map.mpr ⟨_, restMem, equal⟩)
        rw [List.lookup_cons, show (location == head) = false by simpa using fresh]
        exact lookup_eq_of_mem parts.2 restMem

theorem mem_entries_of_node? {tree : Tree} {name : Name} {above : Location} {node : Node}
    (found : tree.node? (name :: above) = some node) : (name :: above, node) ∈ tree.entries := by
  rcases List.lookup_eq_some_iff.mp found with ⟨earlier, later, split, _⟩
  rw [split]
  exact List.mem_append_right _ List.mem_cons_self

theorem node?_of_mem_entries {tree : Tree} {location : Location} {node : Node}
    (below : location ≠ []) (mem : (location, node) ∈ tree.entries) :
    tree.node? location = some node := by
  cases location with
  | nil => exact absurd rfl below
  | cons name above => exact lookup_eq_of_mem tree.distinct mem

theorem eq_of_entries {tree other : Tree} (same : tree.entries = other.entries) :
    tree = other := by
  cases tree
  cases other
  cases same
  rfl

/-- Replacing a node by one of the same outline. -/
theorem outline_replace (tree : Tree) {location : Location} {held node : Node}
    (below : location ≠ []) (present : tree.node? location = some held)
    (same : node.outline = held.outline) :
    (tree.replace location node).outline = tree.outline := by
  apply eq_of_entries
  simp only [outline, replace, List.map_map]
  apply List.map_congr_left
  rintro ⟨place, kept⟩ mem
  by_cases here : place = location
  · subst here
    have equal : some kept = some held := (node?_of_mem_entries below mem).symm.trans present
    cases equal
    simp [replaceEntry, outlinedEntry, same]
  · simp [replaceEntry, here]

end Tree

namespace Files

def outline (files : Files) : Files :=
  { files with tree := files.tree.outline }

theorem locate_outline (files : Files) (path : Path) :
    files.outline.locate path = files.locate path := by
  simp only [locate, outline, Tree.follow_outline]

theorem node_outline (files : Files) (path : Path) :
    files.outline.node path = (files.node path).map fun found => (found.1, found.2.outline) := by
  unfold node
  rw [locate_outline]
  cases files.locate path with
  | error fault => rfl
  | ok location =>
      simp only [bind, Except.bind, outline, Tree.node?_outline]
      cases files.tree.node? location <;> rfl

theorem has_outline (files : Files) (path : Path) : files.outline.has path = files.has path := by
  unfold has
  rw [node_outline]
  cases files.node path <;> rfl

private theorem listedEntry_outline (child : Name × Node) :
    listedEntry (child.1, child.2.outline) = listedEntry child := by
  simp only [listedEntry, Node.entryType_outline]

theorem listing_outline (files : Files) (path : Path) :
    files.outline.listing path = files.listing path := by
  unfold listing
  rw [node_outline]
  cases files.node path with
  | error fault => rfl
  | ok found =>
      rcases found with ⟨location, node⟩
      cases node with
      | directory =>
          change (files.tree.outline.children location).mapM listedEntry = _
          rw [Tree.children_outline, List.mapM_map]
          exact congrArg (List.mapM · _) (funext listedEntry_outline)
      | file content => rfl
      | link target => rfl
      | pipe received => rfl
      | device device => rfl

theorem realPath_outline (files : Files) (path : Path) :
    files.outline.realPath path = files.realPath path := by
  have same : ∀ path, files.outline.canonical path = files.canonical path := by
    intro path
    simp only [canonical, followChecked, outline, Tree.follow_outline]
  simp only [realPath, same]
  rfl

/-! Two states of the files with one outline answer alike whatever asks for the
outline only. -/

section SameOutline

variable {before after : Files} (same : after.outline = before.outline)
include same

theorem locate_eq_of_outline_eq (path : Path) : after.locate path = before.locate path := by
  rw [← locate_outline after, same, locate_outline before]

theorem has_eq_of_outline_eq (path : Path) : after.has path = before.has path := by
  rw [← has_outline after, same, has_outline before]

theorem listing_eq_of_outline_eq (path : Path) : after.listing path = before.listing path := by
  rw [← listing_outline after, same, listing_outline before]

theorem realPath_eq_of_outline_eq (path : Path) :
    after.realPath path = before.realPath path := by
  rw [← realPath_outline after, same, realPath_outline before]

end SameOutline

end Files

end UsbTypeC
