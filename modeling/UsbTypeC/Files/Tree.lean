import UsbTypeC.Files.Path
import UsbTypeC.Fault
import UsbTypeC.Text.Utf8

/-! Trees of files. A tree is a list of entries, each at a location of its own;
the top directory is always there and has no entry. The entries of a directory
are listed in the order in which the tree holds them. -/

namespace UsbTypeC

/-- Names are bytes, and nearly all of them are texts. -/
inductive Name where
  | text (spelling : String)
  | undecodable (bytes : Bytes)
  deriving DecidableEq, Repr

def Name.ofBytes (bytes : Bytes) : Name :=
  match Utf8.text? bytes with
  | some spelling => .text spelling
  | none => .undecodable bytes

def Name.bytes : Name → Bytes
  | .text spelling => Utf8.bytes spelling
  | .undecodable bytes => bytes

def Name.text? : Name → Option String
  | .text spelling => some spelling
  | .undecodable _ => none

/-- A location lists the names from an entry up to the top directory, so the
directory that holds an entry is the tail of its location. -/
abbrev Location := List Name

inductive Device where
  | null
  | full
  deriving DecidableEq, Repr

inductive EntryType where
  | regularFile
  | directory
  | symlink
  | fifo
  | characterDevice
  deriving DecidableEq, Repr

inductive Node where
  | directory
  | file (content : Bytes)
  | link (target : Path)
  | pipe (received : Bytes)
  | device (device : Device)
  deriving DecidableEq, Repr

namespace Node

def entryType : Node → EntryType
  | .directory => .directory
  | .file _ => .regularFile
  | .link _ => .symlink
  | .pipe _ => .fifo
  | .device _ => .characterDevice

/-- Reading a pipe or the full device never comes to an end. -/
def content : Node → Except Fault Bytes
  | .directory => .error .isADirectory
  | .file content => .ok content
  | .link _ => .error .filesystemLoop
  | .pipe _ => .error .endless
  | .device .null => .ok []
  | .device .full => .error .endless

/-- A file forgets its content when it is written, a pipe hands on everything
it has ever received, and a device keeps nothing. -/
def written (content : Bytes) : Node → Except Fault Node
  | .directory => .error .isADirectory
  | .file _ => .ok (.file content)
  | .link _ => .error .filesystemLoop
  | .pipe received => .ok (.pipe (received ++ content))
  | .device .null => .ok (.device .null)
  | .device .full =>
      if content.isEmpty then .ok (.device .full) else .error .noStorageSpace

end Node

abbrev Entry := Location × Node

/-- No two entries have the same location, so a location has at most one node. -/
structure Tree where
  entries : List Entry
  distinct : (entries.map Prod.fst).Nodup

namespace Tree

def empty : Tree where
  entries := []
  distinct := .nil

/-- What is at a location. The top directory is always there. -/
def node? (tree : Tree) : Location → Option Node
  | [] => some .directory
  | location => tree.entries.lookup location

/-- The entries that a directory holds, in the order of the tree. -/
def children (tree : Tree) (parent : Location) : List (Name × Node) :=
  tree.entries.filterMap fun
    | (name :: above, node) => if above = parent then some (name, node) else none
    | ([], _) => none

def replaceEntry (location : Location) (node : Node) (entry : Entry) : Entry :=
  if entry.1 = location then (location, node) else entry

theorem locations_map_replaceEntry (location : Location) (node : Node)
    (entries : List Entry) :
    (entries.map (replaceEntry location node)).map Prod.fst = entries.map Prod.fst := by
  rw [List.map_map]
  apply List.map_congr_left
  intro entry _
  by_cases equal : entry.1 = location <;> simp [replaceEntry, equal]

/-- Giving an existing entry another node. No entry appears, goes or moves. -/
def replace (tree : Tree) (location : Location) (node : Node) : Tree where
  entries := tree.entries.map (replaceEntry location node)
  distinct := by
    rw [locations_map_replaceEntry]
    exact tree.distinct

theorem lookup_map_replaceEntry (location : Location) (node : Node) (place : Location) :
    ∀ entries : List Entry,
      (entries.map (replaceEntry location node)).lookup place =
        if place = location then (entries.lookup place).map fun _ => node
        else entries.lookup place
  | [] => by simp
  | (head, held) :: rest => by
      have restCase := lookup_map_replaceEntry location node place rest
      by_cases replaced : head = location
      · by_cases found : place = head
        · simp [replaceEntry, replaced, found]
        · simp [replaceEntry, List.lookup_cons, replaced, restCase,
            show (place == location) = false by simpa [replaced] using found]
      · by_cases found : place = head
        · simp [replaceEntry, replaced, found]
        · simp [replaceEntry, List.lookup_cons, replaced, restCase,
            show (place == head) = false by simpa using found]

/-- Replacing is seen at the location that was replaced and nowhere else. -/
theorem node?_replace (tree : Tree) (location : Location) (node : Node)
    (place : Location) (below : place ≠ []) :
    (tree.replace location node).node? place =
      if place = location then (tree.node? place).map fun _ => node
      else tree.node? place := by
  cases place with
  | nil => exact absurd rfl below
  | cons name above => exact lookup_map_replaceEntry location node _ tree.entries

/-- Taking away an entry and everything below it. -/
def remove (tree : Tree) (location : Location) : Tree where
  entries := tree.entries.filter fun entry => !location.isSuffixOf entry.1
  distinct := tree.distinct.sublist (List.filter_sublist.map Prod.fst)

/-- Adding an entry where there was none. -/
def add (tree : Tree) (location : Location) (node : Node) : Tree :=
  if fresh : location ∈ tree.entries.map Prod.fst then tree
  else
    { entries := tree.entries ++ [(location, node)]
      distinct := by
        rw [List.map_append, List.nodup_append]
        refine ⟨tree.distinct, by simp, ?_⟩
        intro present presentMem added addedMem equal
        simp only [List.map_cons, List.map_nil, List.mem_singleton] at addedMem
        exact fresh (addedMem ▸ equal ▸ presentMem) }

end Tree

end UsbTypeC
