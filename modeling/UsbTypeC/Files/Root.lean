import UsbTypeC.Error
import UsbTypeC.Files.Walk
import UsbTypeC.Text.Blank

/-! Files as seen from a root directory. The root is opened once, and every path
is taken from there with its leading slashes ignored. Nothing here adds or takes
away an entry: writing replaces what an existing file holds. -/

namespace UsbTypeC

/-- A root remembers the directory it opened, and the path it was opened by,
which canonical paths are measured against. -/
structure Root where
  workingDirectory : Location
  path : Path
  directory : Location
  deriving DecidableEq, Repr

/-- A tree of files together with the root it is seen from. -/
structure Files where
  tree : Tree
  root : Root

structure ListedEntry where
  name : String
  entryType : EntryType
  deriving DecidableEq, Repr

def Path.longest : Nat := 4095

/-- The paths that the system refuses before it looks at any file. -/
def Path.check (path : Path) : Except Fault Unit :=
  if path.holdsNul then .error .invalidInput
  else if path.text.isEmpty then .error .entityNotFound
  else if Path.longest < path.byteSize then .error .invalidFilename
  else .ok ()

namespace Root

def opened (tree : Tree) (workingDirectory : Location) (path : Path) :
    Except Fault Root := do
  path.check
  let directory ← tree.follow workingDirectory path
  match tree.node? directory with
  | some .directory => .ok { workingDirectory, path, directory }
  | _ => .error .notADirectory

end Root

namespace Files

def opened (tree : Tree) (workingDirectory : Location) (path : Path) :
    Except Error Files :=
  match Root.opened tree workingDirectory path with
  | .ok root => .ok { tree, root }
  | .error fault => .error (.fault fault)

/-- Where a path leads to from the root. Lemmas tell what is to be known about it; it is
never taken apart character by character and link by link. -/
@[irreducible]
def locate (files : Files) (path : Path) : Except Fault Location := do
  path.relative.check
  files.tree.follow files.root.directory path.relative

def node (files : Files) (path : Path) : Except Fault (Location × Node) := do
  let location ← files.locate path
  match files.tree.node? location with
  | some node => .ok (location, node)
  | none => .error .entityNotFound

def content (files : Files) (path : Path) : Except Fault Bytes := do
  let (_, node) ← files.node path
  node.content

/-- The content of a file as a text. -/
def readText (files : Files) (path : Path) : Except Error String :=
  match files.content path with
  | .error fault => .error (.fault fault)
  | .ok content =>
      match Utf8.text? content with
      | some text => .ok text
      | none => .error (.fault .invalidData)

/-- The value of an attribute, which is its text without the blanks around it. -/
def readValue (files : Files) (path : Path) : Except Error String :=
  (files.readText path).map trimmed

/-- Writing into what is already there. Nothing new comes into being. -/
def overwrite (files : Files) (path : Path) (text : String) : Except Error Files :=
  match files.node path with
  | .error fault => .error (.fault fault)
  | .ok (location, node) =>
      match node.written (Utf8.bytes text) with
      | .error fault => .error (.fault fault)
      | .ok node => .ok { files with tree := files.tree.replace location node }

/-- Writing where a failure is of no consequence. -/
def tryOverwrite (files : Files) (path : Path) (text : String) : Files :=
  match files.overwrite path text with
  | .ok files => files
  | .error _ => files

/-- Whether a path leads to anything. -/
def has (files : Files) (path : Path) : Bool :=
  match files.node path with
  | .ok _ => true
  | .error _ => false

/-- A directory with a name that is not a text cannot be listed. -/
def listedEntry (child : Name × Node) : Except Error ListedEntry :=
  match child.1 with
  | .text name => .ok { name, entryType := child.2.entryType }
  | .undecodable _ => .error (.fault .invalidInput)

def listing (files : Files) (path : Path) : Except Error (List ListedEntry) :=
  match files.node path with
  | .error fault => .error (.fault fault)
  | .ok (location, .directory) => (files.tree.children location).mapM listedEntry
  | .ok _ => .error (.fault .notADirectory)

/-- The names from a directory down to a location at or below it. -/
def namesBelow [BEq α] (directory location : List α) : Option (List α) :=
  (withoutSuffix? directory location).map List.reverse

@[irreducible]
def followChecked (files : Files) (path : Path) : Except Fault Location :=
  if path.holdsNul then .error .invalidInput
  else files.tree.follow files.root.workingDirectory path

/-- The names of the place that a path leads to, which have to be texts all the way up to
the top directory. -/
def canonical (files : Files) (path : Path) : Except Error (List String) :=
  match files.followChecked path with
  | .error fault => .error (.fault fault)
  | .ok location =>
      match location.mapM Name.text? with
      | some names => .ok names
      | none => .error (.fault .invalidData)

/-- The path without links to the place that a path leads to, as seen from the root.
A place outside the root has none. -/
def realPath (files : Files) (path : Path) : Except Error Path := do
  let directory ← files.canonical files.root.path
  let location ← files.canonical (files.root.path.join path.relative.text)
  match namesBelow directory location with
  | some names => .ok ⟨"/" ++ "/".intercalate names⟩
  | none => .error (.fault .entityNotFound)

end Files

end UsbTypeC
