import UsbTypeC.Files.Walk

/-! Changes made to a tree from outside. An entry is put in place together with
the directories that lead to it, in place of whatever was there; a directory that
is already there stays. Removing takes away an entry and all that is below it. The
way to an entry may go through links. -/

namespace UsbTypeC

inductive Edit where
  | put (names : List Name) (node : Node)
  | remove (names : List Name)
  deriving DecidableEq, Repr

namespace Tree

/-- The place that a name leads to, through the link that it may belong to. -/
def reached? (tree : Tree) (place : Location) (name : Name) : Option Location :=
  match tree.node? (name :: place) with
  | none => none
  | some (.link target) => (tree.follow place target).toOption
  | some _ => some (name :: place)

def holdsDirectory (tree : Tree) (place : Location) (name : Name) : Bool :=
  match tree.reached? place name with
  | some location => tree.node? location = some .directory
  | none => false

/-- Putting a node in the place of another one. -/
def settle (tree : Tree) (place : Location) (name : Name) (node : Node) : Tree :=
  if node = .directory ∧ tree.holdsDirectory place name then tree
  else (tree.remove (name :: place)).add (name :: place) node

/-- The directory that a name leads to, made if it is missing. -/
def enter (tree : Tree) (place : Location) (name : Name) : Tree × Location :=
  match tree.reached? place name with
  | some location => (tree, location)
  | none => (tree.add (name :: place) .directory, name :: place)

def put (tree : Tree) : Location → List Name → Node → Tree
  | _, [], _ => tree
  | place, [name], node => tree.settle place name node
  | place, name :: rest, node =>
      let (tree, next) := tree.enter place name
      tree.put next rest node

def removeNamed (tree : Tree) : Location → List Name → Tree
  | place, [] => tree.remove place
  | place, [name] => tree.remove (name :: place)
  | place, name :: rest =>
      match tree.reached? place name with
      | some next => tree.removeNamed next rest
      | none => tree

/-- The tree after an edit, whose names start from a given place. -/
def edited (tree : Tree) (place : Location) : Edit → Tree
  | .put names node => tree.put place names node
  | .remove names => tree.removeNamed place names

end Tree

end UsbTypeC
