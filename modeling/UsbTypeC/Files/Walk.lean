import UsbTypeC.Files.Tree

/-! Following a path through a tree. Every step needs a directory to stand in.
The step `.` stays, the step `..` goes up, and a name leads to the entry of that
name; a name that belongs to a link leads on along the link's own path before
the remaining steps are taken. At most forty links are followed on the way. -/

namespace UsbTypeC

def Path.start (path : Path) (current : Location) : Location :=
  if path.isAbsolute then [] else current

namespace Tree

def longestName : Nat := 255

def linkLimit : Nat := 40

/-- Taking steps from a place until there are none left. A link on the way is handed
over, together with the steps that remain behind it. -/
def descend (tree : Tree) (follow : Location → List String → Except Fault Location) :
    Location → List String → Except Fault Location
  | place, [] => .ok place
  | place, step :: rest =>
      match tree.node? place with
      | none => .error .entityNotFound
      | some .directory =>
          if step = "." then descend tree follow place rest
          else if step = ".." then descend tree follow place.tail rest
          else if longestName < step.utf8ByteSize then .error .invalidFilename
          else match tree.node? (.text step :: place) with
            | none => .error .entityNotFound
            | some (.link target) => follow (target.start place) (target.steps ++ rest)
            | some _ => descend tree follow (.text step :: place) rest
      | some _ => .error .notADirectory

/-- Going on along links, as long as there are links to spare. -/
def walk (tree : Tree) : Nat → Location → List String → Except Fault Location
  | 0 => tree.descend fun _ _ => .error .filesystemLoop
  | links + 1 => tree.descend (tree.walk links)

/-- The location that a path leads to from a current directory. -/
def follow (tree : Tree) (current : Location) (path : Path) : Except Fault Location :=
  tree.walk linkLimit (path.start current) path.steps

end Tree

end UsbTypeC
