import UsbTypeC.Port.Attribute

/-! The ports that exist. Every entry of the ports' directory that is a directory
or a link may speak for a port: an entry named for a port's partner says that the
port is there and connected, and an entry whose name has no dash and no dot names a
port that is there. Other entries, such as those of cables and
alternate modes, are not ports. -/

namespace UsbTypeC

/-- A port that is there, and whether anything is attached to it. -/
structure FoundPort where
  name : PortName
  connected : Bool
  deriving DecidableEq, Repr

namespace FoundPort

def named (connected : Bool) (text : String) : Option FoundPort :=
  if valid : PortName.IsValid text then some ⟨⟨text, valid⟩, connected⟩ else none

/-- What the name of an entry says about a port. -/
def ofName? (name : String) : Option FoundPort :=
  match withoutSuffix? PortName.partnerEnding.toList name.toList with
  | some port => named true (String.ofList port)
  | none =>
      if '-' ∈ name.toList ∨ '.' ∈ name.toList then none else named false name

def ofListed? (entry : ListedEntry) : Option FoundPort :=
  match entry.entryType with
  | .directory => ofName? entry.name
  | .symlink => ofName? entry.name
  | _ => none

/-- The entries found so far, in ascending order of their names. A port is
connected as soon as one of the entries for it says so. -/
def insert (entry : FoundPort) : List FoundPort → List FoundPort
  | [] => [entry]
  | head :: tail =>
      if entry.name.text < head.name.text then entry :: head :: tail
      else if entry.name.text = head.name.text then
        ⟨head.name, entry.connected || head.connected⟩ :: tail
      else head :: insert entry tail

def ofListing (listing : List ListedEntry) : List FoundPort :=
  (listing.filterMap ofListed?).foldr insert []

end FoundPort

def Files.ports (files : Files) : Except Error (List FoundPort) :=
  (files.listing portsDirectory).map FoundPort.ofListing

end UsbTypeC
