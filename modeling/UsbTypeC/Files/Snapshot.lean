import UsbTypeC.Files.Change
import UsbTypeC.Files.Edit
import UsbTypeC.Text.Numeral

/-! Trees as texts, with a line for each entry. A line names the kind of the entry,
its path from the top directory and, for some kinds, what the entry holds, with a
space between them. Bytes that a space or a line break could be mistaken for are
written as a backslash and two hexadecimal digits, and so is every byte that is not
a visible character. -/

namespace UsbTypeC.Snapshot

def isPlain (code : Nat) : Bool :=
  0x20 < code && code < 0x7F && code != 0x5C

/-- A byte as a character, or as two digits where that could be misread. -/
def writtenByte (byte : UInt8) : List Char :=
  if isPlain byte.toNat then [Char.ofNat byte.toNat]
  else ['\\', Nat.digitChar (byte.toNat / 16), Nat.digitChar (byte.toNat % 16)]

def written (bytes : Bytes) : String :=
  String.ofList (bytes.flatMap writtenByte)

def bytes? : List Char → Option Bytes
  | [] => some []
  | '\\' :: high :: low :: rest => do
      let high ← digitValue? 16 high
      let low ← digitValue? 16 low
      (bytes? rest).map (UInt8.ofNat (high * 16 + low) :: ·)
  | character :: rest =>
      if isPlain character.toNat then
        (bytes? rest).map (UInt8.ofNat character.toNat :: ·)
      else none

theorem digitValue?_digitChar (digit : Nat) (small : digit < 16) :
    digitValue? 16 (Nat.digitChar digit) = some digit := by
  match digit, small with
  | 0, _ | 1, _ | 2, _ | 3, _ | 4, _ | 5, _ | 6, _ | 7, _ => decide
  | 8, _ | 9, _ | 10, _ | 11, _ | 12, _ | 13, _ | 14, _ | 15, _ => decide
  | digit + 16, small => exact absurd small (by omega)

theorem bytes?_writtenByte_append (byte : UInt8) (rest : List Char) :
    bytes? (writtenByte byte ++ rest) = (bytes? rest).map (byte :: ·) := by
  have small : byte.toNat < 256 := byte.toNat_lt
  unfold writtenByte
  split
  · next plain =>
    have value : (Char.ofNat byte.toNat).toNat = byte.toNat := by
      have valid : byte.toNat.isValidChar := Or.inl (by omega)
      rw [Char.ofNat, dif_pos valid]
      rfl
    have different : Char.ofNat byte.toNat ≠ '\\' := by
      intro equal
      have code : byte.toNat = 0x5C := by rw [← value, equal]; rfl
      rw [code] at plain
      exact absurd plain (by decide)
    rw [List.singleton_append, bytes?.eq_def]
    split
    · next equal => cases equal
    · next equal => exact absurd (List.cons.inj equal).1 different
    · next equal =>
      obtain ⟨rfl, rfl⟩ := List.cons.inj equal
      rw [if_pos (by rw [value]; exact plain), value, UInt8.ofNat_toNat]
  · rw [List.cons_append, List.cons_append, List.singleton_append, bytes?,
      digitValue?_digitChar _ (by omega), digitValue?_digitChar _ (by omega)]
    show (bytes? rest).map _ = _
    rw [show byte.toNat / 16 * 16 + byte.toNat % 16 = byte.toNat by omega, UInt8.ofNat_toNat]

/-- What is written reads back, whatever the bytes are. -/
theorem bytes?_written : ∀ bytes : Bytes, bytes? (bytes.flatMap writtenByte) = some bytes
  | [] => rfl
  | byte :: bytes => by
      rw [List.flatMap_cons, bytes?_writtenByte_append, bytes?_written bytes]
      rfl

def separator : UInt8 := 0x2F

def names (path : Bytes) : List Name :=
  ((pieces separator path).filter fun piece => !piece.isEmpty).map Name.ofBytes

def path (location : Location) : Bytes :=
  [separator].intercalate (location.reverse.map Name.bytes)

def node? (kind : String) (held : Bytes) : Option Node :=
  match kind with
  | "directory" => some .directory
  | "file" => some (.file held)
  | "link" => (Utf8.text? held).map fun target => .link ⟨target⟩
  | "pipe" => some (.pipe held)
  | "null" => some (.device .null)
  | "full" => some (.device .full)
  | _ => none

def words (line : String) : List String :=
  (pieces ' ' line.toList).map String.ofList

def edit? (line : String) : Option Edit :=
  match words line with
  | [kind, path] => do
      let names := names (← bytes? path.toList)
      (node? kind []).map (Edit.put names)
  | [kind, path, held] => do
      let names := names (← bytes? path.toList)
      (node? kind (← bytes? held.toList)).map (Edit.put names)
  | _ => none

/-- The tree of a snapshot. A line that is no entry makes it no snapshot. -/
def tree? (lines : List String) : Option Tree :=
  ((lines.filter (· ≠ "")).mapM edit?).map fun edits =>
    edits.foldl (fun tree edit => tree.edited [] edit) .empty

def changeLine (change : Location × Change) : String :=
  let (kind, held) := match change.2 with
    | .content content => ("file", content)
    | .received bytes => ("pipe", bytes)
  kind ++ " " ++ written (path change.1) ++ " " ++ written held

/-- What became of a tree: a line for each file that holds something else, and for
each pipe what it received. -/
def changeLines (before after : Tree) : List String :=
  (before.changes after).map changeLine

end UsbTypeC.Snapshot
