/-! Texts and their bytes. The decoder reads one byte at a time. Between
characters it looks for the first byte of one; inside a character it knows how
many bytes are still owed and the range the next one must lie in, so it notices
an ill-formed sequence at the first byte that cannot continue it. It then yields
`none` for the bytes read so far and looks at that byte afresh. Each `none` thus
stands for a longest sequence of bytes that begins some character. -/

namespace UsbTypeC

abbrev Bytes := List UInt8

namespace Utf8

def encode (characters : List Char) : Bytes :=
  characters.flatMap String.utf8EncodeChar

/-- A character whose first byte has been read: the payload so far, the number
of bytes owed beyond the next one, and the bounds of the next one. -/
structure Pending where
  payload : Nat
  later : Nat
  lowest : Nat
  highest : Nat
  deriving DecidableEq, Repr

inductive Progress where
  | complete (character : Char)
  | pending (pending : Pending)
  | illFormed
  deriving DecidableEq, Repr

/-- A byte that begins a character. The bounds of the second byte leave out the forms
that are longer than needed, the surrogates, and whatever lies beyond the last
character. -/
def first (byte : Nat) : Progress :=
  if byte < 0x80 then .complete (Char.ofNat byte)
  else if byte < 0xC2 then .illFormed
  else if byte < 0xE0 then .pending ⟨byte - 0xC0, 0, 0x80, 0xBF⟩
  else if byte = 0xE0 then .pending ⟨0, 1, 0xA0, 0xBF⟩
  else if byte = 0xED then .pending ⟨0xD, 1, 0x80, 0x9F⟩
  else if byte < 0xF0 then .pending ⟨byte - 0xE0, 1, 0x80, 0xBF⟩
  else if byte = 0xF0 then .pending ⟨0, 2, 0x90, 0xBF⟩
  else if byte < 0xF4 then .pending ⟨byte - 0xF0, 2, 0x80, 0xBF⟩
  else if byte = 0xF4 then .pending ⟨4, 2, 0x80, 0x8F⟩
  else .illFormed

def Pending.next (pending : Pending) (byte : Nat) : Progress :=
  if pending.lowest ≤ byte ∧ byte ≤ pending.highest then
    let payload := pending.payload * 0x40 + (byte - 0x80)
    match pending.later with
    | 0 => .complete (Char.ofNat payload)
    | later + 1 => .pending ⟨payload, later, 0x80, 0xBF⟩
  else .illFormed

def decodeFrom : Option Pending → Bytes → List (Option Char)
  | none, [] => []
  | some _, [] => [none]
  | none, byte :: bytes =>
      match first byte.toNat with
      | .complete character => some character :: decodeFrom none bytes
      | .pending pending => decodeFrom (some pending) bytes
      | .illFormed => none :: decodeFrom none bytes
  | some pending, byte :: bytes =>
      match pending.next byte.toNat with
      | .complete character => some character :: decodeFrom none bytes
      | .pending pending => decodeFrom (some pending) bytes
      | .illFormed =>
          none :: match first byte.toNat with
            | .complete character => some character :: decodeFrom none bytes
            | .pending pending => decodeFrom (some pending) bytes
            | .illFormed => none :: decodeFrom none bytes

/-- The characters of a sequence of bytes, with `none` for each part that is none. -/
def decode (bytes : Bytes) : List (Option Char) :=
  decodeFrom none bytes

def replacement : Char := '\uFFFD'

def lossyCharacters (bytes : Bytes) : List Char :=
  (decode bytes).map fun character => character.getD replacement

/-- The text in which every ill-formed part is replaced by one mark. -/
def lossy (bytes : Bytes) : String :=
  String.ofList (lossyCharacters bytes)

def wellFormed : List (Option Char) → Option (List Char)
  | [] => some []
  | none :: _ => none
  | some character :: rest => (wellFormed rest).map (character :: ·)

/-- The text of well-formed bytes. -/
def text? (bytes : Bytes) : Option String :=
  (wellFormed (decode bytes)).map String.ofList

def bytes (text : String) : Bytes :=
  encode text.toList

end Utf8

end UsbTypeC
