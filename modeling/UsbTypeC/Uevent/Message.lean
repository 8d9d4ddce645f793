import UsbTypeC.Text.Pieces
import UsbTypeC.Text.Utf8

/-! Messages of the kernel about its devices. A message is a header of the form
`action@path` followed by fields of the form `KEY=value`, each ended by a NUL.
Bytes that are no text are replaced, piece by piece. -/

namespace UsbTypeC.Uevent

def parts (message : Bytes) : List Bytes :=
  pieces 0 message

/-- The text before the first NUL. -/
def header (message : Bytes) : String :=
  Utf8.lossy ((parts message).headD [])

/-- The texts behind the header; two NULs in a row hold no field between them. -/
def fields (message : Bytes) : List String :=
  ((parts message).tail.filter fun part => !part.isEmpty).map Utf8.lossy

end UsbTypeC.Uevent
