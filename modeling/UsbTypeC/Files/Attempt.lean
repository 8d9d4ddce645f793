import UsbTypeC.Files.Root

/-! Writing under a record. Every write that is attempted is noted down with its path and
its text, whatever becomes of it. -/

namespace UsbTypeC

structure Attempt where
  path : Path
  text : String
  deriving DecidableEq, Repr

/-- Files, and the writes that were attempted on them so far, the first one first. -/
structure RecordedFiles where
  files : Files
  attempts : List Attempt

namespace RecordedFiles

def unwritten (files : Files) : RecordedFiles where
  files := files
  attempts := []

/-- A write that is refused leaves nothing behind but its record. -/
def overwrite (recorded : RecordedFiles) (path : Path) (text : String) :
    RecordedFiles × Except Error Unit :=
  let attempts := recorded.attempts ++ [{ path, text }]
  match recorded.files.overwrite path text with
  | .ok files => ({ files, attempts }, .ok ())
  | .error error => ({ recorded with attempts }, .error error)

theorem overwrite_of_ok {recorded : RecordedFiles} {path : Path} {text : String} {after : Files}
    (written : recorded.files.overwrite path text = .ok after) :
    recorded.overwrite path text =
      ({ files := after, attempts := recorded.attempts ++ [⟨path, text⟩] }, .ok ()) := by
  rw [overwrite, written]

theorem overwrite_of_error {recorded : RecordedFiles} {path : Path} {text : String} {error : Error}
    (refused : recorded.files.overwrite path text = .error error) :
    recorded.overwrite path text =
      ({ recorded with attempts := recorded.attempts ++ [⟨path, text⟩] }, .error error) := by
  rw [overwrite, refused]

/-- Writing where a failure is of no consequence. -/
def tryOverwrite (recorded : RecordedFiles) (path : Path) (text : String) : RecordedFiles :=
  (recorded.overwrite path text).1

theorem tryOverwrite_eq (recorded : RecordedFiles) (path : Path) (text : String) :
    recorded.tryOverwrite path text =
      { files := recorded.files.tryOverwrite path text
        attempts := recorded.attempts ++ [⟨path, text⟩] } := by
  rw [tryOverwrite, overwrite, Files.tryOverwrite]
  cases recorded.files.overwrite path text <;> rfl

end RecordedFiles

end UsbTypeC
