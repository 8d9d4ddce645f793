import Mathlib.Data.List.DropRight
import UsbTypeC.Text.Blank

/-! Trimming takes away the blanks at both ends of a text, all of them, and nothing else. -/

namespace UsbTypeC

/-- A text is made of blanks, a core and blanks again, and the core has no blank at either end. -/
structure TrimsTo (characters core : List Char) : Prop where
  between : ∃ before after, characters = before ++ core ++ after ∧
    (∀ character ∈ before, isBlank character = true) ∧
    ∀ character ∈ after, isBlank character = true
  starts : ∀ character ∈ core.head?, isBlank character = false
  ends : ∀ character ∈ core.getLast?, isBlank character = false

variable {characters core : List Char}

theorem isBlank_head_dropWhile (characters : List Char) :
    ∀ character ∈ (characters.dropWhile isBlank).head?, isBlank character = false := by
  intro character first
  have told := List.head?_dropWhile_not isBlank characters
  rwa [Option.mem_def.mp first] at told

theorem trimmedCharacters_eq_rdropWhile (characters : List Char) :
    trimmedCharacters characters = (characters.dropWhile isBlank).rdropWhile isBlank :=
  rfl

theorem trimsTo_trimmedCharacters (characters : List Char) :
    TrimsTo characters (trimmedCharacters characters) := by
  rw [trimmedCharacters_eq_rdropWhile]
  have cut := List.rdropWhile_append_rtakeWhile (p := isBlank) (l := characters.dropWhile isBlank)
  constructor
  · refine ⟨characters.takeWhile isBlank, (characters.dropWhile isBlank).rtakeWhile isBlank,
      ?_, fun _ => List.mem_takeWhile_imp, fun _ => List.mem_rtakeWhile_imp⟩
    rw [List.append_assoc, cut, List.takeWhile_append_dropWhile]
  · intro character first
    apply isBlank_head_dropWhile characters
    rw [← cut, List.head?_append, Option.mem_def.mp first]
    rfl
  · intro character last
    rw [List.rdropWhile, List.getLast?_reverse] at last
    exact isBlank_head_dropWhile _ character last

theorem dropWhile_of_blanks {before rest : List Char}
    (blanks : ∀ character ∈ before, isBlank character = true)
    (starts : ∀ character ∈ rest.head?, isBlank character = false) :
    (before ++ rest).dropWhile isBlank = rest := by
  rw [List.dropWhile_append_of_pos blanks]
  cases rest with
  | nil => rfl
  | cons character later =>
      exact List.dropWhile_cons_of_neg (by simp [starts character rfl])

theorem TrimsTo.eq (trims : TrimsTo characters core) : trimmedCharacters characters = core := by
  rcases trims.between with ⟨before, after, rfl, blanksBefore, blanksAfter⟩
  have ended : (core ++ after).rdropWhile isBlank = core := by
    have blanks : ∀ character ∈ after.reverse, isBlank character = true :=
      fun character mem => blanksAfter character (List.mem_reverse.mp mem)
    have last : ∀ character ∈ core.reverse.head?, isBlank character = false := by
      rw [List.head?_reverse]
      exact trims.ends
    rw [List.rdropWhile, List.reverse_append, dropWhile_of_blanks blanks last,
      List.reverse_reverse]
  rw [trimmedCharacters_eq_rdropWhile, List.append_assoc]
  cases core with
  | nil =>
      have nothing : (before ++ ([] ++ after)).dropWhile isBlank = [] := by
        rw [List.dropWhile_append_of_pos blanksBefore]
        exact List.dropWhile_eq_nil_iff.mpr blanksAfter
      rw [nothing]
      rfl
  | cons character later =>
      have first : ∀ head ∈ (character :: later ++ after).head?, isBlank head = false :=
        trims.starts
      rw [dropWhile_of_blanks blanksBefore first]
      exact ended

/-- There is one text that a text is trimmed to. -/
theorem trimsTo_iff : TrimsTo characters core ↔ trimmedCharacters characters = core :=
  ⟨TrimsTo.eq, fun same => same ▸ trimsTo_trimmedCharacters characters⟩

end UsbTypeC
