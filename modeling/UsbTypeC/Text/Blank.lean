import UsbTypeC.Text.CodePoints

/-! Blank characters, which are those with the property `White_Space`, and
trimming them off both ends of a text. -/

namespace UsbTypeC

def blankCharacters : CodePoints :=
  [(0x9, 0xD), (0x20, 0x20), (0x85, 0x85), (0xA0, 0xA0), (0x1680, 0x1680), (0x2000, 0x200A),
    (0x2028, 0x2029), (0x202F, 0x202F), (0x205F, 0x205F), (0x3000, 0x3000)]

def isBlank (character : Char) : Bool :=
  blankCharacters.contains character

def trimmedCharacters (characters : List Char) : List Char :=
  ((characters.dropWhile isBlank).reverse.dropWhile isBlank).reverse

theorem trimmedCharacters_of_no_blank (characters : List Char)
    (clean : ∀ character ∈ characters, isBlank character = false) :
    trimmedCharacters characters = characters := by
  have keeps : ∀ list : List Char, (∀ character ∈ list, isBlank character = false) →
      list.dropWhile isBlank = list := by
    intro list clean
    cases list with
    | nil => rfl
    | cons head tail => simp [clean head List.mem_cons_self]
  unfold trimmedCharacters
  rw [keeps characters clean, keeps characters.reverse, List.reverse_reverse]
  intro character mem
  exact clean character (List.mem_reverse.mp mem)

def trimmed (text : String) : String :=
  String.ofList (trimmedCharacters text.toList)

end UsbTypeC
