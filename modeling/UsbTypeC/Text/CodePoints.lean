/-! Sets of characters, given as ascending ranges of code points. A character
belongs to a set exactly when its code point lies in one of the ranges, both
ends included. -/

namespace UsbTypeC

abbrev CodePoints := List (Nat × Nat)

def CodePoints.contains (ranges : CodePoints) (character : Char) : Bool :=
  ranges.any fun range => range.1 ≤ character.toNat && character.toNat ≤ range.2

theorem CodePoints.contains_iff (ranges : CodePoints) (character : Char) :
    ranges.contains character = true ↔
      ∃ range ∈ ranges, range.1 ≤ character.toNat ∧ character.toNat ≤ range.2 := by
  simp [contains]

end UsbTypeC
