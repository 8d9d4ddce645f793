import Mathlib.Data.List.Forall2
import Mathlib.Data.Nat.Digits.Defs
import UsbTypeC.Text.Numeral

/-! What a hexadecimal numeral is, and that its value is what is read from it. A digit is worth
its place among the sixteen, in whichever case it is written, and the digits of a numeral are
worth what their positions make of them. -/

namespace UsbTypeC

def smallHexDigits : List Char := "0123456789abcdef".toList

def largeHexDigits : List Char := "0123456789ABCDEF".toList

def IsHexDigit (character : Char) (digit : Nat) : Prop :=
  smallHexDigits[digit]? = some character ∨ largeHexDigits[digit]? = some character

/-- An optional plus sign and at least one digit, the first of which weighs the most. -/
def IsHexNumeral (text : String) (value : Nat) : Prop :=
  ∃ characters digits, (text.toList = characters ∨ text.toList = '+' :: characters) ∧
    characters ≠ [] ∧ List.Forall₂ IsHexDigit characters digits ∧
    Nat.ofDigits 16 digits.reverse = value

section Digit

variable {character : Char} {digit : Nat}

theorem digit_of_isHexDigit (is : IsHexDigit character digit) :
    digitValue? 16 character = some digit := by
  have small : digit < 16 := by
    rcases is with lower | upper
    · exact (List.getElem?_eq_some_iff.mp lower).1
    · exact (List.getElem?_eq_some_iff.mp upper).1
  have worth : ∀ digit < 16, smallHexDigits[digit]?.bind (digitValue? 16) = some digit ∧
      largeHexDigits[digit]?.bind (digitValue? 16) = some digit := by decide
  rcases is with lower | upper
  · have read := (worth digit small).1
    rw [lower] at read
    exact read
  · have read := (worth digit small).2
    rw [upper] at read
    exact read

/-- The digits are to be found among the first characters. -/
theorem code_of_digitValue? {radix : Nat} (read : digitValue? radix character = some digit) :
    character.toNat < 0x80 := by
  have below {high : Char} (least : character ≤ high) : character.toNat ≤ high.toNat := least
  rw [digitValue?, Option.filter_eq_some_iff] at read
  rcases read with ⟨worth, _⟩
  split at worth
  · next figure => exact Nat.lt_of_le_of_lt (below figure.2) (by decide)
  · split at worth
    · next letter => exact Nat.lt_of_le_of_lt (below letter.2) (by decide)
    · split at worth
      · next letter => exact Nat.lt_of_le_of_lt (below letter.2) (by decide)
      · cases worth

theorem isHexDigit_iff : digitValue? 16 character = some digit ↔ IsHexDigit character digit := by
  refine ⟨fun read => ?_, digit_of_isHexDigit⟩
  have table : ∀ code < 0x80, ∀ digit, digitValue? 16 (Char.ofNat code) = some digit →
      smallHexDigits[digit]? = some (Char.ofNat code) ∨
        largeHexDigits[digit]? = some (Char.ofNat code) := by decide
  have found := table character.toNat (code_of_digitValue? read) digit
  rw [Char.ofNat_toNat] at found
  exact found read

end Digit

/-- The digits that follow push those that were read before one place up each. -/
theorem digitsValue?_eq_some_iff {characters : List Char} {before value : Nat} :
    digitsValue? 16 before characters = some value ↔
      ∃ digits, List.Forall₂ IsHexDigit characters digits ∧
        before * 16 ^ digits.length + Nat.ofDigits 16 digits.reverse = value := by
  induction characters generalizing before with
  | nil =>
      rw [digitsValue?, Option.some.injEq]
      constructor
      · intro same
        exact ⟨[], .nil, by simpa using same⟩
      · intro spelled
        rcases spelled with ⟨digits, empty, same⟩
        cases empty
        simpa using same
  | cons character rest induction =>
      have shifted (digit : Nat) (digits : List Nat) :
          before * 16 ^ (digit :: digits).length + Nat.ofDigits 16 (digit :: digits).reverse =
            (before * 16 + digit) * 16 ^ digits.length + Nat.ofDigits 16 digits.reverse := by
        rw [Nat.ofDigits_reverse_cons, List.length_cons, Nat.pow_succ]
        ring
      rw [digitsValue?]
      constructor
      · intro read
        split at read
        · next digit first =>
          rcases induction.mp read with ⟨digits, spelled, same⟩
          exact ⟨digit :: digits, .cons (isHexDigit_iff.mp first) spelled,
            (shifted digit digits).trans same⟩
        · cases read
      · intro spelled
        rcases spelled with ⟨digits, spelled, same⟩
        cases spelled with
        | cons first spelled =>
            rw [shifted] at same
            rw [isHexDigit_iff.mpr first]
            exact induction.mpr ⟨_, spelled, same⟩

theorem digitsValue?_zero_eq_some_iff {characters : List Char} {value : Nat} :
    digitsValue? 16 0 characters = some value ↔
      ∃ digits, List.Forall₂ IsHexDigit characters digits ∧
        Nat.ofDigits 16 digits.reverse = value := by
  rw [digitsValue?_eq_some_iff]
  simp only [Nat.zero_mul, Nat.zero_add]

theorem not_isHexDigit_plus (digit : Nat) : ¬ IsHexDigit '+' digit := by
  intro is
  have none : digitValue? 16 '+' = none := by decide
  cases none.symm.trans (digit_of_isHexDigit is)

/-- A text reads as a number if it is a numeral of that value and the value is not too large. -/
theorem numeralValue?_eq_some_iff {bound value : Nat} {text : String} :
    numeralValue? 16 bound text = some value ↔ IsHexNumeral text value ∧ value < bound := by
  have read (characters : List Char) :
      (if characters.isEmpty then none
        else (digitsValue? 16 0 characters).filter (· < bound)) = some value ↔
      (characters ≠ [] ∧ ∃ digits, List.Forall₂ IsHexDigit characters digits ∧
        Nat.ofDigits 16 digits.reverse = value) ∧ value < bound := by
    rw [← digitsValue?_zero_eq_some_iff]
    cases characters with
    | nil => simp
    | cons first rest => simp [Option.filter_eq_some_iff]
  rw [numeralValue?, IsHexNumeral]
  split
  · next rest signed =>
    rw [read rest, signed]
    refine and_congr_left fun _ => ⟨fun spelled => ?_, fun spelled => ?_⟩
    · rcases spelled with ⟨nonempty, digits, spelled, same⟩
      exact ⟨rest, digits, .inr rfl, nonempty, spelled, same⟩
    · rcases spelled with ⟨characters, digits, whole | behind, nonempty, spelled, same⟩
      · cases whole
        cases spelled with
        | cons first _ => exact absurd first (not_isHexDigit_plus _)
      · cases behind
        exact ⟨nonempty, digits, spelled, same⟩
  · next unsigned =>
    rw [read text.toList]
    refine and_congr_left fun _ => ⟨fun spelled => ?_, fun spelled => ?_⟩
    · rcases spelled with ⟨nonempty, digits, spelled, same⟩
      exact ⟨text.toList, digits, .inl rfl, nonempty, spelled, same⟩
    · rcases spelled with ⟨characters, digits, whole | behind, nonempty, spelled, same⟩
      · exact ⟨whole ▸ nonempty, digits, whole ▸ spelled, same⟩
      · exact absurd behind (unsigned characters)

end UsbTypeC
