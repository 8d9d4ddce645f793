/-! Unsigned numerals: an optional plus sign, then at least one digit of the
radix, with letters of either case for the digits from ten on. A numeral has a
value only below the bound of the word it is read into. -/

namespace UsbTypeC

def digitValue? (radix : Nat) (character : Char) : Option Nat :=
  let value? :=
    if '0' ≤ character ∧ character ≤ '9' then some (character.toNat - '0'.toNat)
    else if 'a' ≤ character ∧ character ≤ 'z' then some (character.toNat - 'a'.toNat + 10)
    else if 'A' ≤ character ∧ character ≤ 'Z' then some (character.toNat - 'A'.toNat + 10)
    else none
  value?.filter (· < radix)

/-- The value of the digits that follow those read so far. -/
def digitsValue? (radix : Nat) (value : Nat) : List Char → Option Nat
  | [] => some value
  | character :: rest =>
      match digitValue? radix character with
      | some digit => digitsValue? radix (value * radix + digit) rest
      | none => none

def numeralValue? (radix bound : Nat) (text : String) : Option Nat :=
  let digits := match text.toList with
    | '+' :: rest => rest
    | characters => characters
  if digits.isEmpty then none
  else (digitsValue? radix 0 digits).filter (· < bound)

end UsbTypeC
