import UsbTypeC.Text.Utf8

/-! The bytes of a text are read back as that text. Inside a character the payload
read so far is what remains of its number when the bits still owed are cut off. -/

namespace UsbTypeC.Utf8

theorem first_ascii {number : Nat} (small : number < 0x80) :
    first number = .complete (Char.ofNat number) :=
  if_pos small

theorem first_two {number : Nat} (least : 0x80 ≤ number) (most : number < 0x800) :
    first (number / 0x40 % 0x20 + 0xC0) = .pending ⟨number / 0x40, 0, 0x80, 0xBF⟩ := by
  have whole : number / 0x40 % 0x20 + 0xC0 = number / 0x40 + 0xC0 := by omega
  rw [whole, first, if_neg (by omega), if_neg (by omega), if_pos (by omega),
    Nat.add_sub_cancel]

/-- The bounds leave out no second byte of a number that needs three bytes and is no
surrogate. -/
theorem first_three {number : Nat} (least : 0x800 ≤ number) (most : number < 0x10000)
    (scalar : number < 0xD800 ∨ 0xDFFF < number) :
    ∃ lowest highest,
      first (number / 0x1000 % 0x10 + 0xE0) =
          .pending ⟨number / 0x1000, 1, lowest, highest⟩ ∧
        lowest ≤ number / 0x40 % 0x40 + 0x80 ∧ number / 0x40 % 0x40 + 0x80 ≤ highest := by
  have whole : number / 0x1000 % 0x10 + 0xE0 = number / 0x1000 + 0xE0 := by omega
  rw [whole, first, if_neg (by omega), if_neg (by omega), if_neg (by omega)]
  by_cases lowestBlock : number / 0x1000 = 0
  · rw [if_pos (by omega), lowestBlock]
    exact ⟨0xA0, 0xBF, rfl, by omega, by omega⟩
  · rw [if_neg (by omega)]
    by_cases surrogateBlock : number / 0x1000 = 0xD
    · rw [if_pos (by omega), surrogateBlock]
      exact ⟨0x80, 0x9F, rfl, by omega, by omega⟩
    · rw [if_neg (by omega), if_pos (by omega), Nat.add_sub_cancel]
      exact ⟨0x80, 0xBF, rfl, by omega, by omega⟩

theorem first_four {number : Nat} (least : 0x10000 ≤ number) (most : number < 0x110000) :
    ∃ lowest highest,
      first (number / 0x40000 % 0x8 + 0xF0) =
          .pending ⟨number / 0x40000, 2, lowest, highest⟩ ∧
        lowest ≤ number / 0x1000 % 0x40 + 0x80 ∧
        number / 0x1000 % 0x40 + 0x80 ≤ highest := by
  have whole : number / 0x40000 % 0x8 + 0xF0 = number / 0x40000 + 0xF0 := by omega
  rw [whole, first, if_neg (by omega), if_neg (by omega), if_neg (by omega),
    if_neg (by omega), if_neg (by omega), if_neg (by omega)]
  by_cases lowestPlane : number / 0x40000 = 0
  · rw [if_pos (by omega), lowestPlane]
    exact ⟨0x90, 0xBF, rfl, by omega, by omega⟩
  · rw [if_neg (by omega)]
    by_cases highestPlane : number / 0x40000 = 4
    · rw [if_neg (by omega), if_pos (by omega), highestPlane]
      exact ⟨0x80, 0x8F, rfl, by omega, by omega⟩
    · rw [if_pos (by omega), Nat.add_sub_cancel]
      exact ⟨0x80, 0xBF, rfl, by omega, by omega⟩

/-- A byte within the bounds adds six bits to the payload. -/
theorem next_owing {lowest highest bits : Nat} (payload later : Nat)
    (least : lowest ≤ bits + 0x80) (most : bits + 0x80 ≤ highest) :
    (⟨payload, later + 1, lowest, highest⟩ : Pending).next (bits + 0x80) =
      .pending ⟨payload * 0x40 + bits, later, 0x80, 0xBF⟩ := by
  rw [Pending.next, if_pos ⟨least, most⟩, Nat.add_sub_cancel]

theorem next_last {lowest highest bits : Nat} (payload : Nat)
    (least : lowest ≤ bits + 0x80) (most : bits + 0x80 ≤ highest) :
    (⟨payload, 0, lowest, highest⟩ : Pending).next (bits + 0x80) =
      .complete (Char.ofNat (payload * 0x40 + bits)) := by
  rw [Pending.next, if_pos ⟨least, most⟩, Nat.add_sub_cancel]

section Bytes

variable {number : Nat} {pending later : Pending} {character : Char}

theorem toNat_ofNat (small : number < 0x100) : (UInt8.ofNat number).toNat = number :=
  UInt8.toNat_ofNat_of_lt small

theorem decodeFrom_first_complete (small : number < 0x100)
    (read : first number = .complete character) (bytes : Bytes) :
    decodeFrom none (UInt8.ofNat number :: bytes) =
      some character :: decodeFrom none bytes := by
  rw [decodeFrom, toNat_ofNat small, read]

theorem decodeFrom_first_pending (small : number < 0x100)
    (read : first number = .pending pending) (bytes : Bytes) :
    decodeFrom none (UInt8.ofNat number :: bytes) = decodeFrom (some pending) bytes := by
  rw [decodeFrom, toNat_ofNat small, read]

theorem decodeFrom_next_complete (small : number < 0x100)
    (read : pending.next number = .complete character) (bytes : Bytes) :
    decodeFrom (some pending) (UInt8.ofNat number :: bytes) =
      some character :: decodeFrom none bytes := by
  rw [decodeFrom, toNat_ofNat small, read]

theorem decodeFrom_next_pending (small : number < 0x100)
    (read : pending.next number = .pending later) (bytes : Bytes) :
    decodeFrom (some pending) (UInt8.ofNat number :: bytes) =
      decodeFrom (some later) bytes := by
  rw [decodeFrom, toNat_ofNat small, read]

theorem decodeFrom_two (least : 0x80 ≤ number) (most : number < 0x800) (bytes : Bytes) :
    decodeFrom none
        (UInt8.ofNat (number / 0x40 % 0x20 + 0xC0) ::
          UInt8.ofNat (number % 0x40 + 0x80) :: bytes) =
      some (Char.ofNat number) :: decodeFrom none bytes := by
  have whole : number / 0x40 * 0x40 + number % 0x40 = number := by omega
  rw [decodeFrom_first_pending (by omega) (first_two least most),
    decodeFrom_next_complete (by omega) (next_last _ (by omega) (by omega)), whole]

theorem decodeFrom_three (least : 0x800 ≤ number) (most : number < 0x10000)
    (scalar : number < 0xD800 ∨ 0xDFFF < number) (bytes : Bytes) :
    decodeFrom none
        (UInt8.ofNat (number / 0x1000 % 0x10 + 0xE0) ::
          UInt8.ofNat (number / 0x40 % 0x40 + 0x80) ::
          UInt8.ofNat (number % 0x40 + 0x80) :: bytes) =
      some (Char.ofNat number) :: decodeFrom none bytes := by
  rcases first_three least most scalar with ⟨lowest, highest, lead, lower, upper⟩
  have whole : (number / 0x1000 * 0x40 + number / 0x40 % 0x40) * 0x40 + number % 0x40 =
      number := by omega
  rw [decodeFrom_first_pending (by omega) lead,
    decodeFrom_next_pending (by omega) (next_owing _ _ lower upper),
    decodeFrom_next_complete (by omega) (next_last _ (by omega) (by omega)), whole]

theorem decodeFrom_four (least : 0x10000 ≤ number) (most : number < 0x110000)
    (bytes : Bytes) :
    decodeFrom none
        (UInt8.ofNat (number / 0x40000 % 0x8 + 0xF0) ::
          UInt8.ofNat (number / 0x1000 % 0x40 + 0x80) ::
          UInt8.ofNat (number / 0x40 % 0x40 + 0x80) ::
          UInt8.ofNat (number % 0x40 + 0x80) :: bytes) =
      some (Char.ofNat number) :: decodeFrom none bytes := by
  rcases first_four least most with ⟨lowest, highest, lead, lower, upper⟩
  have whole : ((number / 0x40000 * 0x40 + number / 0x1000 % 0x40) * 0x40 +
      number / 0x40 % 0x40) * 0x40 + number % 0x40 = number := by omega
  rw [decodeFrom_first_pending (by omega) lead,
    decodeFrom_next_pending (by omega) (next_owing _ _ lower upper),
    decodeFrom_next_pending (by omega) (next_owing _ _ (by omega) (by omega)),
    decodeFrom_next_complete (by omega) (next_last _ (by omega) (by omega)), whole]

end Bytes

/-- One character in front of any bytes, by the number of bytes that it takes. -/
theorem decodeFrom_utf8EncodeChar (character : Char) (bytes : Bytes) :
    decodeFrom none (String.utf8EncodeChar character ++ bytes) =
      some character :: decodeFrom none bytes := by
  have scalar : character.val.toNat < 0xD800 ∨
      0xDFFF < character.val.toNat ∧ character.val.toNat < 0x110000 := character.valid
  have same : Char.ofNat character.val.toNat = character := Char.ofNat_toNat character
  rw [String.utf8EncodeChar]
  generalize character.val.toNat = number at scalar same ⊢
  rw [← same]
  by_cases one : number ≤ 0x7F
  · rw [if_pos one]
    exact decodeFrom_first_complete (by omega) (first_ascii (by omega)) bytes
  · rw [if_neg one]
    by_cases two : number ≤ 0x7FF
    · rw [if_pos two]
      exact decodeFrom_two (by omega) (by omega) bytes
    · rw [if_neg two]
      by_cases three : number ≤ 0xFFFF
      · rw [if_pos three]
        exact decodeFrom_three (by omega) (by omega) (by omega) bytes
      · rw [if_neg three]
        exact decodeFrom_four (by omega) (by omega) bytes

theorem decode_encode (characters : List Char) :
    decode (encode characters) = characters.map some := by
  rw [decode, encode]
  induction characters with
  | nil => rfl
  | cons character rest induction =>
      rw [List.flatMap_cons, decodeFrom_utf8EncodeChar, induction, List.map_cons]

theorem wellFormed_map_some (characters : List Char) :
    wellFormed (characters.map some) = some characters := by
  induction characters with
  | nil => rfl
  | cons character rest induction =>
      rw [List.map_cons, wellFormed, induction, Option.map_some]

/-- Reading the bytes of a text gives that text back. -/
theorem text?_bytes (text : String) : text? (bytes text) = some text := by
  rw [text?, bytes, decode_encode, wellFormed_map_some, Option.map_some,
    String.ofList_toList]

theorem bytes_injective {left right : String} (same : bytes left = bytes right) :
    left = right :=
  Option.some.inj ((text?_bytes left).symm.trans ((congrArg text? same).trans
    (text?_bytes right)))

/-! A byte below 0x80 stands for a character of its own and is part of no other. -/

/-- The byte of a character below 0x80. -/
def asciiByte (mark : Char) : UInt8 :=
  UInt8.ofNat mark.val.toNat

section Ascii

variable {mark : Char} (ascii : mark.val.toNat < 0x80)
include ascii

theorem utf8EncodeChar_ascii : String.utf8EncodeChar mark = [asciiByte mark] := by
  rw [String.utf8EncodeChar]
  exact if_pos (by omega)

theorem encode_append_ascii (before after : List Char) :
    encode (before ++ mark :: after) = encode before ++ asciiByte mark :: encode after := by
  rw [encode, List.flatMap_append, List.flatMap_cons, utf8EncodeChar_ascii ascii]
  rfl

theorem eq_of_asciiByte_mem {character : Char}
    (mem : asciiByte mark ∈ String.utf8EncodeChar character) : character = mark := by
  -- Wherever a character takes several bytes, each of them is 0x80 or more.
  have other {number : Nat} (least : 0x80 ≤ number) (most : number < 0x100) :
      asciiByte mark ≠ UInt8.ofNat number := by
    intro same
    have numbers := congrArg UInt8.toNat same
    rw [asciiByte, toNat_ofNat (by omega), toNat_ofNat most] at numbers
    omega
  have scalar : character.val.toNat < 0xD800 ∨
      0xDFFF < character.val.toNat ∧ character.val.toNat < 0x110000 := character.valid
  rw [String.utf8EncodeChar] at mem
  by_cases one : character.val.toNat ≤ 0x7F
  · rw [if_pos one] at mem
    have numbers := congrArg UInt8.toNat (List.mem_singleton.mp mem)
    rw [asciiByte, toNat_ofNat (by omega), toNat_ofNat (by omega)] at numbers
    exact (Char.toNat_inj.mp numbers).symm
  · rw [if_neg one] at mem
    apply absurd mem
    split
    · simp only [List.mem_cons, List.not_mem_nil, or_false, not_or]
      exact ⟨other (by omega) (by omega), other (by omega) (by omega)⟩
    split
    · simp only [List.mem_cons, List.not_mem_nil, or_false, not_or]
      exact ⟨other (by omega) (by omega), other (by omega) (by omega), other (by omega) (by omega)⟩
    · simp only [List.mem_cons, List.not_mem_nil, or_false, not_or]
      exact ⟨other (by omega) (by omega), other (by omega) (by omega), other (by omega) (by omega),
        other (by omega) (by omega)⟩

theorem asciiByte_not_mem_encode {characters : List Char} (free : mark ∉ characters) :
    asciiByte mark ∉ encode characters := by
  intro mem
  rcases List.mem_flatMap.mp mem with ⟨character, present, among⟩
  exact free (eq_of_asciiByte_mem ascii among ▸ present)

end Ascii

end UsbTypeC.Utf8
