import UsbTypeC.Text.Utf8

/-! What is read as a text is written back as the same bytes. The bounds of the second
byte leave just one way to spell a character, so a character that has been read
whole has been read from its own bytes. -/

namespace UsbTypeC.Utf8

section Reading

variable {characters : List Char} {byte : UInt8} {bytes : Bytes}

theorem read_some {character : Char} {decoded : List (Option Char)}
    (read : wellFormed (some character :: decoded) = some characters) :
    ∃ later, characters = character :: later ∧ wellFormed decoded = some later := by
  rw [wellFormed, Option.map_eq_some_iff] at read
  rcases read with ⟨later, rest, rfl⟩
  exact ⟨later, rfl, rest⟩

/-- A byte that is owed lies within its bounds. -/
theorem read_pending {pending : Pending}
    (read : wellFormed (decodeFrom (some pending) bytes) = some characters) :
    ∃ byte rest, bytes = byte :: rest ∧
      pending.lowest ≤ byte.toNat ∧ byte.toNat ≤ pending.highest := by
  cases bytes with
  | nil => cases read
  | cons byte rest =>
      refine ⟨byte, rest, rfl, ?_⟩
      apply Decidable.byContradiction
      intro outside
      rw [decodeFrom, Pending.next, if_neg outside] at read
      cases read

theorem read_last {payload lowest highest : Nat}
    (read : wellFormed (decodeFrom (some ⟨payload, 0, lowest, highest⟩) bytes) =
      some characters) :
    ∃ byte rest later, bytes = byte :: rest ∧ lowest ≤ byte.toNat ∧ byte.toNat ≤ highest ∧
      characters = Char.ofNat (payload * 0x40 + (byte.toNat - 0x80)) :: later ∧
      wellFormed (decodeFrom none rest) = some later := by
  rcases read_pending read with ⟨byte, rest, rfl, bounds⟩
  rw [decodeFrom, Pending.next, if_pos bounds] at read
  rcases read_some read with ⟨later, front, tail⟩
  exact ⟨byte, rest, later, rfl, bounds.1, bounds.2, front, tail⟩

theorem read_owing {payload later lowest highest : Nat}
    (read : wellFormed (decodeFrom (some ⟨payload, later + 1, lowest, highest⟩) bytes) =
      some characters) :
    ∃ byte rest, bytes = byte :: rest ∧ lowest ≤ byte.toNat ∧ byte.toNat ≤ highest ∧
      wellFormed (decodeFrom
        (some ⟨payload * 0x40 + (byte.toNat - 0x80), later, 0x80, 0xBF⟩) rest) =
          some characters := by
  rcases read_pending read with ⟨byte, rest, rfl, bounds⟩
  rw [decodeFrom, Pending.next, if_pos bounds] at read
  exact ⟨byte, rest, rfl, bounds.1, bounds.2, read⟩

theorem val_ofNat {number : Nat} 
    (scalar : number < 0xD800 ∨ 0xDFFF < number ∧ number < 0x110000) :
    (Char.ofNat number).val.toNat = number := by
  have valid : number.isValidChar := scalar
  rw [Char.ofNat, dif_pos valid]
  rfl

theorem ofNat_eq {number : Nat} (byte : UInt8) (same : number = byte.toNat) :
    UInt8.ofNat number = byte := by
  rw [same]
  exact UInt8.ofNat_toNat

theorem encode_one (small : byte.toNat < 0x80) :
    String.utf8EncodeChar (Char.ofNat byte.toNat) = [byte] := by
  rw [String.utf8EncodeChar, val_ofNat (by omega)]
  rw [if_pos (by omega), ofNat_eq byte rfl]

theorem encode_two {lead second : UInt8} (low : 0xC2 ≤ lead.toNat) (high : lead.toNat < 0xE0)
    (least : 0x80 ≤ second.toNat) (most : second.toNat ≤ 0xBF) :
    String.utf8EncodeChar
        (Char.ofNat ((lead.toNat - 0xC0) * 0x40 + (second.toNat - 0x80))) =
      [lead, second] := by
  rw [String.utf8EncodeChar, val_ofNat (by omega)]
  rw [if_neg (by omega), if_pos (by omega), ofNat_eq lead (by omega),
    ofNat_eq second (by omega)]

/-- The bounds of the second byte keep out the numbers that need fewer bytes and the
surrogates. -/
theorem encode_three {lead second third : UInt8}
    (low : 0xE0 ≤ lead.toNat) (high : lead.toNat < 0xF0)
    (least : 0x80 ≤ second.toNat) (most : second.toNat ≤ 0xBF)
    (long : lead.toNat = 0xE0 → 0xA0 ≤ second.toNat)
    (scalar : lead.toNat = 0xED → second.toNat ≤ 0x9F)
    (last : 0x80 ≤ third.toNat) (upper : third.toNat ≤ 0xBF) :
    String.utf8EncodeChar
        (Char.ofNat (((lead.toNat - 0xE0) * 0x40 + (second.toNat - 0x80)) * 0x40 +
          (third.toNat - 0x80))) =
      [lead, second, third] := by
  rw [String.utf8EncodeChar, val_ofNat (by omega)]
  rw [if_neg (by omega), if_neg (by omega), if_pos (by omega), ofNat_eq lead (by omega),
    ofNat_eq second (by omega), ofNat_eq third (by omega)]

theorem encode_four {lead second third fourth : UInt8}
    (low : 0xF0 ≤ lead.toNat) (high : lead.toNat ≤ 0xF4)
    (least : 0x80 ≤ second.toNat) (most : second.toNat ≤ 0xBF)
    (long : lead.toNat = 0xF0 → 0x90 ≤ second.toNat)
    (scalar : lead.toNat = 0xF4 → second.toNat ≤ 0x8F)
    (later : 0x80 ≤ third.toNat) (bounded : third.toNat ≤ 0xBF)
    (last : 0x80 ≤ fourth.toNat) (upper : fourth.toNat ≤ 0xBF) :
    String.utf8EncodeChar
        (Char.ofNat ((((lead.toNat - 0xF0) * 0x40 + (second.toNat - 0x80)) * 0x40 +
          (third.toNat - 0x80)) * 0x40 + (fourth.toNat - 0x80))) =
      [lead, second, third, fourth] := by
  rw [String.utf8EncodeChar, val_ofNat (by omega), if_neg (by omega), if_neg (by omega),
    if_neg (by omega), ofNat_eq lead (by omega), ofNat_eq second (by omega),
    ofNat_eq third (by omega), ofNat_eq fourth (by omega)]

/-- A byte that begins a character tells how many are owed. -/
inductive Begins (lead : Nat) : Progress → Prop where
  | one (small : lead < 0x80) : Begins lead (.complete (Char.ofNat lead))
  | two (low : 0xC2 ≤ lead) (high : lead < 0xE0) :
      Begins lead (.pending ⟨lead - 0xC0, 0, 0x80, 0xBF⟩)
  | three (lowest highest : Nat) (low : 0xE0 ≤ lead) (high : lead < 0xF0)
      (long : lead = 0xE0 → lowest = 0xA0) (scalar : lead = 0xED → highest = 0x9F)
      (least : 0x80 ≤ lowest) (most : highest ≤ 0xBF) :
      Begins lead (.pending ⟨lead - 0xE0, 1, lowest, highest⟩)
  | four (lowest highest : Nat) (low : 0xF0 ≤ lead) (high : lead ≤ 0xF4)
      (long : lead = 0xF0 → lowest = 0x90) (scalar : lead = 0xF4 → highest = 0x8F)
      (least : 0x80 ≤ lowest) (most : highest ≤ 0xBF) :
      Begins lead (.pending ⟨lead - 0xF0, 2, lowest, highest⟩)
  | illFormed : Begins lead .illFormed

theorem begins_first (lead : Nat) : Begins lead (first lead) := by
  unfold first
  split
  · next small => exact .one small
  split
  · exact .illFormed
  split
  · exact .two (by omega) (by omega)
  split
  · next lowest =>
      subst lowest
      exact .three 0xA0 0xBF (by omega) (by omega) (by omega) (by omega) (by omega) (by omega)
  split
  · next surrogate =>
      subst surrogate
      exact .three 0x80 0x9F (by omega) (by omega) (by omega) (by omega) (by omega) (by omega)
  split
  · exact .three 0x80 0xBF (by omega) (by omega) (by omega) (by omega) (by omega) (by omega)
  split
  · next lowest =>
      subst lowest
      exact .four 0x90 0xBF (by omega) (by omega) (by omega) (by omega) (by omega) (by omega)
  split
  · exact .four 0x80 0xBF (by omega) (by omega) (by omega) (by omega) (by omega) (by omega)
  split
  · next highest =>
      subst highest
      exact .four 0x80 0x8F (by omega) (by omega) (by omega) (by omega) (by omega) (by omega)
  · exact .illFormed

/-- What is read as a text begins with the bytes of its first character. -/
theorem begins_with_read {lead : UInt8} {rest : Bytes}
    (read : wellFormed (decodeFrom none (lead :: rest)) = some characters) :
    ∃ character later after, characters = character :: later ∧
      lead :: rest = String.utf8EncodeChar character ++ after ∧
      wellFormed (decodeFrom none after) = some later := by
  -- The first byte tells how many more have to be read before a character is whole.
  have begins := begins_first lead.toNat
  rw [decodeFrom] at read
  generalize first lead.toNat = progress at begins read
  cases begins with
  | one small =>
      rcases read_some read with ⟨later, front, tail⟩
      exact ⟨_, later, rest, front, by rw [encode_one small]; rfl, tail⟩
  | two low high =>
      rcases read_last read with ⟨second, after, later, rfl, least, most, front, tail⟩
      exact ⟨_, later, after, front, by rw [encode_two low high least most]; rfl, tail⟩
  | three lowest highest low high long scalar least most =>
      rcases read_owing read with ⟨second, owed, rfl, lower, upper, read⟩
      rcases read_last read with ⟨third, after, later, rfl, fromThird, toThird, front, tail⟩
      refine ⟨_, later, after, front, ?_, tail⟩
      rw [encode_three low high (by omega) (by omega) (by omega) (by omega) fromThird
        toThird]
      rfl
  | four lowest highest low high long scalar least most =>
      rcases read_owing read with ⟨second, owed, rfl, lower, upper, read⟩
      rcases read_owing read with ⟨third, owed, rfl, fromThird, toThird, read⟩
      rcases read_last read with ⟨fourth, after, later, rfl, fromFourth, toFourth, front, tail⟩
      refine ⟨_, later, after, front, ?_, tail⟩
      rw [encode_four low high (by omega) (by omega) (by omega) (by omega) fromThird toThird
        fromFourth toFourth]
      rfl
  | illFormed => cases read

end Reading

theorem encode_of_read {characters : List Char} (bytes : Bytes)
    (read : wellFormed (decodeFrom none bytes) = some characters) : encode characters = bytes := by
  induction characters generalizing bytes with
  | nil =>
      cases bytes with
      | nil => rfl
      | cons lead rest =>
          rcases begins_with_read read with ⟨_, _, _, impossible, _⟩
          cases impossible
  | cons character later induction =>
      cases bytes with
      | nil => cases read
      | cons lead rest =>
          rcases begins_with_read read with ⟨front, tail, after, same, whole, read⟩
          cases same
          rw [whole, encode, List.flatMap_cons]
          exact congrArg _ (induction after read)

/-- A text that is read from bytes is written back as those bytes. -/
theorem bytes_of_text? {content : Bytes} {text : String} (read : text? content = some text) :
    bytes text = content := by
  rw [text?, Option.map_eq_some_iff] at read
  rcases read with ⟨characters, whole, rfl⟩
  rw [bytes, String.toList_ofList]
  exact encode_of_read content whole

end UsbTypeC.Utf8
