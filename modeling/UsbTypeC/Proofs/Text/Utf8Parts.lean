import UsbTypeC.Proofs.Text.Utf8
import UsbTypeC.Proofs.Text.Utf8Reading

/-! Bytes with NULs between them, decoded together or part by part. No byte that is owed
can be a NUL, so whatever a part leaves unfinished ends where the part ends. The other way
round only a NUL is read as one. -/

namespace UsbTypeC.Utf8

section Owing

variable {pending later : Pending} {lead : Nat} {byte : UInt8} {bytes : Bytes}

theorem least_of_first (begun : first lead = .pending pending) : 0x80 ≤ pending.lowest := by
  have begins := begins_first lead
  generalize first lead = progress at begins begun
  cases begins with
  | one small => cases begun
  | two low high =>
      have same := Progress.pending.inj begun
      exact same ▸ Nat.le_refl _
  | three lowest highest low high long scalar least most =>
      rw [← Progress.pending.inj begun]
      exact least
  | four lowest highest low high long scalar least most =>
      rw [← Progress.pending.inj begun]
      exact least
  | illFormed => cases begun

theorem least_of_next {number : Nat} (owing : pending.next number = .pending later) :
    0x80 ≤ later.lowest := by
  unfold Pending.next at owing
  split at owing
  · split at owing
    · exact Progress.noConfusion owing
    · have same := Progress.pending.inj owing
      exact same ▸ Nat.le_refl _
  · exact Progress.noConfusion owing

/-- A byte that cannot continue a character is looked at afresh. -/
theorem decodeFrom_next_illFormed (outside : pending.next byte.toNat = .illFormed) :
    decodeFrom (some pending) (byte :: bytes) = none :: decodeFrom none (byte :: bytes) := by
  conv => lhs; rw [decodeFrom, outside]
  rfl

end Owing

section Nul

theorem decodeFrom_nul (bytes : Bytes) :
    decodeFrom none (0 :: bytes) = some '\x00' :: decodeFrom none bytes :=
  rfl

/-- A NUL ends what is before it and starts afresh, in the middle of a character as well. -/
theorem decodeFrom_append_nul (left right : Bytes) (state : Option Pending)
    (owing : ∀ pending ∈ state, 0x80 ≤ pending.lowest) :
    decodeFrom state (left ++ 0 :: right) =
      decodeFrom state left ++ some '\x00' :: decodeFrom none right := by
  induction left generalizing state with
  | nil =>
      cases state with
      | none => exact decodeFrom_nul right
      | some pending =>
          have positive := owing pending rfl
          have outside : pending.next (0 : UInt8).toNat = .illFormed := by
            apply if_neg
            intro bounds
            have least : pending.lowest ≤ 0 := bounds.1
            omega
          rw [List.nil_append, decodeFrom_next_illFormed outside, decodeFrom_nul]
          rfl
  | cons byte rest induction =>
      have fresh : decodeFrom none (byte :: (rest ++ 0 :: right)) =
          decodeFrom none (byte :: rest) ++ some '\x00' :: decodeFrom none right := by
        rw [decodeFrom, decodeFrom]
        cases begun : first byte.toNat with
        | complete character => simp [induction none]
        | pending pending =>
            apply induction (some pending)
            intro other same
            cases same
            exact least_of_first begun
        | illFormed => simp [induction none]
      cases state with
      | none => exact fresh
      | some pending =>
          rw [List.cons_append]
          cases continued : pending.next byte.toNat with
          | complete character => simp [decodeFrom, continued, induction none]
          | pending later =>
              rw [decodeFrom, decodeFrom, continued]
              apply induction (some later)
              intro other same
              cases same
              exact least_of_next continued
          | illFormed =>
              rw [decodeFrom_next_illFormed continued, decodeFrom_next_illFormed continued,
                fresh]
              rfl

theorem decode_append_nul (left right : Bytes) :
    decode (left ++ 0 :: right) = decode left ++ some '\x00' :: decode right := by
  apply decodeFrom_append_nul
  intro pending absent
  cases absent

theorem lossyCharacters_append_nul (left right : Bytes) :
    lossyCharacters (left ++ 0 :: right) =
      lossyCharacters left ++ '\x00' :: lossyCharacters right := by
  simp [lossyCharacters, decode_append_nul]

/-- Parts with a NUL before each but the first are decoded one by one. -/
theorem lossyCharacters_parts (start : Bytes) (rest : List Bytes) :
    lossyCharacters (start ++ rest.flatMap (0 :: ·)) =
      lossyCharacters start ++ (rest.map lossyCharacters).flatMap ('\x00' :: ·) := by
  induction rest generalizing start with
  | nil => simp
  | cons part later induction =>
      rw [List.flatMap_cons, List.cons_append, lossyCharacters_append_nul, induction]
      rfl

end Nul

/-- How bytes are read: a character from its own bytes, and whatever is none part by part. -/
inductive ReadsAs : Bytes → List (Option Char) → Prop where
  | nothing : ReadsAs [] []
  | character (character : Char) {rest : Bytes} {decoded : List (Option Char)}
      (later : ReadsAs rest decoded) :
      ReadsAs (String.utf8EncodeChar character ++ rest) (some character :: decoded)
  | illFormed (byte : UInt8) (part : Bytes) {rest : Bytes} {decoded : List (Option Char)}
      (later : ReadsAs rest decoded) : ReadsAs (byte :: (part ++ rest)) (none :: decoded)

/-- What is owed comes, or the character is given up before the byte that is there instead. -/
theorem decodeFrom_pending_cases (pending : Pending) (bytes : Bytes) :
    decodeFrom (some pending) bytes = none :: decodeFrom none bytes ∨
      ∃ byte rest, bytes = byte :: rest ∧ pending.lowest ≤ byte.toNat ∧
        byte.toNat ≤ pending.highest := by
  cases bytes with
  | nil => exact .inl rfl
  | cons byte rest =>
      by_cases bounds : pending.lowest ≤ byte.toNat ∧ byte.toNat ≤ pending.highest
      · exact .inr ⟨byte, rest, rfl, bounds⟩
      · exact .inl (decodeFrom_next_illFormed (if_neg bounds))

theorem decodeFrom_last_cases (payload lowest highest : Nat) (bytes : Bytes) :
    decodeFrom (some ⟨payload, 0, lowest, highest⟩) bytes = none :: decodeFrom none bytes ∨
      ∃ byte rest, bytes = byte :: rest ∧ lowest ≤ byte.toNat ∧ byte.toNat ≤ highest ∧
        decodeFrom (some ⟨payload, 0, lowest, highest⟩) bytes =
          some (Char.ofNat (payload * 0x40 + (byte.toNat - 0x80))) :: decodeFrom none rest := by
  rcases decodeFrom_pending_cases ⟨payload, 0, lowest, highest⟩ bytes with
    given | ⟨byte, rest, rfl, bounds⟩
  · exact .inl given
  · refine .inr ⟨byte, rest, rfl, bounds.1, bounds.2, ?_⟩
    rw [decodeFrom, Pending.next, if_pos bounds]

theorem decodeFrom_owing_cases (payload later lowest highest : Nat) (bytes : Bytes) :
    decodeFrom (some ⟨payload, later + 1, lowest, highest⟩) bytes =
        none :: decodeFrom none bytes ∨
      ∃ byte rest, bytes = byte :: rest ∧ lowest ≤ byte.toNat ∧ byte.toNat ≤ highest ∧
        decodeFrom (some ⟨payload, later + 1, lowest, highest⟩) bytes =
          decodeFrom (some ⟨payload * 0x40 + (byte.toNat - 0x80), later, 0x80, 0xBF⟩) rest := by
  rcases decodeFrom_pending_cases ⟨payload, later + 1, lowest, highest⟩ bytes with
    given | ⟨byte, rest, rfl, bounds⟩
  · exact .inl given
  · refine .inr ⟨byte, rest, rfl, bounds.1, bounds.2, ?_⟩
    rw [decodeFrom, Pending.next, if_pos bounds]

/-- What the first byte begins is a character with all its bytes, or a part that is none. -/
theorem decodeFrom_cons_cases (lead : UInt8) (bytes : Bytes) :
    (∃ character rest, lead :: bytes = String.utf8EncodeChar character ++ rest ∧
        decodeFrom none (lead :: bytes) = some character :: decodeFrom none rest) ∨
      ∃ part rest, bytes = part ++ rest ∧
        decodeFrom none (lead :: bytes) = none :: decodeFrom none rest := by
  have begins := begins_first lead.toNat
  rw [decodeFrom]
  generalize first lead.toNat = progress at begins
  cases begins with
  | one small => exact .inl ⟨_, bytes, by rw [encode_one small]; rfl, rfl⟩
  | two low high =>
      rcases decodeFrom_last_cases (lead.toNat - 0xC0) 0x80 0xBF bytes with
        given | ⟨second, rest, rfl, least, most, whole⟩
      · exact .inr ⟨[], bytes, rfl, given⟩
      · exact .inl ⟨_, rest, by rw [encode_two low high least most]; rfl, whole⟩
  | three lowest highest low high long scalar least most =>
      rcases decodeFrom_owing_cases (lead.toNat - 0xE0) 0 lowest highest bytes with
        given | ⟨second, owed, rfl, lower, upper, owing⟩
      · exact .inr ⟨[], bytes, rfl, given⟩
      rcases decodeFrom_last_cases _ 0x80 0xBF owed with
        given | ⟨third, rest, rfl, fromThird, toThird, whole⟩
      · exact .inr ⟨[second], owed, rfl, owing.trans given⟩
      · refine .inl ⟨_, rest, ?_, owing.trans whole⟩
        rw [encode_three low high (by omega) (by omega) (by omega) (by omega) fromThird toThird]
        rfl
  | four lowest highest low high long scalar least most =>
      rcases decodeFrom_owing_cases (lead.toNat - 0xF0) 1 lowest highest bytes with
        given | ⟨second, owed, rfl, lower, upper, owing⟩
      · exact .inr ⟨[], bytes, rfl, given⟩
      rcases decodeFrom_owing_cases _ 0 0x80 0xBF owed with
        given | ⟨third, owed, rfl, fromThird, toThird, further⟩
      · exact .inr ⟨[second], _, rfl, owing.trans given⟩
      rcases decodeFrom_last_cases _ 0x80 0xBF owed with
        given | ⟨fourth, rest, rfl, fromFourth, toFourth, whole⟩
      · exact .inr ⟨[second, third], owed, rfl, owing.trans (further.trans given)⟩
      · refine .inl ⟨_, rest, ?_, owing.trans (further.trans whole)⟩
        rw [encode_four low high (by omega) (by omega) (by omega) (by omega) fromThird toThird
          fromFourth toFourth]
        rfl
  | illFormed => exact .inr ⟨[], bytes, rfl, rfl⟩

theorem length_utf8EncodeChar_pos (character : Char) :
    0 < (String.utf8EncodeChar character).length := by
  rw [String.length_utf8EncodeChar]
  exact Char.utf8Size_pos character

theorem readsAs_decode : ∀ bytes : Bytes, ReadsAs bytes (decode bytes)
  | [] => .nothing
  | lead :: bytes => by
      rcases decodeFrom_cons_cases lead bytes with
        ⟨character, rest, spelled, decoded⟩ | ⟨part, rest, cut, decoded⟩
      · have shorter : rest.length ≤ bytes.length := by
          have positive := length_utf8EncodeChar_pos character
          have lengths := congrArg List.length spelled
          rw [List.length_cons, List.length_append] at lengths
          omega
        rw [decode, decoded, spelled]
        exact .character character (readsAs_decode rest)
      · have shorter : rest.length ≤ bytes.length := by
          rw [cut, List.length_append]
          omega
        rw [decode, decoded, cut]
        exact .illFormed lead part (readsAs_decode rest)
termination_by bytes => bytes.length
decreasing_by
  all_goals
    simp only [List.length_cons]
    omega

namespace ReadsAs

variable {bytes : Bytes} {decoded : List (Option Char)}

/-- Only a NUL is read as one. -/
theorem zero_mem (reads : ReadsAs bytes decoded) (nul : some '\x00' ∈ decoded) :
    0 ∈ bytes := by
  induction reads with
  | nothing => cases nul
  | character character later induction =>
      rcases List.mem_cons.mp nul with same | laterNul
      · cases same
        exact List.mem_append_left _ List.mem_cons_self
      · exact List.mem_append_right _ (induction laterNul)
  | illFormed byte part later induction =>
      rcases List.mem_cons.mp nul with same | laterNul
      · cases same
      · exact List.mem_cons_of_mem byte (List.mem_append_right part (induction laterNul))

theorem eq_nil (reads : ReadsAs bytes decoded) (silent : decoded = []) : bytes = [] := by
  cases reads with
  | nothing => rfl
  | character character later => cases silent
  | illFormed byte part later => cases silent

end ReadsAs

theorem nul_not_mem_lossyCharacters {bytes : Bytes} (free : 0 ∉ bytes) :
    '\x00' ∉ lossyCharacters bytes := by
  intro nul
  rcases List.mem_map.mp nul with ⟨item, mem, same⟩
  cases item with
  | none => exact absurd same (by decide)
  | some character =>
      cases same
      exact free ((readsAs_decode bytes).zero_mem mem)

theorem lossyCharacters_eq_nil_iff {bytes : Bytes} : lossyCharacters bytes = [] ↔ bytes = [] := by
  constructor
  · intro silent
    exact (readsAs_decode bytes).eq_nil (List.map_eq_nil_iff.mp silent)
  · intro empty
    rw [empty]
    rfl

/-! The bytes of a text hold a NUL only if the text does, and stand for that text. -/

theorem lossyCharacters_encode (characters : List Char) :
    lossyCharacters (encode characters) = characters := by
  rw [lossyCharacters, decode_encode, List.map_map]
  exact List.map_id characters

theorem lossy_bytes (text : String) : lossy (bytes text) = text := by
  rw [lossy, bytes, lossyCharacters_encode, String.ofList_toList]

theorem zero_not_mem_bytes {text : String} (free : '\x00' ∉ text.toList) : 0 ∉ bytes text :=
  asciiByte_not_mem_encode (by decide) free

theorem bytes_ne_nil {text : String} (spelled : text ≠ "") : bytes text ≠ [] := by
  intro empty
  have decoded := lossy_bytes text
  rw [empty] at decoded
  exact spelled decoded.symm

end UsbTypeC.Utf8
