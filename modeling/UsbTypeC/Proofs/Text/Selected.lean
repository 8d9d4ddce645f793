import Mathlib.Data.List.Basic
import Mathlib.Data.List.TakeWhile
import UsbTypeC.Proofs.Text.Joined
import UsbTypeC.Proofs.Text.Utf8
import UsbTypeC.Text.Selected

/-! What a text selects. The first bracket of each kind decides and no other does, and a text may
be cut at their bytes as well as at the characters, since a bracket is a single byte that is part
of no other character. -/

namespace UsbTypeC

/-- How the brackets of a text stand, and what it selects by them. -/
inductive Selects : List Char → List Char → Prop where
  | marked {before choice after : List Char} (noOpening : '[' ∉ before)
      (noClosing : ']' ∉ before ++ '[' :: choice) :
      Selects (before ++ '[' :: choice ++ ']' :: after) choice
  | unopened {before after : List Char} (noOpening : '[' ∉ before) (noClosing : ']' ∉ before) :
      Selects (before ++ ']' :: after) (before ++ ']' :: after)
  | unclosed {characters : List Char} (noClosing : ']' ∉ characters) :
      Selects characters characters

/-- No bracket closes, or none opens before the first one that closes. -/
def Unmarked (characters : List Char) : Prop :=
  ']' ∉ characters ∨
    ∃ before after, characters = before ++ ']' :: after ∧ ']' ∉ before ∧ '[' ∉ before

section Characters

variable {characters choice : List Char}

theorem differ_of_not_mem {bracket : Char} (free : bracket ∉ characters) :
    ∀ character ∈ characters, decide (character ≠ bracket) = true := by
  intro character mem
  exact decide_eq_true fun same => free (same ▸ mem)

theorem selectedCharacters_of_unclosed (noClosing : ']' ∉ characters) :
    selectedCharacters characters = characters := by
  have whole : characters.takeWhile (· ≠ ']') = characters :=
    List.takeWhile_eq_self_iff.mpr (differ_of_not_mem noClosing)
  rw [selectedCharacters, whole]
  exact if_neg fun marked => Nat.lt_irrefl _ marked.1

/-- Where there is a closing bracket, the text in front of it decides. -/
theorem selectedCharacters_append {front : List Char} (noClosing : ']' ∉ front)
    (after : List Char) :
    selectedCharacters (front ++ ']' :: after) =
      if '[' ∈ front then (front.dropWhile (· ≠ '[')).tail else front ++ ']' :: after := by
  have cut : (front ++ ']' :: after).takeWhile (· ≠ ']') = front := by
    rw [List.takeWhile_append_of_pos (differ_of_not_mem noClosing)]
    simp
  have shorter : front.length < (front ++ ']' :: after).length := by simp
  rw [selectedCharacters, cut]
  simp only [shorter, true_and]

theorem Selects.eq (selects : Selects characters choice) :
    selectedCharacters characters = choice := by
  cases selects with
  | marked noOpening noClosing =>
      rw [selectedCharacters_append noClosing, if_pos (by simp),
        List.dropWhile_append_of_pos (differ_of_not_mem noOpening)]
      simp
  | unopened noOpening noClosing => rw [selectedCharacters_append noClosing, if_neg noOpening]
  | unclosed noClosing => exact selectedCharacters_of_unclosed noClosing

theorem selects_selectedCharacters (characters : List Char) :
    Selects characters (selectedCharacters characters) := by
  -- Cut at the first bracket that closes, and what is in front of it at the first that opens.
  have found : ∃ choice, Selects characters choice := by
    by_cases closing : ']' ∈ characters
    · rcases List.eq_append_cons_of_mem closing with ⟨front, after, rfl, noClosing⟩
      by_cases opening : '[' ∈ front
      · rcases List.eq_append_cons_of_mem opening with ⟨before, choice, rfl, noOpening⟩
        exact ⟨choice, .marked noOpening noClosing⟩
      · exact ⟨_, .unopened opening noClosing⟩
    · exact ⟨_, .unclosed closing⟩
  rcases found with ⟨choice, selects⟩
  rwa [selects.eq]

namespace Selects

variable (selects : Selects characters choice)
include selects

theorem isInfix : choice <:+: characters := by
  cases selects with
  | @marked before choice after noOpening noClosing =>
      exact ⟨before ++ ['['], ']' :: after, by simp⟩
  | unopened noOpening noClosing => exact List.infix_rfl
  | unclosed noClosing => exact List.infix_rfl

/-- There is one first bracket that closes, so what stands in front of it can be read off. -/
theorem cases_unmarked :
    Unmarked characters ∧ choice = characters ∨
      ¬ Unmarked characters ∧ ']' ∉ choice ∧ ∃ before after,
        characters = before ++ '[' :: choice ++ ']' :: after ∧ '[' ∉ before ∧ ']' ∉ before := by
  cases selects with
  | @marked before choice after noOpening noClosing =>
      refine .inr ⟨?_, fun mem => noClosing (by simp [mem]), before, after, rfl, noOpening,
        fun mem => noClosing (by simp [mem])⟩
      intro unmarked
      rcases unmarked with unclosed | ⟨front, rest, split, frontClosing, frontOpening⟩
      · exact unclosed (by simp)
      · have cut := congrArg (pieces ']') split
        rw [pieces_append_cons noClosing, pieces_append_cons frontClosing] at cut
        exact frontOpening ((List.cons.inj cut).1 ▸ by simp)
  | @unopened before after noOpening noClosing =>
      exact .inl ⟨.inr ⟨before, after, rfl, noClosing, noOpening⟩, rfl⟩
  | unclosed noClosing => exact .inl ⟨.inl noClosing, rfl⟩

/-- What is selected selects itself as a whole. -/
theorem again : Selects choice choice := by
  cases selects with
  | marked noOpening noClosing =>
      exact .unclosed fun mem => noClosing (List.mem_append_right _ (List.mem_cons_of_mem _ mem))
  | unopened noOpening noClosing => exact .unopened noOpening noClosing
  | unclosed noClosing => exact .unclosed noClosing

end Selects

theorem unmarked_iff : Unmarked characters ↔ selectedCharacters characters = characters := by
  rcases (selects_selectedCharacters characters).cases_unmarked with
    ⟨unmarked, whole⟩ | ⟨marked, _, before, after, split, _⟩
  · exact iff_of_true unmarked whole
  · refine iff_of_false marked fun whole => ?_
    have lengths := congrArg List.length split
    rw [whole] at lengths
    simp only [List.length_append, List.length_cons] at lengths
    omega

instance (characters : List Char) : Decidable (Unmarked characters) :=
  decidable_of_iff _ unmarked_iff.symm

end Characters

section Bytes

/-- What the bytes of a text select: the bytes between the first opening bracket and the first
closing one. -/
def selectedBytes (bytes : Bytes) : Bytes :=
  let opening := bytes.idxOf (Utf8.asciiByte '[')
  let closing := bytes.idxOf (Utf8.asciiByte ']')
  if opening < closing ∧ closing < bytes.length then (bytes.take closing).drop (opening + 1)
  else bytes

variable {characters choice : List Char}

theorem selectedBytes_of_places {bytes : Bytes} {opening closing : Nat}
    (opens : bytes.idxOf (Utf8.asciiByte '[') = opening)
    (closes : bytes.idxOf (Utf8.asciiByte ']') = closing) :
    selectedBytes bytes =
      if opening < closing ∧ closing < bytes.length then (bytes.take closing).drop (opening + 1)
      else bytes := by
  rw [selectedBytes, opens, closes]

theorem idxOf_asciiByte_append {mark : Char} (ascii : mark.val.toNat < 0x80)
    {before : List Char} (free : mark ∉ before) (after : List Char) :
    (Utf8.encode (before ++ mark :: after)).idxOf (Utf8.asciiByte mark) =
      (Utf8.encode before).length := by
  rw [Utf8.encode_append_ascii ascii,
    List.idxOf_append_of_notMem (Utf8.asciiByte_not_mem_encode ascii free), List.idxOf_cons_self,
    Nat.add_zero]

/-- A text may be cut by its bytes. -/
theorem Selects.encode_eq (selects : Selects characters choice) :
    selectedBytes (Utf8.encode characters) = Utf8.encode choice := by
  have opening : '['.val.toNat < 0x80 := by decide
  have closing : ']'.val.toNat < 0x80 := by decide
  cases selects with
  | @marked before choice after noOpening noClosing =>
      have closes := idxOf_asciiByte_append closing noClosing after
      have opens := idxOf_asciiByte_append opening noOpening (choice ++ ']' :: after)
      rw [← List.cons_append, ← List.append_assoc] at opens
      rw [selectedBytes_of_places opens closes, Utf8.encode_append_ascii closing,
        Utf8.encode_append_ascii opening, if_pos (by simp), List.take_left]
      simp
  | @unopened before after noOpening noClosing =>
      have closes := idxOf_asciiByte_append closing noClosing after
      -- An opening bracket that there may be is found behind the closing one.
      have later : (Utf8.encode before).length ≤
          (Utf8.encode (before ++ ']' :: after)).idxOf (Utf8.asciiByte '[') := by
        rw [Utf8.encode_append_ascii closing,
          List.idxOf_append_of_notMem (Utf8.asciiByte_not_mem_encode opening noOpening)]
        exact Nat.le_add_right _ _
      rw [selectedBytes_of_places rfl closes]
      exact if_neg fun marked => Nat.not_lt.mpr later marked.1
  | unclosed noClosing =>
      have closes := List.idxOf_eq_length (Utf8.asciiByte_not_mem_encode closing noClosing)
      rw [selectedBytes_of_places rfl closes]
      exact if_neg fun marked => Nat.lt_irrefl _ marked.2

end Bytes

section Listed

/-- Choices with spaces between them, of which the one at a position is marked. -/
def listed (choices : List String) (position : Nat) : String :=
  " ".intercalate (choices.modify position fun choice => "[" ++ choice ++ "]")

variable {choices : List String} {position : Nat}

theorem toList_listed (here : position < choices.length) :
    ∃ after, (listed choices position).toList =
      ((choices.take position).map String.toList).flatMap (· ++ [' ']) ++
        '[' :: choices[position].toList ++ ']' :: after := by
  refine ⟨((choices.drop (position + 1)).map String.toList).flatMap ([' '] ++ ·), ?_⟩
  rw [listed, String.toList_intercalate, List.modify_eq_take_cons_drop here, List.map_append,
    List.map_cons, intercalate_append_cons]
  simp

/-- Around a marked choice stand the only brackets, if no choice has brackets itself. -/
theorem selects_listed (here : position < choices.length)
    (free : ∀ choice ∈ choices, '[' ∉ choice.toList ∧ ']' ∉ choice.toList) :
    Selects (listed choices position).toList choices[position].toList := by
  have outside {bracket : Char} (other : bracket ≠ ' ')
      (free : ∀ choice ∈ choices, bracket ∉ choice.toList) :
      bracket ∉ ((choices.take position).map String.toList).flatMap (· ++ [' ']) := by
    intro mem
    rcases List.mem_flatMap.mp mem with ⟨letters, present, among⟩
    rcases List.mem_map.mp present with ⟨choice, earlier, rfl⟩
    rcases List.mem_append.mp among with inside | space
    · exact free choice (List.mem_of_mem_take earlier) inside
    · exact other (List.mem_singleton.mp space)
  have opening := outside (by decide) fun choice mem => (free choice mem).1
  have closing := outside (by decide) fun choice mem => (free choice mem).2
  rcases toList_listed here with ⟨after, spelled⟩
  rw [spelled]
  refine .marked opening fun mem => ?_
  rcases List.mem_append.mp mem with earlier | inside
  · exact closing earlier
  · rcases List.mem_cons.mp inside with bracket | among
    · exact absurd bracket (by decide)
    · exact (free choices[position] (List.getElem_mem here)).2 among

end Listed

theorem selects_selected (text : String) : Selects text.toList (selected text).toList := by
  rw [selected, String.toList_ofList]
  exact selects_selectedCharacters text.toList

theorem Selects.selected_eq {text choice : String} (selects : Selects text.toList choice.toList) :
    selected text = choice := by
  rw [selected, selects.eq, String.ofList_toList]

/-- A marked choice is selected among any others. Of any text a part is selected: the whole, if
no opening bracket comes before the first closing one, and otherwise what stands between the first
of each, by its characters and by its bytes alike. Selecting again changes nothing. -/
theorem selected_exact :
    (∀ (choices : List String) (position : Nat) (here : position < choices.length),
      (∀ choice ∈ choices, '[' ∉ choice.toList ∧ ']' ∉ choice.toList) →
        selected (listed choices position) = choices[position]) ∧
    ∀ text : String,
      (selected text).toList <:+: text.toList ∧
      (selected text = text ↔ Unmarked text.toList) ∧
      (¬ Unmarked text.toList → ']' ∉ (selected text).toList ∧
        ∃ before after, text.toList = before ++ '[' :: (selected text).toList ++ ']' :: after ∧
          '[' ∉ before ∧ ']' ∉ before) ∧
      selected (selected text) = selected text ∧
      Utf8.bytes (selected text) = selectedBytes (Utf8.bytes text) := by
  constructor
  · intro choices position here free
    exact (selects_listed here free).selected_eq
  · intro text
    have selects := selects_selected text
    refine ⟨selects.isInfix, ?_, ?_, selects.again.selected_eq, selects.encode_eq.symm⟩
    · rw [unmarked_iff, ← String.toList_inj, selected, String.toList_ofList]
    · intro marked
      rcases selects.cases_unmarked with ⟨unmarked, _⟩ | ⟨_, between⟩
      · exact absurd unmarked marked
      · exact between

/-- The second of three roles, and two texts with brackets in other places. -/
theorem selected_exact_roles :
    listed ["source", "sink", "dual"] 1 = "source [sink] dual" ∧
      selected "source [sink] dual" = "sink" ∧
      selected "broken] [order" = "broken] [order" ∧
      selected "ü[[ö]]" = "[ö" ∧ ']' ∉ (selected "ü[[ö]]").toList := by
  have written : listed ["source", "sink", "dual"] 1 = "source [sink] dual" := by decide
  have free : ∀ choice ∈ ["source", "sink", "dual"], '[' ∉ choice.toList ∧ ']' ∉ choice.toList := by
    decide
  have marked : ¬ Unmarked "ü[[ö]]".toList := by decide
  refine ⟨written, ?_, ?_, by decide, ((selected_exact.2 "ü[[ö]]").2.2.1 marked).1⟩
  · exact written ▸ selected_exact.1 ["source", "sink", "dual"] 1 (by decide) free
  · exact (selected_exact.2 "broken] [order").2.1.mpr (by decide)

end UsbTypeC
