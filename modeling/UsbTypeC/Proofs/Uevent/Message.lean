import UsbTypeC.Proofs.Text.Pieces
import UsbTypeC.Proofs.Text.Utf8Parts
import UsbTypeC.Uevent.Message

/-! Messages as texts. It makes no difference whether a message is cut at its NULs first and
its parts are decoded, or it is decoded as a whole and the text is cut. -/

namespace UsbTypeC.Uevent

/-- The message in front of its first NUL, and what follows behind each. -/
theorem message_parts (message : Bytes) :
    ∃ start rest, parts message = start :: rest ∧ message = start ++ rest.flatMap (0 :: ·) ∧
      0 ∉ start ∧ ∀ part ∈ rest, 0 ∉ part := by
  have free : ∀ part ∈ parts message, 0 ∉ part :=
    separator_not_mem_of_mem_pieces 0 message
  cases cut : parts message with
  | nil => exact absurd cut (pieces_ne_nil 0 message)
  | cons start rest =>
      rw [cut] at free
      exact ⟨start, rest, rfl, eq_append_of_pieces cut, free start List.mem_cons_self,
        fun part mem => free part (List.mem_cons_of_mem start mem)⟩

theorem filter_lossyCharacters (rest : List Bytes) :
    (rest.map Utf8.lossyCharacters).filter (· ≠ []) =
      (rest.filter fun part => !part.isEmpty).map Utf8.lossyCharacters := by
  rw [List.filter_map]
  congr 1
  apply List.filter_congr
  intro part mem
  cases part with
  | nil => rfl
  | cons byte later => simp [Utf8.lossyCharacters_eq_nil_iff]

/-! Messages put together from texts. -/

/-- Texts with a NUL between each two, and any number of further NULs behind each. -/
def joined (texts : List (String × Nat)) : Bytes :=
  [0].intercalate (texts.map fun text => Utf8.bytes text.1 ++ List.replicate text.2 0)

theorem pieces_append_replicate {α : Type} [DecidableEq α] {separator : α} {front : List α}
    (free : separator ∉ front) (count : Nat) :
    pieces separator (front ++ List.replicate count separator) =
      front :: List.replicate count [] := by
  induction count with
  | zero => simp [pieces_of_free free]
  | succ count induction =>
      rw [List.replicate_succ', ← List.append_assoc, pieces_append_last List.not_mem_nil,
        induction, List.replicate_succ']
      rfl

theorem parts_joined (texts : List (String × Nat)) (present : texts ≠ [])
    (free : ∀ text ∈ texts, '\x00' ∉ text.1.toList) :
    parts (joined texts) =
      texts.flatMap fun text => Utf8.bytes text.1 :: List.replicate text.2 [] := by
  induction texts with
  | nil => exact absurd rfl present
  | cons text rest induction =>
      have padded := pieces_append_replicate
        (Utf8.zero_not_mem_bytes (free text List.mem_cons_self)) text.2
      cases rest with
      | nil => simpa [parts, joined] using padded
      | cons next later =>
          have further := induction (List.cons_ne_nil next later)
            fun other mem => free other (List.mem_cons_of_mem text mem)
          have step : joined (text :: next :: later) =
              (Utf8.bytes text.1 ++ List.replicate text.2 0) ++ 0 :: joined (next :: later) := by
            simp [joined, List.intercalate]
          rw [parts, step, pieces_append, padded, List.flatMap_cons]
          exact congrArg _ further

theorem header_joined (start : String) (padding : Nat) (rest : List (String × Nat))
    (free : ∀ text ∈ (start, padding) :: rest, '\x00' ∉ text.1.toList) :
    header (joined ((start, padding) :: rest)) = start := by
  rw [header, parts_joined _ (List.cons_ne_nil _ _) free]
  exact Utf8.lossy_bytes start

theorem filter_replicate_nil (count : Nat) :
    (List.replicate count ([] : Bytes)).filter (fun part => !part.isEmpty) = [] := by
  simp

theorem fields_joined (start : String) (padding : Nat) (rest : List (String × Nat))
    (free : ∀ text ∈ (start, padding) :: rest, '\x00' ∉ text.1.toList)
    (spelled : ∀ text ∈ rest, text.1 ≠ "") :
    fields (joined ((start, padding) :: rest)) = rest.map Prod.fst := by
  have kept : ∀ texts : List (String × Nat), (∀ text ∈ texts, text.1 ≠ "") →
      (texts.flatMap fun text => Utf8.bytes text.1 :: List.replicate text.2 []).filter
        (fun part => !part.isEmpty) = texts.map fun text => Utf8.bytes text.1 := by
    intro texts spelled
    induction texts with
    | nil => rfl
    | cons text later induction =>
        have nonempty := Utf8.bytes_ne_nil (spelled text List.mem_cons_self)
        have further := induction fun other mem => spelled other (List.mem_cons_of_mem text mem)
        simp [nonempty, further]
  rw [fields, parts_joined _ (List.cons_ne_nil _ _) free, List.flatMap_cons, List.cons_append,
    List.tail_cons, List.filter_append, filter_replicate_nil, List.nil_append, kept rest spelled,
    List.map_map]
  exact List.map_congr_left fun text _ => Utf8.lossy_bytes text.1

/-- A message and the text that it is as a whole are cut alike. The header is what stands
before the first NUL of the text, and the fields are what stands behind the NULs, as far as
anything does. Texts that are joined by NULs, however many, come apart again as they were. -/
theorem header_fields_exact (message : Bytes) :
    (∃ later : List (List Char),
      (Utf8.lossy message).toList = (header message).toList ++ later.flatMap ('\x00' :: ·) ∧
      '\x00' ∉ (header message).toList ∧ (∀ piece ∈ later, '\x00' ∉ piece) ∧
      fields message = (later.filter (· ≠ [])).map String.ofList) ∧
    ∀ (start : String) (padding : Nat) (rest : List (String × Nat)),
      '\x00' ∉ start.toList → (∀ text ∈ rest, text.1 ≠ "" ∧ '\x00' ∉ text.1.toList) →
        header (joined ((start, padding) :: rest)) = start ∧
          fields (joined ((start, padding) :: rest)) = rest.map Prod.fst := by
  constructor
  · rcases message_parts message with ⟨start, rest, cut, whole, startFree, restFree⟩
    have begins : (header message).toList = Utf8.lossyCharacters start := by
      rw [header, cut]
      exact String.toList_ofList
    refine ⟨rest.map Utf8.lossyCharacters, ?_, ?_, ?_, ?_⟩
    · rw [begins, Utf8.lossy, String.toList_ofList, ← Utf8.lossyCharacters_parts, ← whole]
    · rw [begins]
      exact Utf8.nul_not_mem_lossyCharacters startFree
    · intro piece mem
      rcases List.mem_map.mp mem with ⟨part, partMem, rfl⟩
      exact Utf8.nul_not_mem_lossyCharacters (restFree part partMem)
    · rw [fields, cut, filter_lossyCharacters, List.map_map]
      rfl
  · intro start padding rest startFree restFree
    have free : ∀ text ∈ (start, padding) :: rest, '\x00' ∉ text.1.toList := by
      intro text mem
      rcases List.mem_cons.mp mem with rfl | later
      · exact startFree
      · exact (restFree text later).2
    exact ⟨header_joined start padding rest free,
      fields_joined start padding rest free fun text mem => (restFree text mem).1⟩

/-- Two fields behind a header that more NULs follow than are needed. -/
theorem header_fields_exact_paddedMessage :
    let rest := [("ACTION=add", 0), ("POWER_SUPPLY_NAME=ü", 1)]
    ('\x00' ∉ "add@/devices".toList ∧ ∀ text ∈ rest, text.1 ≠ "" ∧ '\x00' ∉ text.1.toList) ∧
      header (joined (("add@/devices", 2) :: rest)) = "add@/devices" ∧
      fields (joined (("add@/devices", 2) :: rest)) = ["ACTION=add", "POWER_SUPPLY_NAME=ü"] := by
  intro rest
  have startFree : '\x00' ∉ "add@/devices".toList := by decide
  have restFree : ∀ text ∈ rest, text.1 ≠ "" ∧ '\x00' ∉ text.1.toList := by decide
  exact ⟨⟨startFree, restFree⟩,
    (header_fields_exact (joined (("add@/devices", 2) :: rest))).2 "add@/devices" 2 rest startFree restFree⟩

/-- A header that breaks off within a character leaves the field behind it whole. -/
example : header ([0x61, 0xE2, 0x82, 0] ++ Utf8.bytes "KEY=1") = "a\uFFFD" ∧
    fields ([0x61, 0xE2, 0x82, 0] ++ Utf8.bytes "KEY=1") = ["KEY=1"] := by
  decide +kernel

end UsbTypeC.Uevent
