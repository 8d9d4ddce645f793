/-! Cutting a list at every occurrence of a separator, and looking for one list
inside another. Cutting always yields at least one piece, and no piece holds the
separator. -/

namespace UsbTypeC

/-- The lists between the separators, first to last. -/
def pieces [DecidableEq α] (separator : α) : List α → List (List α)
  | [] => [[]]
  | head :: tail =>
      if head = separator then [] :: pieces separator tail
      else match pieces separator tail with
        | [] => [[head]]
        | piece :: rest => (head :: piece) :: rest

theorem pieces_ne_nil [DecidableEq α] (separator : α) (list : List α) :
    pieces separator list ≠ [] := by
  induction list with
  | nil => simp [pieces]
  | cons head tail induction =>
      unfold pieces
      split
      · simp
      · split <;> simp

theorem separator_not_mem_of_mem_pieces [DecidableEq α] (separator : α) :
    ∀ list : List α, ∀ piece ∈ pieces separator list, separator ∉ piece
  | [], piece, mem => by
      rw [List.mem_singleton.mp mem]
      exact List.not_mem_nil
  | head :: tail, piece, mem => by
      have tailPieces := separator_not_mem_of_mem_pieces separator tail
      unfold pieces at mem
      split at mem
      · rcases List.mem_cons.mp mem with rfl | tailMem
        · exact List.not_mem_nil
        · exact tailPieces piece tailMem
      · next different =>
        split at mem
        · rw [List.mem_singleton.mp mem]
          simpa using Ne.symm different
        · next first rest equal =>
          rw [equal] at tailPieces
          rcases List.mem_cons.mp mem with rfl | restMem
          · have firstFree := tailPieces first List.mem_cons_self
            simpa [Ne.symm different] using firstFree
          · exact tailPieces piece (List.mem_cons_of_mem first restMem)

/-- Whether a list is found inside another without a gap. -/
def occursIn [BEq α] (part : List α) : List α → Bool
  | [] => part.isEmpty
  | head :: tail => part.isPrefixOf (head :: tail) || occursIn part tail

theorem occursIn_iff [BEq α] [LawfulBEq α] (part : List α) :
    ∀ list : List α, occursIn part list = true ↔ part <:+: list
  | [] => by simp [occursIn]
  | head :: tail => by
      rw [occursIn, Bool.or_eq_true, occursIn_iff part tail, List.infix_cons_iff,
        List.isPrefixOf_iff_prefix]

def withoutPrefix? [BEq α] : List α → List α → Option (List α)
  | [], list => some list
  | _ :: _, [] => none
  | expected :: part, head :: tail =>
      if expected == head then withoutPrefix? part tail else none

theorem withoutPrefix?_eq_some_iff [BEq α] [LawfulBEq α] :
    ∀ part list rest : List α, withoutPrefix? part list = some rest ↔ list = part ++ rest
  | [], list, rest => by simp [withoutPrefix?]
  | expected :: part, [], rest => by simp [withoutPrefix?]
  | expected :: part, head :: tail, rest => by
      have tailCase := withoutPrefix?_eq_some_iff part tail rest
      by_cases same : expected = head
      · subst same
        simp [withoutPrefix?, tailCase]
      · simp [withoutPrefix?, same, Ne.symm same]

def withoutSuffix? [BEq α] (part list : List α) : Option (List α) :=
  (withoutPrefix? part.reverse list.reverse).map List.reverse

theorem withoutSuffix?_eq_some_iff [BEq α] [LawfulBEq α] (part list rest : List α) :
    withoutSuffix? part list = some rest ↔ list = rest ++ part := by
  unfold withoutSuffix?
  rw [Option.map_eq_some_iff]
  constructor
  · rintro ⟨reversed, cut, rfl⟩
    have joined := (withoutPrefix?_eq_some_iff _ _ _).mp cut
    simpa using congrArg List.reverse joined
  · rintro rfl
    exact ⟨rest.reverse, (withoutPrefix?_eq_some_iff _ _ _).mpr (by simp), by simp⟩

end UsbTypeC
