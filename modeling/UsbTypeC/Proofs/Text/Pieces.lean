import UsbTypeC.Text.Pieces

/-! Cutting a list and putting the pieces together again are inverse to each other, as
long as no piece holds the separator. -/

namespace UsbTypeC

variable {α : Type} [DecidableEq α] {separator : α}

theorem pieces_of_free {list : List α} (free : separator ∉ list) :
    pieces separator list = [list] := by
  induction list with
  | nil => rfl
  | cons head tail induction =>
      have different : head ≠ separator := fun same => free (same ▸ List.mem_cons_self)
      rw [pieces, if_neg different, induction fun mem => free (List.mem_cons_of_mem head mem)]

/-- Cutting at a separator that is known cuts both sides of it on their own. -/
theorem pieces_append (left right : List α) :
    pieces separator (left ++ separator :: right) =
      pieces separator left ++ pieces separator right := by
  induction left with
  | nil => simp [pieces]
  | cons head tail induction =>
      rw [List.cons_append, pieces, induction, pieces]
      split
      · rfl
      · cases cut : pieces separator tail with
        | nil => exact absurd cut (pieces_ne_nil separator tail)
        | cons piece later => rfl

/-- The first separator ends the first piece. -/
theorem pieces_append_cons {first : List α} (free : separator ∉ first) (list : List α) :
    pieces separator (first ++ separator :: list) = first :: pieces separator list := by
  rw [pieces_append, pieces_of_free free]
  rfl

/-- The last separator starts the last piece. -/
theorem pieces_append_last {last : List α} (free : separator ∉ last) (list : List α) :
    pieces separator (list ++ separator :: last) = pieces separator list ++ [last] := by
  rw [pieces_append, pieces_of_free free]

theorem pieces_append_flatMap {first : List α} {rest : List (List α)}
    (firstFree : separator ∉ first) (restFree : ∀ piece ∈ rest, separator ∉ piece) :
    pieces separator (first ++ rest.flatMap (separator :: ·)) = first :: rest := by
  induction rest generalizing first with
  | nil => rw [List.flatMap_nil, List.append_nil, pieces_of_free firstFree]
  | cons piece later induction =>
      rw [List.flatMap_cons, List.cons_append, pieces_append_cons firstFree,
        induction (restFree piece List.mem_cons_self)
          fun other mem => restFree other (List.mem_cons_of_mem piece mem)]

theorem eq_append_of_pieces {list first : List α} {rest : List (List α)}
    (cut : pieces separator list = first :: rest) :
    list = first ++ rest.flatMap (separator :: ·) := by
  induction list generalizing first rest with
  | nil =>
      cases cut
      rfl
  | cons head tail induction =>
      rw [pieces] at cut
      split at cut
      · next same =>
        obtain ⟨rfl, rfl⟩ := List.cons.inj cut
        cases tailCut : pieces separator tail with
        | nil => exact absurd tailCut (pieces_ne_nil separator tail)
        | cons piece later =>
            rw [same, List.flatMap_cons, List.nil_append, List.cons_append,
              ← induction tailCut]
      · split at cut
        · next empty => exact absurd empty (pieces_ne_nil separator tail)
        · next piece later tailCut =>
          obtain ⟨rfl, rfl⟩ := List.cons.inj cut
          rw [List.cons_append, ← induction tailCut]

end UsbTypeC
