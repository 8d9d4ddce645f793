import UsbTypeC.Proofs.Text.Pieces

/-! Lists that are written one behind the other. They can be told apart again if each ends
with a mark that stands nowhere else, if marks stand between them, or if only the first line
of each opens it. -/

namespace UsbTypeC

variable {α β : Type}

section Ended

variable [DecidableEq α] {mark : α} {lists others : List (List α)}

theorem pieces_flatMap_ended (free : ∀ list ∈ lists, mark ∉ list) :
    pieces mark (lists.flatMap (· ++ [mark])) = lists ++ [[]] := by
  induction lists with
  | nil => rfl
  | cons list rest induction =>
      have further := induction fun other mem => free other (List.mem_cons_of_mem list mem)
      have step : (list :: rest).flatMap (· ++ [mark]) =
          list ++ mark :: rest.flatMap (· ++ [mark]) := by simp
      rw [step, pieces_append_cons (free list List.mem_cons_self), further, List.cons_append]

theorem eq_of_flatMap_ended (free : ∀ list ∈ lists, mark ∉ list)
    (otherFree : ∀ list ∈ others, mark ∉ list)
    (same : lists.flatMap (· ++ [mark]) = others.flatMap (· ++ [mark])) : lists = others := by
  have cut := congrArg (pieces mark) same
  rw [pieces_flatMap_ended free, pieces_flatMap_ended otherFree] at cut
  exact List.append_cancel_right cut

end Ended

section Separated

variable [DecidableEq α] {mark space : α} {first : List α} {rest : List (List α)}

theorem pieces_intercalate (different : space ≠ mark) (firstFree : mark ∉ first)
    (restFree : ∀ list ∈ rest, mark ∉ list) :
    pieces mark ([mark, space].intercalate (first :: rest)) =
      first :: rest.map (space :: ·) := by
  induction rest generalizing first with
  | nil => simp [pieces_of_free firstFree]
  | cons next later induction =>
      have nextFree : mark ∉ space :: next := by
        simp [Ne.symm different, restFree next List.mem_cons_self]
      have further := induction nextFree fun list mem =>
        restFree list (List.mem_cons_of_mem next mem)
      -- The space in front of the next list counts as its first item.
      have spaced : space :: [mark, space].intercalate (next :: later) =
          [mark, space].intercalate ((space :: next) :: later) := by
        cases later <;> simp
      rw [List.intercalate_cons_cons, List.append_assoc, List.cons_append, List.cons_append,
        List.nil_append, pieces_append_cons firstFree, spaced, further]
      rfl

end Separated

theorem not_mem_intercalate {between : List α} {lists : List (List α)} {item : α}
    (betweenFree : item ∉ between) (free : ∀ list ∈ lists, item ∉ list) :
    item ∉ between.intercalate lists := by
  induction lists with
  | nil => simp
  | cons list later induction =>
      have further := induction fun other mem => free other (List.mem_cons_of_mem list mem)
      cases later with
      | nil => simpa using free list List.mem_cons_self
      | cons next last =>
          rw [List.intercalate_cons_cons]
          simp [free list List.mem_cons_self, betweenFree, further]

/-- A list among others, with what is written in front of it and behind it. -/
theorem intercalate_append_cons (between : List α) (earlier later : List (List α)) (list : List α) :
    between.intercalate (earlier ++ list :: later) =
      earlier.flatMap (· ++ between) ++ list ++ later.flatMap (between ++ ·) := by
  induction earlier with
  | nil =>
      induction later generalizing list with
      | nil => simp
      | cons next last induction =>
          have further := induction next
          rw [List.nil_append] at further
          rw [List.nil_append, List.intercalate_cons_cons, further]
          simp
  | cons first rest induction =>
      have step : between.intercalate (first :: (rest ++ list :: later)) =
          first ++ between ++ between.intercalate (rest ++ list :: later) := by
        cases rest <;> simp
      rw [List.cons_append, step, induction]
      simp

section Headed

variable {opens : β → Prop} {body otherBody rest otherRest : List β}

/-- Up to the next line that opens something, two lists that are the same hold the same. -/
theorem eq_of_append_opening (closed : ∀ line ∈ body, ¬ opens line)
    (otherClosed : ∀ line ∈ otherBody, ¬ opens line)
    (opening : ∀ line ∈ rest.head?, opens line) (otherOpening : ∀ line ∈ otherRest.head?, opens line)
    (same : body ++ rest = otherBody ++ otherRest) : body = otherBody ∧ rest = otherRest := by
  rcases List.append_eq_append_iff.mp same with ⟨extra, whole, tail⟩ | ⟨extra, whole, tail⟩
  · cases extra with
    | nil =>
        rw [List.append_nil] at whole
        exact ⟨whole.symm, tail⟩
    | cons line later =>
        have opened : opens line := opening line (by simp [tail])
        exact absurd opened (otherClosed line (by simp [whole]))
  · cases extra with
    | nil =>
        rw [List.append_nil] at whole
        exact ⟨whole, tail.symm⟩
    | cons line later =>
        have opened : opens line := otherOpening line (by simp [tail])
        exact absurd opened (closed line (by simp [whole]))

/-- Blocks of lines come apart where a line opens the next one. -/
theorem map_eq_of_flatMap_blocks {heading : α → β} {below : α → List β} {items others : List α}
    (opening : ∀ item, opens (heading item)) (closed : ∀ item, ∀ line ∈ below item, ¬ opens line)
    (same : items.flatMap (fun item => heading item :: below item) =
      others.flatMap (fun item => heading item :: below item)) :
    items.map (fun item => heading item :: below item) =
      others.map (fun item => heading item :: below item) := by
  have starts : ∀ list : List α,
      ∀ line ∈ (list.flatMap fun item => heading item :: below item).head?, opens line := by
    intro list line first
    cases list with
    | nil => cases first
    | cons item later =>
        cases first
        exact opening item
  induction items generalizing others with
  | nil =>
      cases others with
      | nil => rfl
      | cons other later => cases same
  | cons item rest induction =>
      cases others with
      | nil => cases same
      | cons other later =>
          rw [List.flatMap_cons, List.flatMap_cons, List.cons_append, List.cons_append] at same
          have parts := List.cons.inj same
          have cut := eq_of_append_opening (closed item) (closed other) (starts rest)
            (starts later) parts.2
          rw [List.map_cons, List.map_cons, parts.1, cut.1, induction cut.2]

end Headed

end UsbTypeC
