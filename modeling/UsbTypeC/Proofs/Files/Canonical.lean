import UsbTypeC.Files.Root
import UsbTypeC.Proofs.Files.Joining
import UsbTypeC.Proofs.Text.Joined

/-! Paths that are spelled out from the top, one name after another, and paths that are joined
to a root. -/

namespace UsbTypeC

/-- Lists with single marks between them are cut at the marks. -/
theorem pieces_intercalate_singleton {α : Type} [DecidableEq α] {mark : α} {first : List α}
    {rest : List (List α)} (firstFree : mark ∉ first) (restFree : ∀ list ∈ rest, mark ∉ list) :
    pieces mark ([mark].intercalate (first :: rest)) = first :: rest := by
  induction rest generalizing first with
  | nil => simp [pieces_of_free firstFree]
  | cons next later induction =>
      have further := induction (restFree next List.mem_cons_self) fun list mem =>
        restFree list (List.mem_cons_of_mem next mem)
      rw [List.intercalate_cons_cons, List.append_assoc, List.singleton_append,
        pieces_append_cons firstFree, further]

namespace Path

def spelled (parts : List String) : Path :=
  ⟨"/" ++ "/".intercalate parts⟩

/-- A path that starts from the top and goes on by names, with single slashes in between and
none at the end, unless it is nothing but a slash. -/
structure Canonical (path : Path) (parts : List String) : Prop where
  text : path.text = "/" ++ "/".intercalate parts
  absolute : path.isAbsolute = true
  names : parts ≠ [] → path.names = "" :: parts
  valid : ∀ part ∈ parts, PortName.IsValid part
  noTrailingSlash : path.text ≠ "/" → path.text.toList.getLast? ≠ some '/'

theorem letters_intercalate (parts : List String) :
    ("/".intercalate parts).toList = ['/'].intercalate (parts.map String.toList) :=
  String.toList_intercalate

theorem letters_spelled (parts : List String) :
    (spelled parts).text.toList = '/' :: ("/".intercalate parts).toList := by
  simp [spelled]

section Spelled

variable {parts : List String} (valid : ∀ part ∈ parts, PortName.IsValid part)
include valid

theorem names_intercalate (nonempty : parts ≠ []) : (Path.mk ("/".intercalate parts)).names = parts := by
  cases parts with
  | nil => exact absurd rfl nonempty
  | cons part rest =>
      have free : ∀ list ∈ rest.map String.toList, '/' ∉ list := by
        intro list mem
        rcases List.mem_map.mp mem with ⟨later, laterMem, rfl⟩
        exact (valid later (List.mem_cons_of_mem part laterMem)).2.2.2.1
      rw [names, letters_intercalate, List.map_cons,
        pieces_intercalate_singleton (valid part List.mem_cons_self).2.2.2.1 free]
      simp

theorem endsInName_intercalate (nonempty : parts ≠ []) :
    (Path.mk ("/".intercalate parts)).EndsInName := by
  rw [EndsInName, names_intercalate valid nonempty]
  exact fun last => (valid "" (List.mem_of_getLast? last)).1 rfl

theorem not_absolute_intercalate : (Path.mk ("/".intercalate parts)).isAbsolute = false := by
  cases parts with
  | nil => rfl
  | cons part rest =>
      have names := names_intercalate valid (List.cons_ne_nil part rest)
      rw [isAbsolute]
      cases letters : ("/".intercalate (part :: rest)).toList with
      | nil => rfl
      | cons first later =>
          have other : first ≠ '/' := by
            rintro rfl
            rw [Path.names, letters, ← List.nil_append ('/' :: later),
              pieces_append_cons List.not_mem_nil, List.map_cons] at names
            exact (valid part List.mem_cons_self).1 (List.cons.inj names).1.symm
          simpa using other

theorem relative_spelled :
    (spelled parts).relative = if parts = [] then ⟨"."⟩ else ⟨"/".intercalate parts⟩ := by
  by_cases empty : parts = []
  · rw [empty]
    rfl
  · have ends := endsInName_intercalate valid empty
    have dropped : withoutLeadingSlashes (spelled parts).text =
        withoutLeadingSlashes ("/".intercalate parts) := by
      rw [withoutLeadingSlashes, letters_spelled]
      simp [withoutLeadingSlashes]
    have kept := relative_of_not_absolute ends.text_ne_empty (not_absolute_intercalate valid)
    rw [if_neg empty, relative, dropped]
    exact kept

theorem steps_relative_spelled :
    (spelled parts).relative.steps = if parts = [] then ["."] else parts := by
  rw [relative_spelled valid]
  by_cases empty : parts = []
  · rw [if_pos empty, if_pos empty]
    decide
  · have named : ∀ part ∈ parts, part ≠ "" := fun part mem => (valid part mem).1
    rw [if_neg empty, if_neg empty, steps_of_endsInName (endsInName_intercalate valid empty),
      names_intercalate valid empty, List.filter_eq_self]
    simpa using named

theorem nul_not_mem_relative_spelled : '\x00' ∉ (spelled parts).relative.text.toList := by
  rw [relative_spelled valid]
  split
  · decide
  · rw [letters_intercalate]
    apply not_mem_intercalate (by decide)
    intro list mem
    rcases List.mem_map.mp mem with ⟨part, partMem, rfl⟩
    exact (valid part partMem).2.2.2.2

theorem canonical_spelled : (spelled parts).Canonical parts := by
  have letters := letters_spelled parts
  refine ⟨rfl, ?_, ?_, valid, ?_⟩
  · rw [isAbsolute, letters]
    rfl
  · intro nonempty
    rw [names, letters, ← List.nil_append ('/' :: _), pieces_append_cons List.not_mem_nil,
      List.map_cons]
    exact congrArg _ (names_intercalate valid nonempty)
  · intro longer
    by_cases empty : parts = []
    · exact absurd (by rw [empty]; rfl) longer
    · have ends := endsInName_intercalate valid empty
      cases inner : ("/".intercalate parts).toList with
      | nil => exact absurd (String.toList_eq_nil_iff.mp inner) ends.text_ne_empty
      | cons first rest =>
          rw [letters, inner, List.getLast?_cons_cons, ← inner]
          exact ends.no_slash

end Spelled

section Relative

variable (path : Path)

theorem head?_withoutLeadingSlashes (text : String) :
    (withoutLeadingSlashes text).toList.head? ≠ some '/' := by
  intro slash
  rw [withoutLeadingSlashes, String.toList_ofList] at slash
  have other := List.head?_dropWhile_not (· == '/') text.toList
  rw [slash] at other
  exact absurd other (by decide)

theorem relative_text_ne_empty : path.relative.text ≠ "" := by
  rw [relative]
  split
  · decide
  · next spelled => exact fun empty => spelled (String.isEmpty_iff.mpr empty)

theorem isAbsolute_relative : path.relative.isAbsolute = false := by
  have other := head?_withoutLeadingSlashes path.text
  rw [relative]
  split
  · rfl
  · rw [isAbsolute]
    simpa using other

theorem start_relative (current : Location) : path.relative.start current = current := by
  rw [start, isAbsolute_relative]
  rfl

end Relative

section Joined

variable {base : Path} (spelled : base.text ≠ "") (path : Path)
include spelled

/-- There is one slash between a root and what is joined to it. -/
theorem letters_join_relative : ∃ front : List Char,
    (base.join path.relative.text).text.toList = front ++ '/' :: path.relative.text.toList ∧
      (base.text.toList = front ∨ base.text.toList = front ++ ['/']) := by
  have below : isAbsolute ⟨path.relative.text⟩ = false := isAbsolute_relative path
  have nonempty : base.text.isEmpty = false := by simpa using spelled
  have neither : ¬ (isAbsolute ⟨path.relative.text⟩ || base.text.isEmpty) = true := by
    simp [below, nonempty]
  rw [join, if_neg neither]
  split
  · next slash =>
    rcases List.getLast?_eq_some_iff.mp (by simpa using slash) with ⟨front, whole⟩
    refine ⟨front, ?_, .inr whole⟩
    rw [String.toList_append, whole, List.append_assoc]
    rfl
  · refine ⟨base.text.toList, ?_, .inl rfl⟩
    rw [String.toList_append, String.toList_append, List.append_assoc]
    rfl

/-- However a root is spelled, the steps below it come behind those that lead to the root, but
for one that stays. -/
theorem steps_join_relative : ∃ front,
    (base.join path.relative.text).steps = front ++ path.relative.steps ∧
      (base.steps = front ∨ base.steps = front ++ ["."]) := by
  rcases letters_join_relative spelled path with ⟨front, joined, whole⟩
  refine ⟨((pieces '/' front).map String.ofList).filter (· ≠ ""), ?_, ?_⟩
  · have names : (base.join path.relative.text).names =
        (pieces '/' front).map String.ofList ++ path.relative.names := by
      rw [Path.names, joined, pieces_append, List.map_append]
      rfl
    have last : (base.join path.relative.text).names.getLast? = path.relative.names.getLast? := by
      rw [names, List.getLast?_append]
      cases last : path.relative.names.getLast? with
      | none => exact absurd (List.getLast?_eq_none_iff.mp last) (names_ne_nil path.relative)
      | some name => rfl
    rw [steps, last, names, List.filter_append, List.append_assoc]
    rfl
  · rcases whole with whole | whole
    · rw [steps, Path.names, whole]
      split
      · exact .inr rfl
      · exact .inl (List.append_nil _)
    · right
      have names : base.names = (pieces '/' front).map String.ofList ++ [""] := by
        rw [Path.names, whole, pieces_append_last List.not_mem_nil, List.map_append]
        rfl
      rw [steps, names, List.getLast?_concat, if_pos rfl, List.filter_append]
      simp

theorem start_join_relative (current : Location) :
    (base.join path.relative.text).start current = base.start current := by
  rcases letters_join_relative spelled path with ⟨front, joined, whole⟩
  have first : (base.join path.relative.text).text.toList.head? = base.text.toList.head? := by
    rw [joined]
    rcases whole with whole | whole
    · rw [whole]
      cases front with
      | nil => exact absurd (String.toList_eq_nil_iff.mp whole) spelled
      | cons letter rest => rw [List.cons_append, List.head?_cons, List.head?_cons]
    · rw [whole]
      cases front with
      | nil => rw [List.nil_append, List.nil_append, List.head?_cons, List.head?_cons]
      | cons letter rest =>
          rw [List.cons_append, List.cons_append, List.head?_cons, List.head?_cons]
  have same : (base.join path.relative.text).isAbsolute = base.isAbsolute := by
    rw [isAbsolute, first, isAbsolute]
  rw [start, same, start]

theorem nul_mem_join_relative : '\x00' ∈ (base.join path.relative.text).text.toList ↔
    '\x00' ∈ base.text.toList ∨ '\x00' ∈ path.relative.text.toList := by
  rcases letters_join_relative spelled path with ⟨front, joined, whole⟩
  rw [joined]
  rcases whole with whole | whole
  · simp [whole]
  · simp [whole]

end Joined

end Path

end UsbTypeC
