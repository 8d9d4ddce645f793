import UsbTypeC.Proofs.Uevent.Pattern

/-! Which controller a header names. There may be several ways to read a name off a
header; the one that starts first counts, and of those that start together the one with
the longest first word, and then the longest second word. -/

namespace UsbTypeC.Uevent

def IsWord (characters : List Char) : Prop :=
  characters ≠ [] ∧ ∀ character ∈ characters, isWordCharacter character = true

/-- A way to read a name off a header: between two slashes stand two words with a character
between them, the second of which goes on with `usb`, and the mark of the controller follows
on the same line. -/
structure Reading where
  before : List Char
  first : List Char
  between : Char
  second : List Char
  line : List Char
  after : List Char

namespace Reading

def name (reading : Reading) : List Char :=
  reading.first ++ reading.between :: (reading.second ++ "usb".toList)

structure Of (reading : Reading) (header : List Char) : Prop where
  whole : header = reading.before ++ '/' :: (reading.name ++ '/' :: (reading.line ++
    ("dwc3".toList ++ reading.after)))
  first : IsWord reading.first
  between : reading.between ≠ '\n'
  second : IsWord reading.second
  line : '\n' ∉ reading.line

/-- The first reading counts no less than the second. -/
def Precedes (left right : Reading) : Prop :=
  left.before.length < right.before.length ∨
    left.before.length = right.before.length ∧
      (right.first.length < left.first.length ∨
        right.first.length = left.first.length ∧ right.second.length ≤ left.second.length)

end Reading

/-- The name by the reading of a header that comes before all others. -/
def NamesController (header name : List Char) : Prop :=
  ∃ reading : Reading, reading.Of header ∧ reading.name = name ∧
    ∀ other : Reading, other.Of header → reading.Precedes other

namespace Reading

variable {left right reading : Reading} {header : List Char}

/-- Readings that stand at the same place and are as long read the same name. -/
theorem Of.name_eq (leftOf : left.Of header) (rightOf : right.Of header)
    (before : left.before.length = right.before.length)
    (first : left.first.length = right.first.length)
    (second : left.second.length = right.second.length) : left.name = right.name := by
  have whole := leftOf.whole.symm.trans rightOf.whole
  have sameTail := (List.append_inj whole before).2
  rw [List.cons.injEq] at sameTail
  have lengths : left.name.length = right.name.length := by
    simp only [name, List.length_append, List.length_cons, first, second]
  exact (List.append_inj sameTail.2 lengths).1

theorem Precedes.lengths_eq (leftFirst : left.Precedes right)
    (rightFirst : right.Precedes left) :
    left.before.length = right.before.length ∧ left.first.length = right.first.length ∧
      left.second.length = right.second.length := by
  unfold Precedes at leftFirst rightFirst
  omega

end Reading

theorem NamesController.unique {header name other : List Char}
    (names : NamesController header name) (names' : NamesController header other) :
    name = other := by
  obtain ⟨left, leftOf, rfl, leftFirst⟩ := names
  obtain ⟨right, rightOf, rfl, rightFirst⟩ := names'
  obtain ⟨before, first, second⟩ := (leftFirst right rightOf).lengths_eq (rightFirst left leftOf)
  exact leftOf.name_eq rightOf before first second

theorem controllerEnd_iff {characters : List Char} :
    controllerEnd characters = true ↔
      ∃ line after, characters = '/' :: (line ++ ("dwc3".toList ++ after)) ∧ '\n' ∉ line := by
  simp only [controllerEnd, fixed_iff, anything_iff]
  constructor
  · rintro ⟨_, rfl, line, _, rfl, clean, after, rfl, _⟩
    exact ⟨line, after, rfl, clean⟩
  · rintro ⟨line, after, rfl, clean⟩
    exact ⟨_, rfl, line, _, rfl, clean, after, rfl, trivial⟩

theorem endsName_iff {shortest : Nat} {lastWord rest : List Char} :
    endsName shortest lastWord rest = true ↔
      shortest ≤ lastWord.length ∧ (∃ front, lastWord = front ++ "usb".toList) ∧
        controllerEnd rest = true := by
  rw [endsName, Bool.and_eq_true, Bool.and_eq_true, decide_eq_true_iff, and_assoc,
    Option.isSome_iff_exists]
  simp only [withoutSuffix?_eq_some_iff]

theorem isWordCharacter_slash : isWordCharacter '/' = false := by
  decide +kernel

theorem isWordCharacter_lineFeed : isWordCharacter '\n' = false := by
  decide +kernel

theorem isWordCharacter_usb : ∀ letter ∈ "usb".toList, isWordCharacter letter = true := by
  have all : "usb".toList.all isWordCharacter = true := by
    decide +kernel
  exact List.all_eq_true.mp all

section Words

variable {characters rest : List Char} {character : Char}

theorem isWordCharacter_of_mem_word (mem : character ∈ word characters) :
    isWordCharacter character = true :=
  List.all_eq_true.mp List.all_takeWhile character mem

theorem word_append_afterWord (characters : List Char) :
    word characters ++ afterWord characters = characters :=
  List.takeWhile_append_dropWhile

theorem isWordCharacter_of_afterWord (ended : afterWord characters = character :: rest) :
    isWordCharacter character = false := by
  have first := List.head?_dropWhile_not isWordCharacter characters
  rw [afterWord] at ended
  rw [ended] at first
  simpa using first

/-- A word ends at the first character that is none of its own. -/
theorem word_append_cons (all : ∀ inside ∈ characters, isWordCharacter inside = true)
    (ends : isWordCharacter character = false) (rest : List Char) :
    word (characters ++ character :: rest) = characters ∧
      afterWord (characters ++ character :: rest) = character :: rest := by
  constructor
  · rw [word, List.takeWhile_append_of_pos all, List.takeWhile_cons, ends]
    simp
  · rw [afterWord, List.dropWhile_append_of_pos all, List.dropWhile_cons, ends]
    simp

end Words

namespace Reading

variable {reading other : Reading} {header rest : List Char}

/-- A name that is read right behind a slash is followed by another slash. -/
theorem Of.rest_eq (of : reading.Of ('/' :: rest)) (here : reading.before = []) :
    rest = reading.name ++ '/' :: (reading.line ++ ("dwc3".toList ++ reading.after)) := by
  have whole := of.whole
  rw [here, List.nil_append] at whole
  exact (List.cons.inj whole).2

theorem Of.second_usb (of : reading.Of header) :
    ∀ character ∈ reading.second ++ "usb".toList, isWordCharacter character = true := by
  intro character mem
  rcases List.mem_append.mp mem with second | usb
  · exact of.second.2 character second
  · exact isWordCharacter_usb character usb

/-- A character that belongs to no word keeps the two words apart. -/
theorem Of.apart (of : reading.Of ('/' :: rest)) (here : reading.before = [])
    (apart : isWordCharacter reading.between = false) :
    word rest = reading.first ∧
      ∃ later, afterWord rest = reading.between :: later ∧
        word later = reading.second ++ "usb".toList ∧
        afterWord later = '/' :: (reading.line ++ ("dwc3".toList ++ reading.after)) := by
  have whole := of.rest_eq here
  rw [name, List.append_assoc, List.cons_append] at whole
  have first := word_append_cons of.first.2 apart (reading.second ++ "usb".toList ++
    '/' :: (reading.line ++ ("dwc3".toList ++ reading.after)))
  rw [← whole] at first
  exact ⟨first.1, _, first.2, word_append_cons of.second_usb isWordCharacter_slash _⟩

/-- A character that could belong to a word makes one word of the whole name. -/
theorem Of.together (of : reading.Of ('/' :: rest)) (here : reading.before = [])
    (together : isWordCharacter reading.between = true) :
    word rest = reading.name ∧
      afterWord rest = '/' :: (reading.line ++ ("dwc3".toList ++ reading.after)) := by
  have all : ∀ character ∈ reading.name, isWordCharacter character = true := by
    intro character mem
    rcases List.mem_append.mp mem with first | later
    · exact of.first.2 character first
    · rcases List.mem_cons.mp later with rfl | second
      · exact together
      · exact of.second_usb character second
  rw [of.rest_eq here]
  exact word_append_cons all isWordCharacter_slash _

theorem length_name (reading : Reading) :
    reading.name.length = reading.first.length + reading.second.length + 4 := by
  simp only [name, List.length_append, List.length_cons]
  have usb : "usb".toList.length = 3 := rfl
  omega

theorem Of.second_pos (of : reading.Of header) : 0 < reading.second.length :=
  List.length_pos_iff.mpr of.second.1

theorem Of.first_pos (of : reading.Of header) : 0 < reading.first.length :=
  List.length_pos_iff.mpr of.first.1

end Reading

section Behind

variable {rest found : List Char}

/-- What is found with the words apart is read with them apart. -/
theorem reading_of_apart? (apart : apart? rest = some found) :
    ∃ reading : Reading, reading.Of ('/' :: rest) ∧ reading.before = [] ∧
      reading.name = found ∧ isWordCharacter reading.between = false := by
  rw [apart?] at apart
  split at apart
  · next first more between later begun ended =>
    split at apart
    · next accepted =>
      obtain ⟨visible, named⟩ := accepted
      obtain ⟨long, ⟨second, split⟩, ending⟩ := endsName_iff.mp named
      obtain ⟨line, after, tail, clean⟩ := controllerEnd_iff.mp ending
      have name : first :: more ++ between :: (second ++ "usb".toList) = found := by
        rw [← split]
        exact Option.some.inj apart
      have whole : rest = found ++ '/' :: (line ++ ("dwc3".toList ++ after)) := by
        rw [← word_append_afterWord rest, ended, begun, ← name, ← split, ← tail,
          List.append_assoc (first :: more)]
        exact congrArg (fun tail => first :: more ++ between :: tail)
          (word_append_afterWord later).symm
      refine ⟨⟨[], first :: more, between, second, line, after⟩, ?_, rfl, name,
        isWordCharacter_of_afterWord ended⟩
      refine ⟨?_, ⟨List.cons_ne_nil _ _, fun character mem => ?_⟩, visible, ⟨?_, ?_⟩, clean⟩
      · rw [whole, ← name]
        rfl
      · exact isWordCharacter_of_mem_word (begun ▸ mem)
      · rintro rfl
        rw [split] at long
        exact absurd long (by decide)
      · intro character mem
        exact isWordCharacter_of_mem_word (split ▸ List.mem_append_left _ mem)
    · cases apart
  · cases apart

theorem apart?_of_reading {reading : Reading} (of : reading.Of ('/' :: rest))
    (here : reading.before = []) (apart : isWordCharacter reading.between = false) :
    apart? rest = some reading.name := by
  obtain ⟨begun, later, ended, second, tail⟩ := of.apart here apart
  have named : endsName 4 (word later) (afterWord later) = true := by
    refine endsName_iff.mpr ⟨?_, ⟨reading.second, second⟩, ?_⟩
    · have pos := of.second_pos
      have usb : "usb".toList.length = 3 := rfl
      rw [second, List.length_append]
      omega
    · exact controllerEnd_iff.mpr ⟨_, _, tail, of.line⟩
  rw [apart?, ended, begun]
  cases first : reading.first with
  | nil => exact absurd first of.first.1
  | cons head more =>
      dsimp only
      rw [if_pos ⟨of.between, named⟩, second, Reading.name, first]

/-- What is found as one word can be read with all but the end of it as the first word. -/
theorem reading_of_together? (together : together? rest = some found) :
    word rest = found ∧
      ∃ reading : Reading, reading.Of ('/' :: rest) ∧ reading.before = [] ∧
        reading.name = found ∧ reading.second.length = 1 := by
  rw [together?] at together
  split at together
  · next named =>
    have name := Option.some.inj together
    obtain ⟨long, ⟨front, split⟩, ending⟩ := endsName_iff.mp named
    obtain ⟨line, after, tail, clean⟩ := controllerEnd_iff.mp ending
    have all : ∀ character ∈ front, isWordCharacter character = true := fun character mem =>
      isWordCharacter_of_mem_word (split ▸ List.mem_append_left _ mem)
    rw [split, List.length_append] at long
    have usb : "usb".toList.length = 3 := rfl
    obtain ⟨most, last, rfl⟩ : ∃ most last, front = most ++ [last] :=
      ⟨_, _, (List.dropLast_concat_getLast (List.length_pos_iff.mp (by omega))).symm⟩
    rw [List.length_append, List.length_singleton] at long
    obtain ⟨first, between, rfl⟩ : ∃ first between, most = first ++ [between] :=
      ⟨_, _, (List.dropLast_concat_getLast (List.length_pos_iff.mp (by omega))).symm⟩
    rw [List.length_append, List.length_singleton] at long
    have whole : rest = found ++ '/' :: (line ++ ("dwc3".toList ++ after)) := by
      rw [← word_append_afterWord rest, name, tail]
    have parts : first ++ between :: ([last] ++ "usb".toList) = found := by
      rw [← name, split]
      simp
    have firstPos : 0 < first.length := by omega
    have betweenWord := all between (by simp)
    refine ⟨name, ⟨[], first, between, [last], line, after⟩, ?_, rfl, parts, rfl⟩
    refine ⟨?_, ⟨List.length_pos_iff.mp firstPos, fun character mem => ?_⟩, ?_,
      ⟨List.cons_ne_nil _ _, fun character mem => ?_⟩, clean⟩
    · rw [whole, ← parts]
      rfl
    · exact all character (by simp [mem])
    · rintro rfl
      rw [isWordCharacter_lineFeed] at betweenWord
      cases betweenWord
    · exact all character (by simp [List.mem_singleton.mp mem])
  · cases together

theorem together?_of_reading {reading : Reading} (of : reading.Of ('/' :: rest))
    (here : reading.before = []) (together : isWordCharacter reading.between = true) :
    together? rest = some reading.name := by
  obtain ⟨whole, tail⟩ := of.together here together
  have named : endsName 6 (word rest) (afterWord rest) = true := by
    refine endsName_iff.mpr ⟨?_, ⟨reading.first ++ reading.between :: reading.second, ?_⟩, ?_⟩
    · have first := of.first_pos
      have second := of.second_pos
      rw [whole, reading.length_name]
      omega
    · rw [whole, Reading.name]
      simp
    · exact controllerEnd_iff.mpr ⟨_, _, tail, of.line⟩
  rw [together?, if_pos named, whole]

/-- Right behind a slash, the words that are kept apart come before those that are not. -/
theorem precedes_of_found (found? : (apart? rest <|> together? rest) = some found) :
    ∃ reading : Reading, reading.Of ('/' :: rest) ∧ reading.name = found ∧
      ∀ other : Reading, other.Of ('/' :: rest) → reading.Precedes other := by
  have later {reading other : Reading} (here : reading.before = [])
      (behind : other.before ≠ []) : reading.Precedes other := by
    refine .inl ?_
    rw [here]
    exact List.length_pos_iff.mpr behind
  cases apart : apart? rest with
  | some name =>
      rw [apart] at found?
      cases found?
      obtain ⟨reading, of, here, named, between⟩ := reading_of_apart? apart
      refine ⟨reading, of, named, fun other otherOf => ?_⟩
      by_cases otherHere : other.before = []
      · refine .inr ⟨by rw [here, otherHere], ?_⟩
        have first := (of.apart here between).1
        cases otherBetween : isWordCharacter other.between with
        | false =>
            have sameName := (apart?_of_reading otherOf otherHere otherBetween).symm.trans apart
            have lengths := congrArg List.length
              ((Option.some.inj sameName).trans named.symm)
            have otherFirst := (otherOf.apart otherHere otherBetween).1
            rw [other.length_name, reading.length_name] at lengths
            rw [first] at otherFirst
            rw [← otherFirst] at lengths ⊢
            exact .inr ⟨rfl, by omega⟩
        | true =>
            have whole := (otherOf.together otherHere otherBetween).1
            rw [first] at whole
            rw [whole, other.length_name]
            exact .inl (by omega)
      · exact later here otherHere
  | none =>
      rw [apart] at found?
      obtain ⟨whole, reading, of, here, named, second⟩ := reading_of_together? found?
      refine ⟨reading, of, named, fun other otherOf => ?_⟩
      by_cases otherHere : other.before = []
      · refine .inr ⟨by rw [here, otherHere], ?_⟩
        cases otherBetween : isWordCharacter other.between with
        | false =>
            rw [apart?_of_reading otherOf otherHere otherBetween] at apart
            cases apart
        | true =>
            have otherWhole := (otherOf.together otherHere otherBetween).1
            have lengths := congrArg List.length (named.trans (whole.symm.trans otherWhole))
            have otherSecond := otherOf.second_pos
            rw [other.length_name, reading.length_name] at lengths
            omega
      · exact later here otherHere

theorem no_reading_of_not_found (unfound : (apart? rest <|> together? rest) = none)
    {reading : Reading} (of : reading.Of ('/' :: rest)) : reading.before ≠ [] := by
  intro here
  cases between : isWordCharacter reading.between with
  | false =>
      rw [apart?_of_reading of here between] at unfound
      cases unfound
  | true =>
      rw [together?_of_reading of here between] at unfound
      cases apart : apart? rest <;> rw [apart] at unfound <;> cases unfound

end Behind

namespace Reading

/-- The same name in a header that starts one character earlier. -/
def behind (character : Char) (reading : Reading) : Reading :=
  { reading with before := character :: reading.before }

variable {reading other : Reading} {tail : List Char} {head : Char}

theorem Of.behind (of : reading.Of tail) (head : Char) :
    (reading.behind head).Of (head :: tail) where
  whole := congrArg (head :: ·) of.whole
  first := of.first
  between := of.between
  second := of.second
  line := of.line

/-- A reading that does not start right at the head is one of the tail. -/
theorem Of.of_before_ne_nil (of : reading.Of (head :: tail)) (behind : reading.before ≠ []) :
    ∃ shorter : Reading, shorter.Of tail ∧ reading = shorter.behind head := by
  obtain ⟨before, first, between, second, line, after⟩ := reading
  cases before with
  | nil => exact absurd rfl behind
  | cons character before =>
      obtain ⟨rfl, whole⟩ := List.cons.inj of.whole
      exact ⟨⟨before, first, between, second, line, after⟩,
        ⟨whole, of.first, of.between, of.second, of.line⟩, rfl⟩

theorem Precedes.behind (precedes : reading.Precedes other) (head : Char) :
    (reading.behind head).Precedes (other.behind head) := by
  unfold Precedes at *
  simp only [Reading.behind, List.length_cons]
  omega

end Reading

theorem controller?_cons (head : Char) (tail : List Char) :
    controller? (head :: tail) =
      ((if head = '/' then apart? tail <|> together? tail else none) <|> controller? tail) :=
  rfl

/-- No reading starts at a character that is no slash. -/
theorem before_ne_nil {head : Char} {tail : List Char} {reading : Reading}
    (unfound : (if head = '/' then apart? tail <|> together? tail else none) = none)
    (of : reading.Of (head :: tail)) : reading.before ≠ [] := by
  by_cases slash : head = '/'
  · subst slash
    rw [if_pos rfl] at unfound
    exact no_reading_of_not_found unfound of
  · intro here
    have whole := of.whole
    rw [here, List.nil_append] at whole
    exact slash (List.cons.inj whole).1

theorem namesController_of_controller? {header name : List Char}
    (named : controller? header = some name) : NamesController header name := by
  induction header generalizing name with
  | nil => cases named
  | cons head tail induction =>
      rw [controller?_cons] at named
      cases here : (if head = '/' then apart? tail <|> together? tail else none) with
      | some found =>
          rw [here] at named
          cases named
          split at here
          · next slash =>
            subst slash
            exact precedes_of_found here
          · cases here
      | none =>
          rw [here] at named
          obtain ⟨reading, of, rfl, precedes⟩ := induction named
          refine ⟨reading.behind head, of.behind head, rfl, fun other otherOf => ?_⟩
          obtain ⟨shorter, shorterOf, rfl⟩ :=
            otherOf.of_before_ne_nil (before_ne_nil here otherOf)
          exact (precedes shorter shorterOf).behind head

theorem no_reading_of_controller? {header : List Char} (unnamed : controller? header = none)
    (reading : Reading) : ¬ reading.Of header := by
  induction header generalizing reading with
  | nil =>
      intro of
      have whole := congrArg List.length of.whole
      simp at whole
  | cons head tail induction =>
      intro of
      rw [controller?_cons] at unnamed
      cases here : (if head = '/' then apart? tail <|> together? tail else none) with
      | some found =>
          rw [here] at unnamed
          cases unnamed
      | none =>
          rw [here] at unnamed
          obtain ⟨shorter, shorterOf, rfl⟩ := of.of_before_ne_nil (before_ne_nil here of)
          exact induction unnamed shorter shorterOf

theorem controller?_eq_some_iff {header name : List Char} :
    controller? header = some name ↔ NamesController header name := by
  refine ⟨namesController_of_controller?, fun names => ?_⟩
  cases named : controller? header with
  | none =>
      obtain ⟨reading, of, _, _⟩ := names
      exact absurd of (no_reading_of_controller? named reading)
  | some other => rw [(namesController_of_controller? named).unique names]

/-- The two words may stand on either side of a slash. -/
example : controller? "/ab_usb/c_usb/dwc3".toList = some "ab_usb/c_usb".toList := by
  decide +kernel

end UsbTypeC.Uevent
