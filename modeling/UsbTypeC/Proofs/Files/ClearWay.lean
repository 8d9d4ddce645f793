import UsbTypeC.Proofs.Files.Resolution

/-! Ways that are clear: below some place, they go from directory to directory by names alone.
Whatever links are followed, only such ways are left behind, since a link starts a way from the
top again or goes on from where it stands itself, and never becomes part of the way. -/

namespace UsbTypeC

/-- A name that leads to one entry of a directory. -/
def Name.IsProper : Name → Prop
  | .text spelling => PortName.IsValid spelling
  | .undecodable _ => False

theorem Name.map_text_injective : Function.Injective (List.map Name.text) :=
  List.map_injective_iff.mpr fun _ _ => Name.text.inj

theorem Name.mapM_text? (texts : List String) : (texts.map text).mapM text? = some texts := by
  induction texts with
  | nil => rfl
  | cons text rest induction =>
      rw [List.map_cons, List.mapM_cons, induction]
      rfl

/-- Names that are texts one by one are the names of a list of texts. -/
theorem Name.eq_map_text {names : List Name} (texts : ∀ name ∈ names, ∃ text, name = .text text) :
    ∃ spelled : List String, names = spelled.map .text := by
  induction names with
  | nil => exact ⟨[], rfl⟩
  | cons name rest induction =>
      rcases texts name List.mem_cons_self with ⟨text, rfl⟩
      rcases induction fun name mem => texts name (List.mem_cons_of_mem _ mem) with ⟨spelled, rfl⟩
      exact ⟨text :: spelled, rfl⟩

theorem Name.IsProper.exists_text {name : Name} (proper : name.IsProper) :
    ∃ text, name = .text text := by
  cases name with
  | text spelling => exact ⟨spelling, rfl⟩
  | undecodable bytes => cases proper

instance (name : Name) : Decidable name.IsProper :=
  match name with
  | .text spelling => inferInstanceAs (Decidable (PortName.IsValid spelling))
  | .undecodable _ => isFalse id

namespace Tree

/-- All names are texts, and each is good for one entry of a directory. -/
def WellNamed (tree : Tree) : Prop :=
  ∀ entry ∈ tree.entries, ∀ name ∈ entry.1, name.IsProper

instance (tree : Tree) : Decidable tree.WellNamed :=
  inferInstanceAs (Decidable (∀ entry ∈ tree.entries, ∀ name ∈ entry.1, name.IsProper))

/-- Whether a step down from a place needs no link. -/
structure StepsDown (tree : Tree) (place : Location) (step : String) : Prop where
  stands : tree.node? place = some .directory
  name : IsNameStep step
  entry : ∃ node, tree.node? (.text step :: place) = some node ∧ node.entryType ≠ .symlink

/-- Whether a place is reached by steps down as far as it lies below the top. -/
def Clear (tree : Tree) (top place : Location) : Prop :=
  ∀ name above, name :: above <:+ place → ¬ name :: above <:+ top →
    ∃ step, name = .text step ∧ tree.StepsDown above step

variable {tree : Tree} {top place next location : Location} {parts : List String}

theorem valid_of_node (named : tree.WellNamed) {step : String} {node : Node}
    (found : tree.node? (.text step :: place) = some node) : PortName.IsValid step :=
  named _ (mem_entries_of_node? found) _ List.mem_cons_self

theorem texts_of_node (named : tree.WellNamed) {node : Node}
    (found : tree.node? place = some node) : ∃ names : List String, place = names.map .text := by
  cases place with
  | nil => exact ⟨[], rfl⟩
  | cons name above =>
      have mem := mem_entries_of_node? found
      exact Name.eq_map_text fun name inside => (named _ mem name inside).exists_text

namespace Clear

theorem self (tree : Tree) (place : Location) : tree.Clear place place :=
  fun _ _ inside outside => absurd inside outside

theorem of_suffix (clear : tree.Clear top place) (suffix : next <:+ place) :
    tree.Clear top next :=
  fun name above inside outside => clear name above (inside.trans suffix) outside

theorem lower (clear : tree.Clear top place) (suffix : top <:+ next) : tree.Clear next place :=
  fun name above inside outside =>
    clear name above inside fun within => outside (within.trans suffix)

/-- One step leaves a clear way. -/
theorem move (clear : tree.Clear top place) (stands : tree.node? place = some .directory)
    {step : String} {count : Nat} {ahead : List String}
    (move : tree.Move place step count next ahead) : tree.Clear top next := by
  cases move with
  | stay => exact clear
  | rise => exact clear.of_suffix (List.tail_suffix place)
  | enter name entry solid =>
      intro first above inside outside
      rcases List.suffix_cons_iff.mp inside with whole | below
      · rcases List.cons.inj whole with ⟨rfl, rfl⟩
        exact ⟨step, rfl, stands, name, _, entry, solid⟩
      · exact clear first above below outside
  | @along _ target name entry =>
      -- The link itself is not entered: its path is taken from where it stands, or from the top.
      rw [Path.start]
      split
      · exact clear.of_suffix List.nil_suffix
      · exact clear

/-- And so does any number of steps. -/
theorem of_leads (clear : tree.Clear top place) {links : Nat} {steps : List String}
    (leads : tree.Leads links place steps location) : tree.Clear top location := by
  induction leads with
  | here place => exact clear
  | move stands move further induction => exact induction (clear.move stands move)

/-- A clear way begins with a step down. -/
theorem first {part : String} {rest : List String}
    (clear : tree.Clear place (down place (part :: rest))) :
    tree.StepsDown place part ∧
      tree.Clear (.text part :: place) (down (.text part :: place) rest) := by
  constructor
  · have longer : ¬ Name.text part :: place <:+ place :=
      fun suffix => Nat.not_succ_le_self _ suffix.length_le
    rcases clear (.text part) place (suffix_down _ rest) longer with ⟨step, same, down⟩
    cases same
    exact down
  · exact clear.lower (List.suffix_cons _ _)

/-- No link is needed to go a clear way. -/
theorem leads (clear : tree.Clear place (down place parts)) :
    tree.Leads 0 place parts (down place parts) := by
  induction parts generalizing place with
  | nil => exact .here place
  | cons part rest induction =>
      rcases clear.first with ⟨stepsDown, further⟩
      rcases stepsDown.entry with ⟨node, entry, solid⟩
      exact .move stepsDown.stands (.enter stepsDown.name entry solid) (induction further)

theorem valid (clear : tree.Clear place (down place parts)) (named : tree.WellNamed) :
    ∀ part ∈ parts, PortName.IsValid part := by
  induction parts generalizing place with
  | nil => exact fun _ mem => absurd mem List.not_mem_nil
  | cons part rest induction =>
      rcases clear.first with ⟨stepsDown, further⟩
      rcases stepsDown.entry with ⟨node, entry, _⟩
      exact List.forall_mem_cons.mpr ⟨valid_of_node named entry, induction further⟩

/-- There is no link on a clear way, nor at its end. -/
theorem no_link (clear : tree.Clear place (down place parts))
    (solid : ∀ target, tree.node? place ≠ some (.link target)) :
    ∀ passed, passed <+: parts → ∀ target, tree.node? (down place passed) ≠ some (.link target) := by
  induction parts generalizing place with
  | nil =>
      intro passed earlier
      rw [List.prefix_nil.mp earlier]
      exact solid
  | cons part rest induction =>
      intro passed earlier
      rcases List.prefix_cons_iff.mp earlier with rfl | ⟨more, rfl, within⟩
      · exact solid
      · rcases clear.first with ⟨stepsDown, further⟩
        rcases stepsDown.entry with ⟨node, entry, other⟩
        apply induction further _ more within
        intro target found
        cases entry.symm.trans found
        exact other rfl

/-- What lies below the top on a clear way is spelled out. -/
theorem eq_down (clear : tree.Clear top place) (below : top <:+ place) :
    ∃ parts, place = down top parts := by
  rcases below with ⟨front, rfl⟩
  induction front with
  | nil => exact ⟨[], rfl⟩
  | cons name front induction =>
      have longer : ¬ name :: (front ++ top) <:+ top := by
        intro suffix
        have short := suffix.length_le
        simp only [List.length_cons, List.length_append] at short
        omega
      rcases clear name (front ++ top) (List.suffix_refl _) longer with ⟨step, rfl, _⟩
      rcases induction (clear.of_suffix (List.suffix_cons _ _)) with ⟨parts, spelled⟩
      refine ⟨parts ++ [step], ?_⟩
      rw [List.cons_append, spelled]
      simp [down]

/-- Only texts are entered on the way. -/
theorem texts (clear : tree.Clear top place) {directory : List String}
    (named : top = directory.map .text) : ∃ names : List String, place = names.map .text := by
  apply Name.eq_map_text
  intro name mem
  rcases List.append_of_mem mem with ⟨front, above, rfl⟩
  by_cases within : name :: above <:+ top
  · have inside := within.subset List.mem_cons_self
    rw [named] at inside
    rcases List.mem_map.mp inside with ⟨text, _, rfl⟩
    exact ⟨text, rfl⟩
  · rcases clear name above (List.suffix_append _ _) within with ⟨step, rfl, _⟩
    exact ⟨step, rfl⟩

end Clear

end Tree

end UsbTypeC
