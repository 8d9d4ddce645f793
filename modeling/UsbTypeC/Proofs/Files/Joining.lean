import UsbTypeC.Files.Path
import UsbTypeC.Port.Name
import UsbTypeC.Proofs.Text.Pieces

/-! Paths that are joined. Below a path that ends in a name come the names of whatever is
joined to it, unless that starts from the top again. -/

namespace UsbTypeC.Path

/-- A path that neither is empty nor ends in a slash. -/
def EndsInName (path : Path) : Prop :=
  path.names.getLast? ≠ some ""

instance (path : Path) : Decidable path.EndsInName :=
  inferInstanceAs (Decidable (_ ≠ _))

theorem names_ne_nil (path : Path) : path.names ≠ [] := by
  simp [names, pieces_ne_nil]

theorem EndsInName.text_ne_empty {path : Path} (ends : path.EndsInName) : path.text ≠ "" := by
  intro empty
  apply ends
  rw [names, empty]
  rfl

theorem EndsInName.no_slash {path : Path} (ends : path.EndsInName) :
    path.text.toList.getLast? ≠ some '/' := by
  intro slash
  rcases List.getLast?_eq_some_iff.mp slash with ⟨front, whole⟩
  apply ends
  rw [names, whole, pieces_append_last (by simp)]
  simp

theorem steps_of_endsInName {path : Path} (ends : path.EndsInName) :
    path.steps = path.names.filter (· ≠ "") := by
  rw [steps, if_neg ends, List.append_nil]

section Joined

variable {base : Path} {child : String} (ends : base.EndsInName)
  (below : isAbsolute ⟨child⟩ = false)
include ends below

theorem text_join : (base.join child).text = base.text ++ "/" ++ child := by
  have nonempty : base.text.isEmpty = false := by simpa using ends.text_ne_empty
  have noSlash : (base.text.toList.getLast? == some '/') = false := by simpa using ends.no_slash
  simp [join, below, nonempty, noSlash]

theorem names_join : (base.join child).names = base.names ++ (Path.mk child).names := by
  have whole : (base.join child).text.toList = base.text.toList ++ '/' :: child.toList := by
    rw [text_join ends below]
    simp
  rw [names, whole, pieces_append, List.map_append]
  rfl

theorem endsInName_join (childEnds : EndsInName ⟨child⟩) : (base.join child).EndsInName := by
  rw [EndsInName, names_join ends below, List.getLast?_append]
  cases last : (Path.mk child).names.getLast? with
  | none => exact absurd (List.getLast?_eq_none_iff.mp last) (names_ne_nil ⟨child⟩)
  | some name => exact fun same => childEnds (last.trans same)

theorem isAbsolute_join : (base.join child).isAbsolute = base.isAbsolute := by
  rw [isAbsolute, text_join ends below, isAbsolute]
  cases spelled : base.text.toList with
  | nil => exact absurd (String.toList_eq_nil_iff.mp spelled) ends.text_ne_empty
  | cons first rest => simp [spelled]

end Joined

/-- A path that does not start from the top is seen from the root as it stands. -/
theorem relative_of_not_absolute {path : Path} (nonempty : path.text ≠ "")
    (inside : path.isAbsolute = false) : path.relative = path := by
  have kept : withoutLeadingSlashes path.text = path.text := by
    rw [isAbsolute] at inside
    rw [withoutLeadingSlashes, ← String.toList_inj, String.toList_ofList]
    cases spelled : path.text.toList with
    | nil => rfl
    | cons first rest =>
        rw [spelled] at inside
        have different : first ≠ '/' := by simpa using inside
        simp [different]
  rw [relative, kept]
  exact if_neg (by simpa using nonempty)

section Name

variable {name : String}

theorem names_of_free (free : '/' ∉ name.toList) : (Path.mk name).names = [name] := by
  simp [names, pieces_of_free free]

theorem not_absolute_of_free (free : '/' ∉ name.toList) : isAbsolute ⟨name⟩ = false := by
  rw [isAbsolute]
  cases spelled : name.toList with
  | nil => rfl
  | cons first rest =>
      rw [spelled] at free
      have different : first ≠ '/' := fun same => free (same ▸ List.mem_cons_self)
      simpa using different

theorem endsInName_of_valid (valid : PortName.IsValid name) : EndsInName ⟨name⟩ := by
  rw [EndsInName, names_of_free valid.2.2.2.1]
  exact fun same => valid.1 (Option.some.inj same)

/-- A name that is joined is one step more. -/
theorem steps_join {base : Path} (ends : base.EndsInName) (valid : PortName.IsValid name) :
    (base.join name).steps = base.steps ++ [name] := by
  have below := not_absolute_of_free valid.2.2.2.1
  rw [steps_of_endsInName (endsInName_join ends below (endsInName_of_valid valid)),
    names_join ends below, names_of_free valid.2.2.2.1, List.filter_append,
    steps_of_endsInName ends]
  simp [valid.1]

end Name

end UsbTypeC.Path
