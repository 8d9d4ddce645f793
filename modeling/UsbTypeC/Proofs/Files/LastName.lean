import UsbTypeC.Port.Name
import UsbTypeC.Proofs.Text.Pieces
import UsbTypeC.Proofs.Files.Writing

/-! Where a path leads that ends in a name. Links on the way may lead anywhere, but as long
as no link goes by that name itself, the path leads to an entry of that name or nowhere. -/

namespace UsbTypeC

namespace Path

/-- A path whose last part is a name. -/
def EndsIn (path : Path) (name : String) : Prop :=
  path.text.toList = name.toList ∨ ∃ front, path.text.toList = front ++ '/' :: name.toList

theorem EndsIn.join {child name : String} (ends : EndsIn ⟨child⟩ name) (base : Path) :
    (base.join child).EndsIn name := by
  have below (front : List Char) (cut : (base.join child).text.toList =
      front ++ '/' :: child.toList) : (base.join child).EndsIn name := by
    rcases ends with whole | ⟨between, whole⟩
    · exact .inr ⟨front, by rw [cut, ← whole]⟩
    · refine .inr ⟨front ++ '/' :: between, ?_⟩
      rw [cut, show child.toList = _ from whole, List.append_assoc, List.cons_append]
  unfold Path.join at below ⊢
  split
  · exact ends
  · split
    · next slash =>
      rcases List.getLast?_eq_some_iff.mp (by simpa using slash) with ⟨front, cut⟩
      rw [if_neg ‹_›, if_pos slash] at below
      exact below front (by simp [cut])
    · rw [if_neg ‹_›, if_neg ‹_›] at below
      exact below base.text.toList (by simp)

/-- Without its leading slashes a path still ends in the same name. -/
theorem EndsIn.relative {path : Path} {name : String} (valid : PortName.IsValid name)
    (ends : path.EndsIn name) : path.relative.EndsIn name := by
  have spelled : name.toList ≠ [] := fun empty =>
    valid.1 (String.toList_eq_nil_iff.mp empty)
  have kept : name.toList.dropWhile (· == '/') = name.toList := by
    cases letters : name.toList with
    | nil => rfl
    | cons first rest =>
        have noSlash : first ≠ '/' := by
          rintro rfl
          exact valid.2.2.2.1 (letters ▸ List.mem_cons_self)
        rw [List.dropWhile_cons, if_neg (by simpa using noSlash)]
  have dropped : EndsIn ⟨withoutLeadingSlashes path.text⟩ name := by
    rw [EndsIn, withoutLeadingSlashes, String.toList_ofList]
    rcases ends with whole | ⟨front, whole⟩
    · exact .inl (by rw [whole, kept])
    · rw [whole, List.dropWhile_append]
      split
      · exact .inl (by rw [List.dropWhile_cons, if_pos (by simp), kept])
      · exact .inr ⟨_, rfl⟩
  have nonempty : withoutLeadingSlashes path.text ≠ "" := by
    intro empty
    rw [EndsIn, empty] at dropped
    rcases dropped with whole | ⟨front, whole⟩
    · exact spelled whole.symm
    · simp at whole
  rw [Path.relative]
  rwa [if_neg (by simpa using nonempty)]

theorem EndsIn.steps {path : Path} {name : String} (valid : PortName.IsValid name)
    (ends : path.EndsIn name) : ∃ before, path.steps = before ++ [name] := by
  have free : '/' ∉ name.toList := valid.2.2.2.1
  have names : ∃ before, path.names = before ++ [name] := by
    rw [Path.names]
    rcases ends with whole | ⟨front, whole⟩
    · exact ⟨[], by rw [whole, pieces_of_free free]; simp⟩
    · refine ⟨(pieces '/' front).map String.ofList, ?_⟩
      rw [whole, pieces_append_last free]
      simp
  rcases names with ⟨before, cut⟩
  refine ⟨before.filter (· ≠ ""), ?_⟩
  rw [Path.steps, cut]
  simp [valid.1]

end Path

namespace Tree

/-- No link goes by a name. -/
def Unlinked (tree : Tree) (name : String) : Prop :=
  ∀ above target, tree.node? (.text name :: above) ≠ some (.link target)

theorem unlinked_of_entries {tree : Tree} {name : String}
    (entries : ∀ entry ∈ tree.entries, entry.1.head? = some (.text name) →
      entry.2.entryType ≠ .symlink) : tree.Unlinked name := by
  intro above target found
  exact entries _ (mem_entries_of_node? found) rfl rfl

variable {tree : Tree} {name : String}

/-- Whether a link on the way is followed or not, the last step is still to be taken. -/
theorem head?_descend (unlinked : tree.Unlinked name) (valid : PortName.IsValid name)
    {follow : Location → List String → Except Fault Location}
    (along : ∀ place before location, follow place (before ++ [name]) = .ok location →
      location.head? = some (.text name))
    {place location : Location} {before : List String}
    (leads : tree.descend follow place (before ++ [name]) = .ok location) :
    location.head? = some (.text name) := by
  induction before generalizing place with
  | nil =>
      rw [List.nil_append, descend] at leads
      split at leads
      · cases leads
      · rw [if_neg valid.2.1, if_neg valid.2.2.1] at leads
        split at leads
        · cases leads
        · split at leads
          · cases leads
          · next target link => exact absurd link (unlinked place target)
          · cases leads
            rfl
      · cases leads
  | cons step rest induction =>
      rw [List.cons_append, descend] at leads
      split at leads
      · cases leads
      · split at leads
        · exact induction leads
        · split at leads
          · exact induction leads
          · split at leads
            · cases leads
            · split at leads
              · cases leads
              · rw [← List.append_assoc] at leads
                exact along _ _ _ leads
              · exact induction leads
      · cases leads

theorem head?_walk (unlinked : tree.Unlinked name) (valid : PortName.IsValid name)
    {links : Nat} {place location : Location} {before : List String}
    (leads : tree.walk links place (before ++ [name]) = .ok location) :
    location.head? = some (.text name) := by
  induction links generalizing place location before with
  | zero =>
      exact head?_descend unlinked valid (fun _ _ _ refused => by cases refused) leads
  | succ links induction =>
      exact head?_descend unlinked valid (fun _ _ _ later => induction later) leads

end Tree

namespace Files

/-- A path that ends in a name by which no link goes leads to an entry of that name. -/
theorem head?_locate {files : Files} {name : String} (unlinked : files.tree.Unlinked name)
    (valid : PortName.IsValid name) {path : Path} (ends : path.EndsIn name)
    {location : Location} (leads : files.locate path = .ok location) :
    location.head? = some (.text name) := by
  rcases (ends.relative valid).steps valid with ⟨before, steps⟩
  rw [locate] at leads
  cases checked : path.relative.check with
  | error fault =>
      rw [checked] at leads
      cases leads
  | ok done =>
      rw [checked] at leads
      simp only [bind, Except.bind, Tree.follow, steps] at leads
      exact Tree.head?_walk unlinked valid leads

end Files

end UsbTypeC
