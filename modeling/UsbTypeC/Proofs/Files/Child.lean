import Mathlib.Data.List.Forall2
import UsbTypeC.Proofs.Files.Joining
import UsbTypeC.Proofs.Files.Writing

/-! What lies right below a directory. The same entry can be come upon in two ways: in the
listing of the directory, and by a path that goes one name further than the directory's own.
A listing tells what kind of entry it is, and a path tells where it leads. -/

namespace UsbTypeC

namespace Tree

variable {tree : Tree}

/-- How steps go on behind others: from where these have led, with the links that they have
left, or not at all if these cannot be taken. -/
def GoesOn (tree : Tree) (taken : Except Fault Location)
    (onwards : List String → Except Fault Location) : Prop :=
  match taken with
  | .ok location => ∃ spare, ∀ more, onwards more = tree.walk spare location more
  | .error fault => ∀ more, onwards more = .error fault

theorem goesOn_descend (links : Nat) {follow : Location → List String → Except Fault Location}
    (self : tree.walk links = tree.descend follow)
    (along : ∀ place steps,
      tree.GoesOn (follow place steps) fun more => follow place (steps ++ more))
    (place : Location) (steps : List String) :
    tree.GoesOn (tree.descend follow place steps)
      fun more => tree.descend follow place (steps ++ more) := by
  induction steps generalizing place with
  | nil => exact ⟨links, fun more => congrFun (congrFun self.symm place) more⟩
  | cons step rest induction =>
      simp only [List.cons_append, descend]
      cases tree.node? place with
      | none => exact fun _ => rfl
      | some node =>
          cases node with
          | directory =>
              dsimp only
              by_cases stays : step = "."
              · simp only [if_pos stays]
                exact induction place
              simp only [if_neg stays]
              by_cases rises : step = ".."
              · simp only [if_pos rises]
                exact induction place.tail
              simp only [if_neg rises]
              by_cases long : longestName < step.utf8ByteSize
              · simp only [if_pos long]
                exact fun _ => rfl
              simp only [if_neg long]
              cases tree.node? (.text step :: place) with
              | none => exact fun _ => rfl
              | some next =>
                  cases next with
                  | link target =>
                      simp only [← List.append_assoc]
                      exact along _ _
                  | _ => exact induction _
          | _ => exact fun _ => rfl

theorem goesOn_walk (links : Nat) (place : Location) (steps : List String) :
    tree.GoesOn (tree.walk links place steps) fun more => tree.walk links place (steps ++ more) := by
  induction links generalizing place steps with
  | zero => exact goesOn_descend 0 rfl (fun _ _ _ => rfl) place steps
  | succ links induction => exact goesOn_descend (links + 1) rfl induction place steps

theorem walk_append {links : Nat} {place location : Location} {steps : List String}
    (leads : tree.walk links place steps = .ok location) :
    ∃ spare, ∀ more, tree.walk links place (steps ++ more) = tree.walk spare location more := by
  have onwards := tree.goesOn_walk links place steps
  rw [leads] at onwards
  exact onwards

theorem walk_eq_descend (tree : Tree) (links : Nat) :
    ∃ follow, tree.walk links = tree.descend follow := by
  cases links with
  | zero => exact ⟨_, rfl⟩
  | succ links => exact ⟨_, rfl⟩

/-- Whoever takes a further step stands in a directory. -/
theorem walk_before {links : Nat} {place location : Location} {steps : List String}
    {step : String} (leads : tree.walk links place (steps ++ [step]) = .ok location) :
    ∃ between, tree.walk links place steps = .ok between ∧
      tree.node? between = some .directory := by
  have onwards := tree.goesOn_walk links place steps
  cases before : tree.walk links place steps with
  | error fault =>
      rw [before] at onwards
      cases leads.symm.trans (onwards [step])
  | ok between =>
      rw [before] at onwards
      rcases onwards with ⟨spare, further⟩
      have last := (further [step]).symm.trans leads
      rcases tree.walk_eq_descend spare with ⟨follow, self⟩
      refine ⟨between, rfl, ?_⟩
      rw [self, descend] at last
      cases stands : tree.node? between with
      | none =>
          rw [stands] at last
          cases last
      | some node =>
          rw [stands] at last
          cases node with
          | directory => rfl
          | _ => cases last

/-- From a directory a name leads to the entry of that name, if this is no link. -/
theorem walk_name (links : Nat) {place : Location} {name : String}
    (stands : tree.node? place = some .directory) (valid : PortName.IsValid name)
    (unlinked : ∀ target, tree.node? (.text name :: place) ≠ some (.link target)) :
    tree.walk links place [name] =
      if longestName < name.utf8ByteSize then .error .invalidFilename
      else if (tree.node? (.text name :: place)).isSome then .ok (.text name :: place)
      else .error .entityNotFound := by
  rcases tree.walk_eq_descend links with ⟨follow, self⟩
  rw [self, descend, stands]
  dsimp only
  rw [if_neg valid.2.1, if_neg valid.2.2.1]
  cases entry : tree.node? (.text name :: place) with
  | none => rfl
  | some node =>
      cases node with
      | link target => exact absurd entry (unlinked target)
      | _ => rfl

/-- The entries of a directory are those one name further. -/
theorem mem_children_iff {place : Location} {name : Name} {node : Node} :
    (name, node) ∈ tree.children place ↔ tree.node? (name :: place) = some node := by
  rw [children, List.mem_filterMap]
  constructor
  · intro listed
    rcases listed with ⟨⟨location, held⟩, mem, shown⟩
    cases location with
    | nil => cases shown
    | cons first above =>
        dsimp only at shown
        split at shown
        · next here =>
          cases shown
          exact here ▸ lookup_eq_of_mem tree.distinct mem
        · cases shown
  · intro found
    exact ⟨(name :: place, node), mem_entries_of_node? found, if_pos rfl⟩

end Tree

/-- All items can be visited if each of them can. -/
theorem mapM_eq_ok_iff {α β : Type} {visit : α → Except Error β} {items : List α}
    {results : List β} :
    items.mapM visit = .ok results ↔
      List.Forall₂ (fun item result => visit item = .ok result) items results := by
  induction items generalizing results with
  | nil =>
      rw [List.forall₂_nil_left_iff]
      constructor
      · intro visited
        cases visited
        rfl
      · rintro rfl
        rfl
  | cons item rest induction =>
      rw [List.mapM_cons, List.forall₂_cons_left_iff]
      constructor
      · intro visited
        cases first : visit item with
        | error error =>
            rw [first] at visited
            cases visited
        | ok head =>
            rw [first] at visited
            cases tail : rest.mapM visit with
            | error error =>
                rw [tail] at visited
                cases visited
            | ok others =>
                rw [tail] at visited
                cases visited
                exact ⟨head, others, rfl, induction.mp tail, rfl⟩
      · rintro ⟨head, others, first, tail, rfl⟩
        rw [first, induction.mpr tail]
        rfl

/-- What comes of visiting all items comes of visiting one of them. -/
theorem mem_of_mapM_iff {α β : Type} {visit : α → Except Error β} {items : List α}
    {results : List β} (visited : items.mapM visit = .ok results) {result : β} :
    result ∈ results ↔ ∃ item ∈ items, visit item = .ok result := by
  have each := mapM_eq_ok_iff.mp visited
  clear visited
  induction each with
  | nil => simp
  | cons first _ induction => simp [induction, first, eq_comm]

theorem Path.check_eq_ok_iff {path : Path} :
    path.check = .ok () ↔
      '\x00' ∉ path.text.toList ∧ path.text ≠ "" ∧ path.byteSize ≤ Path.longest := by
  rw [Path.check]
  split
  · next nul => simp [List.contains_iff_mem.mp nul]
  · next clean =>
    have free : '\x00' ∉ path.text.toList := fun mem => clean (List.contains_iff_mem.mpr mem)
    split
    · next empty => simp [String.isEmpty_iff.mp empty]
    · next spelled =>
      rw [String.isEmpty_iff] at spelled
      split
      · next long => simp [Nat.not_le.mpr long]
      · next short => simp [free, spelled, Nat.not_lt.mp short]

/-- A name keeps a path acceptable as long as there is room for it. -/
theorem Path.check_join {base : Path} {name : String} (checked : base.check = .ok ())
    (ends : base.EndsInName) (valid : PortName.IsValid name)
    (room : base.byteSize + 1 + name.utf8ByteSize ≤ Path.longest) :
    (base.join name).check = .ok () := by
  have text := Path.text_join ends (Path.not_absolute_of_free valid.2.2.2.1)
  rw [Path.check_eq_ok_iff] at checked ⊢
  refine ⟨?_, ?_, ?_⟩
  · rw [text]
    simp [checked.1, valid.2.2.2.2]
  · rw [text]
    simp
  · have slash : "/".utf8ByteSize = 1 := rfl
    rw [Path.byteSize, text, String.utf8ByteSize_append, String.utf8ByteSize_append, slash]
    exact room

theorem Path.check_of_join {base : Path} {name : String}
    (checked : (base.join name).check = .ok ()) (ends : base.EndsInName)
    (valid : PortName.IsValid name) : base.check = .ok () := by
  have text := Path.text_join ends (Path.not_absolute_of_free valid.2.2.2.1)
  rw [Path.check_eq_ok_iff, Path.byteSize, text] at checked
  simp only [String.toList_append, List.mem_append, not_or, String.utf8ByteSize_append] at checked
  rw [Path.check_eq_ok_iff]
  refine ⟨checked.1.1.1, ends.text_ne_empty, ?_⟩
  rw [Path.byteSize]
  omega

namespace Files

variable {files : Files} {directory : Path} {place : Location}

/-- A path that does not start from the top is walked from the root. -/
theorem locate_of_not_absolute (files : Files) {path : Path} (nonempty : path.text ≠ "")
    (inside : path.isAbsolute = false) :
    files.locate path =
      path.check.bind fun _ => files.tree.walk Tree.linkLimit files.root.directory path.steps := by
  have start : path.start files.root.directory = files.root.directory := by
    rw [Path.start, inside]
    rfl
  rw [locate, Path.relative_of_not_absolute nonempty inside]
  simp only [Tree.follow, start]
  rfl

/-- A path leads somewhere if it is accepted and the walk comes to an end. -/
theorem locate_eq_ok_iff {path : Path} (nonempty : path.text ≠ "")
    (inside : path.isAbsolute = false) :
    files.locate path = .ok place ↔ path.check = .ok () ∧
      files.tree.walk Tree.linkLimit files.root.directory path.steps = .ok place := by
  rw [files.locate_of_not_absolute nonempty inside]
  cases path.check with
  | error fault => simp [Except.bind]
  | ok done => simp [Except.bind]

theorem has_eq_true_iff {path : Path} :
    files.has path = true ↔ ∃ location node, files.node path = .ok (location, node) := by
  rw [has]
  cases files.node path with
  | error fault => simp
  | ok found => exact iff_of_true rfl ⟨found.1, found.2, rfl⟩

/-- A listing shows the entries that stand one name further, each with its kind. -/
theorem mem_listing_iff {listing : List ListedEntry}
    (found : files.node directory = .ok (place, .directory))
    (listed : files.listing directory = .ok listing) {entry : ListedEntry} :
    entry ∈ listing ↔ ∃ node, files.tree.node? (.text entry.name :: place) = some node ∧
      node.entryType = entry.entryType := by
  rw [Files.listing, found] at listed
  rw [mem_of_mapM_iff listed]
  constructor
  · intro shown
    rcases shown with ⟨⟨name, node⟩, mem, shown⟩
    cases name with
    | text spelling =>
        cases shown
        exact ⟨node, Tree.mem_children_iff.mp mem, rfl⟩
    | undecodable bytes => cases shown
  · intro stands
    rcases stands with ⟨node, found, kind⟩
    refine ⟨(.text entry.name, node), Tree.mem_children_iff.mpr found, ?_⟩
    rw [listedEntry, kind]

/-- Only a directory can be listed. -/
theorem node_of_listing {listing : List ListedEntry}
    (listed : files.listing directory = .ok listing) :
    ∃ place, files.node directory = .ok (place, .directory) := by
  rw [Files.listing] at listed
  split at listed
  · cases listed
  · next place found => exact ⟨place, found⟩
  · cases listed

section Below

variable (ends : directory.EndsInName) (inside : directory.isAbsolute = false)
  {name : String} (valid : PortName.IsValid name)
include ends inside valid

theorem locate_join_eq_ok_iff {location : Location} :
    files.locate (directory.join name) = .ok location ↔
      (directory.join name).check = .ok () ∧
        files.tree.walk Tree.linkLimit files.root.directory (directory.steps ++ [name]) =
          .ok location := by
  have below := Path.not_absolute_of_free valid.2.2.2.1
  have joinedEnds := Path.endsInName_join ends below (Path.endsInName_of_valid valid)
  have joinedInside := (Path.isAbsolute_join ends below).trans inside
  rw [locate_eq_ok_iff joinedEnds.text_ne_empty joinedInside, Path.steps_join ends valid]

/-- A path that goes one name further leads nowhere but from a directory. -/
theorem node_of_locate_join {location : Location}
    (leads : files.locate (directory.join name) = .ok location) :
    ∃ place, files.node directory = .ok (place, .directory) := by
  rcases (locate_join_eq_ok_iff ends inside valid).mp leads with ⟨checked, walked⟩
  rcases Tree.walk_before walked with ⟨place, before, stands⟩
  refine ⟨place, node_eq_ok_iff.mpr ⟨?_, stands⟩⟩
  rw [locate_eq_ok_iff ends.text_ne_empty inside]
  exact ⟨Path.check_of_join checked ends valid, before⟩

/-- One name further there is something if there is an entry of that name, unless the name is
too long for a path. A link may lead nowhere. -/
theorem has_join (found : files.node directory = .ok (place, .directory))
    (room : directory.byteSize + 1 + Tree.longestName ≤ Path.longest)
    (unlinked : ∀ target, files.tree.node? (.text name :: place) ≠ some (.link target)) :
    files.has (directory.join name) = true ↔
      (files.tree.node? (.text name :: place)).isSome ∧
        name.utf8ByteSize ≤ Tree.longestName := by
  rcases node_eq_ok_iff.mp found with ⟨leads, stands⟩
  rcases (locate_eq_ok_iff ends.text_ne_empty inside).mp leads with ⟨checked, walked⟩
  rcases Tree.walk_append walked with ⟨spare, further⟩
  have last := (further [name]).trans (Tree.walk_name spare stands valid unlinked)
  constructor
  · intro present
    rcases has_eq_true_iff.mp present with ⟨location, node, there⟩
    have walkedOn := (locate_join_eq_ok_iff ends inside valid).mp (node_eq_ok_iff.mp there).1
    have arrived := last.symm.trans walkedOn.2
    split at arrived
    · cases arrived
    · next short =>
      split at arrived
      · next entry => exact ⟨entry, Nat.not_lt.mp short⟩
      · cases arrived
  · intro there
    rcases Option.isSome_iff_exists.mp there.1 with ⟨node, entry⟩
    rw [if_neg (Nat.not_lt.mpr there.2), if_pos there.1] at last
    refine has_eq_true_iff.mpr ⟨_, node, node_eq_ok_iff.mpr ⟨?_, entry⟩⟩
    rw [locate_join_eq_ok_iff ends inside valid]
    exact ⟨Path.check_join checked ends valid (by omega), last⟩

end Below

end Files

end UsbTypeC
