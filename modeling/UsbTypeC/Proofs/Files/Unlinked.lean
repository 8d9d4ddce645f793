import UsbTypeC.Proofs.Files.Child

/-! Trees without links. Where no step is taken back, a walk goes down name by name: it can
end only below the place that it started from, and it looks only at the places in between. -/

namespace UsbTypeC

namespace Tree

def LinkFree (tree : Tree) : Prop :=
  ∀ place target, tree.node? place ≠ some (.link target)

/-- Without entries for links there are none. -/
theorem linkFree_of_entries {tree : Tree}
    (free : ∀ entry ∈ tree.entries, entry.2.entryType ≠ .symlink) : tree.LinkFree := by
  intro place target found
  cases place with
  | nil => cases found
  | cons name above => exact free _ (mem_entries_of_node? found) rfl

/-- The place that names lead down to. -/
def down (place : Location) (names : List String) : Location :=
  names.foldl (fun above name => .text name :: above) place

@[simp]
theorem down_nil (place : Location) : down place [] = place :=
  rfl

@[simp]
theorem down_cons (place : Location) (name : String) (rest : List String) :
    down place (name :: rest) = down (.text name :: place) rest :=
  rfl

theorem suffix_down (place : Location) (names : List String) : place <:+ down place names := by
  induction names generalizing place with
  | nil => exact List.suffix_refl place
  | cons name rest induction => exact (List.suffix_cons _ _).trans (induction (.text name :: place))

variable {tree after : Tree} {names : List String}

section Descend

variable {follow other : Location → List String → Except Fault Location}

theorem descend_name (linkFree : tree.LinkFree) {name : String} (valid : PortName.IsValid name)
    (place : Location) (rest : List String) :
    tree.descend follow place (name :: rest) =
      match tree.node? place with
      | none => .error .entityNotFound
      | some .directory =>
          if longestName < name.utf8ByteSize then .error .invalidFilename
          else if (tree.node? (.text name :: place)).isSome then
            tree.descend follow (.text name :: place) rest
          else .error .entityNotFound
      | some _ => .error .notADirectory := by
  rw [descend]
  cases tree.node? place with
  | none => rfl
  | some node =>
      cases node with
      | directory =>
          dsimp only
          rw [if_neg valid.2.1, if_neg valid.2.2.1]
          cases entry : tree.node? (.text name :: place) with
          | none => rfl
          | some next =>
              cases next with
              | link target => exact absurd entry (linkFree _ target)
              | _ => rfl
      | _ => rfl

theorem eq_down_of_descend (linkFree : tree.LinkFree)
    (valid : ∀ name ∈ names, PortName.IsValid name) {place location : Location}
    (leads : tree.descend follow place names = .ok location) : location = down place names := by
  induction names generalizing place with
  | nil =>
      cases leads
      rfl
  | cons name rest induction =>
      rw [descend_name linkFree (valid name List.mem_cons_self)] at leads
      split at leads
      · cases leads
      · split at leads
        · cases leads
        · split at leads
          · exact induction (fun later mem => valid later (List.mem_cons_of_mem _ mem)) leads
          · cases leads
      · cases leads

theorem descend_congr (linkFree : tree.LinkFree) (linkFreeAfter : after.LinkFree)
    (valid : ∀ name ∈ names, PortName.IsValid name) {place : Location}
    (same : ∀ passed, passed <+: names →
      after.node? (down place passed) = tree.node? (down place passed)) :
    after.descend other place names = tree.descend follow place names := by
  induction names generalizing place with
  | nil => rfl
  | cons name rest induction =>
      have here : after.node? place = tree.node? place := same [] List.nil_prefix
      have next : after.node? (.text name :: place) = tree.node? (.text name :: place) :=
        same [name] (List.cons_prefix_cons.mpr ⟨rfl, List.nil_prefix⟩)
      have further : after.descend other (.text name :: place) rest =
          tree.descend follow (.text name :: place) rest := by
        apply induction
        · exact fun later mem => valid later (List.mem_cons_of_mem _ mem)
        · intro passed earlier
          exact same (name :: passed) (List.cons_prefix_cons.mpr ⟨rfl, earlier⟩)
      have fits := valid name List.mem_cons_self
      rw [descend_name linkFreeAfter fits, descend_name linkFree fits, here, next, further]

end Descend

/-- Names lead to the place below that they spell out, or nowhere. -/
theorem eq_down_of_walk (linkFree : tree.LinkFree)
    (valid : ∀ name ∈ names, PortName.IsValid name) {links : Nat} {place location : Location}
    (leads : tree.walk links place names = .ok location) : location = down place names := by
  rcases tree.walk_eq_descend links with ⟨follow, self⟩
  rw [self] at leads
  exact eq_down_of_descend linkFree valid leads

/-- Nothing but the places on the way decides where names lead. -/
theorem walk_congr (linkFree : tree.LinkFree) (linkFreeAfter : after.LinkFree)
    (valid : ∀ name ∈ names, PortName.IsValid name) (links : Nat) {place : Location}
    (same : ∀ passed, passed <+: names →
      after.node? (down place passed) = tree.node? (down place passed)) :
    after.walk links place names = tree.walk links place names := by
  rcases tree.walk_eq_descend links with ⟨follow, self⟩
  rcases after.walk_eq_descend links with ⟨other, selfAfter⟩
  rw [self, selfAfter]
  exact descend_congr linkFree linkFreeAfter valid same

end Tree

namespace Files

variable {files after : Files}

theorem root_eq_of_outline_eq (same : after.outline = files.outline) : after.root = files.root := by
  have roots : after.outline.root = files.outline.root := congrArg Files.root same
  exact roots

/-- Writing makes no links. -/
theorem linkFree_of_outline_eq (same : after.outline = files.outline)
    (linkFree : files.tree.LinkFree) : after.tree.LinkFree := by
  intro place target found
  have outlined := map_outline_node?_eq same place
  rw [found] at outlined
  rcases Option.map_eq_some_iff.mp outlined.symm with ⟨node, held, isLink⟩
  cases node with
  | link other => exact linkFree place other held
  | _ => cases isLink

end Files

end UsbTypeC
