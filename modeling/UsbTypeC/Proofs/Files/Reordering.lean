import Mathlib.Data.List.Perm.Basic
import UsbTypeC.Proofs.Files.Child

/-! The same entries in another order. The order shows in the listings of directories, which come
out in another order too, and nowhere else: every path leads where it led, and is read and
written as before. -/

namespace UsbTypeC

namespace Tree

theorem lookup_eq_of_perm {entries others : List Entry}
    (distinct : (entries.map Prod.fst).Nodup) (same : others.Perm entries) (place : Location) :
    others.lookup place = entries.lookup place := by
  have distinctOthers : (others.map Prod.fst).Nodup :=
    (same.map Prod.fst).nodup_iff.mpr distinct
  apply Option.ext
  intro node
  constructor
  · intro found
    rcases List.lookup_eq_some_iff.mp found with ⟨earlier, later, rfl, _⟩
    exact lookup_eq_of_mem distinct (same.mem_iff.mp (by simp))
  · intro found
    rcases List.lookup_eq_some_iff.mp found with ⟨earlier, later, rfl, _⟩
    exact lookup_eq_of_mem distinctOthers (same.mem_iff.mpr (by simp))

section SameNodes

variable {after before : Tree} (same : ∀ place, after.node? place = before.node? place)
include same

theorem descend_eq_of_node?_eq (follow : Location → List String → Except Fault Location)
    (place : Location) (steps : List String) :
    after.descend follow place steps = before.descend follow place steps := by
  induction steps generalizing place with
  | nil => rfl
  | cons step rest induction => simp only [descend, same, induction]

theorem walk_eq_of_node?_eq (links : Nat) : after.walk links = before.walk links := by
  induction links with
  | zero =>
      funext place steps
      exact descend_eq_of_node?_eq same _ place steps
  | succ links induction =>
      funext place steps
      rw [walk, walk, induction]
      exact descend_eq_of_node?_eq same _ place steps

end SameNodes

end Tree

/-- What comes of visiting items in another order. -/
theorem mapM_of_perm {α β : Type} {visit : α → Except Error β} {items others : List α}
    {results : List β} (same : others.Perm items) (visited : items.mapM visit = .ok results) :
    ∃ reordered, others.mapM visit = .ok reordered ∧ reordered.Perm results := by
  rcases List.perm_comp_forall₂ same (mapM_eq_ok_iff.mp visited) with ⟨reordered, each, perm⟩
  exact ⟨reordered, mapM_eq_ok_iff.mpr each, perm⟩

namespace Files

structure Reordered (after before : Files) : Prop where
  root : after.root = before.root
  entries : after.tree.entries.Perm before.tree.entries

namespace Reordered

variable {after before : Files} (reordered : after.Reordered before)
include reordered

theorem symm : before.Reordered after where
  root := reordered.root.symm
  entries := reordered.entries.symm

theorem node?_eq (place : Location) : after.tree.node? place = before.tree.node? place := by
  cases place with
  | nil => rfl
  | cons name above => exact Tree.lookup_eq_of_perm before.tree.distinct reordered.entries _

theorem follow_eq (current : Location) (path : Path) :
    after.tree.follow current path = before.tree.follow current path := by
  rw [Tree.follow, Tree.follow, Tree.walk_eq_of_node?_eq reordered.node?_eq]

theorem locate_eq (path : Path) : after.locate path = before.locate path := by
  simp only [locate, reordered.root, reordered.follow_eq]

theorem node_eq (path : Path) : after.node path = before.node path := by
  simp only [node, reordered.locate_eq, reordered.node?_eq]

theorem has_eq (path : Path) : after.has path = before.has path := by
  rw [has, has, reordered.node_eq]

theorem readValue_eq (path : Path) : after.readValue path = before.readValue path := by
  simp only [readValue, readText, content, reordered.node_eq]

theorem realPath_eq (path : Path) : after.realPath path = before.realPath path := by
  simp only [realPath, canonical, followChecked, reordered.root, reordered.follow_eq]

theorem overwrite_eq_error {path : Path} {text : String} {error : Error}
    (refused : before.overwrite path text = .error error) :
    after.overwrite path text = .error error := by
  rw [overwrite_eq_error_iff] at refused ⊢
  rw [reordered.node_eq]
  exact refused

/-- A directory lists the same entries, in another order. -/
theorem listing {directory : Path} {listing : List ListedEntry}
    (listed : before.listing directory = .ok listing) :
    ∃ other, after.listing directory = .ok other ∧ other.Perm listing := by
  rcases node_of_listing listed with ⟨place, found⟩
  rw [Files.listing, found] at listed
  rw [Files.listing, reordered.node_eq, found]
  exact mapM_of_perm (reordered.entries.filterMap _) listed

end Reordered

end Files

end UsbTypeC
