import Mathlib.Data.String.Basic
import UsbTypeC.Proofs.Files.Reordering
import UsbTypeC.Usb.PlatformController

/-! Which USB controller of the platform is asked whether it can wake the system. It is the first
by name, so that the order in which the platform's devices are listed makes no difference. -/

namespace UsbTypeC.PlatformController

/-- The controller of a listing that comes first by name. -/
structure IsFirst (listing : List ListedEntry) (controller : String) : Prop where
  listed : ∃ entry ∈ listing, entry.name = controller
  marked : nameMark.toList <:+: controller.toList
  least : ∀ entry ∈ listing, nameMark.toList <:+: entry.name.toList → controller ≤ entry.name

theorem least?_eq_none_iff {names : List String} : least? names = none ↔ names = [] := by
  cases names with
  | nil => exact iff_of_true rfl rfl
  | cons name rest =>
      refine iff_of_false ?_ (List.cons_ne_nil name rest)
      rw [least?]
      cases least? rest with
      | none => exact Option.some_ne_none name
      | some least => exact Option.some_ne_none _

theorem least?_eq_some_iff {names : List String} {least : String} :
    least? names = some least ↔ least ∈ names ∧ ∀ name ∈ names, least ≤ name := by
  induction names generalizing least with
  | nil => exact iff_of_false (Option.some_ne_none least).symm fun listed => by cases listed.1
  | cons name rest induction =>
      rw [least?]
      cases found : least? rest with
      | none =>
          have empty := least?_eq_none_iff.mp found
          subst empty
          constructor
          · intro chosen
            cases chosen
            refine ⟨List.mem_cons_self, List.forall_mem_cons.mpr ⟨le_refl name, ?_⟩⟩
            exact fun listed mem => absurd mem List.not_mem_nil
          · intro isLeast
            exact congrArg some (List.mem_singleton.mp isLeast.1).symm
      | some other =>
          rcases induction.mp found with ⟨mem, below⟩
          have chosenLeast : (if name < other then name else other) ∈ name :: rest ∧
              ∀ listed ∈ name :: rest, (if name < other then name else other) ≤ listed := by
            split
            · next before =>
              refine ⟨List.mem_cons_self, List.forall_mem_cons.mpr ⟨le_refl name, ?_⟩⟩
              exact fun listed listedMem => before.le.trans (below listed listedMem)
            · next behind =>
              exact ⟨List.mem_cons_of_mem name mem,
                List.forall_mem_cons.mpr ⟨not_lt.mp behind, below⟩⟩
          constructor
          · intro chosen
            cases chosen
            exact chosenLeast
          · intro isLeast
            exact congrArg some (le_antisymm (chosenLeast.2 least isLeast.1)
              (isLeast.2 _ chosenLeast.1))

theorem first?_eq_some_iff {files : Files} {controller : String} :
    first? files = some controller ↔
      ∃ listing, files.listing platformDevices = .ok listing ∧ IsFirst listing controller := by
  rw [first?]
  cases files.listing platformDevices with
  | error error =>
      refine iff_of_false (Option.some_ne_none controller).symm fun first => ?_
      cases first.choose_spec.1
  | ok listing =>
      simp only [least?_eq_some_iff, List.mem_filter, List.mem_map, occursIn_iff]
      constructor
      · intro first
        rcases first with ⟨⟨listed, marked⟩, least⟩
        refine ⟨listing, rfl, listed, marked, ?_⟩
        exact fun entry mem bears => least entry.name ⟨⟨entry, mem, rfl⟩, bears⟩
      · intro first
        rcases first with ⟨_, same, first⟩
        cases same
        refine ⟨⟨first.listed, first.marked⟩, ?_⟩
        intro name bears
        rcases bears with ⟨⟨entry, mem, named⟩, bears⟩
        subst named
        exact first.least entry mem bears

theorem canWake_iff {files : Files} :
    canWake files = true ↔ ∃ listing controller, files.listing platformDevices = .ok listing ∧
      IsFirst listing controller ∧
      files.has ((platformDevices.join controller).join "power/wakeup") = true := by
  rw [canWake]
  cases found : first? files with
  | none =>
      refine iff_of_false Bool.false_ne_true fun wakes => ?_
      rcases wakes with ⟨listing, controller, listed, first, _⟩
      rw [first?_eq_some_iff.mpr ⟨listing, listed, first⟩] at found
      cases found
  | some controller =>
      rcases first?_eq_some_iff.mp found with ⟨listing, listed, first⟩
      constructor
      · intro wakes
        exact ⟨listing, controller, listed, first, wakes⟩
      · intro wakes
        rcases wakes with ⟨other, name, otherListed, otherFirst, wakes⟩
        rw [first?_eq_some_iff.mpr ⟨other, otherListed, otherFirst⟩] at found
        cases found
        exact wakes

theorem canWake_of_reordered {after before : Files} (reordered : after.Reordered before)
    (wakes : canWake before = true) : canWake after = true := by
  rcases canWake_iff.mp wakes with ⟨listing, controller, listed, first, found⟩
  rcases reordered.listing listed with ⟨other, otherListed, same⟩
  have present : ∃ entry ∈ other, entry.name = controller :=
    first.listed.imp fun entry => And.imp_left same.mem_iff.mpr
  refine canWake_iff.mpr ⟨other, controller, otherListed,
    ⟨present, first.marked, fun entry mem => first.least entry (same.mem_iff.mp mem)⟩, ?_⟩
  rw [reordered.has_eq, found]

theorem canWake_eq_of_reordered {after before : Files} (reordered : after.Reordered before) :
    canWake after = canWake before :=
  Bool.eq_iff_iff.mpr ⟨canWake_of_reordered reordered.symm, canWake_of_reordered reordered⟩

end UsbTypeC.PlatformController
