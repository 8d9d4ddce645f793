import Mathlib.Control.Monad.Basic
import UsbTypeC.Proofs.Files.Rewriting
import UsbTypeC.Proofs.Text.Utf8Reading
import UsbTypeC.Proofs.Usb.PowerBudget

/-! What becomes of the files while power is delivered for a while. The draw of the gadget
is kept as a whole or not at all. If both attributes can be read on entry, everything is
in the end as it was before, even if the two are one file. If one of them cannot, what is
written over the other one on entry stays there. -/

namespace UsbTypeC

namespace Files

variable {files : Files} {path : Path} {text : String} {entry : Entry}

theorem content_of_readText (read : files.readText path = .ok text) :
    files.content path = .ok (Utf8.bytes text) := by
  rw [readText] at read
  cases held : files.content path with
  | error fault =>
      rw [held] at read
      cases read
  | ok content =>
      simp only [held] at read
      cases spelled : Utf8.text? content with
      | none =>
          simp only [spelled] at read
          cases read
      | some spelling =>
          simp only [spelled] at read
          cases read
          rw [Utf8.bytes_of_text? spelled]

theorem Reaches.content_eq (reaches : files.Reaches path entry.1)
    (mem : entry ∈ files.tree.entries) : files.content path = entry.2.content :=
  content_of_node (reaches.node_eq mem)

end Files

namespace Gadget

variable {gadget : Gadget} {files : Files} {own : PowerDraw} {entry : Entry}

def announcedEntry (gadget : Gadget) (files : Files) (draw : PowerDraw) (entry : Entry) :
    Entry :=
  files.rewrittenEntry gadget.attributesPath draw.attributes
    (files.rewrittenEntry gadget.maxPowerPath draw.maxPower entry)

theorem entries_announce (gadget : Gadget) (files : Files) (draw : PowerDraw) :
    (gadget.announce files draw).1.tree.entries =
      files.tree.entries.map (gadget.announcedEntry files draw) := by
  have first := Files.writtenThrough_tryOverwrite files gadget.maxPowerPath draw.maxPower
  have second := funext (Files.rewrittenEntry_of_writtenThrough first gadget.attributesPath
    draw.attributes)
  simp only [announce]
  rw [Files.entries_tryOverwrite, Files.entries_tryOverwrite, second, List.map_map]
  rfl

theorem contents_of_announced (announced : gadget.announced files = .ok own) :
    files.content gadget.maxPowerPath = .ok (Utf8.bytes own.maxPower) ∧
      files.content gadget.attributesPath = .ok (Utf8.bytes own.attributes) := by
  rw [Gadget.announced] at announced
  cases power : files.readText gadget.maxPowerPath with
  | error error =>
      rw [power] at announced
      cases announced
  | ok maxPower =>
      cases mark : files.readText gadget.attributesPath with
      | error error =>
          rw [power, mark] at announced
          cases announced
      | ok attributes =>
          rw [power, mark] at announced
          cases announced
          exact ⟨Files.content_of_readText power, Files.content_of_readText mark⟩

theorem announcedEntry_announcedEntry (announced : gadget.announced files = .ok own)
    (meanwhile : PowerDraw) (mem : entry ∈ files.tree.entries) :
    gadget.announcedEntry files own (gadget.announcedEntry files meanwhile entry) = entry := by
  rcases contents_of_announced announced with ⟨power, attributes⟩
  -- Both paths may lead to this entry, and then both have read the same from it.
  by_cases first : files.Reaches gadget.maxPowerPath entry.1
  · rw [first.content_eq mem] at power
    by_cases second : files.Reaches gadget.attributesPath entry.1
    · rw [second.content_eq mem] at attributes
      simp only [announcedEntry, Files.rewrittenEntry, if_pos first, if_pos second]
      rw [Node.rewritten_rewritten power, Node.rewritten_rewritten power,
        Node.rewritten_content power, Node.rewritten_content attributes]
    · simp only [announcedEntry, Files.rewrittenEntry, if_pos first, if_neg second]
      rw [Node.rewritten_rewritten power, Node.rewritten_content power]
  · by_cases second : files.Reaches gadget.attributesPath entry.1
    · rw [second.content_eq mem] at attributes
      simp only [announcedEntry, Files.rewrittenEntry, if_neg first, if_pos second]
      rw [Node.rewritten_rewritten attributes, Node.rewritten_content attributes]
    · simp only [announcedEntry, Files.rewrittenEntry, if_neg first, if_neg second]

/-- Announcing again what was announced before undoes what was announced meanwhile. -/
theorem announce_announce (announced : gadget.announced files = .ok own)
    (meanwhile : PowerDraw) :
    (gadget.announce (gadget.announce files meanwhile).1 own).1 = files := by
  have away := gadget.writtenThrough_announce files meanwhile
  have back := gadget.writtenThrough_announce (gadget.announce files meanwhile).1 own
  have same (entry : Entry) :
      gadget.announcedEntry (gadget.announce files meanwhile).1 own entry =
        gadget.announcedEntry files own entry := by
    simp only [announcedEntry, Files.rewrittenEntry_of_writtenThrough away]
  have root := congrArg Files.root (back.outline.trans away.outline)
  have entries : (gadget.announce (gadget.announce files meanwhile).1 own).1.tree.entries =
      files.tree.entries := by
    rw [entries_announce, entries_announce, List.map_map]
    refine (List.map_congr_left fun entry mem => ?_).trans (List.map_id _)
    exact (same _).trans (announcedEntry_announcedEntry announced meanwhile mem)
  exact Files.eq_of_entries root entries

end Gadget

namespace PowerOverride

variable {power : PowerOverride} {gadget : Gadget} {files : Files}

/-- One mode after another is seen. -/
def followAll (power : PowerOverride) (gadget : Gadget) (files : Files) :
    List String → PowerOverride × Files
  | [] => (power, files)
  | mode :: rest =>
      let (next, after) := power.follow gadget files mode
      next.followAll gadget after rest

theorem followAll_append (power : PowerOverride) (gadget : Gadget) (files : Files)
    (modes later : List String) :
    power.followAll gadget files (modes ++ later) =
      let (next, after) := power.followAll gadget files modes
      next.followAll gadget after later := by
  induction modes generalizing power files with
  | nil => rfl
  | cons mode rest induction => exact induction _ _

theorem followAll_mode (power : PowerOverride) (gadget : Gadget) (files : Files)
    (modes : List String) :
    (power.followAll gadget files modes).1.mode = modes.getLast?.or power.mode := by
  induction modes generalizing power files with
  | nil => rfl
  | cons mode rest induction =>
      rw [followAll, induction, follow_mode, List.getLast?_cons]
      cases rest.getLast? <;> rfl

/-- Nothing is kept for later unless power is delivered. -/
def KeepsNothingElse (power : PowerOverride) : Prop :=
  power.mode ≠ some powerDelivery → power.saved = none

theorem KeepsNothingElse.follow (keeps : power.KeepsNothingElse) (gadget : Gadget)
    (files : Files) (mode : String) : (power.follow gadget files mode).1.KeepsNothingElse := by
  rw [PowerOverride.follow]
  split
  · exact keeps
  · split
    · next delivery =>
      exact fun outside => absurd (congrArg some delivery) outside
    · split <;> exact fun _ => rfl

theorem KeepsNothingElse.followAll (keeps : power.KeepsNothingElse) (gadget : Gadget)
    (files : Files) (modes : List String) :
    (power.followAll gadget files modes).1.KeepsNothingElse := by
  induction modes generalizing power files with
  | nil => exact keeps
  | cons mode rest induction => exact induction (keeps.follow gadget files mode) _

theorem follow_enter (outside : power.mode ≠ some powerDelivery) (saved : power.saved = none) :
    power.follow gadget files powerDelivery =
      ({ mode := some powerDelivery, saved := (gadget.announced files).toOption },
        (gadget.announce files .selfPowered).1) := by
  rw [follow, if_neg outside, if_pos rfl, toRestore, saved]

theorem followAll_stay (inside : power.mode = some powerDelivery) (gadget : Gadget)
    (files : Files) (count : Nat) :
    power.followAll gadget files (List.replicate count powerDelivery) = (power, files) := by
  induction count with
  | zero => rfl
  | succ count induction =>
      rw [List.replicate_succ, followAll, follow, if_pos inside]
      exact induction

/-- With nothing kept, a mode that is not power delivery leaves the files alone. -/
theorem followAll_idle (saved : power.saved = none) (gadget : Gadget) (files : Files)
    {modes : List String} (left : powerDelivery ∉ modes) :
    (power.followAll gadget files modes).2 = files ∧
      (power.followAll gadget files modes).1.saved = none := by
  induction modes generalizing power with
  | nil => exact ⟨rfl, saved⟩
  | cons mode rest induction =>
      have other : powerDelivery ≠ mode := List.ne_of_not_mem_cons left
      have later : powerDelivery ∉ rest := List.not_mem_of_not_mem_cons left
      have idle : (power.follow gadget files mode).1.saved = none ∧
          (power.follow gadget files mode).2 = files := by
        rw [follow, if_neg other.symm, saved]
        split
        · exact ⟨saved, rfl⟩
        · exact ⟨rfl, rfl⟩
      rw [followAll]
      dsimp only
      rw [idle.2]
      exact induction idle.1 later

theorem follow_leave {mode : String} (inside : power.mode = some powerDelivery)
    (other : mode ≠ powerDelivery) :
    power.follow gadget files mode =
      ({ mode := some mode, saved := none },
        match power.saved with
        | some own => (gadget.announce files own).1
        | none => files) := by
  have changed : power.mode ≠ some mode := by
    rw [inside]
    exact fun same => other (Option.some.inj same).symm
  rw [follow, if_neg changed, if_neg other]
  cases power.saved <;> rfl

/-- The files at the end of a delivery period, told from what they were at its beginning. -/
def settledFiles (gadget : Gadget) (before : Files) : Files :=
  match gadget.announced before with
  | .ok _ => before
  | .error _ => (gadget.announce before .selfPowered).1

theorem followAll_delivery (outside : power.mode ≠ some powerDelivery)
    (saved : power.saved = none) (gadget : Gadget) (files : Files) (count : Nat)
    {later : List String} (ended : later ≠ []) (left : powerDelivery ∉ later) :
    let after := power.followAll gadget files
      (List.replicate (count + 1) powerDelivery ++ later)
    after.2 = settledFiles gadget files ∧ after.1.saved = none := by
  cases later with
  | nil => exact absurd rfl ended
  | cons mode rest =>
      let inside : PowerOverride :=
        { mode := some powerDelivery, saved := (gadget.announced files).toOption }
      let clamped := (gadget.announce files .selfPowered).1
      have entered : power.followAll gadget files (List.replicate (count + 1) powerDelivery) =
          (inside, clamped) := by
        rw [List.replicate_succ, followAll, follow_enter outside saved]
        exact followAll_stay rfl gadget clamped count
      have other : mode ≠ powerDelivery := (List.ne_of_not_mem_cons left).symm
      -- The first other mode writes back what was kept, or finds that nothing was.
      have settled : inside.follow gadget clamped mode =
          ({ mode := some mode, saved := none }, settledFiles gadget files) := by
        rw [follow_leave rfl other, settledFiles]
        cases announced : gadget.announced files with
        | error error =>
            simp only [inside, announced, Except.toOption]
            rfl
        | ok own =>
            simp only [inside, announced, Except.toOption]
            rw [Gadget.announce_announce announced]
      rw [followAll_append, entered]
      dsimp only
      rw [followAll, settled]
      exact followAll_idle rfl gadget _ (List.not_mem_of_not_mem_cons left)

/-- From when power delivery begins until it has ended, whatever was seen before. -/
theorem files_after_delivery (gadget : Gadget) (files : Files) (earlier later : List String)
    (count : Nat) (outside : earlier.getLast? ≠ some powerDelivery) (ended : later ≠ [])
    (left : powerDelivery ∉ later) :
    let before := initial.followAll gadget files earlier
    let after := initial.followAll gadget files
      (earlier ++ (List.replicate (count + 1) powerDelivery ++ later))
    after.2 = settledFiles gadget before.2 ∧ after.1.saved = none := by
  have mode := followAll_mode initial gadget files earlier
  have keeps : initial.KeepsNothingElse := fun _ => rfl
  have elsewhere : (initial.followAll gadget files earlier).1.mode ≠ some powerDelivery := by
    rw [mode, initial, Option.or_none]
    exact outside
  have saved := keeps.followAll gadget files earlier elsewhere
  rw [followAll_append]
  exact followAll_delivery elsewhere saved gadget _ count ended left

def plainGadget : Gadget where
  directory := ⟨"g1"⟩
  configuration := "b.1"

def attributesPlace : Location :=
  [.text "bmAttributes", .text "b.1", .text "configs", .text "g1"]

/-- A gadget configuration with one of the two attributes. -/
def halfConfigured : Files where
  tree := {
    entries := [
      ([.text "g1"], .directory),
      ([.text "configs", .text "g1"], .directory),
      ([.text "b.1", .text "configs", .text "g1"], .directory),
      (attributesPlace, .file (Utf8.bytes "0x80\n"))]
    distinct := by decide }
  root := { workingDirectory := [], path := ⟨"/"⟩, directory := [] }

theorem halfConfigured_before :
    halfConfigured.node plainGadget.attributesPath =
      .ok (attributesPlace, .file (Utf8.bytes "0x80\n")) := by
  decide +kernel

theorem files_after_delivery_halfConfigured :
    let after := initial.followAll plainGadget halfConfigured [powerDelivery, "default"]
    halfConfigured.content plainGadget.attributesPath = .ok (Utf8.bytes "0x80\n") ∧
      after.2.content plainGadget.attributesPath = .ok (Utf8.bytes "0xc0") ∧
      after.1.saved = none := by
  intro after
  have settled := files_after_delivery plainGadget halfConfigured [] ["default"] 0 (by decide)
    (by decide) (by decide)
  have clamped : (settledFiles plainGadget halfConfigured).content plainGadget.attributesPath =
      .ok (Utf8.bytes "0xc0") := by
    decide +kernel
  refine ⟨Files.content_of_node halfConfigured_before, ?_, settled.2⟩
  exact (congrArg (fun files => files.content plainGadget.attributesPath) settled.1).trans clamped

/-- Every attribute that was a file holds again what it held. -/
def Restores (gadget : Gadget) (before after : Files) : Prop :=
  ∀ path ∈ gadget.powerPaths, ∀ location content,
    before.node path = .ok (location, .file content) → after.content path = .ok content

/-- An attribute that can be read is forgotten when the other one cannot. -/
theorem delivery_not_always_restored :
    ¬ ∀ (gadget : Gadget) (files : Files) (earlier later : List String) (count : Nat),
      earlier.getLast? ≠ some powerDelivery → later ≠ [] → powerDelivery ∉ later →
        Restores gadget (initial.followAll gadget files earlier).2
          (initial.followAll gadget files
            (earlier ++ (List.replicate (count + 1) powerDelivery ++ later))).2 := by
  intro claimed
  have restored := claimed plainGadget halfConfigured [] ["default"] 0 (by decide) (by decide)
    (by decide) plainGadget.attributesPath (List.mem_cons_of_mem _ List.mem_cons_self) _ _
    halfConfigured_before
  have clamped : (initial.followAll plainGadget halfConfigured
      [powerDelivery, "default"]).2.content plainGadget.attributesPath =
        .ok (Utf8.bytes "0xc0") := by
    decide +kernel
  have same := Except.ok.inj (clamped.symm.trans restored)
  exact absurd same (by decide +kernel)

end PowerOverride

end UsbTypeC
