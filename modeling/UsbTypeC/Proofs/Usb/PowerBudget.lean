import UsbTypeC.Proofs.Files.Writing
import UsbTypeC.Usb.PowerOverride

/-! What the gadget's power attributes hold, and how the override keeps the draw that
is to be announced again. The attributes have to be two files of their own, so that
neither write undoes the other. -/

namespace UsbTypeC

def PowerDraw.bytes (draw : PowerDraw) : Bytes × Bytes :=
  (Utf8.bytes draw.maxPower, Utf8.bytes draw.attributes)

theorem PowerDraw.bytes_injective {left right : PowerDraw}
    (same : left.bytes = right.bytes) : left = right := by
  rcases left with ⟨leftPower, leftAttributes⟩
  rcases right with ⟨rightPower, rightAttributes⟩
  rcases Prod.mk.inj same with ⟨samePower, sameAttributes⟩
  rw [PowerDraw.mk.injEq]
  exact ⟨Utf8.bytes_injective samePower, Utf8.bytes_injective sameAttributes⟩

namespace Gadget

def powerPaths (gadget : Gadget) : List Path :=
  [gadget.maxPowerPath, gadget.attributesPath]

theorem writtenThrough_announce (gadget : Gadget) (files : Files) (draw : PowerDraw) :
    Files.WrittenThrough gadget.powerPaths files (gadget.announce files draw).1 :=
  (Files.writtenThrough_tryOverwrite files gadget.maxPowerPath draw.maxPower).append
    (Files.writtenThrough_tryOverwrite _ gadget.attributesPath draw.attributes)

/-- The bytes that the two attributes hold. -/
def held (gadget : Gadget) (files : Files) : Except Fault (Bytes × Bytes) := do
  let maxPower ← files.content gadget.maxPowerPath
  let attributes ← files.content gadget.attributesPath
  .ok (maxPower, attributes)

/-- The two attributes are different files, and hold the texts of a draw. -/
def Holds (gadget : Gadget) (files : Files) (draw : PowerDraw) : Prop :=
  ∃ first second, first ≠ second ∧
    files.node gadget.maxPowerPath = .ok (first, .file (Utf8.bytes draw.maxPower)) ∧
    files.node gadget.attributesPath = .ok (second, .file (Utf8.bytes draw.attributes))

/-- A path that leads to neither attribute. -/
def Misses (gadget : Gadget) (files : Files) (path : Path) : Prop :=
  ∀ location, files.locate path = .ok location →
    files.locate gadget.maxPowerPath ≠ .ok location ∧
      files.locate gadget.attributesPath ≠ .ok location

namespace Holds

variable {gadget : Gadget} {files after : Files} {draw : PowerDraw}

theorem announced (holds : gadget.Holds files draw) :
    gadget.announced files = .ok draw := by
  rcases holds with ⟨first, second, _, power, attributes⟩
  rw [Gadget.announced, Files.readText_of_node power, Files.readText_of_node attributes]
  rfl

theorem held (holds : gadget.Holds files draw) : gadget.held files = .ok draw.bytes := by
  rcases holds with ⟨first, second, _, power, attributes⟩
  rw [Gadget.held, Files.content_of_node power, Files.content_of_node attributes]
  rfl

theorem eq_of_held {next : PowerDraw} (holds : gadget.Holds files draw)
    (later : gadget.Holds after next) (same : gadget.held after = gadget.held files) :
    next = draw := by
  rw [holds.held, later.held] at same
  exact PowerDraw.bytes_injective (Except.ok.inj same)

theorem writtenThrough {paths : List Path} (holds : gadget.Holds files draw)
    (written : Files.WrittenThrough paths files after)
    (misses : ∀ path ∈ paths, gadget.Misses files path) : gadget.Holds after draw := by
  rcases holds with ⟨first, second, apart, power, attributes⟩
  refine ⟨first, second, apart, written.node_eq ?_ power, written.node_eq ?_ attributes⟩
  · intro path mem leads
    exact (misses path mem first leads).1 (Files.node_eq_ok_iff.mp power).1
  · intro path mem leads
    exact (misses path mem second leads).2 (Files.node_eq_ok_iff.mp attributes).1

/-- Announcing changes both attributes, since neither is in the place of the other. -/
theorem announce (holds : gadget.Holds files draw) (next : PowerDraw) :
    gadget.Holds (gadget.announce files next).1 next := by
  rcases holds with ⟨first, second, apart, power, attributes⟩
  have firstLeads := (Files.node_eq_ok_iff.mp power).1
  have secondLeads := (Files.node_eq_ok_iff.mp attributes).1
  have firstWritten := Files.writtenThrough_tryOverwrite files gadget.maxPowerPath
    next.maxPower
  have secondWritten := Files.writtenThrough_tryOverwrite
    (files.tryOverwrite gadget.maxPowerPath next.maxPower) gadget.attributesPath
    next.attributes
  have attributesKept : (files.tryOverwrite gadget.maxPowerPath next.maxPower).node
      gadget.attributesPath = .ok (second, .file (Utf8.bytes draw.attributes)) := by
    apply firstWritten.node_eq _ attributes
    intro path mem leads
    rw [List.mem_singleton.mp mem, firstLeads] at leads
    exact apart (Except.ok.inj leads)
  refine ⟨first, second, apart, ?_, Files.node_tryOverwrite_same _ attributesKept⟩
  apply secondWritten.node_eq _ (Files.node_tryOverwrite_same _ power)
  intro path mem leads
  rw [List.mem_singleton.mp mem, firstWritten.locate_eq, secondLeads] at leads
  exact apart (Except.ok.inj leads).symm

end Holds

end Gadget

namespace PowerOverride

/-- While power is delivered, the gadget's own draw is kept for later and it announces
that it powers itself; otherwise nothing is kept, and its own draw is announced. -/
structure Keeps (power : PowerOverride) (gadget : Gadget) (files : Files)
    (own : PowerDraw) : Prop where
  saved : power.saved = if power.mode = some powerDelivery then some own else none
  holds : gadget.Holds files
    (if power.mode = some powerDelivery then .selfPowered else own)

variable {power : PowerOverride} {gadget : Gadget} {files : Files} {own : PowerDraw}

theorem Keeps.of_delivery (delivery : power.mode = some powerDelivery)
    (saved : power.saved = some own) (holds : gadget.Holds files .selfPowered) :
    power.Keeps gadget files own := by
  constructor
  · rw [saved, if_pos delivery]
  · rw [if_pos delivery]
    exact holds

theorem Keeps.of_other (other : power.mode ≠ some powerDelivery)
    (saved : power.saved = none) (holds : gadget.Holds files own) :
    power.Keeps gadget files own := by
  constructor
  · rw [saved, if_neg other]
  · rw [if_neg other]
    exact holds

theorem follow_mode (power : PowerOverride) (gadget : Gadget) (files : Files)
    (mode : String) : (power.follow gadget files mode).1.mode = some mode := by
  rw [follow]
  split
  · next same => exact same
  · split
    · rfl
    · split <;> rfl

theorem writtenThrough_follow (power : PowerOverride) (gadget : Gadget)
    (files : Files) (mode : String) :
    Files.WrittenThrough gadget.powerPaths files (power.follow gadget files mode).2 := by
  rw [follow]
  split
  · exact .refl _ files
  · split
    · exact gadget.writtenThrough_announce files .selfPowered
    · split
      · exact gadget.writtenThrough_announce files _
      · exact .refl _ files

/-- Whatever the mode becomes, the draw that is the gadget's own stays its own. -/
theorem Keeps.follow (keeps : power.Keeps gadget files own) (mode : String) :
    (power.follow gadget files mode).1.Keeps gadget (power.follow gadget files mode).2
      own := by
  have saved := keeps.saved
  have holds := keeps.holds
  by_cases same : power.mode = some mode
  · rw [PowerOverride.follow, if_pos same]
    exact keeps
  · rw [PowerOverride.follow, if_neg same]
    by_cases delivery : mode = powerDelivery
    · have entering : power.mode ≠ some powerDelivery := delivery ▸ same
      rw [if_neg entering] at saved holds
      rw [if_pos delivery]
      apply Keeps.of_delivery
      · rw [delivery]
      · rw [toRestore, saved, holds.announced]
        rfl
      · exact holds.announce .selfPowered
    · have other : some mode ≠ some powerDelivery :=
        fun equal => delivery (Option.some.inj equal)
      rw [if_neg delivery]
      by_cases leaving : power.mode = some powerDelivery
      · rw [if_pos leaving] at saved holds
        rw [saved]
        exact .of_other other rfl (holds.announce own)
      · rw [if_neg leaving] at saved holds
        rw [saved]
        exact .of_other other rfl holds

end PowerOverride

end UsbTypeC
