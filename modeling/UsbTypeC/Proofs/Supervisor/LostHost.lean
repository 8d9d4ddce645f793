import Mathlib.Control.Monad.Basic
import UsbTypeC.Proofs.Files.Joining
import UsbTypeC.Proofs.Uevent.Classification
import UsbTypeC.Supervisor.Response

/-! Where a lost host is revived. The controller is read off the header with any character
between the two words of its name, so the path that is written to goes through one directory
more if that character is a slash. -/

namespace UsbTypeC

namespace Uevent.Reading

/-- The parts of the name that slashes keep apart. -/
def parts (reading : Reading) : List String :=
  if reading.between = '/' then
    [String.ofList reading.first, String.ofList (reading.second ++ "usb".toList)]
  else [String.ofList reading.name]

variable {reading : Reading} {header : List Char}

theorem slash_not_mem_of_word {characters : List Char}
    (word : ∀ character ∈ characters, isWordCharacter character = true) : '/' ∉ characters := by
  intro slash
  have inside := word '/' slash
  rw [isWordCharacter_slash] at inside
  cases inside

theorem Of.slash_mem_name_iff (of : reading.Of header) :
    '/' ∈ reading.name ↔ reading.between = '/' := by
  rw [name, List.mem_append, List.mem_cons]
  constructor
  · intro slash
    rcases slash with first | between | second
    · exact absurd first (slash_not_mem_of_word of.first.2)
    · exact between.symm
    · exact absurd second (slash_not_mem_of_word of.second_usb)
  · intro slash
    exact .inr (.inl slash.symm)

theorem Of.names_name (of : reading.Of header) :
    (Path.mk (String.ofList reading.name)).names = reading.parts := by
  rw [parts]
  split
  · next slash =>
    rw [Path.names, String.toList_ofList, name, slash,
      pieces_append_cons (slash_not_mem_of_word of.first.2),
      pieces_of_free (slash_not_mem_of_word of.second_usb)]
    rfl
  · next apart =>
    apply Path.names_of_free
    rw [String.toList_ofList, of.slash_mem_name_iff]
    exact apart

/-- The name starts with a word and ends with one, neither of which is empty. -/
theorem Of.not_absolute (of : reading.Of header) :
    Path.isAbsolute ⟨String.ofList reading.name⟩ = false := by
  rw [Path.isAbsolute, String.toList_ofList, name]
  cases begun : reading.first with
  | nil => exact absurd begun of.first.1
  | cons character more =>
      have free := slash_not_mem_of_word of.first.2
      rw [begun] at free
      have different : character ≠ '/' := fun same => free (same ▸ List.mem_cons_self)
      simpa using different

theorem Of.endsInName (of : reading.Of header) :
    Path.EndsInName ⟨String.ofList reading.name⟩ := by
  rw [Path.EndsInName, of.names_name, parts]
  split
  · simp [← String.toList_inj]
  · simp [← String.toList_inj, name]

theorem name_ne_nil (reading : Reading) : reading.name ≠ [] := by
  simp [name]

theorem usb_suffix_name (reading : Reading) : "usb".toList <:+ reading.name :=
  ⟨reading.first ++ reading.between :: reading.second, by simp [name]⟩

end Uevent.Reading

namespace Supervisor

open Uevent

section ModePath

variable {reading : Reading} {header : List Char} {controller : String}
  (of : reading.Of header) (named : controller.toList = reading.name)
include of named

theorem endsInName_controller :
    Path.isAbsolute ⟨controller⟩ = false ∧ (platformDevices.join controller).EndsInName := by
  obtain rfl : controller = String.ofList reading.name := by
    rw [← named, String.ofList_toList]
  exact ⟨of.not_absolute, Path.endsInName_join (by decide) of.not_absolute of.endsInName⟩

theorem text_controllerModePath :
    (controllerModePath controller).text =
      "sys/bus/platform/devices/" ++ controller ++ "/mode" := by
  rcases endsInName_controller of named with ⟨below, ends⟩
  rw [controllerModePath, Path.text_join ends (by decide), Path.text_join (by decide) below,
    ← String.toList_inj]
  simp [platformDevices]

theorem names_controllerModePath :
    (controllerModePath controller).names =
      ["sys", "bus", "platform", "devices"] ++ reading.parts ++ ["mode"] := by
  rcases endsInName_controller of named with ⟨below, ends⟩
  rw [controllerModePath, Path.names_join ends (by decide), Path.names_join (by decide) below,
    ← of.names_name, ← named, String.ofList_toList]
  rfl

end ModePath

/-- What is written when a host was lost goes below the platform's devices, to the controller
that the header names between two slashes. The controller is one of these devices, unless it is
a slash that keeps the two words of its name apart. -/
theorem receive_hostLost (state : Supervisor) {message : Bytes} {controller : String}
    (told : state.event? message = some (.hostLost controller)) :
    let path := controllerModePath controller
    state.receive message =
        { state with files := (state.files.tryOverwrite path "none").tryOverwrite path "host" } ∧
      controller ≠ "" ∧ "usb".toList <:+ controller.toList ∧
      (∃ before after, (header message).toList =
        before ++ '/' :: (controller.toList ++ '/' :: after)) ∧
      ∃ reading : Reading, reading.Of (header message).toList ∧
        (∀ other : Reading, other.Of (header message).toList → reading.Precedes other) ∧
        controller.toList = reading.name ∧
        ('/' ∈ controller.toList ↔ reading.between = '/') ∧
        path.text = "sys/bus/platform/devices/" ++ controller ++ "/mode" ∧
        path.names = ["sys", "bus", "platform", "devices"] ++ reading.parts ++ ["mode"] := by
  intro path
  have answered : state.receive message = state.reviveHost controller := by
    rw [receive, told]
    rfl
  have fits := ((event?_first_fitting state.controller state.wakeupIgnored message).1 _).mp told
  rcases fits.1.2 with ⟨reading, of, named, first⟩
  have whole := of.whole
  have slash := of.slash_mem_name_iff
  have usb := reading.usb_suffix_name
  have nonempty := reading.name_ne_nil
  rw [named] at whole slash usb nonempty
  refine ⟨answered, ?_, usb, ⟨reading.before, _, whole⟩, reading, of, first, named.symm, slash,
    text_controllerModePath of named.symm, names_controllerModePath of named.symm⟩
  intro empty
  exact nonempty (String.toList_eq_nil_iff.mpr empty)

/-- A platform whose controller has a mode. -/
def hostPlatform : Supervisor :=
  started .default .empty {
    root := { workingDirectory := [], path := ⟨"/"⟩, directory := [] }
    tree := {
      entries := [
        ([.text "sys"], .directory),
        ([.text "bus", .text "sys"], .directory),
        ([.text "platform", .text "bus", .text "sys"], .directory),
        ([.text "devices", .text "platform", .text "bus", .text "sys"], .directory),
        ([.text "a600000.ssusb", .text "devices", .text "platform", .text "bus", .text "sys"],
          .directory),
        ([.text "mode", .text "a600000.ssusb", .text "devices", .text "platform", .text "bus",
          .text "sys"], .file (Utf8.bytes "peripheral\n"))]
      distinct := by decide } }

theorem receive_hostLost_hostPlatform :
    let message := Utf8.bytes
      "offline@/devices/platform/soc/a600000.ssusb/a600000.dwc3/xhci-hcd.0.auto/usb1\x00"
    let path := controllerModePath "a600000.ssusb"
    path.names = ["sys", "bus", "platform", "devices", "a600000.ssusb", "mode"] ∧
      (hostPlatform.receive message).files.content path = .ok (Utf8.bytes "host") := by
  intro message path
  have told : hostPlatform.event? message = some (.hostLost "a600000.ssusb") := by
    decide +kernel
  rcases receive_hostLost hostPlatform told with
    ⟨answered, _, _, _, reading, _, _, named, slash, _, names⟩
  refine ⟨?_, ?_⟩
  · have apart : reading.between ≠ '/' := fun same => absurd (slash.mpr same) (by decide)
    rw [names, Reading.parts, if_neg apart, ← named, String.ofList_toList]
    rfl
  · rw [answered]
    decide +kernel

/-- The words of a name may be those of two directories. -/
theorem controller_not_always_one_device :
    ¬ ∀ (state : Supervisor) (message : Bytes) (controller : String),
      state.event? message = some (.hostLost controller) → '/' ∉ controller.toList := by
  intro claimed
  have single := claimed hostPlatform
    (Utf8.bytes "offline@/devices/platform/ssusb/a600000.ssusb/a600000.dwc3/xhci-hcd.0.auto/usb1")
    "platform/ssusb" (by decide +kernel)
  exact absurd single (by decide)

end Supervisor

end UsbTypeC
