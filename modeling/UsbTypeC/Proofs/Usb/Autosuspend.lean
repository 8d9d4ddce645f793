import UsbTypeC.Proofs.Files.Writing
import UsbTypeC.Usb.Autosuspend

/-! What letting devices sleep may write: the two files of each device that is considered, and
nothing else. -/

namespace UsbTypeC.Autosuspend

open Files

def sleepPaths (device : Path) : List Path :=
  [device.join "power/control", device.join "power/wakeup"]

theorem writtenThrough_letSleep (files : Files) (device : Path) :
    WrittenThrough (sleepPaths device) files (letSleep files device).1 := by
  rw [letSleep]
  split
  · exact .refl _ files
  · next controlled control =>
    have first := writtenThrough_overwrite control
    split
    · exact first.weaken (List.subset_append_left _ [device.join "power/wakeup"])
    · next woken wakeup => exact first.append (writtenThrough_overwrite wakeup)

theorem writtenThrough_admitDevice (policy : Autosuspend) (files : Files) (device : Path) :
    WrittenThrough (sleepPaths device) files (policy.admitDevice files device).1 := by
  rw [admitDevice]
  split
  · exact .refl _ files
  · split
    · exact writtenThrough_letSleep files device
    · exact .refl _ files

theorem writtenThrough_admitInterface (policy : Autosuspend) (files : Files)
    (device : Path) (interface : String) :
    WrittenThrough (sleepPaths device) files
      (policy.admitInterface files device interface).1 := by
  rw [admitInterface]
  split
  · split
    · exact writtenThrough_letSleep files device
    · exact .refl _ files
  · exact .refl _ files

theorem writtenThrough_admitByInterfaces (policy : Autosuspend) (device : Path) :
    ∀ (interfaces : List String) (files : Files),
      WrittenThrough (sleepPaths device) files
        (policy.admitByInterfaces device files interfaces)
  | [], files => .refl _ files
  | interface :: rest, files => by
      have tried := policy.writtenThrough_admitInterface files device interface
      rw [admitByInterfaces]
      split
      · next admitted equal =>
        rw [equal] at tried
        exact tried
      · next refused equal =>
        rw [equal] at tried
        exact tried.trans (writtenThrough_admitByInterfaces policy device rest refused)

theorem writtenThrough_admitPresent (policy : Autosuspend) (files : Files) (device : Path) :
    WrittenThrough (sleepPaths device) files (policy.admitPresent files device) := by
  rw [admitPresent]
  split
  · exact policy.writtenThrough_admitByInterfaces device _ files
  · exact .refl _ files

theorem writtenThrough_settleWakeup (policy : Autosuspend) (files : Files) :
    WrittenThrough ((presentDevices files).flatMap sleepPaths) files
      (policy.settleWakeup files).1 := by
  rw [settleWakeup]
  split
  · refine writtenThrough_foldl policy.admitPresent (presentDevices files) files rfl ?_
    intro device mem later _
    exact (policy.writtenThrough_admitPresent later device).weaken
      fun path listed => List.mem_flatMap.mpr ⟨device, mem, listed⟩
  · exact .refl _ files

end UsbTypeC.Autosuspend
