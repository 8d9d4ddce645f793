import UsbTypeC.Proofs.Files.Series
import UsbTypeC.Proofs.Usb.Admission
import UsbTypeC.Proofs.Usb.Autosuspend
import UsbTypeC.Proofs.Usb.PlatformController

/-! Settling wakeup, whatever the order in which directories list their entries. A device that is
already there is let sleep once one of its interfaces lets it, and which one that is makes no
difference. -/

namespace UsbTypeC

open Files

namespace Autosuspend

variable {policy : Autosuspend} {files before after : Files} {device : Path}

/-- A device that is already there: a link among the USB devices that is no interface leads to
it. -/
def Present (files : Files) (device : Path) : Prop :=
  ∃ listing name, files.listing usbDevices = .ok listing ∧ ⟨name, .symlink⟩ ∈ listing ∧
    ':' ∉ name.toList ∧ files.realPath (usbDevices.join name) = .ok device

def HasInterface (files : Files) (device : Path) (interface : String) : Prop :=
  ∃ listing, files.listing device = .ok listing ∧ ⟨interface, .directory⟩ ∈ listing ∧
    ':' ∈ interface.toList

/-- A device that one of its interfaces lets sleep. -/
def Admitted (policy : Autosuspend) (files : Files) (device : Path) : Prop :=
  ∃ interface, HasInterface files device interface ∧ policy.Admits files device interface

/-- The devices that are let sleep when wakeup is settled. -/
structure MaySleep (policy : Autosuspend) (files : Files) (device : Path) : Prop where
  present : Present files device
  admitted : policy.Admitted files device

/-- An interface whose class is sure to be read: none of those that are listed before it lets
the device sleep. -/
def Reads (policy : Autosuspend) (files : Files) (device : Path) (interface : String) : Prop :=
  PlatformController.canWake files = true ∧ 1 ≤ policy.classReads ∧
    ∃ listing earlier later, files.listing device = .ok listing ∧
      interfaces listing = earlier ++ interface :: later ∧
      ∀ other ∈ earlier, ¬ policy.Admits files device other

/-- No file is written with both texts, and none is both written and read. -/
structure Apart (policy : Autosuspend) (files : Files) : Prop where
  controls : ∀ device other, Present files device → Present files other →
    ¬ files.SharesFile (device.join "power/control") (other.join "power/wakeup")
  classes : ∀ device other interface, Present files device → Present files other →
    policy.Reads files other interface → ∀ path ∈ sleepPaths device,
      ¬ files.SharesFile path (classPath other interface)

/-- What a place is written with when wakeup is settled. -/
inductive Receives (policy : Autosuspend) (files : Files) (place : Location) : String → Prop where
  | control (device : Path) (sleeps : policy.MaySleep files device)
      (leads : files.locate (device.join "power/control") = .ok place) :
      Receives policy files place "auto"
  | wakeup (device : Path) (controlled : Files) (sleeps : policy.MaySleep files device)
      (control : files.overwrite (device.join "power/control") "auto" = .ok controlled)
      (leads : files.locate (device.join "power/wakeup") = .ok place) :
      Receives policy files place "enabled"

/-- What a file holds when wakeup is settled, told by what it held. -/
def Leaves (policy : Autosuspend) (files : Files) (place : Location) (held content : Bytes) :
    Prop :=
  (∃ text, policy.Receives files place text ∧ content = Utf8.bytes text) ∨
    (∀ text, ¬ policy.Receives files place text) ∧ content = held

theorem mem_presentDevices_iff : device ∈ presentDevices files ↔ Present files device := by
  rw [presentDevices, Present]
  cases files.listing usbDevices with
  | error error => simp
  | ok listing =>
      simp only [List.mem_filterMap, List.mem_filter, decide_eq_true_eq]
      constructor
      · intro found
        rcases found with ⟨⟨name, kind⟩, ⟨mem, isLink, plain⟩, leads⟩
        cases isLink
        refine ⟨listing, name, rfl, mem, plain, ?_⟩
        cases real : files.realPath (usbDevices.join name) with
        | error error =>
            rw [real] at leads
            cases leads
        | ok place =>
            rw [real] at leads
            cases leads
            rfl
      · intro present
        rcases present with ⟨_, name, same, mem, plain, leads⟩
        cases same
        exact ⟨⟨name, .symlink⟩, ⟨mem, rfl, plain⟩, congrArg Except.toOption leads⟩

theorem mem_interfaces_iff {listing : List ListedEntry} {interface : String} :
    interface ∈ interfaces listing ↔
      ⟨interface, .directory⟩ ∈ listing ∧ ':' ∈ interface.toList := by
  simp only [interfaces, List.mem_map, List.mem_filter, decide_eq_true_eq]
  constructor
  · intro found
    rcases found with ⟨⟨name, kind⟩, ⟨mem, isDirectory, marked⟩, named⟩
    cases isDirectory
    cases named
    exact ⟨mem, marked⟩
  · intro found
    exact ⟨⟨interface, .directory⟩, ⟨found.1, rfl, found.2⟩, rfl⟩

/-! One device. -/

/-- The writes that let a device sleep. The second is made only if the first succeeds. -/
def sleepWrites (files : Files) (device : Path) : List (Path × String) :=
  match files.overwrite (device.join "power/control") "auto" with
  | .error _ => []
  | .ok _ => [(device.join "power/control", "auto"), (device.join "power/wakeup", "enabled")]

theorem mem_sleepWrites_iff {write : Path × String} :
    write ∈ sleepWrites files device ↔
      (∃ controlled, files.overwrite (device.join "power/control") "auto" = .ok controlled) ∧
        (write = (device.join "power/control", "auto") ∨
          write = (device.join "power/wakeup", "enabled")) := by
  rw [sleepWrites]
  cases files.overwrite (device.join "power/control") "auto" with
  | error error => simp
  | ok controlled => simp

/-- The writes that are made for the devices that may sleep. -/
def Makes (policy : Autosuspend) (files : Files) (write : Path × String) : Prop :=
  ∃ device, policy.MaySleep files device ∧ write ∈ sleepWrites files device

section Makes

variable {write : Path × String} (makes : policy.Makes files write)
include makes

theorem Makes.path : ∃ device, Present files device ∧ write.1 ∈ sleepPaths device := by
  rcases makes with ⟨device, sleeps, one⟩
  refine ⟨device, sleeps.present, ?_⟩
  rcases (mem_sleepWrites_iff.mp one).2 with control | wakeup
  · exact control ▸ List.mem_cons_self
  · exact wakeup ▸ List.mem_cons_of_mem _ List.mem_cons_self

theorem Makes.text : write.2 = "auto" ∨ write.2 = "enabled" := by
  rcases makes with ⟨device, _, one⟩
  exact (mem_sleepWrites_iff.mp one).2.imp (congrArg Prod.snd) (congrArg Prod.snd)

theorem Makes.receives {place : Location} (leads : files.locate write.1 = .ok place) :
    policy.Receives files place write.2 := by
  rcases makes with ⟨device, sleeps, one⟩
  rcases mem_sleepWrites_iff.mp one with ⟨⟨controlled, succeeds⟩, control | wakeup⟩
  · subst control
    exact .control device sleeps leads
  · subst wakeup
    exact .wakeup device controlled sleeps succeeds leads

end Makes

/-- What a file receives it receives by a write that is made. -/
theorem Receives.makes {place : Location} {held : Bytes} {text : String}
    (receives : policy.Receives files place text)
    (isFile : files.tree.node? place = some (.file held)) :
    ∃ path, files.locate path = .ok place ∧ policy.Makes files (path, text) := by
  cases receives with
  | control device sleeps leads =>
      have succeeds := overwrite_of_file (node_eq_ok_iff.mpr ⟨leads, isFile⟩) "auto"
      exact ⟨_, leads, device, sleeps, mem_sleepWrites_iff.mpr ⟨⟨_, succeeds⟩, .inl rfl⟩⟩
  | wakeup device controlled sleeps succeeds leads =>
      exact ⟨_, leads, device, sleeps, mem_sleepWrites_iff.mpr ⟨⟨controlled, succeeds⟩, .inr rfl⟩⟩

theorem sleepWrites_eq_of_outline_eq (same : after.outline = before.outline) :
    sleepWrites after device = sleepWrites before device := by
  rw [sleepWrites, sleepWrites]
  cases control : before.overwrite (device.join "power/control") "auto" with
  | error error => rw [overwrite_eq_error_of_outline_eq same control]
  | ok controlled =>
      cases later : after.overwrite (device.join "power/control") "auto" with
      | error error =>
          cases control.symm.trans (overwrite_eq_error_of_outline_eq same.symm later)
      | ok done => rfl

theorem letSleep_files (files : Files) (device : Path) :
    (letSleep files device).1 = files.overwriteAll (sleepWrites files device) := by
  have attempt := sleepAttempt_letSleep files device
  cases ended : letSleep files device
  rw [ended] at attempt
  cases attempt with
  | refused error control => rw [sleepWrites, control, overwriteAll, List.foldl_nil]
  | halfway controlled error control wakeup =>
      simp only [sleepWrites, control, overwriteAll, List.foldl_cons, List.foldl_nil,
        tryOverwrite, wakeup]
  | done controlled woken control wakeup =>
      simp only [sleepWrites, control, overwriteAll, List.foldl_cons, List.foldl_nil,
        tryOverwrite, wakeup]

/-- An interface that lets the device sleep but does not succeed has made all the writes that
those after it could make. -/
theorem admitByInterfaces_writes (policy : Autosuspend) (device : Path)
    (listed : List String) (files : Files) :
    ∃ writes, policy.admitByInterfaces device files listed = files.overwriteAll writes ∧
      ∀ write, write ∈ writes ↔
        (∃ interface ∈ listed, policy.Admits files device interface) ∧
          write ∈ sleepWrites files device := by
  induction listed generalizing files with
  | nil => exact ⟨[], rfl, by simp⟩
  | cons interface rest induction =>
      rw [admitByInterfaces]
      by_cases admits : policy.Admits files device interface
      · rw [admitInterface_of_admits admits]
        have some : ∃ other ∈ interface :: rest, policy.Admits files device other :=
          ⟨interface, List.mem_cons_self, admits⟩
        cases attempt : letSleep files device with
        | mk after asleep =>
            have made : after = files.overwriteAll (sleepWrites files device) := by
              rw [← letSleep_files, attempt]
            cases asleep with
            | true => exact ⟨sleepWrites files device, made, fun write => (and_iff_right some).symm⟩
            | false =>
                have same : after.outline = files.outline :=
                  made ▸ (writtenThrough_overwriteAll files _).outline
                rcases induction after with ⟨writes, ended, exactly⟩
                refine ⟨sleepWrites files device ++ writes, ?_, fun write => ?_⟩
                · dsimp only
                  rw [ended, overwriteAll_append, ← made]
                · rw [List.mem_append, exactly, sleepWrites_eq_of_outline_eq same,
                    or_iff_left_of_imp And.right, and_iff_right some]
      · rw [admitInterface_of_not_admits admits]
        rcases induction files with ⟨writes, ended, exactly⟩
        refine ⟨writes, ended, fun write => ?_⟩
        rw [exactly, List.exists_mem_cons_iff, or_iff_right admits]

theorem admitPresent_writes (policy : Autosuspend) (files : Files) (device : Path) :
    ∃ writes, policy.admitPresent files device = files.overwriteAll writes ∧
      ∀ write, write ∈ writes ↔
        policy.Admitted files device ∧ write ∈ sleepWrites files device := by
  rw [admitPresent]
  cases listed : files.listing device with
  | error error =>
      refine ⟨[], rfl, fun write => iff_of_false List.not_mem_nil fun admitted => ?_⟩
      rcases admitted.1 with ⟨interface, ⟨listing, found, _⟩, _⟩
      cases listed.symm.trans found
  | ok listing =>
      rcases policy.admitByInterfaces_writes device (interfaces listing) files with
        ⟨writes, ended, exactly⟩
      refine ⟨writes, ended, fun write => (exactly write).trans (and_congr_left fun _ => ?_)⟩
      simp only [Admitted, HasInterface, listed, mem_interfaces_iff, Except.ok.injEq,
        exists_eq_left']

/-! All devices. What has been written so far may be what is read next, but it spells no class,
and so can only keep a device from being let sleep. -/

/-- The two texts stay apart, and a device that may sleep has an interface of which nothing that
is written can make another one. The order of the entries plays no part in this. -/
structure Undisturbed (policy : Autosuspend) (files : Files) : Prop where
  controls : ∀ device other, Present files device → Present files other →
    ¬ files.SharesFile (device.join "power/control") (other.join "power/wakeup")
  classes : ∀ device, policy.MaySleep files device →
    ∃ interface, HasInterface files device interface ∧ policy.Admits files device interface ∧
      ∀ other, Present files other → ∀ path ∈ sleepPaths other,
        ¬ files.SharesFile path (classPath device interface)

/-- The first interface that lets a device sleep is read. -/
theorem Apart.undisturbed (apart : policy.Apart files)
    (wakes : PlatformController.canWake files = true) : policy.Undisturbed files where
  controls := apart.controls
  classes := by
    intro device sleeps
    rcases sleeps.admitted with ⟨interface, ⟨listing, listed, mem⟩, admits⟩
    have some : ((interfaces listing).find? fun other =>
        decide (policy.Admits files device other)).isSome := by
      rw [List.find?_isSome]
      exact ⟨interface, mem_interfaces_iff.mpr mem, decide_eq_true admits⟩
    rcases Option.isSome_iff_exists.mp some with ⟨first, found⟩
    rcases List.find?_eq_some_iff_append.mp found with ⟨firstAdmits, earlier, later, split, before⟩
    have firstMem : first ∈ interfaces listing := List.mem_of_find?_eq_some found
    refine ⟨first, ⟨listing, listed, mem_interfaces_iff.mp firstMem⟩,
      of_decide_eq_true firstAdmits, fun other present => ?_⟩
    refine apart.classes other device first present sleeps.present
      ⟨wakes, admits.1, listing, earlier, later, listed, split, fun skipped skippedMem => ?_⟩
    simpa using before skipped skippedMem

theorem not_isHexNumeral_of_written {text : String} {number : Nat}
    (written : text = "auto" ∨ text = "enabled") (small : number < 0x100) :
    ¬ IsHexNumeral (trimmed text) number := by
  intro numeral
  have value := numeralValue?_eq_some_iff.mpr ⟨numeral, small⟩
  have none : numeralValue? 16 0x100 (trimmed text) = none := by
    rcases written with auto | enabled
    · subst auto
      decide
    · subst enabled
      decide
  cases none.symm.trans value

section Undisturbed

variable (undisturbed : policy.Undisturbed files)
include undisturbed

/-- Letting some devices sleep decides over no other. -/
theorem admitted_overwriteAll_iff {writes : List (Path × String)}
    (made : ∀ write ∈ writes, policy.Makes files write) (present : Present files device) :
    policy.Admitted (files.overwriteAll writes) device ↔ policy.Admitted files device := by
  have same := (writtenThrough_overwriteAll files writes).outline
  constructor
  · intro admitted
    rcases admitted with ⟨interface, ⟨listing, listed, mem⟩, reads, text, read, numeral⟩
    rw [listing_eq_of_outline_eq same] at listed
    refine ⟨interface, ⟨listing, listed, mem⟩, reads, text, ?_, numeral⟩
    rcases readValue_overwriteAll files writes (classPath device interface) with
      kept | ⟨write, writeMem, _, written⟩
    · exact kept.symm.trans read
    · have spelled := (made write writeMem).text
      cases written.symm.trans read
      rcases numeral with audio | hub
      · exact absurd audio (not_isHexNumeral_of_written spelled (by decide))
      · exact absurd hub (not_isHexNumeral_of_written spelled (by decide))
  · intro admitted
    rcases undisturbed.classes device ⟨present, admitted⟩ with
      ⟨interface, ⟨listing, listed, mem⟩, ⟨reads, text, read, numeral⟩, apart⟩
    rw [← listing_eq_of_outline_eq same] at listed
    refine ⟨interface, ⟨listing, listed, mem⟩, reads, text, ?_, numeral⟩
    rcases readValue_overwriteAll files writes (classPath device interface) with
      kept | ⟨write, writeMem, shared, _⟩
    · exact kept.trans read
    · rcases (made write writeMem).path with ⟨other, otherPresent, pathMem⟩
      exact absurd shared (apart other otherPresent write.1 pathMem)

theorem foldl_admitPresent_writes (devices : List Path)
    (present : ∀ device ∈ devices, Present files device) (made : List (Path × String))
    (allMade : ∀ write ∈ made, policy.Makes files write) :
    ∃ writes, devices.foldl policy.admitPresent (files.overwriteAll made) =
        files.overwriteAll (made ++ writes) ∧
      ∀ write, write ∈ writes ↔
        ∃ device ∈ devices, policy.Admitted files device ∧ write ∈ sleepWrites files device := by
  induction devices generalizing made with
  | nil => exact ⟨[], by rw [List.append_nil, List.foldl_nil], by simp⟩
  | cons device rest induction =>
      have deviceThere := present device List.mem_cons_self
      rcases policy.admitPresent_writes (files.overwriteAll made) device with
        ⟨first, firstEnded, firstExactly⟩
      have same := (writtenThrough_overwriteAll files made).outline
      simp only [admitted_overwriteAll_iff undisturbed allMade deviceThere,
        sleepWrites_eq_of_outline_eq same] at firstExactly
      have allMadeThen : ∀ write ∈ made ++ first, policy.Makes files write := by
        intro write mem
        rcases List.mem_append.mp mem with early | late
        · exact allMade write early
        · rcases (firstExactly write).mp late with ⟨admitted, one⟩
          exact ⟨device, ⟨deviceThere, admitted⟩, one⟩
      rcases induction (fun other mem => present other (List.mem_cons_of_mem device mem))
        (made ++ first) allMadeThen with ⟨writes, ended, exactly⟩
      refine ⟨first ++ writes, ?_, fun write => ?_⟩
      · rw [List.foldl_cons, firstEnded, ← overwriteAll_append, ended, List.append_assoc]
      · rw [List.mem_append, firstExactly, exactly, List.exists_mem_cons_iff]

theorem settleWakeup_writes (wakes : PlatformController.canWake files = true) :
    ∃ writes, (policy.settleWakeup files).1 = files.overwriteAll writes ∧
      ∀ write, write ∈ writes ↔ policy.Makes files write := by
  rcases foldl_admitPresent_writes undisturbed (presentDevices files)
    (fun device => mem_presentDevices_iff.mp) [] (fun write mem => absurd mem List.not_mem_nil)
    with ⟨writes, ended, exactly⟩
  refine ⟨writes, ?_, fun write => (exactly write).trans ?_⟩
  · rw [settleWakeup, if_pos wakes]
    exact ended
  · constructor
    · intro made
      rcases made with ⟨device, mem, admitted, one⟩
      exact ⟨device, ⟨mem_presentDevices_iff.mp mem, admitted⟩, one⟩
    · intro made
      rcases made with ⟨device, sleeps, one⟩
      exact ⟨device, mem_presentDevices_iff.mpr sleeps.present, sleeps.admitted, one⟩

theorem Receives.unique {place : Location} {held : Bytes} {left right : String}
    (isFile : files.tree.node? place = some (.file held))
    (first : policy.Receives files place left) (second : policy.Receives files place right) :
    left = right := by
  have shared {control wakeup : Path} (leads : files.locate control = .ok place)
      (also : files.locate wakeup = .ok place) : files.SharesFile control wakeup :=
    ⟨place, held, node_eq_ok_iff.mpr ⟨leads, isFile⟩, also⟩
  cases first with
  | control device sleeps leads =>
      cases second with
      | control => rfl
      | wakeup other _ otherSleeps _ also =>
          exact absurd (shared leads also)
            (undisturbed.controls device other sleeps.present otherSleeps.present)
  | wakeup device _ sleeps _ leads =>
      cases second with
      | control other otherSleeps also =>
          exact absurd (shared also leads)
            (undisturbed.controls other device otherSleeps.present sleeps.present)
      | wakeup => rfl

theorem Leaves.unique {place : Location} {held left right : Bytes}
    (isFile : files.tree.node? place = some (.file held))
    (first : policy.Leaves files place held left)
    (second : policy.Leaves files place held right) : left = right := by
  rcases first with ⟨text, receives, rfl⟩ | ⟨nothing, rfl⟩
  · rcases second with ⟨other, also, rfl⟩ | ⟨nothing, _⟩
    · rw [Receives.unique undisturbed isFile receives also]
    · exact absurd receives (nothing text)
  · rcases second with ⟨other, receives, _⟩ | ⟨_, rfl⟩
    · exact absurd receives (nothing other)
    · rfl

theorem file_settleWakeup (wakes : PlatformController.canWake files = true) {place : Location}
    {held : Bytes} (isFile : files.tree.node? place = some (.file held)) :
    ∃ content, (policy.settleWakeup files).1.tree.node? place = some (.file content) ∧
      policy.Leaves files place held content := by
  rcases settleWakeup_writes undisturbed wakes with ⟨writes, ended, exactly⟩
  rw [ended]
  rcases file_overwriteAll writes isFile with ⟨write, mem, leads, last⟩ | ⟨untouched, kept⟩
  · exact ⟨_, last, .inl ⟨write.2, ((exactly write).mp mem).receives leads, rfl⟩⟩
  · refine ⟨held, kept, .inr ⟨fun text receives => ?_, rfl⟩⟩
    rcases receives.makes isFile with ⟨path, leads, makes⟩
    exact untouched (path, text) ((exactly _).mpr makes) leads

theorem file_settleWakeup_iff (wakes : PlatformController.canWake files = true)
    {place : Location} {content : Bytes} :
    (policy.settleWakeup files).1.tree.node? place = some (.file content) ↔
      ∃ held, files.tree.node? place = some (.file held) ∧
        policy.Leaves files place held content := by
  have outline := (policy.writtenThrough_settleWakeup files).outline
  constructor
  · intro ends
    rcases node?_file_of_outline_eq outline.symm ends with ⟨held, isFile⟩
    rcases file_settleWakeup undisturbed wakes isFile with ⟨other, also, leaves⟩
    cases ends.symm.trans also
    exact ⟨held, isFile, leaves⟩
  · intro leaves
    rcases leaves with ⟨held, isFile, leaves⟩
    rcases file_settleWakeup undisturbed wakes isFile with ⟨other, ends, also⟩
    rw [ends, Leaves.unique undisturbed isFile leaves also]

end Undisturbed

/-! The same entries in another order. -/

section Reordered

variable (reordered : after.Reordered before)
include reordered

theorem present_of_reordered (present : Present before device) : Present after device := by
  rcases present with ⟨listing, name, listed, mem, plain, leads⟩
  rcases reordered.listing listed with ⟨other, otherListed, same⟩
  exact ⟨other, name, otherListed, same.mem_iff.mpr mem, plain,
    (reordered.realPath_eq _).trans leads⟩

theorem hasInterface_of_reordered {interface : String}
    (has : HasInterface before device interface) : HasInterface after device interface := by
  rcases has with ⟨listing, listed, mem, marked⟩
  rcases reordered.listing listed with ⟨other, otherListed, same⟩
  exact ⟨other, otherListed, same.mem_iff.mpr mem, marked⟩

theorem admits_of_reordered {interface : String}
    (admits : policy.Admits before device interface) : policy.Admits after device interface := by
  rcases admits with ⟨reads, text, read, numeral⟩
  exact ⟨reads, text, (reordered.readValue_eq _).trans read, numeral⟩

theorem maySleep_of_reordered (sleeps : policy.MaySleep before device) :
    policy.MaySleep after device where
  present := present_of_reordered reordered sleeps.present
  admitted := sleeps.admitted.imp fun _ admitted =>
    ⟨hasInterface_of_reordered reordered admitted.1, admits_of_reordered reordered admitted.2⟩

theorem sharesFile_of_reordered {left right : Path} (shared : before.SharesFile left right) :
    after.SharesFile left right := by
  rcases shared with ⟨place, content, found, leads⟩
  exact ⟨place, content, (reordered.node_eq left).trans found,
    (reordered.locate_eq right).trans leads⟩

theorem receives_of_reordered {place : Location} {text : String}
    (receives : policy.Receives before place text) : policy.Receives after place text := by
  cases receives with
  | control device sleeps leads =>
      exact .control device (maySleep_of_reordered reordered sleeps)
        ((reordered.locate_eq _).trans leads)
  | wakeup device controlled sleeps control leads =>
      have sleepsAfter := maySleep_of_reordered reordered sleeps
      have leadsAfter := (reordered.locate_eq (device.join "power/wakeup")).trans leads
      cases controlAfter : after.overwrite (device.join "power/control") "auto" with
      | error error => cases control.symm.trans (reordered.symm.overwrite_eq_error controlAfter)
      | ok other => exact .wakeup device other sleepsAfter controlAfter leadsAfter

theorem Undisturbed.of_reordered (undisturbed : policy.Undisturbed before) :
    policy.Undisturbed after where
  controls := by
    intro device other present otherPresent shared
    exact undisturbed.controls device other (present_of_reordered reordered.symm present)
      (present_of_reordered reordered.symm otherPresent)
      (sharesFile_of_reordered reordered.symm shared)
  classes := by
    intro device sleeps
    rcases undisturbed.classes device (maySleep_of_reordered reordered.symm sleeps) with
      ⟨interface, has, admits, apart⟩
    refine ⟨interface, hasInterface_of_reordered reordered has,
      admits_of_reordered reordered admits, fun other present path mem shared => ?_⟩
    exact apart other (present_of_reordered reordered.symm present) path mem
      (sharesFile_of_reordered reordered.symm shared)

theorem leaves_of_reordered {place : Location} {held content : Bytes}
    (leaves : policy.Leaves before place held content) :
    policy.Leaves after place held content := by
  rcases leaves with ⟨text, receives, spelled⟩ | ⟨nothing, kept⟩
  · exact .inl ⟨text, receives_of_reordered reordered receives, spelled⟩
  · exact .inr ⟨fun text receives => nothing text (receives_of_reordered reordered.symm receives),
      kept⟩

end Reordered

theorem settleWakeup_snd (policy : Autosuspend) (files : Files) :
    (policy.settleWakeup files).2 = !PlatformController.canWake files := by
  rw [settleWakeup]
  cases PlatformController.canWake files with
  | true => rfl
  | false => rfl

/-- Neither the answer nor what any file comes to hold depends on the order of the entries, as
long as no file is written with both texts and none is both written and read. Wakeup is ignored,
and nothing written, unless the first controller can wake the system. If it can, each device that
may sleep is written to, and no other. -/
theorem settleWakeup_exact (policy : Autosuspend) (files : Files) (apart : policy.Apart files) :
    let settled := policy.settleWakeup files
    (∀ reordered : Files, reordered.Reordered files →
        (policy.settleWakeup reordered).2 = settled.2 ∧
          ∀ place content,
            (policy.settleWakeup reordered).1.tree.node? place = some (.file content) ↔
              settled.1.tree.node? place = some (.file content)) ∧
      (settled.2 = false ↔ ∃ listing controller, files.listing platformDevices = .ok listing ∧
        PlatformController.IsFirst listing controller ∧
        files.has ((platformDevices.join controller).join "power/wakeup") = true) ∧
      (settled.2 = true → settled.1 = files) ∧
      (settled.2 = false → ∀ place content,
        settled.1.tree.node? place = some (.file content) ↔
          ∃ held, files.tree.node? place = some (.file held) ∧
            policy.Leaves files place held content) := by
  intro settled
  have answer : settled.2 = !PlatformController.canWake files := settleWakeup_snd policy files
  have idle (other : Files) (sleeps : PlatformController.canWake other = false) :
      (policy.settleWakeup other).1 = other := by
    rw [settleWakeup, sleeps]
    rfl
  refine ⟨fun other reordered => ?_, ?_, ?_, ?_⟩
  · have same := PlatformController.canWake_eq_of_reordered reordered
    refine ⟨by rw [settleWakeup_snd, same, answer], fun place content => ?_⟩
    cases wakes : PlatformController.canWake files with
    | false => rw [idle other (same.trans wakes), reordered.node?_eq, idle files wakes]
    | true =>
        have undisturbed := apart.undisturbed wakes
        rw [file_settleWakeup_iff (undisturbed.of_reordered reordered) (same.trans wakes),
          file_settleWakeup_iff undisturbed wakes, reordered.node?_eq]
        exact exists_congr fun held => and_congr_right fun _ =>
          ⟨leaves_of_reordered reordered.symm, leaves_of_reordered reordered⟩
  · rw [answer, Bool.not_eq_false', PlatformController.canWake_iff]
  · intro ignored
    rw [answer, Bool.not_eq_true'] at ignored
    exact idle files ignored
  · intro minded place content
    rw [answer, Bool.not_eq_false'] at minded
    exact file_settleWakeup_iff (apart.undisturbed minded) minded

/-- A headset with an interface for its buttons and one for sound, in that order. -/
def headset : Files where
  root := { workingDirectory := [], path := ⟨"/"⟩, directory := [] }
  tree :=
    let platform (names : List Name) : Location :=
      names ++ [.text "devices", .text "platform", .text "bus", .text "sys"]
    let device (names : List Name) : Location :=
      names ++ [.text "1-1", .text "devices", .text "sys"]
    { entries := [
        ([.text "sys"], .directory),
        ([.text "bus", .text "sys"], .directory),
        ([.text "platform", .text "bus", .text "sys"], .directory),
        (platform [], .directory),
        (platform [.text "a600000.ssusb"], .directory),
        (platform [.text "power", .text "a600000.ssusb"], .directory),
        (platform [.text "wakeup", .text "power", .text "a600000.ssusb"],
          .file (Utf8.bytes "disabled\n")),
        ([.text "usb", .text "bus", .text "sys"], .directory),
        ([.text "devices", .text "usb", .text "bus", .text "sys"], .directory),
        ([.text "1-1", .text "devices", .text "usb", .text "bus", .text "sys"],
          .link ⟨"../../../devices/1-1"⟩),
        ([.text "devices", .text "sys"], .directory),
        (device [], .directory),
        (device [.text "1-1:1.0"], .directory),
        (device [.text "bInterfaceClass", .text "1-1:1.0"], .file (Utf8.bytes "03\n")),
        (device [.text "1-1:1.1"], .directory),
        (device [.text "bInterfaceClass", .text "1-1:1.1"], .file (Utf8.bytes "01\n")),
        (device [.text "power"], .directory),
        (device [.text "control", .text "power"], .file (Utf8.bytes "on\n")),
        (device [.text "wakeup", .text "power"], .file (Utf8.bytes "disabled\n"))]
      distinct := by decide }

/-- The headset is let sleep for the sound, whichever interface is listed first. -/
theorem settleWakeup_exact_headset :
    let policy : Autosuspend := { allowed := [], classReads := 3 }
    let reversed : Files := { headset with
      tree := { entries := headset.tree.entries.reverse, distinct := by decide } }
    let control : Location :=
      [.text "control", .text "power", .text "1-1", .text "devices", .text "sys"]
    policy.Apart headset ∧ reversed.Reordered headset ∧
      (policy.settleWakeup headset).1.tree.node? control = some (.file (Utf8.bytes "auto")) ∧
      (policy.settleWakeup reversed).1.tree.node? control = some (.file (Utf8.bytes "auto")) ∧
      (policy.settleWakeup reversed).2 = false := by
  intro policy reversed control
  let device : Path := ⟨"/sys/devices/1-1"⟩
  have devices : presentDevices headset = [device] := by decide +kernel
  have only {other : Path} (present : Present headset other) : other = device :=
    List.mem_singleton.mp (devices ▸ mem_presentDevices_iff.mpr present)
  have listed : (headset.listing device).map interfaces = .ok ["1-1:1.0", "1-1:1.1"] := by
    decide +kernel
  have unshared : ∀ interface ∈ ["1-1:1.0", "1-1:1.1"], ∀ path ∈ sleepPaths device,
      headset.locate path ≠ headset.locate (classPath device interface) := by decide +kernel
  have apart : policy.Apart headset := by
    refine ⟨fun first other present otherPresent => ?_,
      fun first other interface present otherPresent reads path mem => ?_⟩
    · cases only present
      cases only otherPresent
      exact not_sharesFile_of_locate_ne (by decide +kernel)
    · cases only present
      cases only otherPresent
      rcases reads with ⟨_, _, listing, earlier, later, found, split, _⟩
      rw [found] at listed
      have inside : interface ∈ interfaces listing := split ▸ by simp
      exact not_sharesFile_of_locate_ne
        (unshared interface (Except.ok.inj listed ▸ inside) path mem)
  have reordered : reversed.Reordered headset := ⟨rfl, List.reverse_perm _⟩
  have settled := settleWakeup_exact policy headset apart
  have asleep : (policy.settleWakeup headset).1.tree.node? control =
      some (.file (Utf8.bytes "auto")) := by decide +kernel
  have answer : (policy.settleWakeup headset).2 = false := by decide +kernel
  have inReverse := settled.1 reversed reordered
  exact ⟨apart, reordered, asleep, (inReverse.2 _ _).mpr asleep, inReverse.1.trans answer⟩

end Autosuspend

end UsbTypeC
