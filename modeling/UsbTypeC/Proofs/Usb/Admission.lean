import UsbTypeC.Proofs.Text.Numeral
import UsbTypeC.Usb.Autosuspend

/-! Which USB devices are let sleep, and how. A device is let sleep for what it is or for what one
of its interfaces is, both told by hexadecimal numerals. Everything else leaves the files alone,
and how often a class is read makes no difference as long as it is read at all. -/

namespace UsbTypeC.Autosuspend

variable {policy : Autosuspend} {files : Files} {device : Path}

/-- The two writes that let a device sleep, the second of which is made only if the first one
succeeds, and what comes of them. -/
inductive SleepAttempt (files : Files) (device : Path) : Files × Bool → Prop where
  | refused (error : Error)
      (control : files.overwrite (device.join "power/control") "auto" = .error error) :
      SleepAttempt files device (files, false)
  | halfway (controlled : Files) (error : Error)
      (control : files.overwrite (device.join "power/control") "auto" = .ok controlled)
      (wakeup : controlled.overwrite (device.join "power/wakeup") "enabled" = .error error) :
      SleepAttempt files device (controlled, false)
  | done (controlled woken : Files)
      (control : files.overwrite (device.join "power/control") "auto" = .ok controlled)
      (wakeup : controlled.overwrite (device.join "power/wakeup") "enabled" = .ok woken) :
      SleepAttempt files device (woken, true)

theorem sleepAttempt_letSleep (files : Files) (device : Path) :
    SleepAttempt files device (letSleep files device) := by
  rw [letSleep]
  cases control : files.overwrite (device.join "power/control") "auto" with
  | error error => exact .refused error control
  | ok controlled =>
      dsimp only
      cases wakeup : controlled.overwrite (device.join "power/wakeup") "enabled" with
      | error error => exact .halfway controlled error control wakeup
      | ok woken => exact .done controlled woken control wakeup

/-- What a device says it is. -/
def Identifies (files : Files) (device : Path) (id : DeviceId) : Prop :=
  ∃ vendor product, files.readValue (device.join "idVendor") = .ok vendor ∧
    files.readValue (device.join "idProduct") = .ok product ∧
    IsHexNumeral vendor id.vendor ∧ id.vendor < 0x10000 ∧
    IsHexNumeral product id.product ∧ id.product < 0x10000

def classPath (device : Path) (interface : String) : Path :=
  (device.join interface).join "bInterfaceClass"

/-- An interface of one of the classes for which a device may sleep, if classes are read at all. -/
def Admits (policy : Autosuspend) (files : Files) (device : Path) (interface : String) : Prop :=
  1 ≤ policy.classReads ∧
    ∃ text, files.readValue (classPath device interface) = .ok text ∧
      (IsHexNumeral text audioClass ∨ IsHexNumeral text hubClass)

theorem deviceId_eq_ok_iff {id : DeviceId} :
    deviceId files device = .ok id ↔ Identifies files device id := by
  rw [deviceId, Identifies]
  constructor
  · intro told
    cases vendorRead : files.readValue (device.join "idVendor") with
    | error error =>
        rw [vendorRead] at told
        cases told
    | ok vendor =>
        cases productRead : files.readValue (device.join "idProduct") with
        | error error =>
            rw [vendorRead, productRead] at told
            cases told
        | ok product =>
            rw [vendorRead, productRead] at told
            simp only [bind, Except.bind] at told
            split at told
            · next vendorValue productValue =>
              cases told
              have vendorSpelled := numeralValue?_eq_some_iff.mp vendorValue
              have productSpelled := numeralValue?_eq_some_iff.mp productValue
              exact ⟨vendor, product, rfl, rfl, vendorSpelled.1, vendorSpelled.2, productSpelled⟩
            · cases told
  · intro identified
    rcases identified with
      ⟨vendor, product, vendorRead, productRead, vendorSpelled, vendorSmall, productSpelled⟩
    rw [vendorRead, productRead]
    simp only [bind, Except.bind, numeralValue?_eq_some_iff.mpr ⟨vendorSpelled, vendorSmall⟩,
      numeralValue?_eq_some_iff.mpr productSpelled]

theorem admitDevice_of_identified {id : DeviceId} (identified : Identifies files device id)
    (allowed : id ∈ policy.allowed) : policy.admitDevice files device = letSleep files device := by
  rw [admitDevice, deviceId_eq_ok_iff.mpr identified]
  exact if_pos allowed

theorem admitDevice_of_not_identified
    (unknown : ¬ ∃ id ∈ policy.allowed, Identifies files device id) :
    policy.admitDevice files device = (files, false) := by
  rw [admitDevice]
  cases told : deviceId files device with
  | error error => rfl
  | ok id =>
      exact if_neg fun allowed => unknown ⟨id, allowed, deviceId_eq_ok_iff.mp told⟩

/-- What is read once reads the same again. -/
theorem classText_succ (files : Files) (path : Path) (attempts : Nat) :
    classText files path (attempts + 1) = (files.readValue path).toOption.getD "" := by
  induction attempts with
  | zero =>
      rw [classText]
      cases files.readValue path with
      | error error => rfl
      | ok text =>
          dsimp only
          split
          · next empty => exact (String.isEmpty_iff.mp empty).symm
          · rfl
  | succ attempts induction =>
      rw [classText, induction]
      cases files.readValue path with
      | error error => rfl
      | ok text => exact ite_self _

theorem not_isHexNumeral_empty (value : Nat) : ¬ IsHexNumeral "" value := by
  intro numeral
  have none : numeralValue? 16 (value + 1) "" = none := rfl
  cases none.symm.trans (numeralValue?_eq_some_iff.mpr ⟨numeral, Nat.lt_succ_self value⟩)

theorem interfaceClass_eq_some_iff {interface : Path} {number : Nat} :
    policy.interfaceClass files interface = some number ↔
      1 ≤ policy.classReads ∧
        ∃ text, files.readValue (interface.join "bInterfaceClass") = .ok text ∧
          IsHexNumeral text number ∧ number < 0x100 := by
  rw [interfaceClass, numeralValue?_eq_some_iff]
  cases policy.classReads with
  | zero =>
      rw [classText]
      exact iff_of_false (fun numeral => not_isHexNumeral_empty _ numeral.1)
        fun never => absurd never.1 (by decide)
  | succ attempts =>
      rw [classText_succ]
      cases files.readValue (interface.join "bInterfaceClass") with
      | error error =>
          exact iff_of_false (fun numeral => not_isHexNumeral_empty _ numeral.1)
            fun read => by cases read.2.choose_spec.1
      | ok text =>
          constructor
          · intro numeral
            exact ⟨Nat.succ_pos attempts, text, rfl, numeral⟩
          · intro read
            rcases read with ⟨_, found, same, numeral⟩
            cases same
            exact numeral

theorem admits_iff {interface : String} :
    policy.Admits files device interface ↔
      policy.interfaceClass files (device.join interface) = some audioClass ∨
        policy.interfaceClass files (device.join interface) = some hubClass := by
  have audio : audioClass < 0x100 := by decide
  have hub : hubClass < 0x100 := by decide
  rw [interfaceClass_eq_some_iff, interfaceClass_eq_some_iff, Admits, classPath, ← and_or_left,
    ← exists_or]
  simp only [← and_or_left, audio, hub, and_true]

instance (policy : Autosuspend) (files : Files) (device : Path) (interface : String) :
    Decidable (policy.Admits files device interface) :=
  decidable_of_iff _ admits_iff.symm

theorem admitInterface_of_admits {interface : String}
    (admits : policy.Admits files device interface) :
    policy.admitInterface files device interface = letSleep files device := by
  rw [admitInterface]
  rcases admits_iff.mp admits with audio | hub
  · rw [audio]
    exact if_pos (.inl rfl)
  · rw [hub]
    exact if_pos (.inr rfl)

theorem admitInterface_of_not_admits {interface : String}
    (refuses : ¬ policy.Admits files device interface) :
    policy.admitInterface files device interface = (files, false) := by
  rw [admits_iff, not_or] at refuses
  rw [admitInterface]
  split
  · next number told =>
    rw [told] at refuses
    refine if_neg ?_
    rintro (rfl | rfl)
    · exact refuses.1 rfl
    · exact refuses.2 rfl
  · rfl

/-- How often a class is read makes no difference, as long as it is read. -/
theorem admits_of_reads (files : Files) (device : Path) (interface : String) {attempts : Nat}
    (read : 1 ≤ policy.classReads) (again : 1 ≤ attempts) :
    { policy with classReads := attempts }.Admits files device interface ↔
      policy.Admits files device interface :=
  and_congr_left fun _ => iff_of_true again read

/-- A device is let sleep if it says that it is one of those on the list, and for an interface if
that is read to be of an audio or of a hub class; and in no other case is anything written. -/
theorem admission_exact (policy : Autosuspend) (files : Files) (device : Path)
    (interface : String) :
    ((∃ id ∈ policy.allowed, Identifies files device id) →
        SleepAttempt files device (policy.admitDevice files device)) ∧
      ((¬ ∃ id ∈ policy.allowed, Identifies files device id) →
        policy.admitDevice files device = (files, false)) ∧
      (policy.Admits files device interface →
        SleepAttempt files device (policy.admitInterface files device interface)) ∧
      (¬ policy.Admits files device interface →
        policy.admitInterface files device interface = (files, false)) ∧
      ∀ attempts, 1 ≤ attempts → 1 ≤ policy.classReads →
        { policy with classReads := attempts }.admitInterface files device interface =
          policy.admitInterface files device interface := by
  refine ⟨fun listed => ?_, admitDevice_of_not_identified, fun admits => ?_,
    admitInterface_of_not_admits, fun attempts again read => ?_⟩
  · rcases listed with ⟨id, allowed, identified⟩
    rw [admitDevice_of_identified identified allowed]
    exact sleepAttempt_letSleep files device
  · rw [admitInterface_of_admits admits]
    exact sleepAttempt_letSleep files device
  · have same := admits_of_reads files device interface read again
    by_cases admits : policy.Admits files device interface
    · rw [admitInterface_of_admits admits, admitInterface_of_admits (same.mpr admits)]
    · rw [admitInterface_of_not_admits admits,
        admitInterface_of_not_admits fun again => admits (same.mp again)]

end UsbTypeC.Autosuspend
