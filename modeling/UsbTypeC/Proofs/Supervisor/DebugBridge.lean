import Mathlib.Control.Monad.Basic
import UsbTypeC.Proofs.Property
import UsbTypeC.Proofs.Supervisor.Course
import UsbTypeC.Proofs.Supervisor.Footprint

/-! The property that keeps the debug bridge from binding the gadget. It is written when the
gadget's controller appears or goes, and when watching begins; whoever writes it last decides
what it holds. -/

namespace UsbTypeC

/-- A platform controller that has a host controller below it, named by one plain name. -/
def Files.Hosts (files : Files) (controller : String) : Prop :=
  controller ≠ "" ∧ '/' ∉ controller.toList ∧
    ∃ listing, files.listing (platformDevices.join controller) = .ok listing ∧
      ∃ entry ∈ listing, "xhci-hcd".toList <:+: entry.name.toList

theorem Files.hasHostController_iff (files : Files) (controller : String) :
    files.hasHostController controller = true ↔ files.Hosts controller := by
  have named : (controller.isEmpty || controller.toList.contains '/') = true ↔
      ¬ (controller ≠ "" ∧ '/' ∉ controller.toList) := by
    simp [Decidable.or_iff_not_imp_left]
  rw [hasHostController, Hosts]
  by_cases plain : controller ≠ "" ∧ '/' ∉ controller.toList
  · rw [if_neg fun refused => named.mp refused plain]
    cases files.listing (platformDevices.join controller) with
    | error error => simp
    | ok listing => simp [plain, List.any_eq_true, occursIn_iff, hostMark]
  · rw [if_pos (named.mpr plain)]
    simp only [Bool.false_eq_true, false_iff]
    rintro ⟨present, free, _⟩
    exact plain ⟨present, free⟩

instance (files : Files) (controller : String) : Decidable (files.Hosts controller) :=
  decidable_of_iff _ (files.hasHostController_iff controller)

theorem Files.hasHostController_eq_of_outline_eq {before after : Files}
    (same : after.outline = before.outline) (controller : String) :
    after.hasHostController controller = before.hasHostController controller := by
  rw [hasHostController, hasHostController, listing_eq_of_outline_eq same]

namespace Supervisor

/-- What a step of the supervisor makes of the debug bridge's property, if it is one of
those that write it. -/
def adbDisabled? (state : Supervisor) : Step → Option String
  | .receive message =>
      match state.event? message with
      | some (.gadgetController .add) => some "0"
      | some (.gadgetController .remove) => some "1"
      | _ => none
  | .attach _ _ =>
      if state.observer = none then
        let controller := state.properties.getOrEmpty Properties.controllerKey
        some (if state.files.Hosts controller then "1" else "0")
      else none
  | _ => none

end Supervisor

namespace Moment

def adbDisabled? : Moment → Option String
  | .served state step => state.adbDisabled? step
  | .switched _ _ _ _ => none

/-- Whether a property is set from outside. -/
def sets (key : String) : Moment → Bool
  | .served _ (.setProperty written _) => written = key
  | _ => false

end Moment

namespace Supervisor

theorem properties_receive (state : Supervisor) (message : Bytes) :
    (state.receive message).properties =
      match state.event? message with
      | some (.gadgetController .add) =>
          state.properties.trySet Properties.adbDisabledKey "0"
      | some (.gadgetController .remove) =>
          state.properties.trySet Properties.adbDisabledKey "1"
      | _ => state.properties := by
  rw [receive]
  cases state.event? message with
  | none => rfl
  | some event =>
      cases event with
      | portChanged partnerAppeared =>
          rcases afterPortChange_changes state partnerAppeared with ⟨_, _, _, changed⟩
          simp only [respond, changed]
      | supplyChanged name =>
          rcases afterSupplyChange_changes state name with ⟨_, _, _, changed⟩
          simp only [respond, changed]
      | deviceAppeared device => rfl
      | interfaceAppeared device interface => rfl
      | gadgetController action =>
          cases action with
          | add =>
              rcases bindGadget_changes (state.setAdbDisabled "0") with ⟨_, changed⟩
              exact congrArg Supervisor.properties changed
          | remove => rfl
      | hostLost controller => rfl

/-- Looking around writes to files first, but a directory lists the same entries then. -/
theorem properties_lookAround (state : Supervisor) :
    state.lookAround.properties =
      state.properties.trySet Properties.adbDisabledKey
        (if state.files.Hosts (state.properties.getOrEmpty Properties.controllerKey) then "1"
          else "0") := by
  have outline := (state.configuration.autosuspend.writtenThrough_settleWakeup
    state.files).outline
  simp only [lookAround, Files.hasHostController_eq_of_outline_eq outline,
    Files.hasHostController_iff]

theorem properties_attach (state : Supervisor) (detail : StatusDetail)
    (failure : Option DeliveryFailure) :
    (state.attach detail failure).properties =
      match state.adbDisabled? (.attach detail failure) with
      | some value => state.properties.trySet Properties.adbDisabledKey value
      | none => state.properties := by
  unfold attach register adbDisabled?
  cases state.observer with
  | some observer => rfl
  | none => exact properties_lookAround _

theorem properties_tellStatuses (state : Supervisor) :
    state.tellStatuses.properties = state.properties := by
  rcases tellStatuses_changes state with ⟨_, told⟩
  rw [told]

/-- A step writes at most one property: the one it is asked to set, or that of the debug
bridge. -/
theorem properties_step (state : Supervisor) (step : Step) :
    (state.step step).1.properties =
      match step with
      | .setProperty key value => state.properties.trySet key value
      | step =>
          match state.adbDisabled? step with
          | some value => state.properties.trySet Properties.adbDisabledKey value
          | none => state.properties := by
  cases step with
  | attach detail failure => exact properties_attach state detail failure
  | detach =>
      change (state.register none).properties = state.properties
      unfold register
      cases state.observer <;> rfl
  | tellStatuses => exact properties_tellStatuses state
  | detectContaminant port enable => exact properties_tellStatuses state
  | protectFromContaminant port enable => exact properties_tellStatuses state
  | receive message =>
      refine (properties_receive state message).trans ?_
      simp only [adbDisabled?]
      split <;> rfl
  | setProperty key value =>
      simp only [Supervisor.step, Properties.trySet]
      cases state.properties.set key value <;> rfl
  | _ => rfl

/-- What the property of the debug bridge holds after some moments: what the last of those
that write it has made of it, or what it held at first. -/
def adbDisabledAfter (initial : Option String) (moments : List Moment) : Option String :=
  (moments.filterMap Moment.adbDisabled?).getLast?.or initial

theorem adbDisabledAfter_append_singleton (initial : Option String) (moments : List Moment)
    (moment : Moment) :
    adbDisabledAfter initial (moments ++ [moment]) =
      moment.adbDisabled?.or (adbDisabledAfter initial moments) := by
  rw [adbDisabledAfter, adbDisabledAfter, List.filterMap_append]
  cases written : moment.adbDisabled? with
  | none => simp [written]
  | some value => simp [written]

/-- A store that takes writes keeps taking them, and holds what was written last. -/
structure Follows (initial : Option String) (state : Supervisor) (earlier : List Moment) :
    Prop where
  writable : state.properties.refusal = none
  held : state.properties.get? Properties.adbDisabledKey = adbDisabledAfter initial earlier

theorem Follows.of_properties_eq {initial : Option String} {state next : Supervisor}
    {earlier : List Moment} (follows : Follows initial state earlier)
    (same : next.properties = state.properties) : Follows initial next earlier where
  writable := same ▸ follows.writable
  held := same ▸ follows.held

theorem Follows.step {initial : Option String} {state : Supervisor} {earlier : List Moment}
    {step : Step} (untouched : (Moment.served state step).sets Properties.adbDisabledKey = false)
    (follows : Follows initial state earlier) :
    Follows initial (state.step step).1 (earlier ++ [.served state step]) := by
  have told : adbDisabledAfter initial (earlier ++ [.served state step]) =
      (state.adbDisabled? step).or (state.properties.get? Properties.adbDisabledKey) := by
    rw [adbDisabledAfter_append_singleton, follows.held]
    rfl
  have written := properties_step state step
  by_cases outside : ∃ key value, step = .setProperty key value
  · rcases outside with ⟨key, value, rfl⟩
    have different : Properties.adbDisabledKey ≠ key := by
      rintro rfl
      simp [Moment.sets] at untouched
    refine ⟨?_, ?_⟩
    · rw [written, Properties.refusal_trySet, follows.writable]
    · rw [written, told, Properties.get?_trySet_other _ _ different]
      rfl
  · have own : (state.step step).1.properties =
        match state.adbDisabled? step with
        | some value => state.properties.trySet Properties.adbDisabledKey value
        | none => state.properties := by
      cases step with
      | setProperty key value => exact absurd ⟨key, value, rfl⟩ outside
      | _ => exact written
    refine ⟨?_, ?_⟩
    · rw [own]
      cases state.adbDisabled? step with
      | none => exact follows.writable
      | some value => exact (Properties.refusal_trySet _ _ _).trans follows.writable
    · rw [own, told]
      cases state.adbDisabled? step with
      | none => rfl
      | some value => exact Properties.get?_trySet_same follows.writable _ value

theorem Follows.switch {initial : Option String} {state : Supervisor} {earlier : List Moment}
    (port : PortName) (role : Role) (answer : Answer) (files : Files) (partner : Handshake)
    (follows : Follows initial state earlier) :
    Follows initial ({ state with files, partner, switching := false }.tellSwitch port role
      (.ofResult answer)) (earlier ++ [.switched state port role answer]) := by
  rcases tellSwitch_changes { state with files, partner, switching := false } port role
    (.ofResult answer) with ⟨_, changed⟩
  have kept : Follows initial ({ state with files, partner, switching := false }.tellSwitch port
      role (.ofResult answer)) earlier := follows.of_properties_eq (by rw [changed])
  refine ⟨kept.writable, kept.held.trans ?_⟩
  rw [adbDisabledAfter_append_singleton]
  rfl

/-- A controller that appears is bound to the gadget if there is no debug bridge around that
would do it. -/
theorem files_receive_add {state : Supervisor} {message : Bytes}
    (appeared : state.event? message = some (.gadgetController .add)) :
    (state.receive message).files =
      if state.properties.getOrEmpty Properties.adbStateKey = "running" then state.files
      else state.files.tryOverwrite state.configuration.gadget.controllerPath
        (state.properties.getOrEmpty Properties.controllerKey) := by
  have unseen (key : String) (different : key ≠ Properties.adbDisabledKey) :
      (state.setAdbDisabled "0").properties.getOrEmpty key = state.properties.getOrEmpty key :=
    Properties.getOrEmpty_trySet_other state.properties "0" different
  have bound (controller : String) : (state.setAdbDisabled "0").configuration.gadget.bind
      (state.setAdbDisabled "0").files controller =
        state.files.overwrite state.configuration.gadget.controllerPath controller := rfl
  rw [receive, appeared]
  change ((state.setAdbDisabled "0").bindGadget).files = _
  rw [bindGadget, unseen _ (by decide), unseen _ (by decide)]
  split
  · rfl
  · dsimp only
    rw [Files.tryOverwrite, bound]
    cases state.files.overwrite state.configuration.gadget.controllerPath
      (state.properties.getOrEmpty Properties.controllerKey) <;> rfl

/-- As long as the store takes writes and nobody else writes this property, it holds at
every moment of a run, and at the end, what the last of the moments so far that write it
has made of it. When the gadget's controller appears, its name, as it is told then, is
written to the gadget if and only if no debug bridge is running then. -/
theorem adbDisabled_follows_moments (configuration : Configuration) (properties : Properties)
    (files : Files) (operations : List Operation) (writable : properties.refusal = none)
    (untouched : ∀ moment ∈ (started configuration properties files).moments operations,
      moment.sets Properties.adbDisabledKey = false) :
    let start := started configuration properties files
    let initial := properties.get? Properties.adbDisabledKey
    (∀ earlier moment later, start.moments operations = earlier ++ moment :: later →
        moment.state.properties.get? Properties.adbDisabledKey =
          adbDisabledAfter initial earlier) ∧
      (start.run operations).1.properties.get? Properties.adbDisabledKey =
        adbDisabledAfter initial (start.moments operations) ∧
      ∀ (state : Supervisor) (message : Bytes),
        state.event? message = some (.gadgetController .add) →
          (state.receive message).files =
            if state.properties.getOrEmpty Properties.adbStateKey = "running" then state.files
            else state.files.tryOverwrite state.configuration.gadget.controllerPath
              (state.properties.getOrEmpty Properties.controllerKey) := by
  intro start initial
  have fresh : Follows initial start [] := ⟨writable, rfl⟩
  have follows := (course_run start operations).along Follows.step
    (fun requested waiting => waiting.of_properties_eq rfl) Follows.switch untouched fresh
  refine ⟨?_, follows.2.held, fun state message => files_receive_add⟩
  intro earlier moment later cut
  exact (follows.1 earlier moment later cut).held

/-- A gadget whose controller is a host when watching begins. -/
def hostingGadget : Supervisor :=
  .started { Configuration.default with gadget := ⟨⟨"g1"⟩, "b.1"⟩ }
    { values := [(Properties.controllerKey, "a600000.dwc3")], refusal := none }
    { root := { workingDirectory := [], path := ⟨"/"⟩, directory := [] }
      tree := {
        entries := [
          ([.text "g1"], .directory),
          ([.text "UDC", .text "g1"], .file []),
          ([.text "sys"], .directory),
          ([.text "bus", .text "sys"], .directory),
          ([.text "platform", .text "bus", .text "sys"], .directory),
          ([.text "devices", .text "platform", .text "bus", .text "sys"], .directory),
          ([.text "a600000.dwc3", .text "devices", .text "platform", .text "bus", .text "sys"],
            .directory),
          ([.text "xhci-hcd.0.auto", .text "a600000.dwc3", .text "devices", .text "platform",
            .text "bus", .text "sys"], .directory)]
        distinct := by decide } }

/-- Watching begins, the gadget's controller goes and comes again, and another observer
takes the place of the first. -/
def gadgetRun : List Operation :=
  let told (action : String) : Operation := .step (.receive (Utf8.bytes
    (action ++ "@/devices/platform/soc/a600000.ssusb/a600000.dwc3/udc/a600000.dwc3")))
  [.step (.attach .contaminant none), told "remove", told "add", .step (.attach .modes none)]

theorem adbDisabled_follows_moments_gadgetRun :
    let watching := (hostingGadget.run (gadgetRun.take 1)).1
    let after := (hostingGadget.run gadgetRun).1
    hostingGadget.properties.refusal = none ∧
      (∀ moment ∈ hostingGadget.moments gadgetRun,
        moment.sets Properties.adbDisabledKey = false) ∧
      watching.properties.get? Properties.adbDisabledKey = some "1" ∧
      after.properties.get? Properties.adbDisabledKey = some "0" ∧
      after.files.content ⟨"g1/UDC"⟩ = .ok (Utf8.bytes "a600000.dwc3") := by
  intro watching after
  have untouched : ∀ moment ∈ hostingGadget.moments gadgetRun,
      moment.sets Properties.adbDisabledKey = false := by
    decide +kernel
  have follows := adbDisabled_follows_moments _ _ _ gadgetRun rfl untouched
  have first := follows.1 [.served hostingGadget (.attach .contaminant none)] _ _ rfl
  have bound : after.files.content ⟨"g1/UDC"⟩ = .ok (Utf8.bytes "a600000.dwc3") := by
    decide +kernel
  exact ⟨rfl, untouched, first.trans (by decide +kernel),
    follows.2.1.trans (by decide +kernel), bound⟩

end Supervisor

end UsbTypeC
