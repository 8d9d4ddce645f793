import UsbTypeC.Proofs.Supervisor.Course

/-! What observers are told along a run. At every moment of its course it is known from the
earlier moments whether events are watched, what was found out when watching began, and what
has been sent to whom. -/

namespace UsbTypeC

def Step.attaches : Step → Bool
  | .attach _ _ => true
  | _ => false

namespace Supervisor

/-- Whether the event of a supply brings news: the supply is the one in question or has no name,
the observer understands contaminants, and what can be read is not what was known. -/
def bringsNews (state : Supervisor) (name : Option String) : Bool :=
  match state.observer, state.contaminantFile with
  | some observer, some path =>
      match state.files.readValue path with
      | .ok text =>
          (name == none || name == some "usb") && observer.detail == .contaminant &&
            (text.toList.head? == some '1') != state.contaminantPresent
      | .error _ => false
  | _, _ => false

/-- The files whose ports a step makes known, if it makes any known. The event of a port
does so when the power budget has followed it, and the event of a supply if it brings news. -/
def shownFiles? (state : Supervisor) : Step → Option Files
  | .tellStatuses => some state.files
  | .detectContaminant _ _ => some state.files
  | .protectFromContaminant _ _ => some state.files
  | .receive message =>
      match state.event? message with
      | some (.portChanged _) => some state.followPowerMode.files
      | some (.supplyChanged name) => if state.bringsNews name then some state.files else none
      | _ => none
  | _ => none

/-- What is told about the ports is what asking for their statuses is answered with. -/
def statusNotification (state : Supervisor) (detail : StatusDetail) : Notification :=
  match state.statuses detail with
  | .ok ports => .statuses ports .success
  | .error _ => .statuses [] .error

end Supervisor

namespace Moment

/-- What there is to be told, in the detail that an observer understands. -/
def notifications (detail : StatusDetail) : Moment → List Notification
  | .served state step =>
      (state.shownFiles? step).toList.map fun files =>
        { state with files }.statusNotification detail
  | .switched _ port role (.ok _) => [.switched port role .success]
  | .switched _ port role (.error _) => [.switched port role .error]

/-- It is told to the observer of that moment, if there is one, and arrives there unless that
observer fails. -/
def deliveries (moment : Moment) : List Delivery :=
  match moment.state.observer with
  | none => []
  | some observer =>
      (moment.notifications observer.detail).map fun notification =>
        { observer, notification, failure := observer.failure }

/-- Where the contaminant state is told and whether wakeup is ignored is found out when an
observer is registered where there was none, and at no other moment. -/
def found (known : Option Path × Bool) : Moment → Option Path × Bool
  | .served state (.attach detail failure) =>
      if state.observer = none then
        let attached := (state.step (.attach detail failure)).1
        (attached.contaminantFile, attached.wakeupIgnored)
      else known
  | _ => known

end Moment

namespace Supervisor

theorem deliveries_tellStatuses (state : Supervisor) :
    state.tellStatuses.deliveries =
      state.deliveries ++ state.observer.toList.map fun observer =>
        observer.deliver (state.statusNotification observer.detail) := by
  have report (detail : StatusDetail) :
      Notification.statuses (state.survey.report state.files detail).1
        (state.survey.report state.files detail).2 = state.statusNotification detail := by
    rw [Survey.report, statusNotification, statuses]
    cases state.survey.statuses state.files detail <;> rfl
  rw [tellStatuses]
  cases observed : state.observer with
  | none => exact (List.append_nil _).symm
  | some observer =>
      exact congrArg (fun told => state.deliveries ++ [observer.deliver told])
        (report observer.detail)

/-- The event of a port makes the ports known after the power budget has followed it. -/
theorem deliveries_afterPortChange (state : Supervisor) (partnerAppeared : Bool) :
    (state.afterPortChange partnerAppeared).deliveries =
      state.deliveries ++ state.observer.toList.map fun observer =>
        observer.deliver
          ({ state with files := state.followPowerMode.files }.statusNotification
            observer.detail) := by
  have told (partner : Handshake) :
      { state.followPowerMode with partner }.tellStatuses.deliveries =
        state.deliveries ++ state.observer.toList.map fun observer =>
          observer.deliver
            ({ state with files := state.followPowerMode.files }.statusNotification
              observer.detail) := by
    rcases followPowerMode_changes state with ⟨files, powerOverride, followed⟩
    rw [deliveries_tellStatuses, followed]
    rfl
  rw [afterPortChange]
  cases partnerAppeared with
  | false => exact told state.followPowerMode.partner
  | true =>
      have followed := followPowerMode_partner state .confirmed
      exact (congrArg (fun next => next.tellStatuses.deliveries) followed).trans
        (told .confirmed)

theorem contaminantReading?_eq_news_iff {state : Supervisor} {name : Option String} :
    state.contaminantReading? name = some (!state.contaminantPresent) ↔
      state.bringsNews name = true := by
  rw [contaminantReading?, bringsNews, Supervisor.tellsContaminant,
    Option.ite_none_right_eq_some]
  cases state.observer with
  | none => simp
  | some observer =>
      cases state.contaminantFile with
      | none => simp
      | some path =>
          dsimp only
          rw [Files.contaminantPresent]
          cases state.files.readValue path with
          | error error => simp [Except.map, Except.toOption]
          | ok text =>
              have understands : observer.detail.tellsContaminant =
                  (observer.detail == .contaminant) := by
                cases observer.detail <;> rfl
              dsimp only
              rw [understands]
              cases state.contaminantPresent <;>
                simp [Except.map, Except.toOption, and_assoc, and_comm]

theorem deliveries_afterSupplyChange (state : Supervisor) (name : Option String) :
    (state.afterSupplyChange name).deliveries =
      state.deliveries ++
        if state.bringsNews name then
          state.observer.toList.map fun observer =>
            observer.deliver (state.statusNotification observer.detail)
        else [] := by
  simp only [← contaminantReading?_eq_news_iff]
  rw [afterSupplyChange]
  cases read : state.contaminantReading? name with
  | none => simp
  | some present =>
      have kept (told : Supervisor) :
          (if told.switching then told else told.releaseIdlePorts).deliveries =
            told.deliveries := by
        split
        · rfl
        · rcases releaseIdlePorts_changes told with ⟨files, released⟩
          rw [released]
      have news : some present = some (!state.contaminantPresent) ↔
          state.contaminantPresent ≠ present := by
        cases present <;> cases state.contaminantPresent <;> decide
      dsimp only
      rw [kept]
      by_cases same : state.contaminantPresent = present
      · rw [if_pos same, if_neg fun changed => news.mp changed same, List.append_nil]
      · rw [if_neg same, if_pos (news.mpr same)]
        exact deliveries_tellStatuses { state with contaminantPresent := present }

theorem deliveries_afterControllerChange (state : Supervisor)
    (action : Uevent.ControllerAction) :
    (state.afterControllerChange action).deliveries = state.deliveries := by
  rcases afterControllerChange_changes state action with ⟨_, _, changed⟩
  rw [changed]

theorem deliveries_served (state : Supervisor) (step : Step) :
    (Moment.served state step).deliveries =
      match state.shownFiles? step with
      | some files => state.observer.toList.map fun observer =>
          observer.deliver ({ state with files }.statusNotification observer.detail)
      | none => [] := by
  rw [Moment.deliveries]
  simp only [Moment.notifications, Moment.state]
  cases state.observer <;> cases state.shownFiles? step <;> rfl

theorem deliveries_receive (state : Supervisor) (message : Bytes) :
    (state.receive message).deliveries =
      state.deliveries ++ (Moment.served state (.receive message)).deliveries := by
  rw [deliveries_served, shownFiles?, receive]
  cases told : state.event? message with
  | none => exact (List.append_nil _).symm
  | some event =>
      cases event with
      | portChanged partnerAppeared => exact deliveries_afterPortChange state partnerAppeared
      | supplyChanged name =>
          refine (deliveries_afterSupplyChange state name).trans ?_
          dsimp only
          split <;> rfl
      | gadgetController action =>
          exact (deliveries_afterControllerChange state action).trans (List.append_nil _).symm
      | deviceAppeared device => exact (List.append_nil _).symm
      | interfaceAppeared device interface => exact (List.append_nil _).symm
      | hostLost controller => exact (List.append_nil _).symm

theorem deliveries_register (state : Supervisor) (observer : Option Observer) :
    (state.register observer).deliveries = state.deliveries := by
  rcases register_changes state observer with ⟨_, _, _, _, _, changed⟩
  rw [changed]

theorem deliveries_step (state : Supervisor) (step : Step) :
    (state.step step).1.deliveries =
      state.deliveries ++ (Moment.served state step).deliveries := by
  have silent (quiet : state.shownFiles? step = none)
      (kept : (state.step step).1.deliveries = state.deliveries) :
      (state.step step).1.deliveries =
        state.deliveries ++ (Moment.served state step).deliveries := by
    rw [kept, deliveries_served, quiet, List.append_nil]
  cases step with
  | receive message => exact deliveries_receive state message
  | tellStatuses =>
      rw [deliveries_served]
      exact deliveries_tellStatuses state
  | detectContaminant port enable =>
      rw [deliveries_served]
      exact deliveries_tellStatuses state
  | protectFromContaminant port enable =>
      rw [deliveries_served]
      exact deliveries_tellStatuses state
  | attach detail failure =>
      exact silent rfl (deliveries_register { state with registrations := _ } _)
  | detach => exact silent rfl (deliveries_register state none)
  | setProperty key value =>
      refine silent rfl ?_
      simp only [Supervisor.step]
      split <;> rfl
  | _ => exact silent rfl rfl

theorem observer_register (state : Supervisor) (observer : Option Observer) :
    (state.register observer).observer = observer := by
  rcases register_changes state observer with ⟨_, _, _, _, _, changed⟩
  rw [changed]

theorem watching_register {state : Supervisor} (agrees : state.watching = state.observer.isSome)
    (observer : Option Observer) : (state.register observer).watching = observer.isSome := by
  unfold register
  cases held : state.observer with
  | none =>
      rw [held] at agrees
      cases observer with
      | none => exact agrees
      | some next => rfl
  | some last =>
      rw [held] at agrees
      cases observer with
      | none => rfl
      | some next => exact agrees

/-- What was found out stays as it is, unless watching begins. -/
theorem found_register (state : Supervisor) (observer : Option Observer)
    (replaces : state.observer ≠ none ∨ observer = none) :
    (state.register observer).contaminantFile = state.contaminantFile ∧
      (state.register observer).wakeupIgnored = state.wakeupIgnored := by
  unfold register
  cases held : state.observer with
  | none =>
      cases observer with
      | none => exact ⟨rfl, rfl⟩
      | some next =>
          rcases replaces with watched | absent
          · exact absurd held watched
          · cases absent
  | some last => cases observer <;> exact ⟨rfl, rfl⟩

/-- Who observes, and what was found out for that, is the same as before. -/
structure SameWatch (state next : Supervisor) : Prop where
  configuration : next.configuration = state.configuration
  observer : next.observer = state.observer
  watching : next.watching = state.watching
  contaminantFile : next.contaminantFile = state.contaminantFile
  wakeupIgnored : next.wakeupIgnored = state.wakeupIgnored

theorem step_unobserved (state : Supervisor) {step : Step} (attaches : step.attaches = false)
    (detaches : step ≠ .detach) : SameWatch state (state.step step).1 := by
  have told : SameWatch state state.tellStatuses := by
    rcases tellStatuses_changes state with ⟨_, changed⟩
    rw [changed]
    exact ⟨rfl, rfl, rfl, rfl, rfl⟩
  cases step with
  | attach detail failure => cases attaches
  | detach => exact absurd rfl detaches
  | tellStatuses => exact told
  | detectContaminant port enable => exact told
  | protectFromContaminant port enable => exact told
  | receive message =>
      dsimp only [Supervisor.step]
      rcases receive_cases state message with
        ⟨partnerAppeared, _, answered⟩ | ⟨_, _, _, _, _, changed⟩
      · rcases afterPortChange_changes state partnerAppeared with ⟨_, _, _, changed⟩
        rw [answered, changed]
        exact ⟨rfl, rfl, rfl, rfl, rfl⟩
      · rw [changed]
        exact ⟨rfl, rfl, rfl, rfl, rfl⟩
  | setProperty key value =>
      simp only [Supervisor.step]
      split <;> exact ⟨rfl, rfl, rfl, rfl, rfl⟩
  | _ => exact ⟨rfl, rfl, rfl, rfl, rfl⟩

/-- What is known of a supervisor after the moments of a run. -/
structure Accounted (state : Supervisor) (earlier : List Moment) : Prop where
  watching : state.watching = state.observer.isSome
  found : (state.contaminantFile, state.wakeupIgnored) = earlier.foldl Moment.found (none, false)
  deliveries : state.deliveries = earlier.flatMap Moment.deliveries

namespace Accounted

variable {state : Supervisor} {earlier : List Moment}

theorem start (configuration : Configuration) (properties : Properties) (files : Files) :
    (started configuration properties files).Accounted [] where
  watching := rfl
  found := rfl
  deliveries := rfl

theorem deliveries_step (accounted : state.Accounted earlier) (step : Step) :
    (state.step step).1.deliveries =
      (earlier ++ [Moment.served state step]).flatMap Moment.deliveries := by
  rw [Supervisor.deliveries_step, accounted.deliveries, List.flatMap_append, List.flatMap_singleton]

theorem found_foldl (accounted : state.Accounted earlier) (moment : Moment) :
    (earlier ++ [moment]).foldl Moment.found (none, false) =
      moment.found (state.contaminantFile, state.wakeupIgnored) := by
  rw [List.foldl_append, ← accounted.found]
  rfl

/-- A step that has nothing to do with who observes. -/
theorem unobserved (accounted : state.Accounted earlier) {step : Step}
    (attaches : step.attaches = false) (detaches : step ≠ .detach) :
    (state.step step).1.Accounted (earlier ++ [.served state step]) := by
  have same := step_unobserved state attaches detaches
  refine ⟨?_, ?_, accounted.deliveries_step step⟩
  · rw [same.watching, same.observer, accounted.watching]
  · rw [accounted.found_foldl, same.contaminantFile, same.wakeupIgnored]
    cases step with
    | attach detail failure => cases attaches
    | _ => rfl

theorem step (accounted : state.Accounted earlier) (step : Step) :
    (state.step step).1.Accounted (earlier ++ [.served state step]) := by
  cases step with
  | attach detail failure =>
      let counted : Supervisor := { state with registrations := state.registrations + 1 }
      let observer : Observer := { number := state.registrations, detail, failure }
      have agrees : counted.watching = counted.observer.isSome := accounted.watching
      refine ⟨?_, ?_, accounted.deliveries_step _⟩
      · exact (watching_register agrees observer).trans
          (congrArg Option.isSome (observer_register counted observer)).symm
      · rw [accounted.found_foldl]
        dsimp only [Moment.found]
        -- An observer that takes the place of another does not look around.
        split
        · rfl
        · next watched =>
          have kept := found_register counted (some observer) (.inl watched)
          exact Prod.ext kept.1 kept.2
  | detach =>
      refine ⟨?_, ?_, accounted.deliveries_step _⟩
      · exact (watching_register accounted.watching none).trans
          (congrArg Option.isSome (observer_register state none)).symm
      · rw [accounted.found_foldl]
        have kept := found_register state none (.inr rfl)
        exact Prod.ext kept.1 kept.2
  | _ => exact accounted.unobserved rfl Step.noConfusion

/-- Until a switch comes to its end, nobody is told about it. -/
theorem waiting (accounted : state.Accounted earlier) (requested : Files) :
    (state.waiting requested).Accounted earlier :=
  ⟨accounted.watching, accounted.found, accounted.deliveries⟩

/-- The end of a switch, whatever it leaves to the files and the partner signal. -/
theorem switched (accounted : state.Accounted earlier) (files : Files) (partner : Handshake)
    (port : PortName) (role : Role) (answer : Answer) :
    ({ state with files, partner, switching := false }.tellSwitch port role
        (.ofResult answer)).Accounted (earlier ++ [Moment.switched state port role answer]) := by
  rcases tellSwitch_changes { state with files, partner, switching := false } port role
    (.ofResult answer) with ⟨deliveries, changed⟩
  refine ⟨?_, ?_, ?_⟩
  · rw [changed]
    exact accounted.watching
  · rw [accounted.found_foldl, changed]
    rfl
  · rw [List.flatMap_append, List.flatMap_singleton, ← accounted.deliveries, tellSwitch,
      Moment.deliveries]
    simp only [Moment.notifications, Moment.state]
    cases state.observer with
    | none => exact (List.append_nil _).symm
    | some observer => cases answer <;> rfl

end Accounted

/-- A stretch of a run that leads to a last state, with everything accounted for at its
every moment and at its end. -/
structure Leads (earlier moments : List Moment) (last : Supervisor) : Prop where
  along : ∀ before moment later, moments = before ++ moment :: later →
    moment.state.Accounted (earlier ++ before)
  last : last.Accounted (earlier ++ moments)

theorem leads_run {state : Supervisor} {earlier : List Moment}
    (accounted : state.Accounted earlier) (operations : List Operation) :
    Leads earlier (state.moments operations) (state.run operations).1 := by
  have course := (course_run state operations).along
    (fun _ accounted => accounted.step _) (fun requested accounted => accounted.waiting requested)
    (fun port role answer files partner accounted =>
      accounted.switched files partner port role answer)
    (fun _ _ => trivial) accounted
  exact ⟨course.1, course.2⟩

/-- Along every run from the start, at its every moment and at its end: events are watched
if and only if there is an observer, what is known about the contaminant state and about
wakeup was found out when an observer came where there was none, and the notifications on
record are those of the moments so far, each sent to the observer of its moment. -/
theorem run_accounted (configuration : Configuration) (properties : Properties)
    (files : Files) (operations : List Operation) :
    let start := started configuration properties files
    (∀ earlier moment later, start.moments operations = earlier ++ moment :: later →
        moment.state.Accounted earlier) ∧
      (start.run operations).1.Accounted (start.moments operations) := by
  have leads := leads_run (Accounted.start configuration properties files) operations
  exact ⟨leads.along, leads.last⟩

/-- A port with nothing attached to it, and a file that tells of a contaminant. -/
def dampPort : Files :=
  seenFromTop
    [([.text "sys"], .directory),
      ([.text "class", .text "sys"], .directory),
      ([.text "typec", .text "class", .text "sys"], .directory),
      ([.text "port0", .text "typec", .text "class", .text "sys"], .directory),
      ([.text "port_type", .text "port0", .text "typec", .text "class", .text "sys"],
        .file (Utf8.bytes "[dual] source sink\n")),
      ([.text "power_supply", .text "class", .text "sys"], .directory),
      ([.text "usb", .text "power_supply", .text "class", .text "sys"], .directory),
      ([.text "moisture_detected", .text "usb", .text "power_supply", .text "class",
        .text "sys"], .file (Utf8.bytes "1\n"))]
    (by decide)

/-- An observer takes the place of another while a switch waits, and is told what comes after
that, although it cannot be reached; nobody is told anything when it is gone. -/
theorem run_accounted_dampPort :
    let supply : Step := .receive (Utf8.bytes "change@/devices/power_supply/usb")
    let partner : Step := .receive (Utf8.bytes "add@/typec/port0-partner")
    let run := (started .default .empty dampPort).run
      [.step (.attach .contaminant none),
        .step supply,
        .requestRole "port0" (.mode .dfp) [.attach .modes (some ⟨"gone"⟩), partner],
        .step .detach,
        .step .tellStatuses]
    let told : PortStatus := {
      port := .port0
      connected := false
      powerRole := none
      dataRole := none
      mode := none
      modeChangeable := true
      dataRoleChangeable := false
      powerRoleChangeable := false
      offeredModes := [.drp, .audioAccessory]
      contaminant := none }
    let contaminant : ContaminantState := {
      protectionModes := [.forceSink, .forceDisable]
      canEnableProtection := false
      canEnableDetection := false
      protection := .forceSink
      detection := .detected }
    run.1.watching = false ∧
      run.1.contaminantFile = some ⟨"sys/class/power_supply/usb/moisture_detected"⟩ ∧
      run.1.deliveries =
        [⟨⟨0, .contaminant, none⟩, .statuses [{ told with contaminant }] .success, none⟩,
          ⟨⟨1, .modes, some ⟨"gone"⟩⟩, .statuses [told] .success, some ⟨"gone"⟩⟩,
          ⟨⟨1, .modes, some ⟨"gone"⟩⟩, .switched .port0 (.mode .dfp) .success, some ⟨"gone"⟩⟩] := by
  intro supply partner run told contaminant
  have accounted := (run_accounted .default .empty dampPort
    [.step (.attach .contaminant none),
      .step supply,
      .requestRole "port0" (.mode .dfp) [.attach .modes (some ⟨"gone"⟩), partner],
      .step .detach,
      .step .tellStatuses]).2
  refine ⟨accounted.watching.trans (by decide +kernel), ?_, ?_⟩
  · exact (congrArg Prod.fst accounted.found).trans (by decide +kernel)
  · exact accounted.deliveries.trans (by decide +kernel)

end Supervisor

end UsbTypeC
