import Mathlib.Control.Monad.Basic
import UsbTypeC.Proofs.Supervisor.IdlePorts

/-! What the event of a supply does between two operations, and how often such events are told
along a run. The presence of a contaminant that was read last is remembered whoever observes,
so what counts as news depends on all events of supplies before. -/

namespace UsbTypeC

/-- How often a reading differs from the one before it. -/
def changes (known : Bool) : List Bool → Nat
  | [] => 0
  | present :: later => (if known = present then 0 else 1) + changes present later

theorem changes_append_singleton (known present : Bool) (readings : List Bool) :
    changes known (readings ++ [present]) =
      changes known readings + if readings.getLastD known = present then 0 else 1 := by
  induction readings generalizing known with
  | nil => simp [changes]
  | cons reading rest induction =>
      rw [List.cons_append, changes, changes, induction, List.getLastD_cons, Nat.add_assoc]

namespace Moment

/-- The presence that the event of a supply tells of. -/
def supplyReading? : Moment → Option Bool
  | .served state (.receive message) =>
      match state.event? message with
      | some (.supplyChanged name) => state.contaminantReading? name
      | _ => none
  | _ => none

/-- What the event of a supply adds to the deliveries. -/
def supplyNews : Moment → List Delivery
  | .served state (.receive message) =>
      match state.event? message with
      | some (.supplyChanged _) =>
          (state.receive message).deliveries.drop state.deliveries.length
      | _ => []
  | _ => []

end Moment

namespace Supervisor

/-- There is an observer that understands contaminants, the supply is the one in question or
has no name, and a presence can be read where the device tells it. -/
def Senses (state : Supervisor) (name : Option String) (present : Bool) : Prop :=
  ∃ observer path text, state.observer = some observer ∧ observer.detail = .contaminant ∧
    (name = none ∨ name = some "usb") ∧ state.contaminantFile = some path ∧
    state.files.readValue path = .ok text ∧ (present = true ↔ text.toList.head? = some '1')

/-- What becomes of a state when a presence is told. -/
structure AnswersSupply (state : Supervisor) (present : Bool) (next : Supervisor) : Prop where
  kept : next =
    { state with
      contaminantPresent := present
      deliveries := next.deliveries
      files := next.files }
  told : ∃ observer, state.observer = some observer ∧
    next.deliveries = state.deliveries ++
      if state.contaminantPresent = present then []
      else [{
        observer
        notification := state.statusNotification observer.detail
        failure := observer.failure }]
  outline : next.files.outline = state.files.outline
  released : ∀ port ∈ state.files.idlePorts, ∀ place content,
    state.files.node (state.files.controlPath port .mode) = .ok (place, .file content) →
      next.files.tree.node? place = some (.file (Utf8.bytes Role.dual))
  spared : ∀ place,
    (∀ port ∈ state.files.idlePorts,
      state.files.locate (state.files.controlPath port .mode) ≠ .ok place) →
      next.files.tree.node? place = state.files.tree.node? place

section Answer

variable {state : Supervisor} {message : Bytes} {name : Option String} {present : Bool}

theorem tellsContaminant_iff :
    state.tellsContaminant = true ↔
      ∃ observer, state.observer = some observer ∧ observer.detail = .contaminant := by
  rw [tellsContaminant]
  cases state.observer with
  | none => simp
  | some observer => simp [StatusDetail.tellsContaminant_iff]

theorem contaminantReading?_eq_some_iff :
    state.contaminantReading? name = some present ↔ state.Senses name present := by
  have presence (text : String) : (text.toList.head? == some '1') = present ↔
      (present = true ↔ text.toList.head? = some '1') := by
    rw [Bool.eq_iff_iff, beq_iff_eq]
    exact Iff.comm
  rw [contaminantReading?, Senses, Option.ite_none_right_eq_some, tellsContaminant_iff]
  constructor
  · intro read
    rcases read with ⟨⟨⟨observer, observed, understands⟩, asked⟩, read⟩
    cases known : state.contaminantFile with
    | none =>
        rw [known] at read
        cases read
    | some path =>
        rw [known] at read
        dsimp only at read
        rw [Files.contaminantPresent] at read
        cases value : state.files.readValue path with
        | error error =>
            rw [value] at read
            cases read
        | ok text =>
            rw [value] at read
            exact ⟨observer, path, text, observed, understands, asked, rfl, value,
              (presence text).mp (Option.some.inj read)⟩
  · intro senses
    rcases senses with ⟨observer, path, text, observed, understands, asked, known, value, tells⟩
    refine ⟨⟨⟨observer, observed, understands⟩, asked⟩, ?_⟩
    rw [known]
    dsimp only
    rw [Files.contaminantPresent, value]
    exact congrArg some ((presence text).mpr tells)

theorem deliveries_noted (senses : state.Senses name present) :
    ∃ observer, state.observer = some observer ∧
      (state.noted present).deliveries = state.deliveries ++
        if state.contaminantPresent = present then []
        else [observer.deliver (state.statusNotification observer.detail)] := by
  rcases senses with ⟨observer, _, _, observed, _⟩
  refine ⟨observer, observed, ?_⟩
  rw [noted, observed]
  rfl

theorem answersSupply_noted (senses : state.Senses name present) :
    state.AnswersSupply present (state.noted present).releaseIdlePorts where
  kept := by
    rw [releaseIdlePorts_eq]
    rfl
  told := by
    rw [releaseIdlePorts_eq]
    exact deliveries_noted senses
  outline := outline_releaseIdlePorts (state.noted present)
  released _ idle _ _ control :=
    @node?_releaseIdlePorts_of_idle (state.noted present) _ idle _ _ control
  spared _ apart := @node?_releaseIdlePorts_apart (state.noted present) _ apart

/-- An event of a supply leaves what decides which event a message tells of. -/
theorem event?_receive_supply (told : state.event? message = some (.supplyChanged name))
    (other : Bytes) : (state.receive message).event? other = state.event? other := by
  cases read : state.contaminantReading? name with
  | none => rw [receive_of_no_reading told read]
  | some present =>
      rw [receive_of_reading told read]
      split
      · rfl
      · rw [releaseIdlePorts_eq]
        rfl

/-- The same event once more finds the idle ports in dual role, whatever it tells of now. -/
theorem node?_receive_supply_again (idle : state.switching = false)
    (told : state.event? message = some (.supplyChanged name)) {place : Location}
    {content : Bytes}
    (held : (state.receive message).files.tree.node? place = some (.file content)) :
    ((state.receive message).receive message).files.tree.node? place =
      some (.file content) := by
  cases read : state.contaminantReading? name with
  | none =>
      have same := receive_of_no_reading told read
      rw [same] at held ⊢
      rwa [same]
  | some present =>
      have toldAgain := (event?_receive_supply told message).trans told
      have answered := receive_of_reading told read
      rw [idle] at answered
      cases readAgain : (state.receive message).contaminantReading? name with
      | none => rwa [receive_of_no_reading toldAgain readAgain]
      | some presentAgain =>
          have idleAgain : (state.receive message).switching = false :=
            (kept_step state (.receive message)).2.trans idle
          rw [receive_of_reading toldAgain readAgain, idleAgain, if_neg Bool.false_ne_true]
          have reset : (state.receive message).files =
              (state.noted present).releaseIdlePorts.files := by
            rw [answered, if_neg Bool.false_ne_true]
          rw [← files_noted (state.receive message) presentAgain] at reset held
          exact node?_releaseIdlePorts_again reset held

end Answer

section News

variable (state : Supervisor) (step : Step)

theorem contaminantPresent_receive (message : Bytes) :
    (state.receive message).contaminantPresent =
      ((Moment.served state (.receive message)).supplyReading?).getD
        state.contaminantPresent := by
  rw [Moment.supplyReading?]
  cases told : state.event? message with
  | none =>
      rw [receive, told]
      rfl
  | some event =>
      cases event with
      | supplyChanged name =>
          dsimp only
          cases read : state.contaminantReading? name with
          | none =>
              rw [receive_of_no_reading told read]
              rfl
          | some present =>
              rw [receive_of_reading told read, releaseIdlePorts_eq]
              split <;> rfl
      | portChanged partnerAppeared =>
          rcases afterPortChange_changes state partnerAppeared with ⟨_, _, _, changed⟩
          rw [receive, told]
          change (state.afterPortChange partnerAppeared).contaminantPresent = _
          rw [changed]
          rfl
      | gadgetController action =>
          rcases afterControllerChange_changes state action with ⟨_, _, changed⟩
          rw [receive, told]
          change (state.afterControllerChange action).contaminantPresent = _
          rw [changed]
          rfl
      | _ =>
          rw [receive, told]
          rfl

/-- The presence that is remembered is the one that was read last. -/
theorem contaminantPresent_step :
    (state.step step).1.contaminantPresent =
      ((Moment.served state step).supplyReading?).getD state.contaminantPresent := by
  by_cases received : ∃ message, step = .receive message
  · rcases received with ⟨message, rfl⟩
    exact contaminantPresent_receive state message
  · have other : ∀ message, step ≠ .receive message :=
      fun message equal => received ⟨message, equal⟩
    rcases step_changes state other with ⟨_, _, _, _, _, _, _, _, changed⟩
    rw [changed]
    cases step with
    | receive message => exact absurd rfl (other message)
    | _ => rfl

/-- One notification is sent if the presence is not the one that was remembered. -/
theorem length_supplyNews :
    (Moment.served state step).supplyNews.length =
      changes state.contaminantPresent (Moment.served state step).supplyReading?.toList := by
  cases step with
  | receive message =>
      rw [Moment.supplyNews, Moment.supplyReading?]
      cases told : state.event? message with
      | none => rfl
      | some event =>
          cases event with
          | supplyChanged name =>
              dsimp only
              cases read : state.contaminantReading? name with
              | none =>
                  rw [receive_of_no_reading told read]
                  simp [changes]
              | some present =>
                  rcases deliveries_noted (contaminantReading?_eq_some_iff.mp read) with
                    ⟨observer, _, added⟩
                  have deliveries : (state.receive message).deliveries =
                      (state.noted present).deliveries := by
                    rw [receive_of_reading told read, releaseIdlePorts_eq]
                    split <;> rfl
                  rw [deliveries, added, List.drop_left]
                  by_cases same : state.contaminantPresent = present <;> simp [changes, same]
          | _ => rfl
  | _ => rfl

end News

/-- What was read and told because of supplies up to a state. -/
structure SupplyTold (state : Supervisor) (earlier : List Moment) : Prop where
  known : state.contaminantPresent = (earlier.filterMap Moment.supplyReading?).getLastD false
  news : (earlier.flatMap Moment.supplyNews).length =
    changes false (earlier.filterMap Moment.supplyReading?)

namespace SupplyTold

variable {state : Supervisor} {earlier : List Moment}

/-- A moment that is no event of a supply. -/
theorem silent (supply : state.SupplyTold earlier) {next : Supervisor} {moment : Moment}
    (kept : next.contaminantPresent = state.contaminantPresent)
    (unread : moment.supplyReading? = none) (untold : moment.supplyNews = []) :
    next.SupplyTold (earlier ++ [moment]) where
  known := by
    rw [kept, supply.known, List.filterMap_append, List.filterMap_cons_none unread]
    simp
  news := by
    rw [List.flatMap_append, List.flatMap_singleton, untold, List.append_nil, supply.news,
      List.filterMap_append, List.filterMap_cons_none unread]
    simp

theorem step (supply : state.SupplyTold earlier) (step : Step) :
    (state.step step).1.SupplyTold (earlier ++ [.served state step]) := by
  have kept := contaminantPresent_step state step
  have added := length_supplyNews state step
  cases read : (Moment.served state step).supplyReading? with
  | none =>
      rw [read] at kept added
      exact supply.silent kept read (List.eq_nil_of_length_eq_zero added)
  | some present =>
      rw [read] at kept added
      refine ⟨?_, ?_⟩
      · rw [kept, List.filterMap_append, List.filterMap_cons_some read]
        simp
      · rw [List.flatMap_append, List.flatMap_singleton, List.length_append, supply.news, added,
          List.filterMap_append, List.filterMap_cons_some read, List.filterMap_nil,
          changes_append_singleton, ← supply.known]
        rfl

theorem waiting (supply : state.SupplyTold earlier) (requested : Files) :
    (state.waiting requested).SupplyTold earlier :=
  ⟨supply.known, supply.news⟩

theorem switched (supply : state.SupplyTold earlier) (files : Files) (partner : Handshake)
    (port : PortName) (role : Role) (answer : Answer) :
    ({ state with files, partner, switching := false }.tellSwitch port role
        (.ofResult answer)).SupplyTold (earlier ++ [Moment.switched state port role answer]) := by
  apply supply.silent _ rfl rfl
  rcases tellSwitch_changes { state with files, partner, switching := false } port role
    (.ofResult answer) with ⟨_, changed⟩
  rw [changed]

theorem run (supply : state.SupplyTold earlier) (operations : List Operation) :
    (state.run operations).1.SupplyTold (earlier ++ state.moments operations) :=
  ((course_run state operations).along (fun _ supply => supply.step _)
    (fun requested supply => supply.waiting requested)
    (fun port role answer files partner supply =>
      supply.switched files partner port role answer)
    (fun _ _ => trivial) supply).2

end SupplyTold

/-- Between two operations, the event of a supply changes nothing if no presence can be told.
Otherwise the presence is remembered, the statuses are told if it is news, and every idle port
is put back into dual role, whatever becomes of the others; no other file changes, and none does
if the same event comes again. Along the whole run such events are told as often as what they
tell of changes. -/
theorem supplyEvent_exact (configuration : Configuration) (properties : Properties)
    (files : Files) (operations : List Operation) :
    let start := started configuration properties files
    let state := (start.run operations).1
    (∀ (message : Bytes) (name : Option String),
      state.event? message = some (.supplyChanged name) →
        let next := state.receive message
        ((∀ present, ¬ state.Senses name present) → next = state) ∧
          (∀ present, state.Senses name present → state.AnswersSupply present next) ∧
          ∀ place content, next.files.tree.node? place = some (.file content) →
            (next.receive message).files.tree.node? place = some (.file content)) ∧
      ((start.moments operations).flatMap Moment.supplyNews).length =
        changes false ((start.moments operations).filterMap Moment.supplyReading?) := by
  intro start state
  have idle : state.switching = false := switching_run rfl operations
  have supply : start.SupplyTold [] := ⟨rfl, rfl⟩
  refine ⟨?_, (supply.run operations).news⟩
  intro message name told next
  refine ⟨?_, ?_, ?_⟩
  · intro senseless
    apply receive_of_no_reading told
    rw [Option.eq_none_iff_forall_ne_some]
    intro present read
    exact senseless present (contaminantReading?_eq_some_iff.mp read)
  · intro present senses
    have answered := receive_of_reading told (contaminantReading?_eq_some_iff.mpr senses)
    rw [idle] at answered
    change state.AnswersSupply present (state.receive message)
    rw [answered]
    exact answersSupply_noted senses
  · intro place content held
    exact node?_receive_supply_again idle told held

/-- A device that is damp, with a port that is plugged in, one that is not, and one that is not
and has no file for its mode. -/
def dampFiles : Files :=
  seenFromTop
    [([.text "sys"], .directory),
      ([.text "class", .text "sys"], .directory),
      ([.text "typec", .text "class", .text "sys"], .directory),
      ([.text "port0", .text "typec", .text "class", .text "sys"], .directory),
      ([.text "port1", .text "typec", .text "class", .text "sys"], .directory),
      ([.text "port_type", .text "port1", .text "typec", .text "class", .text "sys"],
        .file (Utf8.bytes "dual [source] sink\n")),
      ([.text "port2", .text "typec", .text "class", .text "sys"], .directory),
      ([.text "port_type", .text "port2", .text "typec", .text "class", .text "sys"],
        .file (Utf8.bytes "dual source [sink]\n")),
      ([.text "port2-partner", .text "typec", .text "class", .text "sys"], .directory),
      ([.text "power_supply", .text "class", .text "sys"], .directory),
      ([.text "usb", .text "power_supply", .text "class", .text "sys"], .directory),
      ([.text "moisture_detected", .text "usb", .text "power_supply", .text "class",
        .text "sys"], .file (Utf8.bytes "1\n"))]
    (by decide)

/-- The event comes twice, and is told once. -/
theorem supplyEvent_exact_dampFiles :
    let supply := Utf8.bytes "change@/devices/power_supply/usb"
    let attach : Operation := .step (.attach .contaminant none)
    let start := started .default .empty dampFiles
    let state := (start.run [attach]).1
    let next := state.receive supply
    let place (port : String) : Location :=
      [.text "port_type", .text port, .text "typec", .text "class", .text "sys"]
    next.contaminantPresent = true ∧
      (∃ delivery, next.deliveries = state.deliveries ++ [delivery]) ∧
      next.files.tree.node? (place "port1") = some (.file (Utf8.bytes Role.dual)) ∧
      next.files.tree.node? (place "port2") = state.files.tree.node? (place "port2") ∧
      (next.receive supply).files.tree.node? (place "port1") =
        some (.file (Utf8.bytes Role.dual)) ∧
      ((start.moments [attach, .step (.receive supply), .step (.receive supply)]).flatMap
        Moment.supplyNews).length = 1 := by
  intro supply attach start state next place
  have told : state.event? supply = some (.supplyChanged none) := by decide +kernel
  have senses : state.Senses none true :=
    contaminantReading?_eq_some_iff.mp (by decide +kernel)
  rcases (supplyEvent_exact .default .empty dampFiles [attach]).1 supply none told with
    ⟨_, answered, again⟩
  have answers := answered true senses
  have idle : state.files.idlePorts = [.port0, port1] := by decide +kernel
  have control : state.files.node (state.files.controlPath port1 .mode) =
      .ok (place "port1", .file (Utf8.bytes "dual [source] sink\n")) := by decide +kernel
  have second : port1 ∈ state.files.idlePorts := by
    rw [idle]
    exact List.mem_cons_of_mem _ List.mem_cons_self
  have dual := answers.released port1 second _ _ control
  refine ⟨?_, ?_, dual, ?_, again _ _ dual, ?_⟩
  · exact congrArg contaminantPresent answers.kept
  · have news : state.contaminantPresent = false := by decide +kernel
    rcases answers.told with ⟨observer, _, added⟩
    rw [news, if_neg Bool.false_ne_true] at added
    exact ⟨_, added⟩
  · apply answers.spared
    rw [idle]
    intro port mem
    rcases List.mem_cons.mp mem with rfl | mem
    · decide +kernel
    · rw [List.mem_singleton.mp mem]
      decide +kernel
  · rw [(supplyEvent_exact .default .empty dampFiles
      [attach, .step (.receive supply), .step (.receive supply)]).2]
    decide +kernel

end Supervisor

end UsbTypeC
