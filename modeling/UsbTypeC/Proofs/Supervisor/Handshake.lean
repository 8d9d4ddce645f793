import Mathlib.Control.Monad.Basic
import UsbTypeC.Proofs.Files.Writing
import UsbTypeC.Proofs.Supervisor.Frame

/-! The handshake of a mode switch. From the moment a switch waits, the signal of the
partner is confirmed by an event that shows a partner, whatever the port, and by
nothing else; and once it is confirmed it stays so until the switch ends. -/

namespace UsbTypeC

namespace RoleChange

/-- A direct request is attempted once, whatever becomes of it. -/
theorem direct_unwritten (files : Files) (port : PortName) (role : Role) :
    direct (.unwritten files) port role =
      let path := files.controlPath port role.kind
      let attempts : List Attempt := [⟨path, role.control⟩]
      match files.overwrite path role.control with
      | .error error => ({ files, attempts }, .error error)
      | .ok requested =>
          match requested.readSelected path with
          | .error error => ({ files := requested, attempts }, .error error)
          | .ok actual =>
              if actual = role.control then ({ files := requested, attempts }, .ok ())
              else ({ files := requested, attempts }, .error (.roleNotTaken role.control actual)) := by
  rw [direct]
  dsimp only [RecordedFiles.unwritten]
  cases attempt : files.overwrite (files.controlPath port role.kind) role.control with
  | error error =>
      rw [RecordedFiles.overwrite_of_error attempt]
      rfl
  | ok requested =>
      rw [RecordedFiles.overwrite_of_ok attempt]
      rfl

theorem run_mode {α : Type u} (files : Files) (partner : Handshake) (port : PortName)
    (chosen : PortMode) (meanwhile : Files → Handshake → Files × Handshake × α) :
    run files partner port (.mode chosen) meanwhile =
      mode (.unwritten files) port chosen meanwhile :=
  rfl

theorem mode_of_error {α : Type u} {files : Files} {port : PortName} {chosen : PortMode}
    {error : Error}
    (refused : files.overwrite (files.controlPath port .mode) (Role.mode chosen).control =
      .error error) (meanwhile : Files → Handshake → Files × Handshake × α) :
    mode (.unwritten files) port chosen meanwhile =
      { files := files.tryOverwrite (files.controlPath port .mode) Role.dual
        attempts := [⟨files.controlPath port .mode, (Role.mode chosen).control⟩,
          ⟨files.controlPath port .mode, Role.dual⟩]
        partner := .idle
        result := .error error
        meanwhile := none } := by
  rw [mode]
  dsimp only [RecordedFiles.unwritten]
  rw [RecordedFiles.overwrite_of_error refused]
  dsimp only
  rw [RecordedFiles.tryOverwrite_eq]
  rfl

/-- Only a confirmed signal keeps the request in the control file. -/
theorem mode_of_ok {α : Type u} {files requested : Files} {port : PortName}
    {chosen : PortMode}
    (written : files.overwrite (files.controlPath port .mode) (Role.mode chosen).control =
      .ok requested) (meanwhile : Files → Handshake → Files × Handshake × α) :
    mode (.unwritten files) port chosen meanwhile =
      match meanwhile requested .awaiting with
      | (waited, .confirmed, happened) =>
          { files := waited
            attempts := [⟨files.controlPath port .mode, (Role.mode chosen).control⟩]
            partner := .idle
            result := .ok ()
            meanwhile := some happened }
      | (waited, _, happened) =>
          { files := waited.tryOverwrite (files.controlPath port .mode) Role.dual
            attempts := [⟨files.controlPath port .mode, (Role.mode chosen).control⟩,
              ⟨files.controlPath port .mode, Role.dual⟩]
            partner := .idle
            result := .error .noPartner
            meanwhile := some happened } := by
  rw [mode]
  dsimp only [RecordedFiles.unwritten]
  rw [RecordedFiles.overwrite_of_ok written]
  dsimp only
  rcases meanwhile requested .awaiting with ⟨waited, partner, happened⟩
  dsimp only
  rw [RecordedFiles.tryOverwrite_eq]
  cases partner <;> rfl

end RoleChange

/-- Whether a step brings an event that shows a partner. -/
def Step.showsPartner : Step → Bool
  | .receive message =>
      Uevent.portChanged? (Uevent.header message).toList = some (.portChanged true)
  | _ => false

namespace Supervisor

theorem partner_receive (state : Supervisor) (message : Bytes) :
    (state.receive message).partner =
      if (Step.receive message).showsPartner then .confirmed else state.partner := by
  rcases receive_cases state message with
    ⟨partnerAppeared, told, answered⟩ | ⟨silent, _, _, _, _, changed⟩
  · rcases afterPortChange_changes state partnerAppeared with ⟨_, _, _, changed⟩
    rw [answered, changed, Step.showsPartner, told]
    cases partnerAppeared <;> simp
  · rw [changed, Step.showsPartner, silent]
    simp

theorem partner_step (state : Supervisor) (step : Step) :
    (state.step step).1.partner =
      if step.showsPartner then .confirmed else state.partner := by
  by_cases message : ∃ message, step = .receive message
  · rcases message with ⟨message, rfl⟩
    exact partner_receive state message
  · have other : ∀ message, step ≠ .receive message :=
      fun received equal => message ⟨received, equal⟩
    rcases step_changes state other with ⟨_, _, _, _, _, _, _, _, changed⟩
    have silent : step.showsPartner = false := by
      cases step with
      | receive received => exact absurd rfl (other received)
      | _ => rfl
    simp [changed, silent]

/-- The signal is latched: one step that shows a partner is enough, and no later
step takes it back. -/
theorem partner_steps (state : Supervisor) (served : List Step) :
    (state.steps served).1.partner =
      if served.any Step.showsPartner then .confirmed else state.partner := by
  induction served generalizing state with
  | nil => rfl
  | cons step rest induction =>
      change ((state.step step).1.steps rest).1.partner = _
      rw [induction, partner_step, List.any_cons]
      cases step.showsPartner <;> cases rest.any Step.showsPartner <;> simp

/-- A supervisor with a mode switch in flight, whose request has been written. -/
def waiting (state : Supervisor) (requested : Files) : Supervisor :=
  { state with files := requested, partner := .awaiting, switching := true }

/-- A supervisor whose mode switch has come to an end. -/
def settled (state : Supervisor) (files : Files) : Supervisor :=
  { state with files, partner := .idle, switching := false }

/-- What the steps that are served during a switch leave to it. -/
def serving (state : Supervisor) (meanwhile : List Step) (files : Files)
    (partner : Handshake) : Files × Handshake × Supervisor × List Answer :=
  let served := steps { state with files, partner, switching := true } meanwhile
  (served.1.files, served.1.partner, served)

/-- What a supervisor makes of the end of a switch. -/
def ending (state : Supervisor) (port : PortName) (role : Role)
    (ended : RoleChange.Ended (Supervisor × List Answer)) : Supervisor × OperationAnswer :=
  let served := (ended.meanwhile.map Prod.fst).getD state
  ({ served with
      files := ended.files, partner := ended.partner, switching := false }.tellSwitch port role
        (.ofResult ended.result),
    { answer := ended.result.map fun _ => .nothing
      meanwhile := some ((ended.meanwhile.map Prod.snd).getD [])
      attempts := ended.attempts })

theorem switchPort_eq_ending (state : Supervisor) (port : PortName) (role : Role)
    (meanwhile : List Step) :
    state.switchPort port role meanwhile =
      state.ending port role
        (RoleChange.run state.files state.partner port role (state.serving meanwhile)) :=
  rfl

theorem ending_unwaited (state : Supervisor) (port : PortName) (role : Role)
    (files : Files) (attempts : List Attempt) (result : Except Error Unit) :
    state.ending port role { files, attempts, partner := .idle, result, meanwhile := none } =
      ((state.settled files).tellSwitch port role (.ofResult result),
        { answer := result.map fun _ => .nothing, meanwhile := some [], attempts }) :=
  rfl

theorem ending_waited (state served : Supervisor) (port : PortName) (role : Role)
    (files : Files) (attempts : List Attempt) (result : Except Error Unit)
    (answers : List Answer) :
    state.ending port role
        { files, attempts, partner := .idle, result, meanwhile := some (served, answers) } =
      ((served.settled files).tellSwitch port role (.ofResult result),
        { answer := result.map fun _ => .nothing, meanwhile := some answers, attempts }) :=
  rfl

theorem switchPort_mode_of_error (state : Supervisor) {port : PortName} {mode : PortMode}
    {error : Error}
    (refused : state.files.overwrite (state.files.controlPath port .mode)
      (Role.mode mode).control = .error error) (meanwhile : List Step) :
    state.switchPort port (.mode mode) meanwhile =
      let path := state.files.controlPath port .mode
      ((state.settled (state.files.tryOverwrite path Role.dual)).tellSwitch port (.mode mode)
          .error,
        { answer := .error error
          meanwhile := some []
          attempts := [⟨path, (Role.mode mode).control⟩, ⟨path, Role.dual⟩] }) := by
  rw [switchPort_eq_ending, RoleChange.run_mode,
    RoleChange.mode_of_error refused (state.serving meanwhile), ending_unwaited]
  rfl

theorem switchPort_mode_of_ok (state : Supervisor) {port : PortName} {mode : PortMode}
    {requested : Files}
    (written : state.files.overwrite (state.files.controlPath port .mode)
      (Role.mode mode).control = .ok requested) (meanwhile : List Step) :
    state.switchPort port (.mode mode) meanwhile =
      let path := state.files.controlPath port .mode
      let served := (state.waiting requested).steps meanwhile
      if meanwhile.any Step.showsPartner then
        ((served.1.settled served.1.files).tellSwitch port (.mode mode) .success,
          { answer := .ok .nothing
            meanwhile := some served.2
            attempts := [⟨path, (Role.mode mode).control⟩] })
      else
        ((served.1.settled (served.1.files.tryOverwrite path Role.dual)).tellSwitch port
            (.mode mode) .error,
          { answer := .error .noPartner
            meanwhile := some served.2
            attempts := [⟨path, (Role.mode mode).control⟩, ⟨path, Role.dual⟩] }) := by
  have signal : (state.serving meanwhile requested .awaiting).2.1 =
      if meanwhile.any Step.showsPartner then .confirmed else .awaiting :=
    partner_steps (state.waiting requested) meanwhile
  have served : state.serving meanwhile requested .awaiting =
      (((state.waiting requested).steps meanwhile).1.files,
        (if meanwhile.any Step.showsPartner then .confirmed else .awaiting),
        (state.waiting requested).steps meanwhile) := by
    rw [← signal]
    rfl
  rw [switchPort_eq_ending, RoleChange.run_mode,
    RoleChange.mode_of_ok written (state.serving meanwhile), served]
  cases meanwhile.any Step.showsPartner with
  | false => exact ending_waited _ _ _ _ _ _ _ _
  | true => exact ending_waited _ _ _ _ _ _ _ _

theorem requestRole_text (state : Supervisor) (port : PortName) (role : Role)
    (meanwhile : List Step) :
    state.requestRole port.text role meanwhile = state.switchPort port role meanwhile := by
  have named : PortName.of port.text = .ok port := dif_pos port.valid
  rw [requestRole]
  rw [named]

theorem files_tellSwitch_settled (state : Supervisor) (files : Files) (port : PortName)
    (role : Role) (outcome : Outcome) :
    ((state.settled files).tellSwitch port role outcome).files = files := by
  rcases tellSwitch_changes (state.settled files) port role outcome with ⟨_, told⟩
  rw [told]
  rfl

theorem partner_tellSwitch_settled (state : Supervisor) (files : Files) (port : PortName)
    (role : Role) (outcome : Outcome) :
    ((state.settled files).tellSwitch port role outcome).partner = .idle := by
  rcases tellSwitch_changes (state.settled files) port role outcome with ⟨_, told⟩
  rw [told]
  rfl

/-- What was known about a partner before a mode switch is forgotten when it starts
to wait. -/
theorem switchPort_mode_partner (state : Supervisor) (port : PortName) (mode : PortMode)
    (meanwhile : List Step) (earlier : Handshake) :
    { state with partner := earlier }.switchPort port (.mode mode) meanwhile =
      state.switchPort port (.mode mode) meanwhile := by
  cases attempt : state.files.overwrite (state.files.controlPath port .mode)
      (Role.mode mode).control with
  | error error =>
      rw [switchPort_mode_of_error state attempt]
      exact switchPort_mode_of_error { state with partner := earlier } attempt _
  | ok requested =>
      rw [switchPort_mode_of_ok state attempt]
      exact switchPort_mode_of_ok { state with partner := earlier } attempt _

theorem partner_switchPort_mode (state : Supervisor) (port : PortName) (mode : PortMode)
    (meanwhile : List Step) :
    (state.switchPort port (.mode mode) meanwhile).1.partner = .idle := by
  cases attempt : state.files.overwrite (state.files.controlPath port .mode)
      (Role.mode mode).control with
  | error error =>
      rw [switchPort_mode_of_error state attempt]
      exact partner_tellSwitch_settled _ _ _ _ _
  | ok requested =>
      rw [switchPort_mode_of_ok state attempt]
      dsimp only
      split <;> exact partner_tellSwitch_settled _ _ _ _ _

theorem any_showsPartner_iff (state : Supervisor) (steps : List Step) :
    steps.any Step.showsPartner = true ↔
      ∃ message, .receive message ∈ steps ∧
        state.event? message = some (.portChanged true) := by
  rw [List.any_eq_true]
  constructor
  · rintro ⟨step, mem, shows⟩
    cases step with
    | receive message =>
        refine ⟨message, mem, ?_⟩
        rw [event?, Uevent.event?_eq_portChanged_iff]
        simpa [Step.showsPartner] using shows
    | _ => cases shows
  · rintro ⟨message, mem, shown⟩
    rw [event?, Uevent.event?_eq_portChanged_iff] at shown
    exact ⟨_, mem, by simpa [Step.showsPartner] using shown⟩

/-- A mode switch chooses its control file once. If the request cannot be written, no
step is served; if it is, the switch succeeds exactly when one of the steps served
meanwhile shows a partner, of whatever port. A switch that succeeds has attempted to write
its request and nothing else. Every failure is followed by one attempt to write `dual` to
the file that was chosen, wherever that leads by then, and by no other. What was known about a
partner before does not count, and nothing is known afterwards. -/
theorem modeSwitch_handshake (state : Supervisor) (port : PortName) (mode : PortMode)
    (meanwhile : List Step) (earlier : Handshake) :
    let path :=
      if state.files.has (port.attributePath "port_type") then port.attributePath "port_type"
      else port.attributePath "data_role"
    let request : Attempt := ⟨path, (Role.mode mode).control⟩
    let fallback : Attempt := ⟨path, "dual"⟩
    let switched := state.requestRole port.text (.mode mode) meanwhile
    (match state.files.overwrite path (Role.mode mode).control with
      | .error error =>
          switched.2 =
              { answer := .error error, meanwhile := some [], attempts := [request, fallback] } ∧
            switched.1.files = state.files.tryOverwrite path "dual"
      | .ok requested =>
          let served := (state.waiting requested).steps meanwhile
          let shown := ∃ message, .receive message ∈ meanwhile ∧
            state.event? message = some (.portChanged true)
          shown ∧
              switched.2 =
                { answer := .ok .nothing, meanwhile := some served.2, attempts := [request] } ∧
              switched.1.files = served.1.files ∨
            ¬ shown ∧
              switched.2 =
                { answer := .error .noPartner
                  meanwhile := some served.2
                  attempts := [request, fallback] } ∧
              switched.1.files = served.1.files.tryOverwrite path "dual") ∧
      switched.1.partner = .idle ∧
      { state with partner := earlier }.requestRole port.text (.mode mode) meanwhile =
        switched := by
  intro path request fallback switched
  have switchedEq : switched = state.switchPort port (.mode mode) meanwhile :=
    requestRole_text state port (.mode mode) meanwhile
  refine ⟨?_, ?_, ?_⟩
  · rw [switchedEq]
    cases attempt : state.files.overwrite path (Role.mode mode).control with
    | error error =>
        dsimp only
        rw [switchPort_mode_of_error state attempt]
        exact ⟨rfl, files_tellSwitch_settled _ _ _ _ _⟩
    | ok requested =>
        dsimp only
        have whether := any_showsPartner_iff state meanwhile
        rw [switchPort_mode_of_ok state attempt]
        cases shows : meanwhile.any Step.showsPartner with
        | true =>
            exact .inl ⟨whether.mp shows, rfl, files_tellSwitch_settled _ _ _ _ _⟩
        | false =>
            have silent : ¬ ∃ message, .receive message ∈ meanwhile ∧
                state.event? message = some (.portChanged true) := by
              rw [← whether, shows]
              exact Bool.false_ne_true
            exact .inr ⟨silent, rfl, files_tellSwitch_settled _ _ _ _ _⟩
  · rw [switchedEq]
    exact partner_switchPort_mode state port mode meanwhile
  · rw [switchedEq, requestRole_text]
    exact switchPort_mode_partner state port mode meanwhile earlier

/-- A port that provides a port type, one that does not, and one that does not let it be
written. -/
def mixedPorts : Supervisor :=
  let ports : Location := [.text "typec", .text "class", .text "sys"]
  .started .default .empty (seenFromTop
    [([.text "sys"], .directory),
      ([.text "class", .text "sys"], .directory),
      (ports, .directory),
      (.text "port0" :: ports, .directory),
      (.text "port_type" :: .text "port0" :: ports, .file (Utf8.bytes "[dual] source sink\n")),
      (.text "data_role" :: .text "port0" :: ports, .file (Utf8.bytes "[host] device\n")),
      (.text "port1" :: ports, .directory),
      (.text "data_role" :: .text "port1" :: ports, .file (Utf8.bytes "[host] device\n")),
      (.text "port2" :: ports, .directory),
      (.text "port_type" :: .text "port2" :: ports, .directory)]
    (by decide))

/-- A partner of another port ends the first switch. The second one goes on writing the data
role although a port type is provided while it waits, and the third one does not wait. -/
theorem modeSwitch_handshake_mixedPorts :
    let shows : Step := .receive (Utf8.bytes "add@/typec/port1-partner")
    let provides : Step := .edit [.text "port1", .text "typec", .text "class", .text "sys"]
      (.put [.text "port_type"] (.file []))
    let typed := mixedPorts.requestRole "port0" (.mode .dfp) [shows]
    let untyped := mixedPorts.requestRole "port1" (.mode .ufp) [provides]
    let refused := mixedPorts.requestRole "port2" (.mode .audioAccessory) [shows]
    typed.2.answer = .ok .nothing ∧
      typed.2.attempts = [⟨⟨"sys/class/typec/port0/port_type"⟩, "source"⟩] ∧
      typed.1.partner = .idle ∧
      untyped.2.answer = .error .noPartner ∧
      untyped.2.attempts =
        [⟨⟨"sys/class/typec/port1/data_role"⟩, "sink"⟩,
          ⟨⟨"sys/class/typec/port1/data_role"⟩, "dual"⟩] ∧
      untyped.1.files.has ⟨"sys/class/typec/port1/port_type"⟩ = true ∧
      refused.2.answer = .error (.fault .isADirectory) ∧
      refused.2.meanwhile = some [] ∧
      refused.2.attempts =
        [⟨⟨"sys/class/typec/port2/port_type"⟩, "none"⟩,
          ⟨⟨"sys/class/typec/port2/port_type"⟩, "dual"⟩] := by
  intro shows provides typed untyped refused
  let ports : Location := [.text "typec", .text "class", .text "sys"]
  have typedFile : mixedPorts.files.node (PortName.port0.attributePath "port_type") =
      .ok (.text "port_type" :: .text "port0" :: ports,
        .file (Utf8.bytes "[dual] source sink\n")) := by decide +kernel
  have untypedFile :
      mixedPorts.files.node (PortName.attributePath ⟨"port1", by decide⟩ "data_role") =
        .ok (.text "data_role" :: .text "port1" :: ports,
          .file (Utf8.bytes "[host] device\n")) := by decide +kernel
  have directory :
      mixedPorts.files.node (PortName.attributePath ⟨"port2", by decide⟩ "port_type") =
        .ok (.text "port_type" :: .text "port2" :: ports, .directory) := by decide +kernel
  have refusal := Files.overwrite_eq_error_iff.mpr
    ⟨.isADirectory, rfl, .inr ⟨_, directory, Eq.refl (Node.written (Utf8.bytes "none") .directory)⟩⟩
  have shown : mixedPorts.event? (Utf8.bytes "add@/typec/port1-partner") =
      some (.portChanged true) := by decide +kernel
  have silent : ¬ ∃ message, .receive message ∈ [provides] ∧
      mixedPorts.event? message = some (.portChanged true) := by
    rintro ⟨message, mem, _⟩
    exact Step.noConfusion (List.mem_singleton.mp mem)
  have typedEnds := modeSwitch_handshake mixedPorts .port0 .dfp [shows] .idle
  have untypedEnds := modeSwitch_handshake mixedPorts ⟨"port1", by decide⟩ .ufp [provides] .idle
  have refusedEnds :=
    modeSwitch_handshake mixedPorts ⟨"port2", by decide⟩ .audioAccessory [shows] .idle
  dsimp only at typedEnds untypedEnds refusedEnds
  rw [if_pos (by decide +kernel), Files.overwrite_of_file typedFile] at typedEnds
  rw [if_neg (by decide +kernel), Files.overwrite_of_file untypedFile] at untypedEnds
  rw [if_pos (by decide +kernel)] at refusedEnds
  rw [show (Role.mode .audioAccessory).control = "none" from rfl, refusal] at refusedEnds
  rcases typedEnds with ⟨⟨_, typedAnswer, _⟩ | ⟨unseen, _⟩, typedIdle, _⟩
  · rcases untypedEnds with ⟨⟨seen, _⟩ | ⟨_, untypedAnswer, _⟩, _⟩
    · exact absurd seen silent
    · have refusedAnswer := refusedEnds.1.1
      exact ⟨congrArg OperationAnswer.answer typedAnswer,
        congrArg OperationAnswer.attempts typedAnswer, typedIdle,
        congrArg OperationAnswer.answer untypedAnswer,
        congrArg OperationAnswer.attempts untypedAnswer, by decide +kernel,
        congrArg OperationAnswer.answer refusedAnswer,
        congrArg OperationAnswer.meanwhile refusedAnswer,
        congrArg OperationAnswer.attempts refusedAnswer⟩
  · exact absurd ⟨_, List.mem_cons_self, shown⟩ unseen

end Supervisor

end UsbTypeC
