import UsbTypeC.Proofs.Port.RoleRewriting
import UsbTypeC.Proofs.Supervisor.Footprint

/-! Switching a power or a data role. One write and one read decide over such a switch: nothing
is waited for, nothing is put back when it fails, and nobody's signal is touched. -/

namespace UsbTypeC

open Files

namespace RoleChange

/-- How a role is requested that takes effect at once, and what comes of it. -/
inductive Taking (files : Files) (path : Path) (control : String) :
    Files × Except Error Unit → Prop where
  | refused (fault : Fault) (write : files.overwrite path control = .error (.fault fault)) :
      Taking files path control (files, .error (.fault fault))
  | unread (after : Files) (error : Error) (write : files.overwrite path control = .ok after)
      (read : after.readValue path = .error error) :
      Taking files path control (after, .error error)
  | different (after : Files) (text : String) (write : files.overwrite path control = .ok after)
      (read : after.readValue path = .ok text) (other : selected text ≠ control) :
      Taking files path control (after, .error (.roleNotTaken control (selected text)))
  | taken (after : Files) (text : String) (write : files.overwrite path control = .ok after)
      (read : after.readValue path = .ok text) (same : selected text = control) :
      Taking files path control (after, .ok ())

variable {files : Files} {path : Path} {control : String} {port : PortName} {role : Role}

theorem Taking.ok_iff {outcome : Files × Except Error Unit}
    (taking : Taking files path control outcome) :
    outcome.2 = .ok () ↔ ∃ after text, files.overwrite path control = .ok after ∧
      after.readValue path = .ok text ∧ selected text = control := by
  constructor
  · intro ended
    cases taking with
    | taken after text write read same => exact ⟨after, text, write, read, same⟩
    | _ => cases ended
  · intro succeeds
    rcases succeeds with ⟨after, text, write, read, same⟩
    cases taking with
    | refused fault refused => cases refused.symm.trans write
    | unread other error written unread =>
        cases written.symm.trans write
        cases unread.symm.trans read
    | different other found written known apart =>
        cases written.symm.trans write
        cases known.symm.trans read
        exact absurd same apart
    | taken => rfl

theorem taking_direct (files : Files) (port : PortName) (role : Role) :
    let ended := direct (.unwritten files) port role
    Taking files (files.controlPath port role.kind) role.control (ended.1.files, ended.2) := by
  rw [direct_unwritten]
  dsimp only
  cases write : files.overwrite (files.controlPath port role.kind) role.control with
  | error error =>
      rcases overwrite_eq_error_iff.mp write with ⟨fault, rfl, _⟩
      exact .refused fault write
  | ok after =>
      dsimp only
      cases read : after.readValue (files.controlPath port role.kind) with
      | error error =>
          rw [readSelected, read]
          exact .unread after error write read
      | ok text =>
          rw [readSelected, read]
          dsimp only [Except.map]
          split
          · next same => exact .taken after text write read same
          · next other => exact .different after text write read other

/-- No more is attempted than the request, however it ends. -/
theorem attempts_direct (files : Files) (port : PortName) (role : Role) :
    (direct (.unwritten files) port role).1.attempts =
      [⟨files.controlPath port role.kind, role.control⟩] := by
  rw [direct_unwritten]
  dsimp only
  split
  · rfl
  · split
    · rfl
    · split <;> rfl

/-- A file takes any role at once. -/
theorem direct_of_file {place : Location} {content : Bytes}
    (held : files.node (files.controlPath port role.kind) = .ok (place, .file content)) :
    direct (.unwritten files) port role =
      ({ files := files.tryOverwrite (files.controlPath port role.kind) role.control
         attempts := [⟨files.controlPath port role.kind, role.control⟩] }, .ok ()) := by
  rw [direct_unwritten]
  dsimp only
  rw [overwrite_of_file held]
  dsimp only
  rw [readSelected_of_control (node_tryOverwrite_same role.control held)]
  exact if_pos rfl

end RoleChange

/-- What has taken a text reads as a text, unless it never comes to an end. -/
theorem Node.content_of_written {held node : Node} {text : String}
    (put : held.written (Utf8.bytes text) = .ok node) :
    node.content = .error .endless ∨ ∃ shown, node.content = .ok (Utf8.bytes shown) := by
  cases held with
  | directory => cases put
  | link target => cases put
  | file content =>
      cases put
      exact .inr ⟨text, rfl⟩
  | pipe received =>
      cases put
      exact .inl rfl
  | device device =>
      cases device with
      | null =>
          cases put
          exact .inr ⟨"", rfl⟩
      | full =>
          dsimp only [Node.written] at put
          split at put
          · cases put
            exact .inl rfl
          · cases put

/-- So a text that was written is read back, if the reading comes to an end. -/
theorem Files.readValue_of_overwrite {files after : Files} {path : Path} {text : String}
    {error : Error} (written : files.overwrite path text = .ok after)
    (unread : after.readValue path = .error error) : error = .fault .endless := by
  rcases node_of_overwrite written with ⟨_, held, node, _, put, found⟩
  rw [readValue, readText, content_of_node found] at unread
  rcases Node.content_of_written put with endless | ⟨shown, content⟩
  · rw [endless] at unread
    cases unread
    rfl
  · rw [content] at unread
    dsimp only at unread
    rw [Utf8.text?_bytes] at unread
    cases unread

namespace Supervisor

/-- Nothing that is asked for meanwhile is served. -/
theorem switchPort_of_direct (state : Supervisor) (port : PortName) {role : Role}
    (direct : role.kind ≠ .mode) (meanwhile : List Step) :
    let ended := RoleChange.direct (.unwritten state.files) port role
    state.switchPort port role meanwhile =
      ({ state with files := ended.1.files, switching := false }.tellSwitch port role
          (.ofResult ended.2),
        { answer := ended.2.map fun _ => .nothing
          meanwhile := some []
          attempts := ended.1.attempts }) := by
  cases role with
  | mode mode => exact absurd rfl direct
  | power role => rfl
  | data role => rfl

theorem controlPath_of_direct (files : Files) (port : PortName) {kind : RoleKind}
    (direct : kind ≠ .mode) :
    files.controlPath port kind =
      port.attributePath (if kind = .power then "power_role" else "data_role") := by
  cases kind with
  | mode => exact absurd rfl direct
  | power => rfl
  | data => rfl

theorem requestRole_of_not_valid (state : Supervisor) {name : String}
    (invalid : ¬ PortName.IsValid name) (role : Role) (meanwhile : List Step) :
    state.requestRole name role meanwhile =
      (state, { answer := .error (.badPortName name), meanwhile := none, attempts := [] }) := by
  have refused : PortName.of name = .error (.badPortName name) := dif_neg invalid
  rw [requestRole]
  rw [refused]

/-- A power or a data role is written once and read back, and the answer goes by that: the fault
of the write, which then changes nothing, the error of the read, what is read if it is another
role, or success. In no case is another write attempted. A file always takes the role, and what
takes it without showing it back, or without coming to an end when it is read, is no file. No
other file is changed, and of the supervisor itself only the record of deliveries, so that what
is known about a partner stays known. A name that is no name of a port is refused before anything
is done, whatever role is asked for. -/
theorem directSwitch_exact (state : Supervisor) (port : PortName) {role : Role}
    (direct : role.kind ≠ .mode) (meanwhile : List Step) :
    let path := port.attributePath (if role.kind = .power then "power_role" else "data_role")
    let switched := state.requestRole port.text role meanwhile
    switched.2.attempts = [⟨path, role.control⟩] ∧
      (∃ result, RoleChange.Taking state.files path role.control (switched.1.files, result) ∧
        switched.2.answer = result.map fun _ => .nothing) ∧
      (switched.2.answer = .ok .nothing ↔
        ∃ after text, state.files.overwrite path role.control = .ok after ∧
          after.readValue path = .ok text ∧ selected text = role.control) ∧
      (∀ after error, state.files.overwrite path role.control = .ok after →
        after.readValue path = .error error → error = .fault .endless) ∧
      (∀ place content, state.files.node path = .ok (place, .file content) →
        switched.2.answer = .ok .nothing ∧
          switched.1.files.node path = .ok (place, .file (Utf8.bytes role.control))) ∧
      (∀ place, state.files.locate path ≠ .ok place →
        switched.1.files.tree.node? place = state.files.tree.node? place) ∧
      switched.1 = { state with
        files := switched.1.files
        switching := false
        deliveries := switched.1.deliveries } ∧
      ∀ (name : String) (asked : Role), ¬ PortName.IsValid name →
        state.requestRole name asked meanwhile =
          (state, { answer := .error (.badPortName name), meanwhile := none, attempts := [] }) := by
  intro path switched
  let ended := RoleChange.direct (.unwritten state.files) port role
  have control : state.files.controlPath port role.kind = path :=
    controlPath_of_direct state.files port direct
  have switchedEq : switched =
      ({ state with files := ended.1.files, switching := false }.tellSwitch port role
          (.ofResult ended.2),
        { answer := ended.2.map fun _ => .nothing
          meanwhile := some []
          attempts := ended.1.attempts }) :=
    (requestRole_text state port role meanwhile).trans
      (switchPort_of_direct state port direct meanwhile)
  rcases tellSwitch_changes { state with files := ended.1.files, switching := false } port role
    (.ofResult ended.2) with ⟨deliveries, told⟩
  have files : switched.1.files = ended.1.files := by rw [switchedEq, told]
  have answer : switched.2.answer = ended.2.map fun _ => .nothing := by rw [switchedEq]
  have taking : RoleChange.Taking state.files path role.control (ended.1.files, ended.2) :=
    control ▸ RoleChange.taking_direct state.files port role
  have succeeds : switched.2.answer = .ok .nothing ↔ ended.2 = .ok () := by
    rw [answer]
    cases ended.2 with
    | error error => exact iff_of_false (fun same => by cases same) fun same => by cases same
    | ok done => exact iff_of_true rfl rfl
  refine ⟨?_, ⟨ended.2, files ▸ taking, answer⟩, succeeds.trans taking.ok_iff,
    fun _ _ => readValue_of_overwrite, ?_, ?_, ?_, ?_⟩
  · rw [switchedEq, ← control]
    exact RoleChange.attempts_direct state.files port role
  · intro place content held
    rw [← control] at held
    have taken := RoleChange.direct_of_file held
    rw [control] at taken held
    refine ⟨succeeds.mpr (congrArg Prod.snd taken), ?_⟩
    rw [files]
    exact (congrArg (fun ended => ended.1.files.node path) taken).trans
      (node_tryOverwrite_same role.control held)
  · intro place elsewhere
    rw [files]
    refine (writtenThrough_direct state.files port role).node?_eq fun other mem => ?_
    rw [List.mem_singleton.mp mem, control]
    exact elsewhere
  · rw [switchedEq, told]
  · exact fun name asked invalid => requestRole_of_not_valid state invalid asked meanwhile

/-- A port that takes every power role and forgets every data role, and one that refuses every
power role and never shows a data role, while the partner of an earlier switch is known. -/
def forgetfulPorts : Supervisor :=
  let ports : Location := [.text "typec", .text "class", .text "sys"]
  let started : Supervisor := .started .default .empty (seenFromTop
    [([.text "sys"], .directory),
      ([.text "class", .text "sys"], .directory),
      (ports, .directory),
      (.text "port0" :: ports, .directory),
      (.text "power_role" :: .text "port0" :: ports, .file (Utf8.bytes "[source] sink\n")),
      (.text "data_role" :: .text "port0" :: ports, .device .null),
      (.text "port1" :: ports, .directory),
      (.text "power_role" :: .text "port1" :: ports, .directory),
      (.text "data_role" :: .text "port1" :: ports, .pipe [])]
    (by decide))
  { started with partner := .confirmed }

/-- One role is taken, one is not, one is refused and one is never read back; each is written
once, and a name that leads elsewhere is refused. -/
theorem directSwitch_exact_forgetfulPorts :
    let switched (name : String) (role : Role) := forgetfulPorts.requestRole name role []
    (switched "port0" (.power .sink)).2.answer = .ok .nothing ∧
      (switched "port0" (.power .sink)).2.attempts =
        [⟨⟨"sys/class/typec/port0/power_role"⟩, "sink"⟩] ∧
      (switched "port0" (.data .host)).2.answer = .error (.roleNotTaken "host" "") ∧
      (switched "port0" (.data .host)).2.attempts =
        [⟨⟨"sys/class/typec/port0/data_role"⟩, "host"⟩] ∧
      (switched "port0" (.data .host)).1.partner = .confirmed ∧
      (switched "port1" (.power .source)).2.answer = .error (.fault .isADirectory) ∧
      (switched "port1" (.power .source)).2.attempts =
        [⟨⟨"sys/class/typec/port1/power_role"⟩, "source"⟩] ∧
      (switched "port1" (.data .device)).2.answer = .error (.fault .endless) ∧
      (switched "port1" (.data .device)).2.attempts =
        [⟨⟨"sys/class/typec/port1/data_role"⟩, "device"⟩] ∧
      switched "../port0" (.data .host) =
        (forgetfulPorts,
          { answer := .error (.badPortName "../port0"), meanwhile := none, attempts := [] }) := by
  intro switched
  have powerDirect (role : PowerRole) : (Role.power role).kind ≠ .mode := nofun
  have dataDirect (role : DataRole) : (Role.data role).kind ≠ .mode := nofun
  rcases directSwitch_exact forgetfulPorts .port0 (powerDirect .sink) []
    with ⟨takenOnce, _, _, _, ofFile, _⟩
  rcases directSwitch_exact forgetfulPorts .port0 (dataDirect .host) []
    with ⟨forgottenOnce, _, _, _, _, _, kept, invalid⟩
  rcases directSwitch_exact forgetfulPorts ⟨"port1", by decide⟩ (powerDirect .source) []
    with ⟨refusedOnce, _⟩
  rcases directSwitch_exact forgetfulPorts ⟨"port1", by decide⟩ (dataDirect .device) []
    with ⟨unreadOnce, _⟩
  have taken := (ofFile [.text "power_role", .text "port0", .text "typec", .text "class",
    .text "sys"] (Utf8.bytes "[source] sink\n") (by decide +kernel)).1
  exact ⟨taken, takenOnce, by decide +kernel, forgottenOnce, congrArg Supervisor.partner kept,
    by decide +kernel, refusedOnce, by decide +kernel, unreadOnce,
    invalid "../port0" (.data .host) (by decide)⟩

end Supervisor

end UsbTypeC
