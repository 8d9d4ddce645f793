import UsbTypeC.Proofs.Port.OwnPaths
import UsbTypeC.Proofs.Supervisor.Footprint

/-! A switch and the places that belong to a port. Where there are no links, a switch writes to
no others, and how it ends is decided there. -/

namespace UsbTypeC

namespace PortName

variable {port : PortName} {before after : Files}

namespace AlikeFor

/-- A write through a path of the port fails on both sides, or is made on both. -/
theorem overwrite (alike : port.AlikeFor before after) {path : Path} (mem : path ∈ port.paths)
    (text : String) :
    (∃ error, before.overwrite path text = .error error ∧
        after.overwrite path text = .error error) ∨
      ∃ written writtenAfter, before.overwrite path text = .ok written ∧
        after.overwrite path text = .ok writtenAfter ∧ port.AlikeFor written writtenAfter := by
  have found := alike.node_eq_of_mem mem
  cases attempt : before.overwrite path text with
  | error error =>
      refine .inl ⟨error, rfl, ?_⟩
      rw [Files.overwrite_eq_error_iff] at attempt ⊢
      rwa [found]
  | ok written =>
      have outline := Files.outline_overwrite attempt
      rcases Files.overwrite_eq_ok attempt with ⟨location, held, node, there, put, rfl⟩
      have attemptAfter : after.overwrite path text =
          .ok { after with tree := after.tree.replace location node } := by
        rw [Files.overwrite, found, there]
        dsimp only
        rw [put]
      refine .inr ⟨_, _, rfl, attemptAfter, alike.root,
        Files.linkFree_of_outline_eq outline alike.linkFree,
        Files.linkFree_of_outline_eq (Files.outline_overwrite attemptAfter) alike.linkFreeAfter, ?_⟩
      -- The same node is put at the same place on both sides, whether that concerns the port
      -- or not.
      intro place concerns
      have same := alike.same place concerns
      cases place with
      | nil => rfl
      | cons name above =>
          have below : name :: above ≠ [] := List.cons_ne_nil _ _
          dsimp only
          rw [Tree.node?_replace _ _ _ _ below, Tree.node?_replace _ _ _ _ below, same]

theorem tryOverwrite (alike : port.AlikeFor before after) {path : Path} (mem : path ∈ port.paths)
    (text : String) :
    port.AlikeFor (before.tryOverwrite path text) (after.tryOverwrite path text) := by
  rw [Files.tryOverwrite, Files.tryOverwrite]
  rcases alike.overwrite mem text with
    ⟨error, refused, refusedAfter⟩ | ⟨written, writtenAfter, wrote, wroteAfter, still⟩
  · rw [refused, refusedAfter]
    exact alike
  · rw [wrote, wroteAfter]
    exact still

end AlikeFor

/-- What happens while a switch waits happens on both sides alike. -/
def WaitsAlike (port : PortName) (meanwhile other : Files → Handshake → Files × Handshake × α) :
    Prop :=
  ∀ before after partner, port.AlikeFor before after →
    port.AlikeFor (meanwhile before partner).1 (other after partner).1 ∧
      (meanwhile before partner).2 = (other after partner).2

/-- Two switches that end alike and have attempted the same writes, with files that are alike
still. -/
structure EndedAlike (port : PortName) (ended other : RoleChange.Ended α) : Prop where
  files : port.AlikeFor ended.files other.files
  attempts : ended.attempts = other.attempts
  partner : ended.partner = other.partner
  result : ended.result = other.result
  meanwhile : ended.meanwhile = other.meanwhile

theorem AlikeFor.direct (alike : port.AlikeFor before after) (role : Role) :
    let ended := RoleChange.direct (.unwritten before) port role
    let other := RoleChange.direct (.unwritten after) port role
    port.AlikeFor ended.1.files other.1.files ∧ ended.1.attempts = other.1.attempts ∧
      ended.2 = other.2 := by
  have mem := controlPath_mem_paths before port role.kind
  rw [RoleChange.direct_unwritten, RoleChange.direct_unwritten, alike.controlPath_eq]
  dsimp only
  rcases alike.overwrite mem role.control with
    ⟨error, refused, refusedAfter⟩ | ⟨written, writtenAfter, wrote, wroteAfter, still⟩
  · rw [refused, refusedAfter]
    exact ⟨alike, rfl, rfl⟩
  · rw [wrote, wroteAfter]
    dsimp only
    rw [Files.readSelected_eq_of_node_eq (still.node_eq_of_mem mem)]
    cases written.readSelected (before.controlPath port role.kind) with
    | error error => exact ⟨still, rfl, rfl⟩
    | ok actual =>
        dsimp only
        split
        · exact ⟨still, rfl, rfl⟩
        · exact ⟨still, rfl, rfl⟩

theorem AlikeFor.mode {α : Type} {meanwhile other : Files → Handshake → Files × Handshake × α}
    (alike : port.AlikeFor before after) (waits : port.WaitsAlike meanwhile other)
    (chosen : PortMode) :
    port.EndedAlike (RoleChange.mode (.unwritten before) port chosen meanwhile)
      (RoleChange.mode (.unwritten after) port chosen other) := by
  have mem := controlPath_mem_paths before port .mode
  have control := alike.controlPath_eq .mode
  rcases alike.overwrite mem (Role.mode chosen).control with
    ⟨error, refused, refusedAfter⟩ | ⟨written, writtenAfter, wrote, wroteAfter, still⟩
  · rw [← control] at refusedAfter
    rw [RoleChange.mode_of_error refused, RoleChange.mode_of_error refusedAfter, control]
    exact ⟨alike.tryOverwrite mem Role.dual, rfl, rfl, rfl, rfl⟩
  · rw [← control] at wroteAfter
    rw [RoleChange.mode_of_ok wrote, RoleChange.mode_of_ok wroteAfter, control]
    have waited := waits written writtenAfter .awaiting still
    cases occurred : meanwhile written .awaiting with
    | mk files rest =>
        cases occurredAfter : other writtenAfter .awaiting with
        | mk filesAfter restAfter =>
            rw [occurred, occurredAfter] at waited
            rcases waited with ⟨waited, rfl⟩
            rcases rest with ⟨partner, happened⟩
            cases partner with
            | confirmed => exact ⟨waited, rfl, rfl, rfl, rfl⟩
            | _ => exact ⟨waited.tryOverwrite mem Role.dual, rfl, rfl, rfl, rfl⟩

theorem AlikeFor.run {α : Type} {meanwhile other : Files → Handshake → Files × Handshake × α}
    (alike : port.AlikeFor before after) (waits : port.WaitsAlike meanwhile other)
    (partner : Handshake) (role : Role) :
    port.EndedAlike (RoleChange.run before partner port role meanwhile)
      (RoleChange.run after partner port role other) := by
  cases role with
  | mode chosen => exact alike.mode waits chosen
  | power role =>
      have ended := alike.direct (.power role)
      exact ⟨ended.1, ended.2.1, rfl, ended.2.2, rfl⟩
  | data role =>
      have ended := alike.direct (.data role)
      exact ⟨ended.1, ended.2.1, rfl, ended.2.2, rfl⟩

/-- What happens while a switch waits makes and takes away no entry, and leaves a place as
it is. -/
def WaitsApart (place : Location) (meanwhile : Files → Handshake → Files × Handshake × α) : Prop :=
  ∀ files partner, (meanwhile files partner).1.outline = files.outline ∧
    (meanwhile files partner).1.tree.node? place = files.tree.node? place

section Foreign

variable {files : Files} {place : Location} (linkFree : files.tree.LinkFree)
  (foreign : ¬ port.Owns files.root place)
include linkFree foreign

/-- No path of the port leads to a place that is not its own. -/
theorem node?_of_writtenThrough {path : Path} (mem : path ∈ port.paths)
    (written : Files.WrittenThrough [path] files after) :
    after.tree.node? place = files.tree.node? place := by
  apply written.node?_eq
  intro other single found
  rw [List.mem_singleton.mp single] at found
  exact foreign (owns_of_locate linkFree (leadsInto_of_mem mem) found)

theorem node?_mode {α : Type} {meanwhile : Files → Handshake → Files × Handshake × α}
    (apart : WaitsApart place meanwhile) (chosen : PortMode) :
    (RoleChange.mode (.unwritten files) port chosen meanwhile).files.tree.node? place =
      files.tree.node? place := by
  have mem := controlPath_mem_paths files port .mode
  cases attempt : files.overwrite (files.controlPath port .mode) (Role.mode chosen).control with
  | error error =>
      rw [RoleChange.mode_of_error attempt]
      exact node?_of_writtenThrough linkFree foreign mem
        (Files.writtenThrough_tryOverwrite files _ Role.dual)
  | ok requested =>
      have first := Files.writtenThrough_overwrite attempt
      have kept := node?_of_writtenThrough linkFree foreign mem first
      rw [RoleChange.mode_of_ok attempt]
      have waited := apart requested .awaiting
      cases occurred : meanwhile requested .awaiting with
      | mk waiting rest =>
          rw [occurred] at waited
          have outline : waiting.outline = files.outline := waited.1.trans first.outline
          have foreignStill : ¬ port.Owns waiting.root place := by
            rwa [Files.root_eq_of_outline_eq outline]
          have fallback := node?_of_writtenThrough
            (Files.linkFree_of_outline_eq outline linkFree) foreignStill mem
            (Files.writtenThrough_tryOverwrite waiting _ Role.dual)
          rcases rest with ⟨partner, happened⟩
          cases partner with
          | confirmed => exact waited.2.trans kept
          | _ => exact fallback.trans (waited.2.trans kept)

theorem node?_run {α : Type} {meanwhile : Files → Handshake → Files × Handshake × α}
    (apart : WaitsApart place meanwhile) (partner : Handshake) (role : Role) :
    (RoleChange.run files partner port role meanwhile).files.tree.node? place =
      files.tree.node? place := by
  cases role with
  | mode chosen => exact node?_mode linkFree foreign apart chosen
  | power role =>
      exact node?_of_writtenThrough linkFree foreign (controlPath_mem_paths files port .power)
        (Supervisor.writtenThrough_direct files port (.power role))
  | data role =>
      exact node?_of_writtenThrough linkFree foreign (controlPath_mem_paths files port .data)
        (Supervisor.writtenThrough_direct files port (.data role))

end Foreign

end PortName

/-- A text is the name of a port unless it is empty, is `.` or `..`, or holds a slash or a NUL,
and all ports that are found have such names. The paths of a port go from the directory of the
ports to the port's own name or to its partner's, and then to one attribute at most. Where there
are no links they therefore lead into these two directories only. What is told of the port
depends on nothing else, but for the way there; nor does the outcome of a switch, and a switch
changes nothing else. -/
theorem port_keeps_within_directories (text : String) :
    ((∃ port, PortName.of text = .ok port) ↔
        text ≠ "" ∧ text ≠ "." ∧ text ≠ ".." ∧ '/' ∉ text.toList ∧ '\x00' ∉ text.toList) ∧
      (∀ (files : Files) found, files.ports = .ok found →
        ∀ entry ∈ found, PortName.of entry.name.text = .ok entry.name) ∧
      ∀ port, PortName.of text = .ok port →
        port.text = text ∧ port.PathsSpelled ∧
          ∀ files : Files, files.tree.LinkFree →
            (∀ kind, files.controlPath port kind ∈ port.paths) ∧
            (∀ path ∈ port.paths, ∀ place, files.locate path = .ok place →
              port.Owns files.root place) ∧
            (∀ after, port.AlikeFor files after → port.AnswersAlike files after) ∧
            ∀ (α : Type) (meanwhile : Files → Handshake → Files × Handshake × α)
              (partner : Handshake) (role : Role),
              let ended := RoleChange.run files partner port role meanwhile
              (∀ place, ¬ port.Owns files.root place → PortName.WaitsApart place meanwhile →
                ended.files.tree.node? place = files.tree.node? place) ∧
              ∀ after other, port.AlikeFor files after → port.WaitsAlike meanwhile other →
                port.EndedAlike ended (RoleChange.run after partner port role other) := by
  refine ⟨PortName.of_accepts_iff, ?_, ?_⟩
  · intro files found _ entry _
    exact PortName.of_eq_ok_iff.mpr rfl
  · intro port accepted
    refine ⟨PortName.of_eq_ok_iff.mp accepted, port.pathsSpelled, fun files linkFree => ?_⟩
    refine ⟨PortName.controlPath_mem_paths files port, ?_, ?_, ?_⟩
    · intro path mem place found
      exact PortName.owns_of_locate linkFree (PortName.leadsInto_of_mem mem) found
    · exact fun after alike => alike.answersAlike
    · intro α meanwhile partner role ended
      constructor
      · exact fun place foreign apart => PortName.node?_run linkFree foreign apart partner role
      · exact fun after other alike waits => alike.run waits partner role

/-- A port with nothing attached to it. -/
def quietEntries : List Entry :=
  [([.text "sys"], .directory),
    ([.text "class", .text "sys"], .directory),
    ([.text "typec", .text "class", .text "sys"], .directory),
    ([.text "port0", .text "typec", .text "class", .text "sys"], .directory),
    ([.text "data_role", .text "port0", .text "typec", .text "class", .text "sys"],
      .file (Utf8.bytes "[host] device\n"))]

/-- The port beside a file that is none of its own. -/
def besideSecret (secret : String) : Files :=
  have fresh : [.text "secret"] ∉ quietEntries.map Prod.fst := by decide
  seenFromTop (([.text "secret"], .file (Utf8.bytes secret)) :: quietEntries)
    (List.nodup_cons.mpr ⟨fresh, by decide⟩)

theorem linkFree_besideSecret (secret : String) : (besideSecret secret).tree.LinkFree := by
  apply Tree.linkFree_of_entries
  intro entry mem
  rcases List.mem_cons.mp mem with rfl | other
  · exact fun same => by cases same
  · have plain : ∀ entry ∈ quietEntries, entry.2.entryType ≠ .symlink := by decide
    exact plain entry other

theorem alikeFor_besideSecret (secret other : String) :
    PortName.port0.AlikeFor (besideSecret secret) (besideSecret other) := by
  refine ⟨rfl, linkFree_besideSecret secret, linkFree_besideSecret other, ?_⟩
  intro place concerns
  have apart : place ≠ [.text "secret"] := by
    rintro rfl
    have unconcerned : ¬ PortName.port0.Concerns (besideSecret "").root [.text "secret"] := by
      rw [PortName.Concerns]
      decide
    exact unconcerned concerns
  cases place with
  | nil => rfl
  | cons name above =>
      have unseen : (name :: above == ([.text "secret"] : Location)) = false := by
        simpa using apart
      simp only [besideSecret, seenFromTop, Tree.node?, List.lookup_cons, unseen]

/-- A switch takes the role whatever the other file holds, and leaves that as it is. -/
theorem port_keeps_within_directories_besideSecret :
    let switched (secret : String) := RoleChange.run (besideSecret secret) .idle .port0
      (.data .device) fun files partner => (files, partner, ())
    (besideSecret "old").ports = .ok [⟨.port0, false⟩] ∧
      PortName.of "port0" = .ok .port0 ∧
      (PortName.port0.attributePath "data_role").names =
        ["sys", "class", "typec", "port0", "data_role"] ∧
      (∀ secret, (besideSecret secret).role .port0 .data = .ok "host") ∧
      (∀ secret, (switched secret).result = .ok ()) ∧
      (switched "old").files.tree.node? [.text "secret"] = some (.file (Utf8.bytes "old")) ∧
      (switched "old").files.role .port0 .data = .ok "device" := by
  intro switched
  rcases port_keeps_within_directories "port0" with ⟨_, found, within⟩
  have listed : (besideSecret "old").ports = .ok [⟨.port0, false⟩] := by decide +kernel
  have accepted := found _ _ listed _ List.mem_cons_self
  rcases within .port0 accepted with ⟨_, spelled, confined⟩
  have control := spelled.control (besideSecret "old") .data
  rcases control with ⟨name, mem, names⟩
  rw [List.mem_singleton.mp mem] at names
  rcases confined (besideSecret "old") (linkFree_besideSecret "old") with ⟨_, _, told, runs⟩
  rcases runs Unit (fun files partner => (files, partner, ())) .idle (.data .device) with
    ⟨kept, alike⟩
  have foreign : ¬ PortName.port0.Owns (besideSecret "old").root [.text "secret"] := by decide
  refine ⟨listed, accepted, names, fun secret => ?_, fun secret => ?_, ?_, by decide +kernel⟩
  · have answers := told (besideSecret secret) (alikeFor_besideSecret "old" secret)
    have host : (besideSecret "old").role .port0 .data = .ok "host" := by decide +kernel
    exact (answers.role .data).trans host
  · have ended := alike (besideSecret secret) (fun files partner => (files, partner, ()))
      (alikeFor_besideSecret "old" secret) (fun _ _ _ alike => ⟨alike, rfl⟩)
    have taken : (switched "old").result = .ok () := by decide +kernel
    exact ended.result.symm.trans taken
  · exact (kept _ foreign fun _ _ => ⟨rfl, rfl⟩).trans (by decide +kernel)

end UsbTypeC
