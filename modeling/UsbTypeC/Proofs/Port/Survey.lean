import Mathlib.Control.Monad.Basic
import UsbTypeC.Port.Survey
import UsbTypeC.Proofs.Port.Listing

/-! What a survey answers. The words that an attribute may select are told by tables,
one for each kind of role, and a text that is not in its table is itself what the
failure tells. -/

namespace UsbTypeC

theorem RoleWord.name_of_ofName? {text : String} {word : RoleWord}
    (read : ofName? text = some word) : text = word.name := by
  unfold ofName? at read
  split at read <;> cases read <;> rfl

theorem Accessory.name_of_ofName? {text : String} {accessory : Accessory}
    (read : ofName? text = some accessory) : text = accessory.name := by
  unfold ofName? at read
  split at read <;> cases read <;> rfl

theorem StatusDetail.tellsContaminant_iff {detail : StatusDetail} :
    detail.tellsContaminant = true ↔ detail = .contaminant := by
  cases detail <;> decide

/-- The words for a power role; a port may also have none. -/
def PowerRole.words : List (String × Option PowerRole) :=
  [("source", some .source), ("sink", some .sink), ("none", none)]

def DataRole.words : List (String × Option DataRole) :=
  [("host", some .host), ("device", some .device), ("none", none)]

/-- The words of power and of data roles tell the mode that goes with them. -/
def PortMode.words : List (String × Option PortMode) :=
  [("source", some .dfp), ("host", some .dfp), ("sink", some .ufp), ("device", some .ufp),
    ("none", none)]

/-- The accessories that are a mode by themselves. -/
def PortMode.accessories : List (String × PortMode) :=
  [("analog_audio", .audioAccessory), ("debug", .debugAccessory)]

theorem PortMode.lookup_accessories (text : String) :
    accessories.lookup text =
      match Accessory.ofName? text with
      | some .analogAudio => some .audioAccessory
      | some .debug => some .debugAccessory
      | _ => none := by
  by_cases audio : text = "analog_audio"
  · rw [audio]
    rfl
  · by_cases debug : text = "debug"
    · rw [debug]
      rfl
    · have absent : accessories.lookup text = none := by
        simp [accessories, audio, debug]
      rw [absent]
      cases read : Accessory.ofName? text with
      | none => rfl
      | some accessory =>
          have name := Accessory.name_of_ofName? read
          cases accessory with
          | none => rfl
          | analogAudio => exact absurd name audio
          | debug => exact absurd name debug

/-- A choice is understood by a table, or told back. -/
def understood {α : Type} (words : List (String × α)) (choice : String) : Except Error α :=
  match words.lookup choice with
  | some meaning => .ok meaning
  | none => .error (.unknownRole choice)

/-- A text that is no word for a role is in no table of such words. -/
theorem understood_of_unread {α : Type} {words : List (String × α)} {text : String}
    (unread : RoleWord.ofName? text = none)
    (read : ∀ entry ∈ words, (RoleWord.ofName? entry.1).isSome = true) :
    understood words text = .error (.unknownRole text) := by
  have absent : words.lookup text = none := by
    rw [List.lookup_eq_none_iff]
    intro entry mem
    have different : text ≠ entry.1 := by
      rintro rfl
      have present := read entry mem
      rw [unread] at present
      cases present
    simpa using different
  rw [understood, absent]

namespace Files

/-- Reading a word first and telling its meaning afterwards comes to the same as looking
the text up in the table of meanings. -/
theorem bind_roleWord {α : Type} (files : Files) (port : PortName) (kind : RoleKind)
    {words : List (String × α)} {meaning : RoleWord → Except Error α}
    (agrees : ∀ word : RoleWord, meaning word = understood words word.name)
    (read : ∀ entry ∈ words, (RoleWord.ofName? entry.1).isSome = true) :
    (files.roleWord port kind).bind meaning =
      (files.role port kind).bind (understood words) := by
  rw [roleWord]
  cases files.role port kind with
  | error error => rfl
  | ok text =>
      dsimp only [bind, Except.bind]
      cases found : RoleWord.ofName? text with
      | none => exact (understood_of_unread found read).symm
      | some word =>
          rw [RoleWord.name_of_ofName? found]
          exact agrees word

end Files

namespace Survey

/-- What an attribute says, the selected choice being looked up in a table of words. -/
def attributeTold {α : Type} (files : Files) (path : Path) (words : List (String × α)) :
    Except Error α :=
  match files.readValue path with
  | .error error => .error error
  | .ok text => understood words (selected text)

def powerTold (files : Files) (port : PortName) : Except Error (Option PowerRole) :=
  attributeTold files (port.attributePath "power_role") PowerRole.words

def dataTold (files : Files) (port : PortName) : Except Error (Option DataRole) :=
  attributeTold files (port.attributePath "data_role") DataRole.words

/-- The accessory is asked for first, and may decide the mode. Otherwise the port type tells it,
or the data role if the port provides no type. -/
def modeTold (files : Files) (port : PortName) : Except Error (Option PortMode) :=
  match files.readValue (port.partnerAttributePath "accessory_mode") with
  | .error error => .error error
  | .ok accessory =>
      match PortMode.accessories.lookup accessory with
      | some mode => .ok (some mode)
      | none =>
          attributeTold files
            (if files.has (port.attributePath "port_type") then port.attributePath "port_type"
              else port.attributePath "data_role")
            PortMode.words

/-- Whether an attribute can be read and begins with a `y`. -/
def saysYes (files : Files) (path : Path) : Bool :=
  match files.readValue path with
  | .error _ => false
  | .ok text => text.toList.head? == some 'y'

/-- What is told about contaminants at a port. Only the primary port has a detection, if its file
can be read, and without one it has no protection either. -/
def contaminantTold (survey : Survey) (files : Files) (port : PortName) : ContaminantState :=
  let told (modes : List ProtectionMode) (protection : Protection) (detection : Detection) :
      ContaminantState := {
    protectionModes := modes
    canEnableProtection := false
    canEnableDetection := false
    protection
    detection }
  if port = survey.primaryPort then
    match survey.contaminantFile.map files.readValue with
    | some (.ok text) =>
        told [.forceSink, .forceDisable] .forceSink
          (if text.toList.head? = some '1' then .detected else .notDetected)
    | _ => told [] .none .notSupported
  else told [.forceSink, .forceDisable] .forceSink .notSupported

def failure? {α : Type} : Except Error α → Option Error
  | .error error => some error
  | .ok _ => none

/-- What keeps the roles of a port from being told, in the order in which it counts.
Nothing is asked of a port to which nothing is attached. -/
def obstacles (files : Files) (entry : FoundPort) : List Error :=
  if entry.connected then
    (failure? (powerTold files entry.name)).toList ++
      (failure? (dataTold files entry.name)).toList ++
      (failure? (modeTold files entry.name)).toList
  else []

/-- The role of a port to which something is attached. -/
def present {α : Type} (entry : FoundPort) (told : Except Error (Option α)) : Option α :=
  if entry.connected then told.toOption.join else none

/-- The status of a port whose roles can be told. -/
def toldStatus (survey : Survey) (files : Files) (detail : StatusDetail)
    (entry : FoundPort) : PortStatus where
  port := entry.name
  connected := entry.connected
  powerRole := present entry (powerTold files entry.name)
  dataRole := present entry (dataTold files entry.name)
  mode := present entry (modeTold files entry.name)
  modeChangeable := true
  dataRoleChangeable :=
    entry.connected &&
      saysYes files (entry.name.partnerAttributePath "supports_usb_power_delivery")
  powerRoleChangeable :=
    entry.connected &&
      saysYes files (entry.name.partnerAttributePath "supports_usb_power_delivery")
  offeredModes := if detail = .legacy then [.dfp] else [.drp, .audioAccessory]
  contaminant :=
    if detail = .contaminant then some (survey.contaminantTold files entry.name) else none

theorem attributeTold_eq {α : Type} (files : Files) (path : Path) (words : List (String × α)) :
    attributeTold files path words = (files.readSelected path).bind (understood words) := by
  rw [attributeTold, Files.readSelected]
  cases files.readValue path <;> rfl

theorem powerRole_eq (files : Files) (port : PortName) :
    files.powerRole port = powerTold files port := by
  rw [powerTold, attributeTold_eq]
  refine Files.bind_roleWord files port .power (fun word => ?_) (by decide)
  cases word <;> rfl

theorem dataRole_eq (files : Files) (port : PortName) :
    files.dataRole port = dataTold files port := by
  rw [dataTold, attributeTold_eq]
  refine Files.bind_roleWord files port .data (fun word => ?_) (by decide)
  cases word <;> rfl

theorem modeTold_eq_role (files : Files) (port : PortName) :
    modeTold files port = (files.accessoryMode port).bind fun accessory =>
      match PortMode.accessories.lookup accessory with
      | some mode => .ok (some mode)
      | none => (files.role port .mode).bind (understood PortMode.words) := by
  rw [modeTold, Files.accessoryMode]
  cases files.readValue (port.partnerAttributePath "accessory_mode") with
  | error error => rfl
  | ok accessory =>
      dsimp only [Except.bind]
      rw [attributeTold_eq]
      rfl

theorem mode_eq (files : Files) (port : PortName) : files.mode port = modeTold files port := by
  have negotiated : files.negotiatedMode port =
      (files.role port .mode).bind (understood PortMode.words) := by
    refine Files.bind_roleWord files port .mode (fun word => ?_) (by decide)
    cases word <;> rfl
  rw [Files.mode, modeTold_eq_role, ← negotiated]
  cases files.accessoryMode port with
  | error error => rfl
  | ok accessory =>
      dsimp only [bind, Except.bind]
      rw [PortMode.lookup_accessories]
      cases Accessory.ofName? accessory with
      | none => rfl
      | some read => cases read <;> rfl

theorem mayChangeRoles_eq (files : Files) (entry : FoundPort) :
    mayChangeRoles files entry =
      (entry.connected &&
        saysYes files (entry.name.partnerAttributePath "supports_usb_power_delivery")) := by
  rw [mayChangeRoles, saysYes, Files.supportsPowerDelivery]
  cases files.readValue (entry.name.partnerAttributePath "supports_usb_power_delivery") <;> rfl

theorem offeredModes_eq (detail : StatusDetail) :
    detail.offeredModes = if detail = .legacy then [.dfp] else [.drp, .audioAccessory] := by
  cases detail <;> rfl

theorem contaminantState_eq_told (survey : Survey) (files : Files) (port : PortName) :
    survey.contaminantState files port = survey.contaminantTold files port := by
  rw [contaminantState, contaminantTold]
  split
  · cases survey.contaminantFile with
    | none => rfl
    | some path =>
        dsimp only [Option.map_some]
        rw [Files.contaminantPresent]
        cases files.readValue path with
        | error error => rfl
        | ok text =>
            by_cases marked : text.toList.head? = some '1'
            · simp [Except.map, marked, ContaminantState.default]
            · have unmarked := beq_eq_false_iff_ne.mpr marked
              simp [Except.map, marked, unmarked, ContaminantState.default]
  · rfl

theorem roles_of_idle {files : Files} {entry : FoundPort}
    (idle : entry.connected = false) :
    roles files entry = .ok { power := none, data := none, mode := none } := by
  rw [roles, idle]
  rfl

theorem roles_of_connected {files : Files} {entry : FoundPort}
    (connected : entry.connected = true) :
    roles files entry =
      (powerTold files entry.name).bind fun power =>
        (dataTold files entry.name).bind fun data =>
          (modeTold files entry.name).bind fun mode => .ok { power, data, mode } := by
  rw [roles, if_pos connected, powerRole_eq, dataRole_eq, mode_eq]
  rfl

theorem statusOf_eq (survey : Survey) (files : Files) (detail : StatusDetail)
    (entry : FoundPort) :
    survey.statusOf files detail entry =
      match (obstacles files entry).head? with
      | some error => .error error
      | none => .ok (survey.toldStatus files detail entry) := by
  rw [statusOf, mayChangeRoles_eq, toldStatus, obstacles, offeredModes_eq,
    contaminantState_eq_told]
  simp only [StatusDetail.tellsContaminant_iff]
  cases connected : entry.connected with
  | false =>
      rw [roles_of_idle connected]
      simp only [present, connected]
      rfl
  | true =>
      rw [roles_of_connected connected]
      simp only [present, connected]
      cases powerTold files entry.name with
      | error error => rfl
      | ok power =>
          cases dataTold files entry.name with
          | error error => rfl
          | ok data =>
              cases modeTold files entry.name with
              | error error => rfl
              | ok mode => rfl

/-- Going through a list fails with the first obstacle, or reaches every item. -/
theorem mapM_of_obstacles {α β : Type} {visit : α → Except Error β}
    {hindrances : α → List Error} {value : α → β}
    (each : ∀ item, visit item =
      match (hindrances item).head? with
      | some error => .error error
      | none => .ok (value item)) (items : List α) :
    items.mapM visit =
      match (items.flatMap hindrances).head? with
      | some error => .error error
      | none => .ok (items.map value) := by
  induction items with
  | nil => rfl
  | cons item rest induction =>
      rw [List.mapM_cons, each, induction, List.flatMap_cons, List.head?_append]
      cases (hindrances item).head? with
      | some error => rfl
      | none =>
          cases (rest.flatMap hindrances).head? with
          | some error => rfl
          | none => rfl

/-- Whether the ports can be told, and which, is decided by the files alone. -/
theorem statuses_cases (files : Files) :
    (∃ error, ∀ (survey : Survey) (detail : StatusDetail),
        survey.statuses files detail = .error error) ∨
      ∃ entries : List FoundPort, ∀ (survey : Survey) (detail : StatusDetail),
        survey.statuses files detail = .ok (entries.map (survey.toldStatus files detail)) := by
  cases found : files.ports with
  | error error =>
      refine .inl ⟨error, fun survey detail => ?_⟩
      rw [statuses, found]
      rfl
  | ok entries =>
      have each (survey : Survey) (detail : StatusDetail) : survey.statuses files detail =
          if entries.isEmpty then .error .noPortFound
          else match (entries.flatMap (obstacles files)).head? with
            | some error => .error error
            | none => .ok (entries.map (survey.toldStatus files detail)) := by
        rw [← mapM_of_obstacles (statusOf_eq survey files detail), statuses, found]
        rfl
      by_cases absent : entries.isEmpty
      · exact .inl ⟨.noPortFound, fun survey detail => (each survey detail).trans (if_pos absent)⟩
      · have visited (survey : Survey) (detail : StatusDetail) :=
          (each survey detail).trans (if_neg absent)
        cases hindered : (entries.flatMap (obstacles files)).head? with
        | some error =>
            simp only [hindered] at visited
            exact .inl ⟨error, visited⟩
        | none =>
            simp only [hindered] at visited
            exact .inr ⟨entries, visited⟩

/-- Either the ports cannot be listed, or there is none, or the first obstacle in the
order of the ports is the answer, or the status of every port is told, in the same
order. -/
theorem statuses_exact (survey : Survey) (files : Files) (detail : StatusDetail) :
    match files.listing portsDirectory with
    | .error error => survey.statuses files detail = .error error
    | .ok listing =>
        ∃ entries, files.ports = .ok entries ∧ FoundPort.Enumerates listing entries ∧
          survey.statuses files detail =
            if entries = [] then .error .noPortFound
            else match (entries.flatMap (obstacles files)).head? with
              | some error => .error error
              | none => .ok (entries.map (survey.toldStatus files detail)) := by
  rw [statuses, Files.ports]
  cases files.listing portsDirectory with
  | error error => rfl
  | ok listing =>
      refine ⟨FoundPort.ofListing listing, rfl, FoundPort.enumerates_ofListing listing, ?_⟩
      change (if (FoundPort.ofListing listing).isEmpty then .error .noPortFound
        else (FoundPort.ofListing listing).mapM (survey.statusOf files detail)) = _
      rw [mapM_of_obstacles (statusOf_eq survey files detail)]
      simp only [List.isEmpty_iff]

/-- Two ports that are plugged in, the second with an accessory for debugging, and one that
is not, although it has a file by the name of its partner. -/
def severalPorts : Files :=
  let first (names : List Name) : Location :=
    names ++ [.text "port0", .text "typec", .text "class", .text "sys"]
  let firstPartner (names : List Name) : Location :=
    names ++ [.text "port0-partner", .text "typec", .text "class", .text "sys"]
  let third (names : List Name) : Location :=
    names ++ [.text "port2", .text "typec", .text "class", .text "sys"]
  let thirdPartner (names : List Name) : Location :=
    names ++ [.text "port2-partner", .text "typec", .text "class", .text "sys"]
  seenFromTop
    [([.text "sys"], .directory),
      ([.text "class", .text "sys"], .directory),
      ([.text "typec", .text "class", .text "sys"], .directory),
      (third [], .directory),
      (third [.text "power_role"], .file (Utf8.bytes "[source] sink\n")),
      (third [.text "data_role"], .file (Utf8.bytes "[host] device\n")),
      (thirdPartner [], .directory),
      (thirdPartner [.text "accessory_mode"], .file (Utf8.bytes "debug\n")),
      (thirdPartner [.text "supports_usb_power_delivery"], .file (Utf8.bytes "no\n")),
      ([.text "port1", .text "typec", .text "class", .text "sys"], .directory),
      ([.text "port1-partner", .text "typec", .text "class", .text "sys"], .file []),
      (first [], .directory),
      (first [.text "power_role"], .file (Utf8.bytes "source [sink]\n")),
      (first [.text "data_role"], .file (Utf8.bytes "host [device]\n")),
      (first [.text "port_type"], .file (Utf8.bytes "dual [source] sink\n")),
      (firstPartner [], .directory),
      (firstPartner [.text "accessory_mode"], .file (Utf8.bytes "none\n")),
      (firstPartner [.text "supports_usb_power_delivery"], .file (Utf8.bytes "yes\n")),
      ([.text "moisture_detected"], .file (Utf8.bytes "1\n"))]
    (by decide)

/-- The ports are told in the order of their names, each by its own files. If the third port
selects a word that is none of its kind, that word is the whole answer. -/
theorem statuses_exact_severalPorts :
    let survey : Survey := {
      primaryPort := .port0
      contaminantFile := some ⟨"moisture_detected"⟩ }
    let otherwise := severalPorts.tryOverwrite
      (PortName.attributePath ⟨"port2", by decide⟩ "data_role") "host [sink]\n"
    let wet : ContaminantState := {
      protectionModes := [.forceSink, .forceDisable]
      protection := .forceSink
      detection := .detected
      canEnableProtection := false
      canEnableDetection := false }
    survey.statuses severalPorts .contaminant = .ok [
        { port := .port0
          connected := true
          powerRole := some .sink
          dataRole := some .device
          mode := some .dfp
          modeChangeable := true
          dataRoleChangeable := true
          powerRoleChangeable := true
          offeredModes := [.drp, .audioAccessory]
          contaminant := some wet },
        { port := ⟨"port1", by decide⟩
          connected := false
          powerRole := none
          dataRole := none
          mode := none
          modeChangeable := true
          dataRoleChangeable := false
          powerRoleChangeable := false
          offeredModes := [.drp, .audioAccessory]
          contaminant := some { wet with detection := .notSupported } },
        { port := ⟨"port2", by decide⟩
          connected := true
          powerRole := some .source
          dataRole := some .host
          mode := some .debugAccessory
          modeChangeable := true
          dataRoleChangeable := false
          powerRoleChangeable := false
          offeredModes := [.drp, .audioAccessory]
          contaminant := some { wet with detection := .notSupported } }] ∧
      survey.statuses otherwise .contaminant = .error (.unknownRole "sink") := by
  intro survey otherwise wet
  let listing : List ListedEntry :=
    [⟨"port2", .directory⟩, ⟨"port2-partner", .directory⟩, ⟨"port1", .directory⟩,
      ⟨"port1-partner", .regularFile⟩, ⟨"port0", .directory⟩, ⟨"port0-partner", .directory⟩]
  let found : List FoundPort :=
    [⟨.port0, true⟩, ⟨⟨"port1", by decide⟩, false⟩, ⟨⟨"port2", by decide⟩, true⟩]
  have answered {files : Files} (listed : files.listing portsDirectory = .ok listing)
      (known : files.ports = .ok found) :
      survey.statuses files .contaminant =
        match (found.flatMap (obstacles files)).head? with
        | some error => .error error
        | none => .ok (found.map (survey.toldStatus files .contaminant)) := by
    have exactly := statuses_exact survey files .contaminant
    rw [listed] at exactly
    rcases exactly with ⟨entries, same, _, told⟩
    cases known.symm.trans same
    exact told
  refine ⟨?_, ?_⟩
  · have unhindered : (found.flatMap (obstacles severalPorts)).head? = none := by decide +kernel
    rw [answered (by decide +kernel) (by decide +kernel), unhindered]
    decide +kernel
  · -- Another choice for the third port changes neither the listing nor the ports.
    rw [answered (by decide +kernel) (by decide +kernel)]
    decide +kernel

end Survey

end UsbTypeC
