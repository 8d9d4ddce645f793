import UsbTypeC.Proofs.Port.Listing
import UsbTypeC.Proofs.Port.Sight
import UsbTypeC.Proofs.Text.Joined
import UsbTypeC.Report.StatusTree

/-! What a status tree shows. As long as no name of a port breaks a line, the lines can be
told apart, the headings among them start the ports, and every line below a heading shows
its own value. -/

namespace UsbTypeC

@[simp]
theorem Style.apply_false (style : Style) (text : String) : style.apply false text = text :=
  rfl

namespace StatusTree

section Words

/-- A word that can stand in a list of words. -/
def IsWord (text : String) : Prop :=
  text ≠ "" ∧ ',' ∉ text.toList ∧ '\n' ∉ text.toList

instance (text : String) : Decidable (IsWord text) :=
  inferInstanceAs (Decidable (_ ∧ _ ∧ _))

/-- Names by which values can be told from one another and from none at all. -/
structure Naming {α : Type} (name : α → String) : Prop where
  distinct : Function.Injective name
  word : ∀ value, IsWord (name value)
  present : ∀ value, name value ≠ "none" ∧ name value ≠ "(none)"

theorem naming_powerRole : Naming PowerRole.name where
  distinct left right := by cases left <;> cases right <;> decide
  word role := by cases role <;> decide
  present role := by cases role <;> decide

theorem naming_dataRole : Naming DataRole.name where
  distinct left right := by cases left <;> cases right <;> decide
  word role := by cases role <;> decide
  present role := by cases role <;> decide

theorem naming_portMode : Naming PortMode.name where
  distinct left right := by cases left <;> cases right <;> decide
  word mode := by cases mode <;> decide
  present mode := by cases mode <;> decide

theorem naming_protectionMode : Naming ProtectionMode.name where
  distinct left right := by cases left <;> cases right <;> decide
  word mode := by cases mode <;> decide
  present mode := by cases mode <;> decide

theorem name_detection_injective : Function.Injective Detection.name := by
  intro left right
  cases left <;> cases right <;> decide

theorem name_protection_injective : Function.Injective Protection.name := by
  intro left right
  cases left <;> cases right <;> decide

end Words

section Values

variable {α : Type} {name : α → String}

theorem property_inj {label value other : String}
    (same : property false label value = property false label other) : value = other := by
  simpa [property] using same

theorem flag_inj {value other : Bool} (same : flag false value = flag false other) :
    value = other := by
  revert same
  cases value <;> cases other <;> decide

/-- A role that is absent is told apart from any that is there. -/
theorem role_inj (naming : Naming name) {value other : Option α}
    (same : role false (value.map name) = role false (other.map name)) : value = other := by
  cases value with
  | none =>
      cases other with
      | none => rfl
      | some there => exact absurd same.symm (naming.present there).1
  | some here =>
      cases other with
      | none => exact absurd same (naming.present here).1
      | some there => rw [naming.distinct same]

theorem toList_names (list : List String) :
    (names false list).toList = [',', ' '].intercalate (list.map String.toList) :=
  String.toList_intercalate

theorem pieces_names {first : String} {rest : List String}
    (words : ∀ text ∈ first :: rest, IsWord text) :
    pieces ',' (names false (first :: rest)).toList =
      first.toList :: rest.map fun text => ' ' :: text.toList := by
  rw [toList_names, List.map_cons, pieces_intercalate (by decide), List.map_map]
  · rfl
  · exact (words first List.mem_cons_self).2.1
  · intro list mem
    rcases List.mem_map.mp mem with ⟨text, textMem, rfl⟩
    exact (words text (List.mem_cons_of_mem first textMem)).2.1

theorem names_inj {list others : List String} (words : ∀ text ∈ list, IsWord text)
    (otherWords : ∀ text ∈ others, IsWord text)
    (same : names false list = names false others) : list = others := by
  have cut := congrArg (fun text : String => pieces ',' text.toList) same
  cases list with
  | nil =>
      cases others with
      | nil => rfl
      | cons other later =>
          rw [pieces_names otherWords] at cut
          have empty : [] = other.toList := (List.cons.inj cut).1
          exact absurd (String.toList_eq_nil_iff.mp empty.symm)
            (otherWords other List.mem_cons_self).1
  | cons first rest =>
      rw [pieces_names words] at cut
      cases others with
      | nil =>
          have empty : first.toList = [] := (List.cons.inj cut).1
          exact absurd (String.toList_eq_nil_iff.mp empty) (words first List.mem_cons_self).1
      | cons other later =>
          rw [pieces_names otherWords] at cut
          have parts := List.cons.inj cut
          have spaced (left right : String) (equal : ' ' :: left.toList = ' ' :: right.toList) :
              left = right := String.toList_inj.mp (List.cons.inj equal).2
          rw [String.toList_inj.mp parts.1, (List.map_inj_right spaced).mp parts.2]

theorem words_map (naming : Naming name) (list : List α) :
    ∀ text ∈ list.map name, IsWord text := by
  intro text mem
  rcases List.mem_map.mp mem with ⟨value, _, rfl⟩
  exact naming.word value

theorem names_map_inj (naming : Naming name) {list others : List α}
    (same : names false (list.map name) = names false (others.map name)) : list = others :=
  (List.map_inj_right naming.distinct).mp
    (names_inj (words_map naming list) (words_map naming others) same)

/-- A list without any words is shown by a word of its own. -/
theorem namesOrNone_eq_names (list : List String) :
    namesOrNone false list = names false (if list.isEmpty then ["(none)"] else list) := by
  cases list <;> rfl

theorem words_orNone {list : List String} (words : ∀ text ∈ list, IsWord text) :
    ∀ text ∈ if list.isEmpty then ["(none)"] else list, IsWord text := by
  intro text mem
  split at mem
  · rw [List.mem_singleton.mp mem]
    decide
  · exact words text mem

theorem namesOrNone_map_inj (naming : Naming name) {list others : List α}
    (same : namesOrNone false (list.map name) = namesOrNone false (others.map name)) :
    list = others := by
  rw [namesOrNone_eq_names, namesOrNone_eq_names] at same
  have equal := names_inj (words_orNone (words_map naming list))
    (words_orNone (words_map naming others)) same
  cases list with
  | nil =>
      cases others with
      | nil => rfl
      | cons other later => exact absurd (List.cons.inj equal).1.symm (naming.present other).2
  | cons first rest =>
      cases others with
      | nil => exact absurd (List.cons.inj equal).1 (naming.present first).2
      | cons other later => exact (List.map_inj_right naming.distinct).mp equal

end Values

section OneLine

variable {α : Type} {name : α → String}

theorem oneLine_flag (value : Bool) : '\n' ∉ (flag false value).toList := by
  cases value <;> decide

theorem oneLine_role (naming : Naming name) (value : Option α) :
    '\n' ∉ (role false (value.map name)).toList := by
  cases value with
  | none => exact (by decide : '\n' ∉ "none".toList)
  | some there => exact (naming.word there).2.2

theorem oneLine_names {list : List String} (words : ∀ text ∈ list, IsWord text) :
    '\n' ∉ (names false list).toList := by
  rw [toList_names]
  apply not_mem_intercalate (by decide)
  intro letters mem
  rcases List.mem_map.mp mem with ⟨text, textMem, rfl⟩
  exact (words text textMem).2.2

theorem oneLine_property {label value : String} (labelFree : '\n' ∉ label.toList)
    (valueFree : '\n' ∉ value.toList) : '\n' ∉ (property false label value).toList := by
  simp [property, trunk, labelFree, valueFree]

end OneLine

section Ports

variable {status left right : PortStatus} {state other : ContaminantState}

/-- The lines below the heading of a port. -/
def below (status : PortStatus) : List String :=
  (portLines false status).tail

/-- A line that starts the next port. -/
def Opens (line : String) : Prop :=
  branch.toList <+: line.toList

theorem opens_portHeading (port : PortName) : Opens (portHeading false port) := by
  simp [Opens, portHeading]

/-- A line that shows a value under a label. -/
def ShowsValue (line : String) : Prop :=
  ∃ label value, line = property false label value ∧
    '\n' ∉ label.toList ∧ '\n' ∉ value.toList

theorem not_opens_of_showsValue {line : String} (shown : ShowsValue line) : ¬ Opens line := by
  rcases shown with ⟨label, value, rfl, _, _⟩
  simp [Opens, branch, property, trunk]

theorem showsValue_contaminantLines {line : String} (mem : line ∈ contaminantLines false state) :
    ShowsValue line := by
  simp only [contaminantLines, List.mem_cons, List.not_mem_nil, or_false] at mem
  rcases mem with rfl | rfl | rfl
  · refine ⟨_, _, rfl, by decide, ?_⟩
    cases state.detection <;> decide
  · refine ⟨_, _, rfl, by decide, ?_⟩
    cases state.protection <;> decide
  · refine ⟨_, _, rfl, by decide, ?_⟩
    rw [namesOrNone_eq_names]
    exact oneLine_names (words_orNone (words_map naming_protectionMode _))

theorem showsValue_below {line : String} (mem : line ∈ below status) : ShowsValue line := by
  rcases List.mem_append.mp mem with ordinary | contaminant
  · simp only [List.mem_cons, List.not_mem_nil, or_false] at ordinary
    rcases ordinary with rfl | rfl | rfl | rfl | rfl | rfl | rfl | rfl
    · exact ⟨_, _, rfl, by decide, oneLine_flag _⟩
    · exact ⟨_, _, rfl, by decide, oneLine_role naming_powerRole _⟩
    · exact ⟨_, _, rfl, by decide, oneLine_role naming_dataRole _⟩
    · exact ⟨_, _, rfl, by decide, oneLine_role naming_portMode _⟩
    · exact ⟨_, _, rfl, by decide, oneLine_flag _⟩
    · exact ⟨_, _, rfl, by decide, oneLine_flag _⟩
    · exact ⟨_, _, rfl, by decide, oneLine_flag _⟩
    · exact ⟨_, _, rfl, by decide, oneLine_names (words_map naming_portMode _)⟩
  · cases known : status.contaminant with
    | none =>
        rw [known] at contaminant
        cases contaminant
    | some state =>
        rw [known] at contaminant
        exact showsValue_contaminantLines contaminant

theorem eq_of_contaminantLines
    (same : contaminantLines false state = contaminantLines false other)
    (protecting : state.canEnableProtection = other.canEnableProtection)
    (detecting : state.canEnableDetection = other.canEnableDetection) : state = other := by
  simp only [contaminantLines, List.cons.injEq] at same
  have detection := name_detection_injective (property_inj same.1)
  have protection := name_protection_injective (property_inj same.2.1)
  have modes := namesOrNone_map_inj naming_protectionMode (property_inj same.2.2.1)
  cases state
  cases other
  simp_all

/-- Two statuses that show the same lines can differ only in what is not shown. -/
theorem eq_of_portLines (same : portLines false left = portLines false right)
    (unshown : ∀ state ∈ left.contaminant, ∀ other ∈ right.contaminant,
      state.canEnableProtection = other.canEnableProtection ∧
        state.canEnableDetection = other.canEnableDetection) : left = right := by
  simp only [portLines, List.cons_append, List.nil_append, List.cons.injEq] at same
  rcases same with ⟨heading, connected, power, data, mode, modes, datas, powers, offered, rest⟩
  have contaminant : left.contaminant = right.contaminant := by
    cases here : left.contaminant with
    | none =>
        cases there : right.contaminant with
        | none => rfl
        | some other =>
            rw [here, there] at rest
            cases rest
    | some state =>
        cases there : right.contaminant with
        | none =>
            rw [here, there] at rest
            cases rest
        | some other =>
            rw [here, there] at rest
            have alike := unshown state here other there
            rw [eq_of_contaminantLines rest alike.1 alike.2]
  have text : left.port.text = right.port.text := by
    simpa [portHeading, StatusTree.heading] using heading
  have port := PortName.eq_of_text text
  have connected := flag_inj (property_inj connected)
  have power := role_inj naming_powerRole (property_inj power)
  have data := role_inj naming_dataRole (property_inj data)
  have mode := role_inj naming_portMode (property_inj mode)
  have modes := flag_inj (property_inj modes)
  have datas := flag_inj (property_inj datas)
  have powers := flag_inj (property_inj powers)
  have offered := names_map_inj naming_portMode (property_inj offered)
  cases left
  cases right
  simp_all

theorem oneLine_portLines (oneLine : '\n' ∉ status.port.text.toList) :
    ∀ line ∈ portLines false status, '\n' ∉ line.toList := by
  intro line mem
  rcases List.mem_cons.mp mem with rfl | later
  · simp [portHeading, heading, branch, oneLine]
  · rcases showsValue_below later with ⟨label, value, rfl, labelFree, valueFree⟩
    exact oneLine_property labelFree valueFree

end Ports

section Tree

variable {ports others : List PortStatus}

theorem lines_of_ports (present : ports ≠ []) :
    lines false ports = "Ports:" :: ports.flatMap (portLines false) := by
  rw [lines, if_neg (by simpa using present)]
  rfl

theorem toList_render (ports : List PortStatus) :
    (render false ports).toList =
      ((lines false ports).map String.toList).flatMap (· ++ ['\n']) := by
  simp [render, line, List.flatMap_map, String.toList_join]

theorem oneLine_lines (present : ports ≠ [])
    (oneLine : ∀ status ∈ ports, '\n' ∉ status.port.text.toList) :
    ∀ letters ∈ (lines false ports).map String.toList, '\n' ∉ letters := by
  intro letters mem
  rcases List.mem_map.mp mem with ⟨line, lineMem, rfl⟩
  rw [lines_of_ports present] at lineMem
  rcases List.mem_cons.mp lineMem with rfl | later
  · decide
  · rcases List.mem_flatMap.mp later with ⟨status, statusMem, shown⟩
    exact oneLine_portLines (oneLine status statusMem) line shown

/-- Trees that are the same text have the same lines at every port. -/
theorem map_portLines_eq_of_render_eq (present : ports ≠ []) (otherPresent : others ≠ [])
    (oneLine : ∀ status ∈ ports, '\n' ∉ status.port.text.toList)
    (otherOneLine : ∀ status ∈ others, '\n' ∉ status.port.text.toList)
    (same : render false ports = render false others) :
    ports.map (portLines false) = others.map (portLines false) := by
  have texts := congrArg String.toList same
  rw [toList_render, toList_render] at texts
  have letters := eq_of_flatMap_ended (oneLine_lines present oneLine)
    (oneLine_lines otherPresent otherOneLine) texts
  have lines := (List.map_inj_right fun _ _ => String.toList_inj.mp).mp letters
  rw [lines_of_ports present, lines_of_ports otherPresent] at lines
  exact map_eq_of_flatMap_blocks (fun status => opens_portHeading status.port)
    (fun _ _ mem => not_opens_of_showsValue (showsValue_below mem)) (List.cons.inj lines).2

end Tree

section Told

variable {survey other : Survey} {files otherFiles : Files} {detail otherDetail : StatusDetail}
  {ports others : List PortStatus}

/-- Detection and protection are never there to be enabled. -/
theorem enabling_contaminantState (survey : Survey) (files : Files) (port : PortName) :
    (survey.contaminantState files port).canEnableProtection = false ∧
      (survey.contaminantState files port).canEnableDetection = false := by
  rw [Survey.contaminantState]
  split
  · split <;> exact ⟨rfl, rfl⟩
  · exact ⟨rfl, rfl⟩

theorem enabling_of_told (told : survey.statuses files detail = .ok ports) :
    ∀ status ∈ ports, ∀ state ∈ status.contaminant,
      state.canEnableProtection = false ∧ state.canEnableDetection = false := by
  intro status mem state known
  rcases Survey.entries_of_statuses told with ⟨entries, _, _, _, rfl⟩
  rcases List.mem_map.mp mem with ⟨entry, _, rfl⟩
  rw [Survey.toldStatus, ← Survey.contaminantState_eq_told] at known
  dsimp only at known
  split at known
  · cases known
    exact enabling_contaminantState survey files entry.name
  · cases known

theorem ne_nil_of_told (told : survey.statuses files detail = .ok ports) : ports ≠ [] := by
  rcases Survey.entries_of_statuses told with ⟨entries, _, present, _, rfl⟩
  simpa using present

theorem eq_of_map_eq {α β : Type} {shown : α → β} {items others : List α}
    (distinct : ∀ item ∈ items, ∀ other ∈ others, shown item = shown other → item = other)
    (same : items.map shown = others.map shown) : items = others := by
  induction items generalizing others with
  | nil =>
      cases others with
      | nil => rfl
      | cons other later => cases same
  | cons item rest induction =>
      cases others with
      | nil => cases same
      | cons other later =>
          have parts := List.cons.inj same
          have first := distinct item List.mem_cons_self other List.mem_cons_self parts.1
          have further := induction (fun left leftMem right rightMem =>
            distinct left (List.mem_cons_of_mem item leftMem) right
              (List.mem_cons_of_mem other rightMem)) parts.2
          rw [first, further]

/-- Two surveys, of whatever files and in whatever detail, that are printed as the same tree
have told the same: as many ports, in the same order, and all the same about each. -/
theorem eq_of_render_eq (told : survey.statuses files detail = .ok ports)
    (otherTold : other.statuses otherFiles otherDetail = .ok others)
    (oneLine : ∀ status ∈ ports, '\n' ∉ status.port.text.toList)
    (otherOneLine : ∀ status ∈ others, '\n' ∉ status.port.text.toList)
    (same : render false ports = render false others) : ports = others := by
  have shown := map_portLines_eq_of_render_eq (ne_nil_of_told told) (ne_nil_of_told otherTold)
    oneLine otherOneLine same
  apply eq_of_map_eq _ shown
  intro status mem otherStatus otherMem lines
  apply eq_of_portLines lines
  intro state known otherState otherKnown
  have here := enabling_of_told told status mem state known
  have there := enabling_of_told otherTold otherStatus otherMem otherState otherKnown
  exact ⟨here.1.trans there.1.symm, here.2.trans there.2.symm⟩

/-- A port whose name looks like a line of the tree, with or without a file for its mode. -/
def disguisedPort (typed : Bool) : Files :=
  let below (names : List Name) : Location := names ++ [.text "typec", .text "class", .text "sys"]
  let port := Name.text "0:│── Port 1"
  let partner := Name.text "0:│── Port 1-partner"
  let typeEntry : Entry := (below [.text "port_type", port], .file (Utf8.bytes "source [sink]\n"))
  let entries : List Entry := [
    ([.text "sys"], .directory),
    ([.text "class", .text "sys"], .directory),
    (below [], .directory),
    (below [port], .directory),
    (below [.text "power_role", port], .file (Utf8.bytes "source [sink]\n")),
    (below [.text "data_role", port], .file (Utf8.bytes "host [device]\n")),
    (below [partner], .directory),
    (below [.text "accessory_mode", partner], .file (Utf8.bytes "none\n"))]
  if typed then seenFromTop (typeEntry :: entries) (by decide) else seenFromTop entries (by decide)

/-- Both are told, and are printed as the same tree, for they come to the same. -/
theorem eq_of_render_eq_disguisedPort :
    let survey : Survey := { primaryPort := .port0, contaminantFile := none }
    ∃ ports others, survey.statuses (disguisedPort true) .modes = .ok ports ∧
      survey.statuses (disguisedPort false) .modes = .ok others ∧
      (∀ status ∈ ports, '\n' ∉ status.port.text.toList) ∧
      (∀ status ∈ others, '\n' ∉ status.port.text.toList) ∧
      render false ports = render false others ∧ ports = others := by
  intro survey
  let ports : List PortStatus := [{
    port := ⟨"0:│── Port 1", by decide⟩
    connected := true
    powerRole := some .sink
    dataRole := some .device
    mode := some .ufp
    modeChangeable := true
    dataRoleChangeable := false
    powerRoleChangeable := false
    offeredModes := [.drp, .audioAccessory]
    contaminant := none }]
  have told : survey.statuses (disguisedPort true) .modes = .ok ports := by decide +kernel
  have otherTold : survey.statuses (disguisedPort false) .modes = .ok ports := by decide +kernel
  have oneLine : ∀ status ∈ ports, '\n' ∉ status.port.text.toList := by decide
  exact ⟨ports, ports, told, otherTold, oneLine, oneLine, rfl,
    eq_of_render_eq told otherTold oneLine oneLine rfl⟩

end Told

end StatusTree

end UsbTypeC
