import UsbTypeC.Proofs.Port.Sight

/-! What the ports are told to be when one role of a port has been written anew, and nothing
else that is looked at has changed. What is told has the new role in the place of the old one;
but dual role is no role that can be told. -/

namespace UsbTypeC

/-- A status in which a port has taken a role. -/
def PortStatus.taking (status : PortStatus) : Role → PortStatus
  | .power role => { status with powerRole := some role }
  | .data role => { status with dataRole := some role }
  | .mode mode => { status with mode := some mode }

namespace Files

/-- What requests a role reads as it was written: there is no bracket and no blank in it. -/
theorem readSelected_of_control {files : Files} {path : Path} {place : Location} {role : Role}
    (found : files.node path = .ok (place, .file (Utf8.bytes role.control))) :
    files.readSelected path = .ok role.control := by
  have plain : selected (trimmed role.control) = role.control := by
    cases role with
    | power role => cases role <;> decide
    | data role => cases role <;> decide
    | mode mode => cases mode <;> decide
  rw [readSelected, readValue, readText_of_node found]
  exact congrArg Except.ok plain

end Files

namespace Survey

variable {survey later : Survey} {before after : Files} {detail : StatusDetail}
variable {port : PortName} {place : RoleKind → Location} {kind : RoleKind}

/-- The paths that a survey looks at, except for those that tell the roles of one port. -/
def pathsBeside (survey : Survey) (files : Files) (detail : StatusDetail) (port : PortName) :
    List Path :=
  port.partnerPaths ++
    (files.connectedPorts.filter (· ≠ port)).flatMap files.portPaths ++
    survey.contaminantPaths files detail

/-- A port whose roles are told by three files, and nothing else that is looked at leads to
one of these. -/
structure OwnRoles (survey : Survey) (files : Files) (detail : StatusDetail) (port : PortName)
    (place : RoleKind → Location) : Prop where
  file : ∀ kind, ∃ content, files.node (port.rolePath kind) = .ok (place kind, .file content)
  distinct : ∀ kind other, place kind = place other → kind = other
  apart : ∀ kind, ∀ path ∈ survey.pathsBeside files detail port,
    files.locate path ≠ .ok (place kind)

/-- Nothing that is looked at has changed but one role of a port. -/
structure RoleRewritten (survey later : Survey) (before after : Files) (detail : StatusDetail)
    (port : PortName) (kind : RoleKind) : Prop where
  primary : later.primaryPort = survey.primaryPort
  listing : after.listing portsDirectory = before.listing portsDirectory
  contaminant : later.contaminantPaths after detail = survey.contaminantPaths before detail
  beside : ∀ path ∈ survey.pathsBeside before detail port, after.node path = before.node path
  roles : ∀ other, other ≠ kind →
    after.node (port.rolePath other) = before.node (port.rolePath other)

namespace RoleRewritten

theorem beside_other (rewritten : RoleRewritten survey later before after detail port kind)
    {other : PortName} (connected : other ∈ before.connectedPorts) (different : other ≠ port) :
    ∀ path ∈ before.portPaths other, after.node path = before.node path := by
  intro path mem
  apply rewritten.beside
  refine List.mem_append_left _ (List.mem_append_right _ ?_)
  exact List.mem_flatMap.mpr
    ⟨other, List.mem_filter.mpr ⟨connected, decide_eq_true different⟩, mem⟩

theorem partner (rewritten : RoleRewritten survey later before after detail port kind) :
    ∀ path ∈ port.partnerPaths, after.node path = before.node path :=
  fun path mem => rewritten.beside path (List.mem_append_left _ (List.mem_append_left _ mem))

theorem contaminantFound (rewritten : RoleRewritten survey later before after detail port kind) :
    ∀ path ∈ survey.contaminantPaths before detail, after.node path = before.node path :=
  fun path mem => rewritten.beside path (List.mem_append_right _ mem)

theorem pathsBeside_eq (rewritten : RoleRewritten survey later before after detail port kind) :
    later.pathsBeside after detail port = survey.pathsBeside before detail port := by
  have others : (after.connectedPorts.filter (· ≠ port)).flatMap after.portPaths =
      (before.connectedPorts.filter (· ≠ port)).flatMap before.portPaths := by
    rw [connectedPorts_eq rewritten.listing, List.flatMap_def, List.flatMap_def]
    refine congrArg List.flatten (List.map_congr_left fun other mem => ?_)
    rcases List.mem_filter.mp mem with ⟨connected, different⟩
    exact portPaths_eq fun path partner =>
      rewritten.beside_other connected (of_decide_eq_true different) path
        (List.mem_append_right _ partner)
  rw [pathsBeside, others, rewritten.contaminant, pathsBeside]

/-- One role may be written anew more than once. -/
theorem trans {between last : Survey} {middle : Files}
    (first : RoleRewritten survey between before middle detail port kind)
    (second : RoleRewritten between last middle after detail port kind) :
    RoleRewritten survey last before after detail port kind where
  primary := second.primary.trans first.primary
  listing := second.listing.trans first.listing
  contaminant := second.contaminant.trans first.contaminant
  beside path mem :=
    (second.beside path (by rw [first.pathsBeside_eq]; exact mem)).trans (first.beside path mem)
  roles other different := (second.roles other different).trans (first.roles other different)

end RoleRewritten

theorem OwnRoles.has_mode (own : OwnRoles survey before detail port place) :
    before.has (port.rolePath .mode) = true := by
  rcases own.file .mode with ⟨content, found⟩
  rw [Files.has, found]

theorem OwnRoles.controlPath_eq (own : OwnRoles survey before detail port place)
    (kind : RoleKind) : before.controlPath port kind = port.rolePath kind := by
  cases kind with
  | power => rfl
  | data => rfl
  | mode => exact if_pos own.has_mode

/-- Writing one role of a port leaves everything else that is looked at as it is. -/
theorem OwnRoles.rewritten (own : OwnRoles survey before detail port place) (kind : RoleKind)
    (text : String) :
    RoleRewritten survey survey before (before.tryOverwrite (port.rolePath kind) text) detail
      port kind := by
  have written := Files.writtenThrough_tryOverwrite before (port.rolePath kind) text
  have listing := Files.listing_eq_of_outline_eq written.outline portsDirectory
  rcases own.file kind with ⟨content, found⟩
  have leads := (Files.node_eq_ok_iff.mp found).1
  have kept (path : Path) (apart : before.locate path ≠ .ok (place kind)) :
      (before.tryOverwrite (port.rolePath kind) text).node path = before.node path := by
    apply written.node_eq_of_apart
    intro other mem location here
    rw [List.mem_singleton.mp mem, leads] at here
    cases here
    exact apart
  refine ⟨rfl, listing, contaminantPaths_eq listing, fun path mem => ?_, fun other different => ?_⟩
  · exact kept path (own.apart kind path mem)
  · apply kept
    rcases own.file other with ⟨_, otherFound⟩
    rw [(Files.node_eq_ok_iff.mp otherFound).1]
    exact fun same => different (own.distinct other kind (Except.ok.inj same))

/-- The roles of a port stay its own, as long as their files stay where they are. -/
theorem OwnRoles.transfer (own : OwnRoles survey before detail port place)
    (rewritten : RoleRewritten survey later before after detail port kind)
    (file : ∃ content, after.node (port.rolePath kind) = .ok (place kind, .file content)) :
    OwnRoles later after detail port place := by
  have files : ∀ other, ∃ content,
      after.node (port.rolePath other) = .ok (place other, .file content) := by
    intro other
    by_cases same : other = kind
    · rw [same]
      exact file
    · rw [rewritten.roles other same]
      exact own.file other
  refine ⟨files, own.distinct, fun other path mem here => ?_⟩
  rw [rewritten.pathsBeside_eq] at mem
  rcases files other with ⟨content, found⟩
  have there := Files.node_eq_ok_iff.mpr ⟨here, (Files.node_eq_ok_iff.mp found).2⟩
  rw [rewritten.beside path mem] at there
  exact own.apart other path mem (Files.node_eq_ok_iff.mp there).1

/-- Nothing has changed, so in particular nothing but a role. -/
theorem SameSight.rewritten (same : SameSight survey later before after detail)
    (primary : later.primaryPort = survey.primaryPort)
    (connected : port ∈ before.connectedPorts) (asked : before.asksMode port = true)
    (kind : RoleKind) : RoleRewritten survey later before after detail port kind := by
  refine ⟨primary, same.listing, same.contaminantPaths_eq, fun path mem => ?_,
    fun other _ => same.atRole connected asked other⟩
  rcases List.mem_append.mp mem with mem | mem
  · rcases List.mem_append.mp mem with mem | mem
    · exact same.atPort connected path (List.mem_append_right _ mem)
    · rcases List.mem_flatMap.mp mem with ⟨other, otherMem, mem⟩
      exact same.atPort (List.mem_filter.mp otherMem).1 path mem
  · exact same.found path (List.mem_append_right _ mem)

namespace RoleRewritten

/-- The other ports are told as they were told before. -/
theorem other (rewritten : RoleRewritten survey later before after detail port kind)
    {entries : List FoundPort} (listed : before.ports = .ok entries) {entry : FoundPort}
    (mem : entry ∈ entries) (different : entry.name ≠ port) :
    obstacles after entry = obstacles before entry ∧
      later.toldStatus after detail entry = survey.toldStatus before detail entry :=
  told_eq
    (contaminantState_eq listed mem rewritten.primary rewritten.listing rewritten.contaminant
      rewritten.contaminantFound)
    fun connected => rewritten.beside_other (mem_connectedPorts listed mem connected) different

theorem modeTold_eq_words
    (rewritten : RoleRewritten survey later before after detail port kind)
    (asked : before.asksMode port = true) (typed : after.has (port.rolePath .mode) = true) :
    modeTold after port =
      (after.readSelected (port.rolePath .mode)).bind (understood PortMode.words) := by
  have asks : after.asksMode port = true := by
    rw [Files.asksMode, accessoryMode_eq rewritten.partner]
    exact asked
  have chosen : after.controlPath port .mode = port.rolePath .mode := if_pos typed
  rw [modeTold_of_asked asks, Files.role, chosen]

/-- What the port itself tells, when one of its roles reads as a word that tells a role. -/
theorem taken {role : Role}
    (rewritten : RoleRewritten survey later before after detail port role.kind)
    {entries : List FoundPort} (listed : before.ports = .ok entries) {entry : FoundPort}
    (mem : entry ∈ entries) (named : entry.name = port) (connected : entry.connected = true)
    (clear : obstacles before entry = []) (asked : before.asksMode port = true)
    (typed : after.has (port.rolePath .mode) = true)
    (told : after.readSelected (port.rolePath role.kind) = .ok role.control)
    (reported : ∀ mode, role = .mode mode → mode = .ufp ∨ mode = .dfp) :
    obstacles after entry = [] ∧
      later.toldStatus after detail entry =
        (survey.toldStatus before detail entry).taking role := by
  subst named
  have contaminant := contaminantState_eq listed mem rewritten.primary rewritten.listing
    rewritten.contaminant rewritten.contaminantFound
  have partner := rewritten.partner
  have samePower (different : role.kind ≠ .power) :
      powerTold after entry.name = powerTold before entry.name :=
    powerTold_eq (rewritten.roles .power different.symm)
  have sameData (different : role.kind ≠ .data) :
      dataTold after entry.name = dataTold before entry.name :=
    dataTold_eq (rewritten.roles .data different.symm)
  have sameMode (different : role.kind ≠ .mode) :
      modeTold after entry.name = modeTold before entry.name :=
    modeTold_eq partner fun _ => role_mode_eq (rewritten.roles .mode different.symm)
      fun absent => by rw [typed] at absent; cases absent
  rw [obstacles_of_connected connected] at clear
  simp only [List.append_eq_nil_iff] at clear
  rcases clear with ⟨⟨powerClear, dataClear⟩, modeClear⟩
  rw [obstacles_of_connected connected, toldStatus_eq (fun _ => partner) contaminant]
  cases role with
  | power role =>
      have power : powerTold after entry.name = .ok (some role) := by
        rw [powerTold, attributeTold_eq]
        rw [show after.readSelected (entry.name.attributePath "power_role") = _ from told]
        cases role <;> rfl
      rw [power, sameData (by simp [Role.kind]), sameMode (by simp [Role.kind]), dataClear,
        modeClear]
      simp [PortStatus.taking, toldStatus, present, connected, failure?, Except.toOption]
  | data role =>
      have data : dataTold after entry.name = .ok (some role) := by
        rw [dataTold, attributeTold_eq]
        rw [show after.readSelected (entry.name.attributePath "data_role") = _ from told]
        cases role <;> rfl
      rw [samePower (by simp [Role.kind]), data, sameMode (by simp [Role.kind]), powerClear,
        modeClear]
      simp [PortStatus.taking, toldStatus, present, connected, failure?, Except.toOption]
  | mode mode =>
      have chosen : modeTold after entry.name = .ok (some mode) := by
        rw [rewritten.modeTold_eq_words asked typed]
        rw [show after.readSelected (entry.name.rolePath .mode) = _ from told]
        rcases reported mode rfl with rfl | rfl <;> rfl
      rw [samePower (by simp [Role.kind]), sameData (by simp [Role.kind]), chosen, powerClear,
        dataClear]
      simp [PortStatus.taking, toldStatus, present, connected, failure?, Except.toOption]

/-- What a port tells in dual role, which is no role that it can tell. -/
theorem dual (rewritten : RoleRewritten survey later before after detail port .mode)
    {entry : FoundPort} (named : entry.name = port) (connected : entry.connected = true)
    (clear : obstacles before entry = []) (asked : before.asksMode port = true)
    (typed : after.has (port.rolePath .mode) = true)
    (told : after.readSelected (port.rolePath .mode) = .ok Role.dual) :
    obstacles after entry = [.unknownRole Role.dual] := by
  subst named
  have mode : modeTold after entry.name = .error (.unknownRole Role.dual) := by
    rw [rewritten.modeTold_eq_words asked typed, told]
    rfl
  rw [obstacles_of_connected connected] at clear ⊢
  simp only [List.append_eq_nil_iff] at clear
  have power := powerTold_eq (rewritten.roles .power (by simp))
  have data := dataTold_eq (rewritten.roles .data (by simp))
  rw [power, data, mode, clear.1.1, clear.1.2]
  rfl

end RoleRewritten

/-- The first obstacle, if all that there are are the same. -/
theorem head?_flatMap_of_only {α β : Type} {hindrances : α → List β} {items : List α} {item : α}
    {obstacle : β} (mem : item ∈ items) (hindered : hindrances item = [obstacle])
    (only : ∀ other ∈ items, other ≠ item → hindrances other = []) :
    (items.flatMap hindrances).head? = some obstacle := by
  induction items with
  | nil => cases mem
  | cons head rest induction =>
      rw [List.flatMap_cons]
      by_cases same : head = item
      · rw [same, hindered]
        rfl
      · rw [only head List.mem_cons_self same, List.nil_append]
        refine induction ?_ fun other later => only other (List.mem_cons_of_mem head later)
        exact (List.mem_cons.mp mem).resolve_left (Ne.symm same)

/-- A port that has taken a role is told with that role, and the others are told as before. -/
theorem statuses_of_taken {role : Role} {ports : List PortStatus}
    (rewritten : RoleRewritten survey later before after detail port role.kind)
    (known : survey.statuses before detail = .ok ports) (connected : port ∈ before.connectedPorts)
    (asked : before.asksMode port = true) (typed : after.has (port.rolePath .mode) = true)
    (told : after.readSelected (port.rolePath role.kind) = .ok role.control)
    (reported : ∀ mode, role = .mode mode → mode = .ufp ∨ mode = .dfp) :
    later.statuses after detail =
      .ok (ports.map fun status => if status.port = port then status.taking role else status) := by
  rcases entries_of_statuses known with ⟨entries, listed, nonempty, clear, rfl⟩
  rcases connected_of_mem listed connected with ⟨entry, mem, attached, rfl⟩
  have each : ∀ other ∈ entries, obstacles after other = [] ∧
      later.toldStatus after detail other =
        (fun status : PortStatus =>
          if status.port = entry.name then status.taking role else status)
          (survey.toldStatus before detail other) := by
    intro other otherMem
    by_cases same : other.name = entry.name
    · have equal := (Files.ascending_of_ports listed).eq_of_name otherMem mem same
      subst equal
      have taken := rewritten.taken listed mem rfl attached (clear _ mem) asked typed told reported
      exact ⟨taken.1, taken.2.trans (if_pos rfl).symm⟩
    · have kept := rewritten.other listed otherMem same
      exact ⟨kept.1.trans (clear other otherMem), kept.2.trans (if_neg same).symm⟩
  have unhindered : entries.flatMap (obstacles after) = [] :=
    List.flatMap_eq_nil_iff.mpr fun other otherMem => (each other otherMem).1
  rw [statuses_of_ports later ((ports_eq rewritten.listing).trans listed) nonempty, unhindered,
    List.map_map]
  exact congrArg Except.ok (List.map_congr_left fun other otherMem => (each other otherMem).2)

/-- A port in dual role keeps all of them from being told, in whatever detail. -/
theorem statuses_of_dual {ports : List PortStatus}
    (rewritten : RoleRewritten survey later before after detail port .mode)
    (known : survey.statuses before detail = .ok ports) (connected : port ∈ before.connectedPorts)
    (asked : before.asksMode port = true) (typed : after.has (port.rolePath .mode) = true)
    (told : after.readSelected (port.rolePath .mode) = .ok Role.dual) (other : StatusDetail) :
    later.statuses after other = .error (.unknownRole Role.dual) := by
  rcases entries_of_statuses known with ⟨entries, listed, nonempty, clear, _⟩
  rcases connected_of_mem listed connected with ⟨entry, mem, attached, rfl⟩
  have hindered := rewritten.dual rfl attached (clear entry mem) asked typed told
  have only : ∀ other ∈ entries, other ≠ entry → obstacles after other = [] := by
    intro other otherMem different
    have named : other.name ≠ entry.name := fun same =>
      different ((Files.ascending_of_ports listed).eq_of_name otherMem mem same)
    exact (rewritten.other listed otherMem named).1.trans (clear other otherMem)
  rw [statuses_of_ports later ((ports_eq rewritten.listing).trans listed) nonempty,
    head?_flatMap_of_only mem hindered only]

end Survey

end UsbTypeC
