import UsbTypeC.Proofs.Files.Unlinked
import UsbTypeC.Proofs.Port.Partner
import UsbTypeC.Proofs.Port.Sight

/-! The paths of a port. All of them go through the directory of the ports and from there on by
the name of the port or by that of its partner. Where there are no links, they stay below, and
what they find is decided there. -/

namespace UsbTypeC

def Root.portsPlace (root : Root) : Location :=
  .text "typec" :: .text "class" :: .text "sys" :: root.directory

/-- The attributes by which a role may be told and taken. -/
def RoleKind.attributes : RoleKind → List String
  | .power => ["power_role"]
  | .data => ["data_role"]
  | .mode => ["port_type", "data_role"]

namespace PortName

/-- Whether a place is in the directory of a port or in that of its partner. -/
def Owns (port : PortName) (root : Root) (place : Location) : Prop :=
  .text port.text :: root.portsPlace <:+ place ∨
    .text port.partner :: root.portsPlace <:+ place

instance (port : PortName) (root : Root) (place : Location) : Decidable (port.Owns root place) :=
  inferInstanceAs (Decidable (_ ∨ _))

def paths (port : PortName) : List Path :=
  [port.directory, port.partnerDirectory, port.rolePath .power, port.rolePath .data,
    port.rolePath .mode, port.attributePath "power_operation_mode"] ++ port.partnerPaths

/-- What stands between the slashes of the paths of a port. -/
structure PathsSpelled (port : PortName) : Prop where
  directory : port.directory.names = ["sys", "class", "typec", port.text]
  partnerDirectory :
    port.partnerDirectory.names = ["sys", "class", "typec", port.text ++ "-partner"]
  powerOperationMode : (port.attributePath "power_operation_mode").names =
    ["sys", "class", "typec", port.text, "power_operation_mode"]
  accessoryMode : (port.partnerAttributePath "accessory_mode").names =
    ["sys", "class", "typec", port.text ++ "-partner", "accessory_mode"]
  supportsPowerDelivery : (port.partnerAttributePath "supports_usb_power_delivery").names =
    ["sys", "class", "typec", port.text ++ "-partner", "supports_usb_power_delivery"]
  control : ∀ (files : Files) (kind : RoleKind), ∃ name ∈ kind.attributes,
    (files.controlPath port kind).names = ["sys", "class", "typec", port.text, name]

variable {port : PortName}

theorem of_eq_ok_iff {text : String} : of text = .ok port ↔ port.text = text := by
  rw [of]
  constructor
  · intro accepted
    split at accepted
    · cases accepted
      rfl
    · cases accepted
  · rintro rfl
    exact dif_pos port.valid

theorem of_accepts_iff {text : String} : (∃ port, of text = .ok port) ↔ IsValid text := by
  constructor
  · rintro ⟨port, accepted⟩
    exact of_eq_ok_iff.mp accepted ▸ port.valid
  · exact fun valid => ⟨⟨text, valid⟩, of_eq_ok_iff.mpr rfl⟩

/-- The two names by which the paths of a port go on below the directory of the ports. -/
def owners (port : PortName) : List String :=
  [port.text, port.partner]

theorem valid_of_mem_owners {owner : String} (mem : owner ∈ port.owners) : IsValid owner := by
  rcases List.mem_pair.mp mem with rfl | rfl
  · exact port.valid
  · exact port.valid_partner

theorem owns_iff {root : Root} {place : Location} :
    port.Owns root place ↔ ∃ owner ∈ port.owners, .text owner :: root.portsPlace <:+ place := by
  simp [Owns, owners]

section Owner

variable {owner : String} (valid : IsValid owner)
include valid

theorem endsInName_owner : (portsDirectory.join owner).EndsInName :=
  Path.endsInName_join (by decide) (Path.not_absolute_of_free valid.2.2.2.1)
    (Path.endsInName_of_valid valid)

theorem names_owner : (portsDirectory.join owner).names = ["sys", "class", "typec", owner] := by
  have free := valid.2.2.2.1
  have directory : portsDirectory.names = ["sys", "class", "typec"] := by decide
  rw [Path.names_join (by decide) (Path.not_absolute_of_free free), Path.names_of_free free,
    directory]
  rfl

theorem names_attribute {name : String} (free : '/' ∉ name.toList) :
    ((portsDirectory.join owner).join name).names = ["sys", "class", "typec", owner, name] := by
  rw [Path.names_join (endsInName_owner valid) (Path.not_absolute_of_free free),
    names_owner valid, Path.names_of_free free]
  rfl

end Owner

theorem controlPath_mem (files : Files) (port : PortName) (kind : RoleKind) :
    ∃ name ∈ kind.attributes, files.controlPath port kind = port.attributePath name := by
  cases kind with
  | power => exact ⟨_, List.mem_cons_self, rfl⟩
  | data => exact ⟨_, List.mem_cons_self, rfl⟩
  | mode =>
      rw [Files.controlPath]
      split
      · exact ⟨_, List.mem_cons_self, rfl⟩
      · exact ⟨_, List.mem_cons_of_mem _ List.mem_cons_self, rfl⟩

theorem controlPath_mem_paths (files : Files) (port : PortName) (kind : RoleKind) :
    files.controlPath port kind ∈ port.paths := by
  rcases controlPath_mem files port kind with ⟨name, mem, path⟩
  rw [path, paths]
  cases kind with
  | power =>
      rw [List.mem_singleton.mp mem]
      simp [rolePath, RoleKind.attribute]
  | data =>
      rw [List.mem_singleton.mp mem]
      simp [rolePath, RoleKind.attribute]
  | mode =>
      rcases List.mem_pair.mp mem with rfl | rfl
      · simp [rolePath, RoleKind.attribute]
      · simp [rolePath, RoleKind.attribute]

theorem pathsSpelled (port : PortName) : port.PathsSpelled where
  directory := names_owner port.valid
  partnerDirectory := names_owner port.valid_partner
  powerOperationMode := names_attribute port.valid (by decide)
  accessoryMode := names_attribute port.valid_partner (by decide)
  supportsPowerDelivery := names_attribute port.valid_partner (by decide)
  control files kind := by
    rcases controlPath_mem files port kind with ⟨name, mem, path⟩
    have free : '/' ∉ name.toList := by
      have each : ∀ kind : RoleKind, ∀ name ∈ kind.attributes, '/' ∉ name.toList := by
        intro kind
        cases kind <;> decide
      exact each kind name mem
    refine ⟨name, mem, ?_⟩
    rw [path]
    exact names_attribute port.valid free

/-- How a path of a port goes on below the directory of the ports. -/
structure LeadsInto (port : PortName) (path : Path) : Prop where
  inside : path.isAbsolute = false
  nonempty : path.text ≠ ""
  steps : ∃ owner ∈ port.owners, ∃ more : List String, (∀ name ∈ more, IsValid name) ∧
    path.steps = "sys" :: "class" :: "typec" :: owner :: more

theorem leadsInto_owner {owner : String} (mem : owner ∈ port.owners) :
    port.LeadsInto (portsDirectory.join owner) := by
  have valid := valid_of_mem_owners mem
  have free := Path.not_absolute_of_free valid.2.2.2.1
  refine ⟨Path.isAbsolute_join (by decide) free, (endsInName_owner valid).text_ne_empty,
    owner, mem, [], by simp, ?_⟩
  have directory : portsDirectory.steps = ["sys", "class", "typec"] := by decide
  rw [Path.steps_join (by decide) valid, directory]
  rfl

theorem leadsInto_attribute {owner name : String} (mem : owner ∈ port.owners)
    (valid : IsValid name) : port.LeadsInto ((portsDirectory.join owner).join name) := by
  have ends := endsInName_owner (valid_of_mem_owners mem)
  have free := Path.not_absolute_of_free valid.2.2.2.1
  have above := leadsInto_owner mem
  have joined := Path.endsInName_join ends free (Path.endsInName_of_valid valid)
  have directory : portsDirectory.steps = ["sys", "class", "typec"] := by decide
  refine ⟨(Path.isAbsolute_join ends free).trans above.inside, joined.text_ne_empty,
    owner, mem, [name], by simpa using valid, ?_⟩
  rw [Path.steps_join ends valid, Path.steps_join (by decide) (valid_of_mem_owners mem),
    directory]
  rfl

theorem leadsInto_of_mem {path : Path} (mem : path ∈ port.paths) : port.LeadsInto path := by
  have own : port.text ∈ port.owners := List.mem_cons_self
  have partner : port.partner ∈ port.owners := List.mem_cons_of_mem _ List.mem_cons_self
  simp only [paths, partnerPaths, List.cons_append, List.nil_append, List.mem_cons,
    List.not_mem_nil, or_false] at mem
  rcases mem with rfl | rfl | rfl | rfl | rfl | rfl | rfl | rfl
  · exact leadsInto_owner own
  · exact leadsInto_owner partner
  · exact leadsInto_attribute own (by decide)
  · exact leadsInto_attribute own (by decide)
  · exact leadsInto_attribute own (by decide)
  · exact leadsInto_attribute own (by decide)
  · exact leadsInto_attribute partner (by decide)
  · exact leadsInto_attribute partner (by decide)

/-- The places on the way to a port, and those in its directories. -/
def Concerns (port : PortName) (root : Root) (place : Location) : Prop :=
  place <:+ root.portsPlace ∨ port.Owns root place

variable {root : Root}

theorem owns_down {owner : String} (mem : owner ∈ port.owners) (more : List String) :
    port.Owns root (Tree.down root.directory ("sys" :: "class" :: "typec" :: owner :: more)) :=
  owns_iff.mpr ⟨owner, mem, Tree.suffix_down _ more⟩

/-- On the way along a path of a port there is first the directory of the ports with what is
above it, and then nothing but the port's own. -/
theorem concerns_down {owner : String} (mem : owner ∈ port.owners) {more passed : List String}
    (earlier : passed <+: "sys" :: "class" :: "typec" :: owner :: more) :
    port.Concerns root (Tree.down root.directory passed) := by
  simp only [List.prefix_cons_iff] at earlier
  rcases earlier with rfl | ⟨_, rfl, rfl | ⟨_, rfl, rfl | ⟨_, rfl, rfl | ⟨rest, rfl, _⟩⟩⟩⟩
  · exact .inl ⟨[.text "typec", .text "class", .text "sys"], rfl⟩
  · exact .inl ⟨[.text "typec", .text "class"], rfl⟩
  · exact .inl ⟨[.text "typec"], rfl⟩
  · exact .inl (List.suffix_refl _)
  · exact .inr (owns_down mem rest)

theorem LeadsInto.valid_steps {path : Path} (leads : port.LeadsInto path) :
    ∀ name ∈ path.steps, IsValid name := by
  rcases leads.steps with ⟨owner, mem, more, valid, steps⟩
  rw [steps]
  intro name later
  simp only [List.mem_cons] at later
  rcases later with rfl | rfl | rfl | rfl | later
  · decide
  · decide
  · decide
  · exact valid_of_mem_owners mem
  · exact valid name later

/-- Where there are no links, a path of a port leads to one of the port's own places. -/
theorem owns_of_locate {files : Files} (linkFree : files.tree.LinkFree) {path : Path}
    (leads : port.LeadsInto path) {place : Location} (found : files.locate path = .ok place) :
    port.Owns files.root place := by
  have walked := ((Files.locate_eq_ok_iff leads.nonempty leads.inside).mp found).2
  have arrived := Tree.eq_down_of_walk linkFree leads.valid_steps walked
  rcases leads.steps with ⟨owner, mem, more, _, steps⟩
  rw [arrived, steps]
  exact owns_down mem more

/-- Two trees without links that hold the same on the way to a port and in its directories. -/
structure AlikeFor (port : PortName) (before after : Files) : Prop where
  root : after.root = before.root
  linkFree : before.tree.LinkFree
  linkFreeAfter : after.tree.LinkFree
  same : ∀ place, port.Concerns before.root place →
    after.tree.node? place = before.tree.node? place

namespace AlikeFor

variable {before after : Files}

theorem locate_eq (alike : port.AlikeFor before after) {path : Path}
    (leads : port.LeadsInto path) : after.locate path = before.locate path := by
  rw [Files.locate_of_not_absolute _ leads.nonempty leads.inside,
    Files.locate_of_not_absolute _ leads.nonempty leads.inside, alike.root]
  refine congrArg _ (funext fun _ => ?_)
  apply Tree.walk_congr alike.linkFree alike.linkFreeAfter leads.valid_steps
  rcases leads.steps with ⟨owner, mem, more, _, steps⟩
  rw [steps]
  exact fun passed earlier => alike.same _ (concerns_down mem earlier)

theorem node_eq (alike : port.AlikeFor before after) {path : Path} (leads : port.LeadsInto path) :
    after.node path = before.node path := by
  rw [Files.node, Files.node, alike.locate_eq leads]
  cases found : before.locate path with
  | error fault => rfl
  | ok place =>
      have same := alike.same place (.inr (owns_of_locate alike.linkFree leads found))
      simp only [bind, Except.bind, same]

theorem node_eq_of_mem (alike : port.AlikeFor before after) {path : Path}
    (mem : path ∈ port.paths) : after.node path = before.node path :=
  alike.node_eq (leadsInto_of_mem mem)

theorem controlPath_eq (alike : port.AlikeFor before after) (kind : RoleKind) :
    after.controlPath port kind = before.controlPath port kind := by
  cases kind with
  | power => rfl
  | data => rfl
  | mode =>
      have mem : port.rolePath .mode ∈ port.paths := by simp [paths]
      have present := Files.has_eq_of_node_eq (alike.node_eq_of_mem mem)
      rw [Files.controlPath, Files.controlPath]
      exact congrArg (fun found : Bool => if found then _ else _) present

theorem role_eq (alike : port.AlikeFor before after) (kind : RoleKind) :
    after.role port kind = before.role port kind := by
  rw [Files.role, Files.role, alike.controlPath_eq]
  exact Files.readSelected_eq_of_node_eq (alike.node_eq_of_mem (controlPath_mem_paths _ _ _))

end AlikeFor

/-- What is told of a port does not differ. -/
structure AnswersAlike (port : PortName) (before after : Files) : Prop where
  partnerPresent : after.partnerPresent port = before.partnerPresent port
  role : ∀ kind, after.role port kind = before.role port kind
  roles : ∀ connected,
    Survey.roles after ⟨port, connected⟩ = Survey.roles before ⟨port, connected⟩
  mayChangeRoles : ∀ connected,
    Survey.mayChangeRoles after ⟨port, connected⟩ = Survey.mayChangeRoles before ⟨port, connected⟩
  powerOperationMode : after.powerOperationMode port = before.powerOperationMode port

theorem AlikeFor.answersAlike {before after : Files} (alike : port.AlikeFor before after) :
    port.AnswersAlike before after := by
  have accessory : after.accessoryMode port = before.accessoryMode port :=
    Files.readValue_eq_of_node_eq (alike.node_eq_of_mem (by simp [paths, partnerPaths]))
  have delivery : after.supportsPowerDelivery port = before.supportsPowerDelivery port :=
    congrArg (Except.map _)
      (Files.readValue_eq_of_node_eq (alike.node_eq_of_mem (by simp [paths, partnerPaths])))
  have word (kind : RoleKind) : after.roleWord port kind = before.roleWord port kind := by
    rw [Files.roleWord, alike.role_eq, Files.roleWord]
  have power : after.powerRole port = before.powerRole port := by
    rw [Files.powerRole, word, Files.powerRole]
  have data : after.dataRole port = before.dataRole port := by
    rw [Files.dataRole, word, Files.dataRole]
  have negotiated : after.negotiatedMode port = before.negotiatedMode port := by
    rw [Files.negotiatedMode, word, Files.negotiatedMode]
  have mode : after.mode port = before.mode port := by
    rw [Files.mode, accessory, negotiated, Files.mode]
  constructor
  · exact Files.has_eq_of_node_eq (alike.node_eq_of_mem (by simp [paths]))
  · exact alike.role_eq
  · intro connected
    rw [Survey.roles, Survey.roles, power, data, mode]
  · intro connected
    rw [Survey.mayChangeRoles, Survey.mayChangeRoles, delivery]
  · exact Files.readValue_eq_of_node_eq (alike.node_eq_of_mem (by simp [paths]))

end PortName

end UsbTypeC
