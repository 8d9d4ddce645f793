import UsbTypeC.Proofs.Files.Canonical
import UsbTypeC.Proofs.Files.ClearWay

/-! The path without links to where a path leads. It is found from the working directory and is
measured against the root, but it is used from the root; both ways lead to the same place. -/

namespace UsbTypeC

namespace Tree

variable {tree : Tree} {place location : Location}

theorem down_eq_append (place : Location) (names : List String) :
    down place names = (names.map .text).reverse ++ place := by
  induction names generalizing place with
  | nil => rfl
  | cons name rest induction => simp [induction]

theorem down_eq_map_text {directory : List String} (top : place = directory.map .text)
    (parts : List String) : down place parts = (parts.reverse ++ directory).map .text := by
  rw [down_eq_append, top, List.map_append, List.map_reverse]

theorem Leads.of_here {links : Nat} (leads : tree.Leads links place ["."] location) :
    links = 0 ∧ location = place := by
  cases leads with
  | move stands first further =>
      have stays : tree.Leads 0 place ["."] place := .move stands .stay (.here place)
      exact (Leads.move stands first further).unique stays

/-- A last step that stays makes no difference. -/
theorem Leads.drop_here {links : Nat} {front whole : List String}
    (leads : tree.Leads links place whole location)
    (cut : whole = front ∨ whole = front ++ ["."]) : tree.Leads links place front location := by
  rcases cut with rfl | whole
  · exact leads
  · rcases leads.split whole with ⟨first, second, between, rfl, before, last⟩
    rcases last.of_here with ⟨rfl, rfl⟩
    exact before

end Tree

theorem Root.opened_eq_ok {tree : Tree} {workingDirectory : Location} {path : Path} {root : Root}
    (opened : Root.opened tree workingDirectory path = .ok root) :
    path.check = .ok () ∧ tree.follow workingDirectory path = .ok root.directory ∧
      tree.node? root.directory = some .directory ∧
      root.workingDirectory = workingDirectory ∧ root.path = path := by
  rw [Root.opened] at opened
  cases check : path.check with
  | error fault =>
      rw [check] at opened
      cases opened
  | ok done =>
      cases follow : tree.follow workingDirectory path with
      | error fault =>
          rw [check, follow] at opened
          cases opened
      | ok directory =>
          rw [check, follow] at opened
          dsimp only [bind, Except.bind] at opened
          split at opened
          · next stands =>
            cases opened
            exact ⟨rfl, rfl, stands, rfl, rfl⟩
          · cases opened

namespace Files

variable {files : Files} {path : Path} {location : Location} {parts : List String}

/-- The root is the directory that its path leads to. -/
def Rooted (files : Files) : Prop :=
  Root.opened files.tree files.root.workingDirectory files.root.path = .ok files.root

theorem followChecked_eq (files : Files) (path : Path) :
    files.followChecked path =
      if '\x00' ∈ path.text.toList then .error .invalidInput
      else files.tree.follow files.root.workingDirectory path := by
  rw [followChecked, Path.holdsNul]
  simp

theorem canonical_of_error {fault : Fault} (refused : files.followChecked path = .error fault) :
    files.canonical path = .error (.fault fault) := by
  rw [canonical, refused]

theorem canonical_of_texts {names : List String}
    (followed : files.followChecked path = .ok (names.map .text)) :
    files.canonical path = .ok names := by
  rw [canonical, followed]
  dsimp only
  rw [Name.mapM_text?]

/-- How a place is spelled as seen from a directory. -/
def pathBelow (directory place : List String) : Except Error Path :=
  match namesBelow directory place with
  | some names => .ok (.spelled names)
  | none => .error (.fault .entityNotFound)

theorem pathBelow_append (directory parts : List String) :
    pathBelow directory (parts.reverse ++ directory) = .ok (.spelled parts) := by
  rw [pathBelow, namesBelow, (withoutSuffix?_eq_some_iff _ _ _).mpr rfl]
  simp

theorem pathBelow_of_outside {directory place : List String} (outside : ¬ directory <:+ place) :
    pathBelow directory place = .error (.fault .entityNotFound) := by
  rw [pathBelow, namesBelow]
  cases cut : withoutSuffix? directory place with
  | none => rfl
  | some front => exact absurd ⟨front, ((withoutSuffix?_eq_some_iff _ _ _).mp cut).symm⟩ outside

/-- Files that have just been opened are seen from such a root. -/
theorem rooted_of_opened {tree : Tree} {workingDirectory : Location} {path : Path}
    (opened : Files.opened tree workingDirectory path = .ok files) : files.Rooted := by
  rw [Files.opened] at opened
  cases attempt : Root.opened tree workingDirectory path with
  | error fault =>
      rw [attempt] at opened
      cases opened
  | ok root =>
      rw [attempt] at opened
      cases opened
      rcases Root.opened_eq_ok attempt with ⟨_, _, _, rfl, rfl⟩
      exact attempt

namespace Rooted

variable (rooted : files.Rooted)
include rooted

theorem nul_not_mem : '\x00' ∉ files.root.path.text.toList :=
  (Path.check_eq_ok_iff.mp (Root.opened_eq_ok rooted).1).1

theorem followChecked_root : files.followChecked files.root.path = .ok files.root.directory := by
  rw [followChecked_eq, if_neg rooted.nul_not_mem]
  exact (Root.opened_eq_ok rooted).2.1

/-- From the working directory some links lead to the root, and from there a path leads on as it
does from the root itself. -/
theorem leads_join_iff : ∃ links, ∀ (path : Path) (total : Nat) (location : Location),
    files.tree.Leads total
        ((files.root.path.join path.relative.text).start files.root.workingDirectory)
        (files.root.path.join path.relative.text).steps location ↔
      ∃ count, total = links + count ∧
        files.tree.Leads count files.root.directory path.relative.steps location := by
  have checked := Path.check_eq_ok_iff.mp (Root.opened_eq_ok rooted).1
  rcases Tree.leads_of_walk (Root.opened_eq_ok rooted).2.1 with ⟨links, _, opened⟩
  refine ⟨links, fun path total location => ?_⟩
  rcases Path.steps_join_relative checked.2.1 path with ⟨front, steps, cut⟩
  have before := opened.drop_here cut
  rw [Path.start_join_relative checked.2.1, steps]
  constructor
  · intro leads
    rcases leads.split rfl with ⟨first, second, between, rfl, arrived, further⟩
    rcases before.unique arrived with ⟨rfl, rfl⟩
    exact ⟨second, rfl, further⟩
  · rintro ⟨count, rfl, further⟩
    exact before.trans further

/-- So the path can be followed unless too many links are met on the way to the root and behind
it. -/
theorem followChecked_join : ∃ links, ∀ (path : Path) (count : Nat) (location : Location),
    '\x00' ∉ path.relative.text.toList →
    files.tree.Leads count files.root.directory path.relative.steps location →
    files.followChecked (files.root.path.join path.relative.text) =
      if links + count ≤ Tree.linkLimit then .ok location else .error .filesystemLoop := by
  have checked := Path.check_eq_ok_iff.mp (Root.opened_eq_ok rooted).1
  rcases rooted.leads_join_iff with ⟨links, joined⟩
  refine ⟨links, fun path count location clean leads => ?_⟩
  have cleanJoined : '\x00' ∉ (files.root.path.join path.relative.text).text.toList := by
    rw [Path.nul_mem_join_relative checked.2.1]
    simp [checked.1, clean]
  rw [followChecked_eq, if_neg cleanJoined]
  exact ((joined path (links + count) location).mpr ⟨count, rfl, leads⟩).walk_eq Tree.linkLimit

theorem leads_of_followChecked
    (followed : files.followChecked (files.root.path.join path.relative.text) = .ok location) :
    '\x00' ∉ path.relative.text.toList ∧ ∃ count ≤ Tree.linkLimit,
      files.tree.Leads count files.root.directory path.relative.steps location := by
  have checked := Path.check_eq_ok_iff.mp (Root.opened_eq_ok rooted).1
  rw [followChecked_eq] at followed
  split at followed
  · cases followed
  · next clean =>
    rw [Path.nul_mem_join_relative checked.2.1, not_or] at clean
    rcases Tree.leads_of_walk followed with ⟨total, few, leads⟩
    rcases rooted.leads_join_iff with ⟨links, joined⟩
    rcases (joined path total location).mp leads with ⟨count, rfl, further⟩
    exact ⟨clean.2, count, Nat.le_of_add_left_le few, further⟩

theorem canonical_root {directory : List String} (top : files.root.directory = directory.map .text) :
    files.canonical files.root.path = .ok directory :=
  canonical_of_texts (rooted.followChecked_root.trans (congrArg Except.ok top))

theorem realPath_of_error {directory : List String}
    (top : files.root.directory = directory.map .text) {fault : Fault}
    (refused : files.followChecked (files.root.path.join path.relative.text) = .error fault) :
    files.realPath path = .error (.fault fault) := by
  rw [realPath, rooted.canonical_root top, canonical_of_error refused]
  rfl

theorem realPath_of_ok {directory names : List String}
    (top : files.root.directory = directory.map .text)
    (followed : files.followChecked (files.root.path.join path.relative.text) =
      .ok (names.map .text)) :
    files.realPath path = pathBelow directory names := by
  rw [realPath, rooted.canonical_root top, canonical_of_texts followed]
  rfl

/-- Where nothing but texts names the files, the root is named by texts as well. -/
theorem texts_root (named : files.tree.WellNamed) :
    ∃ directory : List String, files.root.directory = directory.map .text :=
  Tree.texts_of_node named (Root.opened_eq_ok rooted).2.2.1

theorem leads_relative_spelled
    (clear : files.tree.Clear files.root.directory (Tree.down files.root.directory parts))
    (valid : ∀ part ∈ parts, PortName.IsValid part) :
    files.tree.Leads 0 files.root.directory (Path.spelled parts).relative.steps
      (Tree.down files.root.directory parts) := by
  rw [Path.steps_relative_spelled valid]
  split
  · next empty =>
    rw [empty]
    exact .move (Root.opened_eq_ok rooted).2.2.1 .stay (.here _)
  · exact clear.leads

/-- A path that leads somewhere from the root has a real path if that is at the root or below,
unless too many links are met. -/
theorem realPath_of_leads {directory : List String}
    (top : files.root.directory = directory.map .text) :
    ∃ links, ∀ (path : Path) (count : Nat) (names : List String),
      '\x00' ∉ path.relative.text.toList →
      files.tree.Leads count files.root.directory path.relative.steps (names.map .text) →
      files.realPath path =
        if links + count ≤ Tree.linkLimit then pathBelow directory names
        else .error (.fault .filesystemLoop) := by
  rcases rooted.followChecked_join with ⟨links, followed⟩
  refine ⟨links, fun path count names clean leads => ?_⟩
  have attempt := followed path count _ clean leads
  split at attempt
  · next few =>
    rw [if_pos few]
    exact rooted.realPath_of_ok top attempt
  · next many =>
    rw [if_neg many]
    exact rooted.realPath_of_error top attempt

/-- A real path that is found is spelled out along the clear way to where the path leads, and is
its own real path. -/
theorem of_realPath_eq_ok (named : files.tree.WellNamed) {real : Path}
    (found : files.realPath path = .ok real) :
    '\x00' ∉ path.relative.text.toList ∧ ∃ parts, real = .spelled parts ∧
      files.tree.Clear files.root.directory (Tree.down files.root.directory parts) ∧
      files.realPath real = .ok real ∧
      (∃ count ≤ Tree.linkLimit, files.tree.Leads count files.root.directory path.relative.steps
        (Tree.down files.root.directory parts)) ∧
      files.tree.Leads 0 files.root.directory real.relative.steps
        (Tree.down files.root.directory parts) := by
  rcases rooted.texts_root named with ⟨directory, top⟩
  cases followed : files.followChecked (files.root.path.join path.relative.text) with
  | error fault => cases found.symm.trans (rooted.realPath_of_error top followed)
  | ok location =>
      rcases rooted.leads_of_followChecked followed with ⟨clean, count, few, leads⟩
      have clear := (Tree.Clear.self files.tree files.root.directory).of_leads leads
      rcases rooted.realPath_of_leads top with ⟨links, told⟩
      by_cases below : files.root.directory <:+ location
      · rcases clear.eq_down below with ⟨parts, rfl⟩
        have valid := clear.valid named
        have names := Tree.down_eq_map_text top parts
        have toldPath := found.symm.trans (told path count _ clean (names ▸ leads))
        rw [pathBelow_append] at toldPath
        split at toldPath
        · next within =>
          -- On the second time no link is met below the root, so the same limit is enough.
          cases toldPath
          have again := leads_relative_spelled rooted clear valid
          have toldReal := told (.spelled parts) 0 _ (Path.nul_not_mem_relative_spelled valid)
            (names ▸ again)
          have fits : links + 0 ≤ Tree.linkLimit := by omega
          rw [if_pos fits, pathBelow_append] at toldReal
          exact ⟨clean, parts, rfl, clear, toldReal, ⟨count, few, leads⟩, again⟩
        · cases toldPath
      · rcases clear.texts top with ⟨names, rfl⟩
        have outside : ¬ directory <:+ names := fun inside => below (top ▸ inside.map Name.text)
        have toldPath := found.symm.trans (told path count names clean leads)
        rw [pathBelow_of_outside outside] at toldPath
        split at toldPath
        · cases toldPath
        · cases toldPath

end Rooted

theorem locate_eq_walk (files : Files) (path : Path) :
    files.locate path = path.relative.check.bind fun _ =>
      files.tree.walk Tree.linkLimit files.root.directory path.relative.steps := by
  rw [locate]
  simp only [Tree.follow, Path.start_relative]
  rfl

/-- What leads somewhere from the root is found there, unless it is too long to be tried. -/
theorem locate_of_leads {count : Nat} (clean : '\x00' ∉ path.relative.text.toList)
    (short : path.relative.byteSize ≤ Path.longest) (few : count ≤ Tree.linkLimit)
    (leads : files.tree.Leads count files.root.directory path.relative.steps location) :
    files.locate path = .ok location := by
  have checked : path.relative.check = .ok () :=
    Path.check_eq_ok_iff.mpr ⟨clean, path.relative_text_ne_empty, short⟩
  rw [locate_eq_walk, checked]
  dsimp only [Except.bind]
  rw [leads.walk_eq, if_pos few]

theorem leads_of_locate (found : files.locate path = .ok location) :
    '\x00' ∉ path.relative.text.toList ∧ ∃ count,
      files.tree.Leads count files.root.directory path.relative.steps location := by
  rw [locate_eq_walk] at found
  cases checked : path.relative.check with
  | error fault =>
      rw [checked] at found
      cases found
  | ok done =>
      rw [checked] at found
      dsimp only [Except.bind] at found
      rcases Tree.leads_of_walk found with ⟨count, _, leads⟩
      exact ⟨(Path.check_eq_ok_iff.mp checked).1, count, leads⟩

/-- What is done through a path comes out the same through another. -/
structure SameThrough (files : Files) (path other : Path) : Prop where
  locate : files.locate other = files.locate path
  readText : files.readText other = files.readText path
  listing : files.listing other = files.listing path
  has : files.has other = files.has path
  overwrite : ∀ text, files.overwrite other text = files.overwrite path text

theorem sameThrough_of_locate_eq {other : Path} (same : files.locate other = files.locate path) :
    files.SameThrough path other := by
  have node : files.node other = files.node path := by rw [Files.node, same, Files.node]
  constructor
  · exact same
  · rw [readText, content, node, readText, content]
  · rw [listing, node, listing]
  · rw [has, node, has]
  · exact fun text => by rw [overwrite, node, overwrite]

/-- The real path of a path starts from the top, and goes on by names with single slashes in
between; below the root it meets no link, and ends at none. It is its own real path, and what is
done through it is done through the path, provided that neither is too long to be tried. A path
that leads to the root or below has a real path, and one that leads elsewhere has none, provided
that the links which are met are not too many. -/
theorem realPath_exact {files : Files} (rooted : files.Rooted) (named : files.tree.WellNamed)
    (path : Path) :
    (∀ real, files.realPath path = .ok real →
      (∃ parts, real.Canonical parts ∧ ∀ passed, passed <+: parts → ∀ target,
        files.tree.node? (Tree.down files.root.directory passed) ≠ some (.link target)) ∧
      files.realPath real = .ok real ∧
      (path.relative.byteSize ≤ Path.longest → real.relative.byteSize ≤ Path.longest →
        files.SameThrough path real)) ∧
    ∀ location, files.locate path = .ok location →
      files.realPath path ≠ .error (.fault .filesystemLoop) →
        (files.root.directory <:+ location → ∃ real, files.realPath path = .ok real) ∧
        (¬ files.root.directory <:+ location →
          files.realPath path = .error (.fault .entityNotFound)) := by
  constructor
  · intro real found
    rcases rooted.of_realPath_eq_ok named found with
      ⟨clean, parts, rfl, clear, again, ⟨count, few, leads⟩, leadsAgain⟩
    have valid := clear.valid named
    have solid : ∀ target, files.tree.node? files.root.directory ≠ some (.link target) := by
      intro target link
      cases (Root.opened_eq_ok rooted).2.2.1.symm.trans link
    refine ⟨⟨parts, Path.canonical_spelled valid, clear.no_link solid⟩, again, ?_⟩
    intro short shortAgain
    apply sameThrough_of_locate_eq
    rw [locate_of_leads clean short few leads]
    exact locate_of_leads (Path.nul_not_mem_relative_spelled valid) shortAgain (Nat.zero_le _)
      leadsAgain
  · intro location found enough
    rcases rooted.texts_root named with ⟨directory, top⟩
    rcases leads_of_locate found with ⟨clean, count, leads⟩
    have clear := (Tree.Clear.self files.tree files.root.directory).of_leads leads
    rcases clear.texts top with ⟨names, rfl⟩
    rcases rooted.realPath_of_leads top with ⟨links, told⟩
    have toldPath := told path count names clean leads
    split at toldPath
    · constructor
      · intro below
        rcases clear.eq_down below with ⟨parts, spelled⟩
        have same := Name.map_text_injective (spelled.trans (Tree.down_eq_map_text top parts))
        rw [same, pathBelow_append] at toldPath
        exact ⟨.spelled parts, toldPath⟩
      · intro outside
        have beyond : ¬ directory <:+ names :=
          fun inside => outside (top ▸ inside.map Name.text)
        rw [pathBelow_of_outside beyond] at toldPath
        exact toldPath
    · exact absurd toldPath enough

/-- A root that is itself found through a link, and holds links of all kinds. -/
def boxedTree : Tree where
  entries := [
    ([.text "box"], .link ⟨"/data/./root"⟩),
    ([.text "data"], .directory),
    ([.text "other", .text "data"], .file []),
    ([.text "root", .text "data"], .directory),
    ([.text "bus", .text "root", .text "data"], .directory),
    ([.text "usb1", .text "bus", .text "root", .text "data"], .link ⟨"../devices/usb1/"⟩),
    ([.text "devices", .text "root", .text "data"], .directory),
    ([.text "usb1", .text "devices", .text "root", .text "data"], .directory),
    ([.text "level", .text "usb1", .text "devices", .text "root", .text "data"],
      .file (Utf8.bytes "on")),
    ([.text "self", .text "root", .text "data"], .link ⟨"/box"⟩),
    ([.text "out", .text "root", .text "data"], .link ⟨"../other"⟩)]
  distinct := by decide

def boxedFiles : Files where
  tree := boxedTree
  root := { workingDirectory := [], path := ⟨"box"⟩, directory := [.text "root", .text "data"] }

theorem opened_boxedTree : Files.opened boxedTree [] ⟨"box"⟩ = .ok boxedFiles := by
  have root : Root.opened boxedTree [] ⟨"box"⟩ = .ok boxedFiles.root := by decide +kernel
  rw [Files.opened, root]
  rfl

/-- A way with many links comes out as one without any, and no way comes out of the root. -/
theorem realPath_exact_boxedFiles :
    let winding : Path := ⟨"//self/bus/usb1/../usb1//level"⟩
    let real : Path := ⟨"/devices/usb1/level"⟩
    boxedFiles.realPath winding = .ok real ∧
      boxedFiles.realPath real = .ok real ∧
      real.isAbsolute = true ∧
      boxedFiles.SameThrough winding real ∧
      boxedFiles.readText real = .ok "on" ∧
      boxedFiles.realPath ⟨"self/out"⟩ = .error (.fault .entityNotFound) := by
  intro winding real
  have rooted := rooted_of_opened opened_boxedTree
  have named : boxedTree.WellNamed := by decide
  have found : boxedFiles.realPath winding = .ok real := by decide +kernel
  have outside : boxedFiles.locate ⟨"self/out"⟩ = .ok [.text "other", .text "data"] := by
    decide +kernel
  rcases (realPath_exact rooted named winding).1 real found with ⟨⟨parts, canonical, _⟩, again, same⟩
  refine ⟨found, again, canonical.absolute, same (by decide) (by decide), by decide +kernel, ?_⟩
  exact ((realPath_exact rooted named ⟨"self/out"⟩).2 _ outside (by decide +kernel)).2 (by decide)

end Files

end UsbTypeC
