import UsbTypeC.Proofs.Uevent.ControllerName
import UsbTypeC.Uevent.Event

/-! Which event a message tells of. For each kind of event there is a rule about the text of
the header, and the first rule that fits decides. -/

namespace UsbTypeC.Uevent

/-- The name of a supply is what the first field that gives one says. -/
def NamesSupply (fields : List String) : Option String → Prop
  | some name => ∃ before after, fields = before ++ ("POWER_SUPPLY_NAME=" ++ name) :: after ∧
      ∀ field ∈ before, ¬ "POWER_SUPPLY_NAME=".toList <+: field.toList
  | none => ∀ field ∈ fields, ¬ "POWER_SUPPLY_NAME=".toList <+: field.toList

/-- A host controller of the platform that went away. -/
def LostHostPath (path : List Char) : Prop :=
  ∃ (line : List Char) (unit : Char) (rest : List Char),
    '\n' ∉ line ∧ isDecimalDigit unit = true ∧ '\n' ∉ rest ∧
      path = "/devices/platform/".toList ++ line ++ "dwc3/xhci-hcd.".toList ++ [unit] ++
        ".auto/usb".toList ++ rest

/-- The controller of the gadget, whose name stands twice in its path. -/
def GadgetPath (controller : String) (path : List Char) : Prop :=
  ∃ line : List Char, '\n' ∉ line ∧
    path = "/devices/platform/soc/".toList ++ line ++ ['/'] ++ controller.toList ++
      "/udc/".toList ++ controller.toList

/-- What a message has to be for its rule to find an event in it. -/
def Fits (controller : String) (wakeupIgnored : Bool) (header : List Char)
    (fields : List String) : Event → Prop
  | .portChanged partnerAppeared =>
      "typec/port".toList <:+: header ∧
        (partnerAppeared = true ↔ "add@".toList <+: header ∧ "-partner".toList <:+ header)
  | .supplyChanged name => "power_supply/usb".toList <:+: header ∧ NamesSupply fields name
  | .deviceAppeared device =>
      ∃ path, HostedPath path ∧ header = "add@".toList ++ path ∧
        device = ⟨"/sys" ++ String.ofList path⟩
  | .interfaceAppeared device interface =>
      wakeupIgnored = false ∧ ∃ path, HostedPath path ∧
        header = "bind@".toList ++ path ++ ['/'] ++ interface.toList ∧
        '/' ∉ interface.toList ∧ ':' ∈ interface.toList ∧
        device = ⟨"/sys" ++ String.ofList path⟩
  | .gadgetController action =>
      controller ≠ "" ∧ ∃ path, GadgetPath controller path ∧
        header = action.name.toList ++ ['@'] ++ path
  | .hostLost name =>
      (∃ path, LostHostPath path ∧ header = "offline@".toList ++ path) ∧
        NamesController header name.toList

/-- The place of an event's rule among the rules. -/
def Event.rank : Event → Nat
  | .portChanged _ => 0
  | .supplyChanged _ => 1
  | .deviceAppeared _ => 2
  | .interfaceAppeared _ _ => 3
  | .gadgetController _ => 4
  | .hostLost _ => 5

theorem lostHost_iff {path : List Char} : lostHost path = true ↔ LostHostPath path := by
  simp only [lostHost, fixed_iff, anything_iff, digit_iff, oneLine_iff]
  constructor
  · rintro ⟨_, rfl, line, _, rfl, clean, _, rfl, unit, _, rfl, unitDigit, rest, rfl, restClean⟩
    exact ⟨line, unit, rest, clean, unitDigit, restClean, by simp⟩
  · rintro ⟨line, unit, rest, clean, unitDigit, restClean, rfl⟩
    exact ⟨_, by simp, line, _, rfl, clean, _, rfl, unit, _, rfl, unitDigit, rest, rfl,
      restClean⟩

theorem gadgetController_iff {controller : String} {path : List Char} :
    gadgetController controller path = true ↔ GadgetPath controller path := by
  simp only [gadgetController, fixed_iff, anything_iff, List.isEmpty_iff]
  constructor
  · rintro ⟨_, rfl, line, _, rfl, clean, _, rfl, _, rfl, _, rfl, _, rfl, rfl⟩
    exact ⟨line, clean, by simp⟩
  · rintro ⟨line, clean, rfl⟩
    exact ⟨_, by simp, line, _, rfl, clean, _, rfl, _, rfl, _, rfl, [],
      (List.append_nil _).symm, rfl⟩

theorem after?_eq_some_iff {text : String} {characters rest : List Char} :
    after? text characters = some rest ↔ characters = text.toList ++ rest :=
  withoutPrefix?_eq_some_iff _ _ _

theorem isSome_after?_iff {text : String} {characters : List Char} :
    (after? text characters).isSome = true ↔ text.toList <+: characters := by
  rw [Option.isSome_iff_exists]
  simp only [after?_eq_some_iff]
  exact ⟨fun ⟨rest, whole⟩ => ⟨rest, whole.symm⟩, fun ⟨rest, whole⟩ => ⟨rest, whole.symm⟩⟩

theorem isSome_withoutSuffix?_iff {part list : List Char} :
    (withoutSuffix? part list).isSome = true ↔ part <:+ list := by
  rw [Option.isSome_iff_exists]
  simp only [withoutSuffix?_eq_some_iff]
  exact ⟨fun ⟨rest, whole⟩ => ⟨rest, whole.symm⟩, fun ⟨rest, whole⟩ => ⟨rest, whole.symm⟩⟩

theorem supplyName?_iff {fields : List String} {name : Option String} :
    supplyName? fields = name ↔ NamesSupply fields name := by
  have silent (field : String) :
      (after? "POWER_SUPPLY_NAME=" field.toList).map String.ofList = none ↔
        ¬ "POWER_SUPPLY_NAME=".toList <+: field.toList := by
    rw [← isSome_after?_iff, Option.map_eq_none_iff, Option.not_isSome_iff_eq_none]
  have told (field name : String) :
      (after? "POWER_SUPPLY_NAME=" field.toList).map String.ofList = some name ↔
        field = "POWER_SUPPLY_NAME=" ++ name := by
    simp only [Option.map_eq_some_iff, after?_eq_some_iff]
    constructor
    · rintro ⟨rest, whole, rfl⟩
      refine String.toList_inj.mp (whole.trans ?_)
      rw [String.toList_append, String.toList_ofList (l := rest)]
    · rintro rfl
      exact ⟨name.toList, String.toList_append, String.ofList_toList⟩
  cases name with
  | none =>
      rw [supplyName?, List.findSome?_eq_none_iff]
      exact forall₂_congr fun field _ => silent field
  | some name =>
      rw [supplyName?, List.findSome?_eq_some_iff]
      constructor
      · rintro ⟨before, field, after, whole, named, unnamed⟩
        rw [told] at named
        exact ⟨before, after, named ▸ whole,
          fun earlier mem => (silent earlier).mp (unnamed earlier mem)⟩
      · rintro ⟨before, after, whole, unnamed⟩
        exact ⟨before, _, after, whole, (told _ _).mpr rfl,
          fun earlier mem => (silent earlier).mpr (unnamed earlier mem)⟩

/-- The path of a device is absolute, and is put behind that of the directory of all
devices as it is. -/
theorem HostedPath.systemPath_eq {path : List Char} (hosted : HostedPath path) :
    systemPath path = ⟨"/sys" ++ String.ofList path⟩ := by
  obtain ⟨rest, rfl⟩ : ∃ rest, path = '/' :: 'd' :: rest := by
    obtain ⟨line, unit, bus, hub, port, ports, _, _, _, rfl⟩ := hosted
    exact ⟨_, rfl⟩
  have relative : Path.isAbsolute ⟨String.ofList ('d' :: rest)⟩ = false := by
    simp [Path.isAbsolute]
  have ended : ("/sys".toList.getLast? == some '/') = false := by decide
  have named : "/sys".isEmpty = false := by decide
  rw [systemPath, List.dropWhile_cons_of_pos (by decide), List.dropWhile_cons_of_neg (by decide),
    Path.join, relative, named, ended]
  rw [Path.mk.injEq, ← String.toList_inj]
  simp

section Rules

variable {controller : String} {wakeupIgnored : Bool} {header : List Char}
  {fields : List String} {event : Event}

theorem portChanged?_iff :
    portChanged? header = some event ↔
      event.rank = 0 ∧ Fits controller wakeupIgnored header fields event := by
  have appeared : ((after? "add@" header).isSome &&
      (withoutSuffix? "-partner".toList header).isSome) = true ↔
        "add@".toList <+: header ∧ "-partner".toList <:+ header := by
    rw [Bool.and_eq_true, isSome_after?_iff, isSome_withoutSuffix?_iff]
  rw [portChanged?]
  split
  · next occurs =>
    constructor
    · intro told
      cases told
      exact ⟨rfl, (occursIn_iff _ _).mp occurs, appeared⟩
    · rintro ⟨rank, fits⟩
      cases event with
      | portChanged partnerAppeared =>
          rw [Bool.eq_iff_iff.mpr (appeared.trans fits.2.symm)]
      | _ => cases rank
  · next absent =>
    constructor
    · nofun
    · rintro ⟨rank, fits⟩
      cases event with
      | portChanged partnerAppeared => exact absurd ((occursIn_iff _ _).mpr fits.1) absent
      | _ => cases rank

theorem supplyChanged?_iff :
    supplyChanged? header fields = some event ↔
      event.rank = 1 ∧ Fits controller wakeupIgnored header fields event := by
  rw [supplyChanged?]
  split
  · next occurs =>
    constructor
    · intro told
      cases told
      exact ⟨rfl, (occursIn_iff _ _).mp occurs, supplyName?_iff.mp rfl⟩
    · rintro ⟨rank, fits⟩
      cases event with
      | supplyChanged name => rw [supplyName?_iff.mpr fits.2]
      | _ => cases rank
  · next absent =>
    constructor
    · nofun
    · rintro ⟨rank, fits⟩
      cases event with
      | supplyChanged name => exact absurd ((occursIn_iff _ _).mpr fits.1) absent
      | _ => cases rank

theorem deviceAppeared?_iff :
    deviceAppeared? header = some event ↔
      event.rank = 2 ∧ Fits controller wakeupIgnored header fields event := by
  have found : deviceAppeared? header = some event ↔
      ∃ path, HostedPath path ∧ header = "add@".toList ++ path ∧
        event = .deviceAppeared ⟨"/sys" ++ String.ofList path⟩ := by
    simp only [deviceAppeared?, Option.bind_eq_bind, Option.bind_eq_some_iff,
      after?_eq_some_iff, Option.ite_none_right_eq_some, hostedDevice_iff, Option.some.injEq]
    constructor
    · rintro ⟨path, whole, hosted, rfl⟩
      exact ⟨path, hosted, whole, by rw [hosted.systemPath_eq]⟩
    · rintro ⟨path, hosted, whole, rfl⟩
      exact ⟨path, whole, hosted, by rw [hosted.systemPath_eq]⟩
  rw [found]
  cases event with
  | deviceAppeared device => simp [Fits, Event.rank]
  | _ => simp [Event.rank]

theorem interfaceOf?_eq_some_iff {path device interface : List Char} :
    interfaceOf? path = some (device, interface) ↔
      path = device ++ ['/'] ++ interface ∧ '/' ∉ interface ∧ ':' ∈ interface := by
  have inside (character : Char) : (character != '/') = true ↔ character ≠ '/' := bne_iff_ne
  constructor
  · intro found
    rw [interfaceOf?] at found
    split at found
    · next slash above cut =>
      split at found
      · next marked =>
        cases found
        have whole := List.takeWhile_append_dropWhile (p := (· != '/')) (l := path.reverse)
        have isSlash := List.head?_dropWhile_not (· != '/') path.reverse
        rw [cut] at whole isSlash
        obtain rfl : slash = '/' := by simpa using isSlash
        refine ⟨?_, fun mem => ?_, marked⟩
        · have turned := congrArg List.reverse whole
          rw [List.reverse_append, List.reverse_cons, List.reverse_reverse] at turned
          exact turned.symm
        · have passed := List.all_eq_true.mp List.all_takeWhile _ (List.mem_reverse.mp mem)
          exact (inside '/').mp passed rfl
      · cases found
    · cases found
  · rintro ⟨rfl, single, marked⟩
    have passed : ∀ character ∈ interface.reverse, (character != '/') = true :=
      fun character mem => (inside character).mpr
        fun same => single (same ▸ List.mem_reverse.mp mem)
    have reversed : (device ++ ['/'] ++ interface).reverse =
        interface.reverse ++ '/' :: device.reverse := by simp
    rw [interfaceOf?, reversed, List.takeWhile_append_of_pos passed,
      List.dropWhile_append_of_pos passed]
    simp [marked]

theorem interfaceAppeared?_iff :
    (if wakeupIgnored then none else interfaceAppeared? header) = some event ↔
      event.rank = 3 ∧ Fits controller wakeupIgnored header fields event := by
  have found : interfaceAppeared? header = some event ↔
      ∃ path interface, HostedPath path ∧
        header = "bind@".toList ++ path ++ ['/'] ++ interface ∧
        '/' ∉ interface ∧ ':' ∈ interface ∧
        event = .interfaceAppeared ⟨"/sys" ++ String.ofList path⟩ (String.ofList interface) := by
    simp only [interfaceAppeared?, Option.bind_eq_bind, Option.bind_eq_some_iff,
      after?_eq_some_iff, Option.ite_none_right_eq_some, hostedDevice_iff, Option.some.injEq,
      Prod.exists, interfaceOf?_eq_some_iff]
    constructor
    · rintro ⟨_, rfl, path, interface, ⟨rfl, single, marked⟩, hosted, rfl⟩
      exact ⟨path, interface, hosted, by simp, single, marked, by rw [hosted.systemPath_eq]⟩
    · rintro ⟨path, interface, hosted, rfl, single, marked, rfl⟩
      exact ⟨_, by simp, path, interface, ⟨rfl, single, marked⟩, hosted,
        by rw [hosted.systemPath_eq]⟩
  cases wakeupIgnored with
  | true => cases event <;> simp [Fits, Event.rank]
  | false =>
      rw [if_neg Bool.false_ne_true, found]
      cases event with
      | interfaceAppeared device interface =>
          simp only [Event.interfaceAppeared.injEq]
          constructor
          · rintro ⟨path, named, hosted, whole, single, marked, rfl, rfl⟩
            rw [← String.toList_ofList (l := named)] at whole single marked
            exact ⟨rfl, rfl, path, hosted, whole, single, marked, rfl⟩
          · rintro ⟨_, _, path, hosted, whole, single, marked, rfl⟩
            exact ⟨path, interface.toList, hosted, whole, single, marked, rfl,
              String.ofList_toList.symm⟩
      | _ => simp [Event.rank]

theorem controllerChanged?_iff {action : ControllerAction} :
    controllerChanged? controller action header = some event ↔
      event = .gadgetController action ∧
        ∃ path, GadgetPath controller path ∧ header = action.name.toList ++ ['@'] ++ path := by
  have text (path : List Char) : (action.name ++ "@").toList ++ path =
      action.name.toList ++ ['@'] ++ path := by
    rw [String.toList_append]
    rfl
  simp only [controllerChanged?, Option.bind_eq_bind, Option.bind_eq_some_iff,
    after?_eq_some_iff, text, Option.ite_none_right_eq_some, gadgetController_iff,
    Option.some.injEq]
  constructor
  · rintro ⟨path, whole, gadget, rfl⟩
    exact ⟨rfl, path, gadget, whole⟩
  · rintro ⟨rfl, path, gadget, whole⟩
    exact ⟨path, whole, gadget, rfl⟩

theorem gadgetController?_iff :
    gadgetController? controller header = some event ↔
      event.rank = 4 ∧ Fits controller wakeupIgnored header fields event := by
  rw [gadgetController?]
  split
  · next unnamed =>
    constructor
    · nofun
    · rintro ⟨rank, fits⟩
      cases event with
      | gadgetController action => exact absurd (String.isEmpty_iff.mp unnamed) fits.1
      | _ => cases rank
  · next named =>
    have known : controller ≠ "" := fun empty => named (String.isEmpty_iff.mpr empty)
    have either (left right : Option Event) :
        (left <|> right) = some event ↔ left = some event ∨ left = none ∧ right = some event := by
      cases left <;> simp
    rw [either, controllerChanged?_iff, controllerChanged?_iff]
    constructor
    · rintro (⟨rfl, add⟩ | ⟨_, rfl, remove⟩)
      · exact ⟨rfl, known, add⟩
      · exact ⟨rfl, known, remove⟩
    · rintro ⟨rank, fits⟩
      cases event with
      | gadgetController action =>
          cases action with
          | add => exact .inl ⟨rfl, fits.2⟩
          | remove =>
              refine .inr ⟨?_, rfl, fits.2⟩
              rw [Option.eq_none_iff_forall_ne_some]
              intro other added
              obtain ⟨_, _, _, starts⟩ := controllerChanged?_iff.mp added
              obtain ⟨_, _, removes⟩ := fits.2
              have clash := congrArg List.head? (starts.symm.trans removes)
              exact absurd (Option.some.inj clash) (by decide)
      | _ => cases rank

theorem hostLost?_iff :
    hostLost? header = some event ↔
      event.rank = 5 ∧ Fits controller wakeupIgnored header fields event := by
  have found : hostLost? header = some event ↔
      ∃ name, (∃ path, LostHostPath path ∧ header = "offline@".toList ++ path) ∧
        NamesController header name ∧ event = .hostLost (String.ofList name) := by
    simp only [hostLost?, Option.bind_eq_bind, Option.bind_eq_some_iff, after?_eq_some_iff,
      Option.ite_none_right_eq_some, lostHost_iff, Option.map_eq_some_iff,
      controller?_eq_some_iff]
    constructor
    · rintro ⟨path, whole, lost, name, named, rfl⟩
      exact ⟨name, ⟨path, lost, whole⟩, named, rfl⟩
    · rintro ⟨name, ⟨path, lost, whole⟩, named, rfl⟩
      exact ⟨path, whole, lost, name, named, rfl⟩
  rw [found]
  cases event with
  | hostLost controller =>
      constructor
      · rintro ⟨name, lost, named, same⟩
        cases same
        rw [← String.toList_ofList (l := name)] at named
        exact ⟨rfl, lost, named⟩
      · rintro ⟨_, lost, named⟩
        exact ⟨_, lost, named, by rw [String.ofList_toList]⟩
  | _ => simp [Event.rank]

end Rules

/-- What each rule finds in a message, in the order of the rules. -/
def found (controller : String) (wakeupIgnored : Bool) (header : List Char)
    (fields : List String) : List (Option Event) :=
  [portChanged? header, supplyChanged? header fields, deviceAppeared? header,
    if wakeupIgnored then none else interfaceAppeared? header,
    gadgetController? controller header, hostLost? header]

theorem getElem?_found {controller : String} {wakeupIgnored : Bool} {header : List Char}
    {fields : List String} {event : Event} (rank : Nat) :
    (found controller wakeupIgnored header fields)[rank]? = some (some event) ↔
      event.rank = rank ∧ Fits controller wakeupIgnored header fields event := by
  match rank with
  | 0 => exact Option.some_inj.trans portChanged?_iff
  | 1 => exact Option.some_inj.trans supplyChanged?_iff
  | 2 => exact Option.some_inj.trans deviceAppeared?_iff
  | 3 => exact Option.some_inj.trans interfaceAppeared?_iff
  | 4 => exact Option.some_inj.trans gadgetController?_iff
  | 5 => exact Option.some_inj.trans hostLost?_iff
  | more + 6 =>
      constructor
      · nofun
      · rintro ⟨rank, _⟩
        cases event <;> cases rank

theorem event?_eq_findSome? (controller : String) (wakeupIgnored : Bool) (message : Bytes) :
    event? controller wakeupIgnored message =
      (found controller wakeupIgnored (header message).toList (fields message)).findSome? id := by
  have first (head : Option Event) (rest : List (Option Event)) :
      (head :: rest).findSome? id = (head <|> rest.findSome? id) := by
    cases head <;> rfl
  have last (head : Option Event) : (head <|> none) = head := by
    cases head <;> rfl
  rw [event?, found, first, first, first, first, first, first, List.findSome?_nil, last]

/-- In a list of findings that are ordered by rank the one of least rank is found first. -/
theorem findSome?_iff_least {findings : List (Option Event)} {fits : Event → Prop}
    (ordered : ∀ (rank : Nat) (event : Event),
      findings[rank]? = some (some event) ↔ event.rank = rank ∧ fits event) (event : Event) :
    findings.findSome? id = some event ↔
      fits event ∧ ∀ other : Event, other.rank < event.rank → ¬ fits other := by
  rw [List.findSome?_eq_some_iff]
  constructor
  · rintro ⟨before, finding, after, whole, decides, silent⟩
    have place : findings[before.length]? = some (some event) := by
      rw [whole, List.getElem?_append_right (Nat.le_refl _), Nat.sub_self]
      exact congrArg some decides
    obtain ⟨rank, fitting⟩ := (ordered _ _).mp place
    refine ⟨fitting, fun other less fitsOther => ?_⟩
    have earlier := (ordered _ _).mpr ⟨rfl, fitsOther⟩
    rw [whole, List.getElem?_append_left (rank ▸ less)] at earlier
    cases silent _ (List.mem_of_getElem? earlier)
  · rintro ⟨fitting, least⟩
    have place := (ordered _ _).mpr ⟨rfl, fitting⟩
    obtain ⟨inside, at_rank⟩ := List.getElem?_eq_some_iff.mp place
    refine ⟨findings.take event.rank, some event, findings.drop (event.rank + 1), ?_, rfl, ?_⟩
    · rw [← at_rank, List.getElem_cons_drop, List.take_append_drop]
    · intro finding mem
      obtain ⟨index, less, taken⟩ := List.mem_take_iff_getElem.mp mem
      cases finding with
      | none => rfl
      | some other =>
          have earlier := List.getElem?_eq_some_iff.mpr ⟨by omega, taken⟩
          obtain ⟨rank, fitsOther⟩ := (ordered _ _).mp earlier
          exact absurd fitsOther (least other (by omega))

/-- A message tells of an event exactly when it fits the rule of the event and no rule that
comes before it. A message that fits no rule tells of nothing. -/
theorem event?_first_fitting (controller : String) (wakeupIgnored : Bool) (message : Bytes) :
    let fits := Fits controller wakeupIgnored (header message).toList (fields message)
    (∀ event, event? controller wakeupIgnored message = some event ↔
      fits event ∧ ∀ other : Event, other.rank < event.rank → ¬ fits other) ∧
    (event? controller wakeupIgnored message = none ↔ ∀ event, ¬ fits event) := by
  intro fits
  have decides : ∀ event, event? controller wakeupIgnored message = some event ↔
      fits event ∧ ∀ other : Event, other.rank < event.rank → ¬ fits other := by
    intro event
    rw [event?_eq_findSome?]
    exact findSome?_iff_least (fun rank event => getElem?_found rank) event
  refine ⟨decides, fun silent event fitting => ?_, fun unfit => ?_⟩
  · rw [event?_eq_findSome?, List.findSome?_eq_none_iff] at silent
    have place := (getElem?_found event.rank).mpr ⟨rfl, fitting⟩
    cases silent _ (List.mem_of_getElem? place)
  · rw [Option.eq_none_iff_forall_ne_some]
    exact fun event told => unfit event ((decides event).mp told).1

end UsbTypeC.Uevent
