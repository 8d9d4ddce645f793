import UsbTypeC.Uevent.Event

/-! Which event a message tells of. -/

namespace UsbTypeC

namespace Uevent

/-- Whatever tells of a port tells of a port that changed. -/
theorem eq_portChanged_of_portChanged? {header : List Char} {event : Event}
    (told : portChanged? header = some event) :
    ∃ partnerAppeared, event = .portChanged partnerAppeared := by
  rw [portChanged?] at told
  split at told
  · exact ⟨_, (Option.some.inj told).symm⟩
  · cases told

/-- Ports are looked for first, so neither the name of the gadget's controller nor
whether wakeup is ignored has a say in it. -/
theorem event?_eq_portChanged_iff (controller : String) (wakeupIgnored : Bool)
    (message : Bytes) (partnerAppeared : Bool) :
    event? controller wakeupIgnored message = some (.portChanged partnerAppeared) ↔
      portChanged? (header message).toList = some (.portChanged partnerAppeared) := by
  have supply : supplyChanged? (header message).toList (fields message) ≠
      some (.portChanged partnerAppeared) := by
    rw [supplyChanged?]
    split <;> nofun
  have device : deviceAppeared? (header message).toList ≠
      some (.portChanged partnerAppeared) := by
    intro equal
    rcases Option.bind_eq_some_iff.mp equal with ⟨device, _, found⟩
    split at found <;> cases found
  have interface : interfaceAppeared? (header message).toList ≠
      some (.portChanged partnerAppeared) := by
    intro equal
    rcases Option.bind_eq_some_iff.mp equal with ⟨path, _, bound⟩
    rcases Option.bind_eq_some_iff.mp bound with ⟨⟨device, interface⟩, _, found⟩
    simp only at found
    split at found <;> cases found
  have gadget : gadgetController? controller (header message).toList ≠
      some (.portChanged partnerAppeared) := by
    have changed (action : ControllerAction) :
        controllerChanged? controller action (header message).toList ≠
          some (.portChanged partnerAppeared) := by
      intro equal
      rcases Option.bind_eq_some_iff.mp equal with ⟨path, _, found⟩
      split at found <;> cases found
    rw [gadgetController?]
    split
    · nofun
    · simp [changed]
  have host : hostLost? (header message).toList ≠ some (.portChanged partnerAppeared) := by
    intro equal
    rcases Option.bind_eq_some_iff.mp equal with ⟨path, _, lost⟩
    split at lost
    · rcases Option.map_eq_some_iff.mp lost with ⟨name, _, found⟩
      cases found
    · cases lost
  cases wakeupIgnored <;> simp [event?, supply, device, interface, gadget, host]

end Uevent

end UsbTypeC
