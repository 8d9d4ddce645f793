import UsbTypeC.Proofs.Port.Survey

/-! What a status owes to the question. The detail that is asked for, the primary port and the
file of the contaminant state decide over the modes on offer and the contaminant state, and over
nothing else: whether the ports can be told, and all the rest of what is told, is the same
whatever is asked for. -/

namespace UsbTypeC

/-- What is told of a primary port that has no contaminant detection. -/
def ContaminantState.undetected : ContaminantState :=
  { default with protectionModes := [], protection := .none }

/-- What a status tells in every detail. -/
def PortStatus.inEveryDetail (status : PortStatus) : PortStatus :=
  { status with offeredModes := [], contaminant := none }

namespace Survey

/-- What the file for the contaminant state tells, if there is one. -/
def contaminantReading (survey : Survey) (files : Files) : Option Bool :=
  survey.contaminantFile.bind fun path => (files.contaminantPresent path).toOption

theorem contaminantState_of_reading (survey : Survey) (files : Files) :
    survey.contaminantState files survey.primaryPort =
      match survey.contaminantReading files with
      | some true => { ContaminantState.default with detection := .detected }
      | some false => { ContaminantState.default with detection := .notDetected }
      | none => .undetected := by
  rw [contaminantState, if_pos rfl, contaminantReading]
  cases survey.contaminantFile with
  | none => rfl
  | some path =>
      cases read : files.contaminantPresent path with
      | error error => simp [read, Except.toOption, ContaminantState.undetected]
      | ok present => cases present <;> simp [read, Except.toOption]

/-- What is told of the contaminants at a port. Only at the primary port is anything looked up,
and what cannot be looked up there is told as a lack of protection. -/
structure TellsContaminant (survey : Survey) (files : Files) (port : PortName)
    (state : ContaminantState) : Prop where
  elsewhere : port ≠ survey.primaryPort → state = .default
  read : port = survey.primaryPort →
    ∀ path text, survey.contaminantFile = some path → files.readValue path = .ok text →
      state = { ContaminantState.default with
        detection := if text.toList.head? = some '1' then .detected else .notDetected }
  unread : port = survey.primaryPort →
    (∀ path text, survey.contaminantFile = some path → files.readValue path ≠ .ok text) →
      state = { ContaminantState.default with protectionModes := [], protection := .none } ∧
        state.detection = .notSupported

variable {survey : Survey} {files : Files}

theorem contaminantReading_of_value {path : Path} {text : String}
    (known : survey.contaminantFile = some path) (value : files.readValue path = .ok text) :
    survey.contaminantReading files = some (text.toList.head? == some '1') := by
  rw [contaminantReading, known, Option.bind_some, Files.contaminantPresent, value]
  rfl

theorem contaminantReading_of_no_value
    (silent : ∀ path text, survey.contaminantFile = some path → files.readValue path ≠ .ok text) :
    survey.contaminantReading files = none := by
  rw [contaminantReading]
  cases known : survey.contaminantFile with
  | none => rfl
  | some path =>
      rw [Option.bind_some, Files.contaminantPresent]
      cases value : files.readValue path with
      | ok text => exact absurd value (silent path text known)
      | error error => rfl

theorem tellsContaminant_contaminantState (survey : Survey) (files : Files) (port : PortName) :
    survey.TellsContaminant files port (survey.contaminantState files port) where
  elsewhere other := if_neg other
  read primary path text known value := by
    rw [primary, contaminantState_of_reading, contaminantReading_of_value known value]
    by_cases marked : text.toList.head? = some '1'
    · rw [if_pos marked, beq_iff_eq.mpr marked]
    · rw [if_neg marked, beq_eq_false_iff_ne.mpr marked]
  unread primary silent := by
    rw [primary, contaminantState_of_reading, contaminantReading_of_no_value silent]
    exact ⟨rfl, rfl⟩

theorem contaminant_toldStatus (survey : Survey) (files : Files) (detail : StatusDetail)
    (entry : FoundPort) :
    (survey.toldStatus files detail entry).contaminant =
      if detail = .contaminant then some (survey.contaminantState files entry.name) else none := by
  rw [toldStatus, contaminantState_eq_told]

/-- Two surveys of the same files, for whatever detail, primary port and file of the contaminant
state, fail with the same error, or tell the same ports alike in every field but two. Of these the
modes on offer go by the detail; and contaminants are told of in one detail, as far as the survey
knows about them, and in no case are they a reason to fail. -/
theorem statuses_alike_in_every_detail (files : Files) (survey other : Survey)
    (detail otherDetail : StatusDetail) :
    (∃ error, survey.statuses files detail = .error error ∧
        other.statuses files otherDetail = .error error) ∨
      ∃ ports otherPorts, survey.statuses files detail = .ok ports ∧
        other.statuses files otherDetail = .ok otherPorts ∧
        ports.map PortStatus.inEveryDetail = otherPorts.map PortStatus.inEveryDetail ∧
        ∀ status ∈ ports,
          status.offeredModes = detail.offeredModes ∧
          (status.contaminant.isSome = true ↔ detail = .contaminant) ∧
          ∀ state, status.contaminant = some state →
            survey.TellsContaminant files status.port state := by
  rcases statuses_cases files with ⟨error, fails⟩ | ⟨entries, tells⟩
  · exact .inl ⟨error, fails survey detail, fails other otherDetail⟩
  · refine .inr ⟨_, _, tells survey detail, tells other otherDetail, ?_, ?_⟩
    · rw [List.map_map, List.map_map]
      rfl
    · intro status mem
      rcases List.mem_map.mp mem with ⟨entry, _, rfl⟩
      have contaminant := survey.contaminant_toldStatus files detail entry
      refine ⟨(offeredModes_eq detail).symm, ?_, ?_⟩
      · rw [contaminant]
        split
        · next same => exact iff_of_true rfl same
        · next different => exact iff_of_false Bool.false_ne_true different
      · intro state told
        rw [contaminant, Option.ite_none_right_eq_some] at told
        cases told.2
        exact survey.tellsContaminant_contaminantState files entry.name

end Survey

end UsbTypeC
