import UsbTypeC.Property

/-! Properties after a write. A write that is not refused is read back under its own key,
and under every other key a write is not seen, refused or not. -/

namespace UsbTypeC.Properties

variable {properties : Properties} {key other : String}

theorem lookup_filter_other (values : List (String × String)) (different : other ≠ key) :
    (values.filter fun entry => entry.1 != key).lookup other = values.lookup other := by
  induction values with
  | nil => rfl
  | cons entry rest induction =>
      rcases entry with ⟨name, value⟩
      by_cases removed : name = key
      · have apart : (other == name) = false := by simpa [removed] using different
        simp only [List.filter_cons, removed, bne_self_eq_false, Bool.false_eq_true, if_false,
          induction]
        rw [List.lookup_cons, ← removed, apart]
      · simp only [List.filter_cons, bne_iff_ne.mpr removed, if_true, List.lookup_cons,
          induction]

theorem trySet_of_writable (writable : properties.refusal = none) (key value : String) :
    properties.trySet key value =
      { properties with values := insert properties.values key value } := by
  rw [trySet, set, writable]

theorem trySet_of_refused {fault : Fault} (refused : properties.refusal = some fault)
    (key value : String) : properties.trySet key value = properties := by
  rw [trySet, set, refused]

theorem refusal_trySet (properties : Properties) (key value : String) :
    (properties.trySet key value).refusal = properties.refusal := by
  cases refusal : properties.refusal with
  | none => rw [trySet_of_writable refusal, refusal]
  | some fault => rw [trySet_of_refused refusal, refusal]

theorem get?_trySet_same (writable : properties.refusal = none) (key value : String) :
    (properties.trySet key value).get? key = some value := by
  rw [trySet_of_writable writable, get?, insert, List.lookup_cons_self]

theorem get?_trySet_other (properties : Properties) (value : String) (different : other ≠ key) :
    (properties.trySet key value).get? other = properties.get? other := by
  cases refusal : properties.refusal with
  | none =>
      rw [trySet_of_writable refusal, get?, insert, List.lookup_cons,
        beq_eq_false_iff_ne.mpr different]
      exact lookup_filter_other properties.values different
  | some fault => rw [trySet_of_refused refusal]

theorem getOrEmpty_trySet_other (properties : Properties) (value : String)
    (different : other ≠ key) :
    (properties.trySet key value).getOrEmpty other = properties.getOrEmpty other := by
  rw [getOrEmpty, getOrEmpty, get?_trySet_other properties value different]

end UsbTypeC.Properties
