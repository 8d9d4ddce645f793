import UsbTypeC.Proofs.Text.Pieces
import UsbTypeC.Uevent.Pattern

/-! What the matchers accept, told as the texts of which a header has to be made. -/

namespace UsbTypeC.Uevent

theorem fixed_iff {text : String} {rest : Matcher} {characters : List Char} :
    fixed text rest characters = true ↔
      ∃ tail, characters = text.toList ++ tail ∧ rest tail = true := by
  rw [fixed]
  split
  · next remaining cut =>
    have whole := (withoutPrefix?_eq_some_iff _ _ _).mp cut
    constructor
    · exact fun accepted => ⟨remaining, whole, accepted⟩
    · rintro ⟨tail, equal, accepted⟩
      rw [whole] at equal
      exact List.append_cancel_left equal ▸ accepted
  · next uncut =>
    constructor
    · nofun
    · rintro ⟨tail, equal, _⟩
      rw [(withoutPrefix?_eq_some_iff _ _ _).mpr equal] at uncut
      cases uncut

theorem digit_iff {rest : Matcher} {characters : List Char} :
    digit rest characters = true ↔
      ∃ head tail, characters = head :: tail ∧ isDecimalDigit head = true ∧
        rest tail = true := by
  cases characters with
  | nil => simp [digit]
  | cons head tail =>
      rw [digit, Bool.and_eq_true]
      constructor
      · exact fun accepted => ⟨head, tail, rfl, accepted⟩
      · rintro ⟨_, _, equal, accepted⟩
        cases equal
        exact accepted

/-- The characters that are passed over never leave their line. -/
theorem anything_iff {rest : Matcher} {characters : List Char} :
    anything rest characters = true ↔
      ∃ line tail, characters = line ++ tail ∧ '\n' ∉ line ∧ rest tail = true := by
  induction characters with
  | nil =>
      rw [anything]
      constructor
      · exact fun accepted => ⟨[], [], rfl, List.not_mem_nil, accepted⟩
      · rintro ⟨line, tail, equal, _, accepted⟩
        rw [(List.append_eq_nil_iff.mp equal.symm).2] at accepted
        exact accepted
  | cons head tail induction =>
      rw [anything, Bool.or_eq_true, Bool.and_eq_true, induction, bne_iff_ne]
      constructor
      · rintro (here | ⟨visible, line, last, rfl, clean, later⟩)
        · exact ⟨[], head :: tail, rfl, List.not_mem_nil, here⟩
        · refine ⟨head :: line, last, rfl, ?_, later⟩
          rw [List.mem_cons, not_or]
          exact ⟨visible.symm, clean⟩
      · rintro ⟨line, last, equal, clean, accepted⟩
        cases line with
        | nil => exact .inl (by rw [equal]; exact accepted)
        | cons first line =>
            obtain ⟨rfl, rfl⟩ := List.cons.inj equal
            rw [List.mem_cons, not_or] at clean
            exact .inr ⟨Ne.symm clean.1, line, last, rfl, clean.2, accepted⟩

theorem oneLine_iff {characters : List Char} :
    oneLine characters = true ↔ '\n' ∉ characters := by
  simp [oneLine]

/-- A hub or a port is named by digits, dots and dashes. -/
def NamesPort (port : List Char) : Prop :=
  port ≠ [] ∧ ∀ character ∈ port,
    isDecimalDigit character = true ∨ character = '.' ∨ character = '-'

theorem NamesPort.no_slash {port : List Char} (names : NamesPort port) : '/' ∉ port := by
  intro mem
  rcases names.2 '/' mem with digit | dot | dash
  · exact absurd digit (by decide)
  · exact absurd dot (by decide)
  · exact absurd dash (by decide)

theorem namesPort_iff {port : List Char} :
    (!port.isEmpty && port.all isPortCharacter) = true ↔ NamesPort port := by
  simp [NamesPort, isPortCharacter, or_assoc]

theorem portChain_iff {characters : List Char} :
    portChain characters = true ↔
      ∃ ports : List (List Char), (∀ port ∈ ports, NamesPort port) ∧
        characters = ports.flatMap ('/' :: ·) := by
  constructor
  · intro accepted
    rw [portChain] at accepted
    split at accepted
    · next ports cut =>
      refine ⟨ports, fun port mem => ?_, eq_append_of_pieces cut⟩
      exact namesPort_iff.mp (List.all_eq_true.mp accepted port mem)
    · cases accepted
  · rintro ⟨ports, named, rfl⟩
    have cut := pieces_append_flatMap (List.not_mem_nil (a := '/'))
      fun port mem => (named port mem).no_slash
    rw [List.nil_append] at cut
    rw [portChain, cut]
    exact List.all_eq_true.mpr fun port mem => namesPort_iff.mpr (named port mem)

/-- The path of a device behind the host controller of the platform: its root port, and
the hubs and ports on the way to it. -/
def HostedPath (path : List Char) : Prop :=
  ∃ (line : List Char) (unit bus hub port : Char) (ports : List (List Char)),
    '\n' ∉ line ∧ (∀ number ∈ [unit, bus, hub, port], isDecimalDigit number = true) ∧
      (∀ port ∈ ports, NamesPort port) ∧
      path = "/devices/platform/soc/".toList ++ line ++ "dwc3/xhci-hcd.".toList ++ [unit] ++
        ".auto/usb".toList ++ [bus] ++ ['/'] ++ [hub] ++ ['-'] ++ [port] ++
        ports.flatMap ('/' :: ·)

theorem hostedDevice_iff {path : List Char} : hostedDevice path = true ↔ HostedPath path := by
  simp only [hostedDevice, fixed_iff, anything_iff, digit_iff, portChain_iff]
  constructor
  · rintro ⟨_, rfl, line, _, rfl, clean, _, rfl, unit, _, rfl, unitDigit, _, rfl, bus, _, rfl,
      busDigit, _, rfl, hub, _, rfl, hubDigit, _, rfl, port, _, rfl, portDigit, ports, named,
      rfl⟩
    refine ⟨line, unit, bus, hub, port, ports, clean, ?_, named, by simp⟩
    simp [unitDigit, busDigit, hubDigit, portDigit]
  · rintro ⟨line, unit, bus, hub, port, ports, clean, digits, named, rfl⟩
    have unitDigit := digits unit (by simp)
    have busDigit := digits bus (by simp)
    have hubDigit := digits hub (by simp)
    have portDigit := digits port (by simp)
    exact ⟨_, by simp, line, _, rfl, clean, _, rfl, unit, _, rfl, unitDigit, _, rfl, bus, _,
      rfl, busDigit, _, rfl, hub, _, rfl, hubDigit, _, rfl, port, _, rfl, portDigit, ports,
      named, rfl⟩

end UsbTypeC.Uevent
