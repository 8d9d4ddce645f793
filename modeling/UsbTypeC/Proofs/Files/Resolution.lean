import UsbTypeC.Proofs.Files.Unlinked

/-! Where steps lead, told by rules, one for each kind of step, that also count the links which
are followed. A walk finds what the rules say as long as it may follow so many links. From the
rules it is plain that steps lead to one place at most, and that some of them can be taken
before the others. -/

namespace UsbTypeC.Tree

/-- A step that goes by a name, and by none that is too long. -/
structure IsNameStep (step : String) : Prop where
  notHere : step ≠ "."
  notAbove : step ≠ ".."
  short : step.utf8ByteSize ≤ longestName

/-- What comes of one step: how many links are followed, the next place, and the steps that are
to be taken from there before all others. -/
inductive Move (tree : Tree) (place : Location) :
    String → Nat → Location → List String → Prop where
  | stay : Move tree place "." 0 place []
  | rise : Move tree place ".." 0 place.tail []
  | enter {step : String} {node : Node} (name : IsNameStep step)
      (entry : tree.node? (.text step :: place) = some node) (solid : node.entryType ≠ .symlink) :
      Move tree place step 0 (.text step :: place) []
  | along {step : String} {target : Path} (name : IsNameStep step)
      (entry : tree.node? (.text step :: place) = some (.link target)) :
      Move tree place step 1 (target.start place) target.steps

/-- Steps lead from one place to another by way of a number of links. -/
inductive Leads (tree : Tree) : Nat → Location → List String → Location → Prop where
  | here (place : Location) : Leads tree 0 place [] place
  | move {place next location : Location} {step : String} {count links : Nat}
      {ahead steps : List String} (stands : tree.node? place = some .directory)
      (first : Move tree place step count next ahead)
      (further : Leads tree links next (ahead ++ steps) location) :
      Leads tree (count + links) place (step :: steps) location

variable {tree : Tree} {links limit count : Nat} {place next location : Location}
variable {step : String} {ahead steps : List String}

/-- A walk makes a move if it may follow the link that there may be. -/
theorem Move.walk_eq (move : tree.Move place step count next ahead)
    (stands : tree.node? place = some .directory) (limit : Nat) (steps : List String) :
    tree.walk limit place (step :: steps) =
      if count ≤ limit then tree.walk (limit - count) next (ahead ++ steps)
      else .error .filesystemLoop := by
  cases move with
  | along name entry =>
      cases limit with
      | zero =>
          rw [walk, descend, stands]
          dsimp only
          rw [if_neg name.notHere, if_neg name.notAbove, if_neg (Nat.not_lt.mpr name.short), entry]
          rfl
      | succ limit =>
          rw [walk, descend, stands]
          dsimp only
          rw [if_neg name.notHere, if_neg name.notAbove, if_neg (Nat.not_lt.mpr name.short), entry]
          exact (if_pos (Nat.le_add_left 1 limit)).symm
  | stay =>
      rcases tree.walk_eq_descend limit with ⟨follow, self⟩
      rw [if_pos (Nat.zero_le limit), Nat.sub_zero, self, descend, stands]
      exact if_pos rfl
  | rise =>
      have other : ".." ≠ "." := by decide
      rcases tree.walk_eq_descend limit with ⟨follow, self⟩
      rw [if_pos (Nat.zero_le limit), Nat.sub_zero, self, descend, stands]
      exact (if_neg other).trans (if_pos rfl)
  | @enter step node name entry solid =>
      rcases tree.walk_eq_descend limit with ⟨follow, self⟩
      rw [if_pos (Nat.zero_le limit), Nat.sub_zero, self, descend, stands]
      dsimp only
      rw [if_neg name.notHere, if_neg name.notAbove, if_neg (Nat.not_lt.mpr name.short), entry]
      cases node with
      | link target => exact absurd rfl solid
      | _ => rfl

/-- A walk comes to where the steps lead, unless it may not follow so many links. -/
theorem Leads.walk_eq (leads : tree.Leads links place steps location) (limit : Nat) :
    tree.walk limit place steps =
      if links ≤ limit then .ok location else .error .filesystemLoop := by
  induction leads generalizing limit with
  | here place =>
      rcases tree.walk_eq_descend limit with ⟨follow, self⟩
      rw [self, descend, if_pos (Nat.zero_le limit)]
  | @move _ _ _ _ count links _ _ stands first further induction =>
      rw [first.walk_eq stands, induction]
      by_cases few : count ≤ limit
      · have rest : links ≤ limit - count ↔ count + links ≤ limit := by omega
        rw [if_pos few]
        simp only [rest]
      · have many : ¬ count + links ≤ limit := by omega
        rw [if_neg few, if_neg many]

theorem leads_of_descend {follow : Location → List String → Except Fault Location}
    (along : ∀ place steps, follow place steps = .ok location →
      ∃ links, 1 + links ≤ limit ∧ tree.Leads links place steps location)
    (arrived : tree.descend follow place steps = .ok location) :
    ∃ links ≤ limit, tree.Leads links place steps location := by
  induction steps generalizing place with
  | nil =>
      cases arrived
      exact ⟨0, Nat.zero_le limit, .here _⟩
  | cons step rest induction =>
      have plain {next : Location} (stands : tree.node? place = some .directory)
          (move : tree.Move place step 0 next [])
          (arrived : tree.descend follow next rest = .ok location) :
          ∃ links ≤ limit, tree.Leads links place (step :: rest) location := by
        rcases induction arrived with ⟨links, few, further⟩
        exact ⟨0 + links, by omega, .move stands move further⟩
      rw [descend] at arrived
      split at arrived
      · cases arrived
      · next stands =>
        split at arrived
        · next here => exact plain stands (here ▸ .stay) arrived
        · next notHere =>
          split at arrived
          · next above => exact plain stands (above ▸ .rise) arrived
          · next notAbove =>
            split at arrived
            · cases arrived
            · next short =>
              have name : IsNameStep step := ⟨notHere, notAbove, Nat.not_lt.mp short⟩
              split at arrived
              · cases arrived
              · next target entry =>
                rcases along _ _ arrived with ⟨links, few, further⟩
                exact ⟨1 + links, few, .move stands (.along name entry) further⟩
              · next node other entry =>
                have solid : node.entryType ≠ .symlink := by
                  cases node with
                  | link target => exact absurd rfl (other target)
                  | _ => exact fun same => by cases same
                exact plain stands (.enter name entry solid) arrived
      · cases arrived

theorem leads_of_walk (arrived : tree.walk limit place steps = .ok location) :
    ∃ links ≤ limit, tree.Leads links place steps location := by
  induction limit generalizing place steps with
  | zero =>
      apply leads_of_descend _ arrived
      exact fun _ _ refused => by cases refused
  | succ limit induction =>
      apply leads_of_descend _ arrived
      intro place steps arrived
      rcases induction arrived with ⟨links, few, leads⟩
      exact ⟨links, by omega, leads⟩

namespace Leads

variable {more : Nat} {between last : Location} {onwards : List String}

/-- Steps lead to one place, and along the same links. -/
theorem unique (first : tree.Leads links place steps location)
    (second : tree.Leads more place steps last) : links = more ∧ location = last := by
  -- There is one walk for each limit, and the limits that tell are the two numbers themselves.
  have either (limit : Nat) := (first.walk_eq limit).symm.trans (second.walk_eq limit)
  have enough := either links
  have enoughMore := either more
  rw [if_pos (Nat.le_refl _)] at enough enoughMore
  split at enough
  · next fewer =>
    split at enoughMore
    · next few => exact ⟨Nat.le_antisymm few fewer, Except.ok.inj enough⟩
    · cases enoughMore
  · cases enough

theorem trans (first : tree.Leads links place steps between)
    (second : tree.Leads more between onwards last) :
    tree.Leads (links + more) place (steps ++ onwards) last := by
  induction first with
  | here place => rwa [Nat.zero_add]
  | move stands move further induction =>
      have whole := induction second
      rw [List.append_assoc] at whole
      rw [Nat.add_assoc]
      exact .move stands move whole

/-- Where some steps come first, the others are taken from where these lead. -/
theorem split {whole : List String} (leads : tree.Leads links place whole last)
    (cut : whole = steps ++ onwards) :
    ∃ first second between, links = first + second ∧ tree.Leads first place steps between ∧
      tree.Leads second between onwards last := by
  induction leads generalizing steps with
  | here place =>
      rcases List.append_eq_nil_iff.mp cut.symm with ⟨rfl, rfl⟩
      exact ⟨0, 0, place, rfl, .here place, .here place⟩
  | @move place next last step count links ahead rest stands move further induction =>
      cases steps with
      | nil =>
          rw [List.nil_append] at cut
          exact ⟨0, _, place, (Nat.zero_add _).symm, .here place, cut ▸ .move stands move further⟩
      | cons _ steps =>
          rcases List.cons.inj cut with ⟨rfl, rfl⟩
          -- What a link puts ahead counts as part of the first steps.
          rcases induction (List.append_assoc _ _ _).symm with
            ⟨first, second, between, rfl, before, after⟩
          exact ⟨count + first, second, between, (Nat.add_assoc _ _ _).symm,
            .move stands move before, after⟩

end Leads

end UsbTypeC.Tree
