import UsbTypeC.Proofs.Supervisor.Handshake

/-! The course of a run. A run is a list of moments, at each of which one request is served or
one switch comes to its end; the steps that are served while a switch waits are moments of
their own. The state of each moment is what the moment before it has left, but for the request
that makes a switch wait, so whatever every moment hands on to the next holds along the run. -/

namespace UsbTypeC

/-- Something that is done, and the state in which it is done. A switch counts when its
outcome is known. -/
inductive Moment where
  | served (state : Supervisor) (step : Step)
  | switched (state : Supervisor) (port : PortName) (role : Role) (answer : Answer)

def Moment.state : Moment → Supervisor
  | .served state _ => state
  | .switched state _ _ _ => state

namespace RoleChange

/-- A switch whose request is written comes to waiting, whatever becomes of it. -/
theorem meanwhile_mode_of_ok {α : Type u} {files requested : Files} {port : PortName}
    {chosen : PortMode}
    (written : files.overwrite (files.controlPath port .mode) (Role.mode chosen).control =
      .ok requested) (meanwhile : Files → Handshake → Files × Handshake × α) :
    (mode (.unwritten files) port chosen meanwhile).meanwhile =
      some (meanwhile requested .awaiting).2.2 := by
  rw [mode_of_ok written]
  rcases meanwhile requested .awaiting with ⟨waited, partner, happened⟩
  cases partner <;> rfl

end RoleChange

theorem Outcome.ofResult_map (result : Except Error α) (answer : α → β) :
    Outcome.ofResult (result.map answer) = Outcome.ofResult result := by
  cases result <;> rfl

namespace Supervisor

def stepMoments (state : Supervisor) : List Step → List Moment
  | [] => []
  | step :: rest => .served state step :: (state.step step).1.stepMoments rest

/-- The files with the request of a mode written into them, which makes a switch wait. -/
def requested? (state : Supervisor) (port : PortName) : Role → Option Files
  | .mode mode =>
      (state.files.overwrite (state.files.controlPath port .mode)
        (Role.mode mode).control).toOption
  | _ => none

def switchMoments (state : Supervisor) (port : PortName) (role : Role)
    (meanwhile : List Step) : List Moment :=
  let answer := (state.switchPort port role meanwhile).2.answer
  match state.requested? port role with
  | some requested =>
      let waiting := state.waiting requested
      waiting.stepMoments meanwhile ++ [.switched (waiting.steps meanwhile).1 port role answer]
  | none => [.switched state port role answer]

/-- A request with a name that is no name of a port is refused before anything is done. -/
def operationMoments (state : Supervisor) : Operation → List Moment
  | .step step => [.served state step]
  | .requestRole port role meanwhile =>
      match PortName.of port with
      | .ok port => state.switchMoments port role meanwhile
      | .error _ => []

def moments (state : Supervisor) : List Operation → List Moment
  | [] => []
  | operation :: rest =>
      state.operationMoments operation ++ (state.operate operation).1.moments rest

theorem operationMoments_text (state : Supervisor) (port : PortName) (role : Role)
    (meanwhile : List Step) :
    state.operationMoments (.requestRole port.text role meanwhile) =
      state.switchMoments port role meanwhile := by
  have named : PortName.of port.text = .ok port := dif_pos port.valid
  rw [operationMoments, named]

theorem switchMoments_mode_of_ok {state : Supervisor} {port : PortName} {mode : PortMode}
    {requested : Files}
    (written : state.files.overwrite (state.files.controlPath port .mode)
      (Role.mode mode).control = .ok requested) (meanwhile : List Step) :
    state.switchMoments port (.mode mode) meanwhile =
      (state.waiting requested).stepMoments meanwhile ++
        [.switched ((state.waiting requested).steps meanwhile).1 port (.mode mode)
          (state.switchPort port (.mode mode) meanwhile).2.answer] := by
  rw [switchMoments, requested?, written]
  rfl

/-- What happens during a switch is what happens while it waits, if it comes to waiting. -/
theorem meanwhile_run (state : Supervisor) (port : PortName) (role : Role)
    (meanwhile : List Step) :
    (RoleChange.run state.files state.partner port role (state.serving meanwhile)).meanwhile =
      (state.requested? port role).map fun requested =>
        (state.waiting requested).steps meanwhile := by
  cases role with
  | mode chosen =>
      rw [RoleChange.run_mode, requested?]
      cases attempt : state.files.overwrite (state.files.controlPath port .mode)
          (Role.mode chosen).control with
      | error error =>
          rw [RoleChange.mode_of_error attempt]
          rfl
      | ok requested => exact RoleChange.meanwhile_mode_of_ok attempt (state.serving meanwhile)
  | _ => rfl

/-- From one state to another by way of moments. -/
inductive Course : Supervisor → List Moment → Supervisor → Prop where
  | ended (state : Supervisor) : Course state [] state
  | served {state last : Supervisor} {step : Step} {moments : List Moment}
      (rest : Course (state.step step).1 moments last) :
      Course state (.served state step :: moments) last
  | waits {state last : Supervisor} {moments : List Moment} (requested : Files)
      (rest : Course (state.waiting requested) moments last) : Course state moments last
  | switched {state last : Supervisor} {port : PortName} {role : Role} {answer : Answer}
      {moments : List Moment} (files : Files) (partner : Handshake)
      (rest : Course ({ state with files, partner, switching := false }.tellSwitch port role
        (.ofResult answer)) moments last) :
      Course state (.switched state port role answer :: moments) last

namespace Course

variable {state between last : Supervisor} {moments further : List Moment}

theorem trans (first : Course state moments between) (second : Course between further last) :
    Course state (moments ++ further) last := by
  induction first with
  | ended state => exact second
  | served rest induction => exact .served (induction second)
  | waits requested rest induction => exact .waits requested (induction second)
  | switched files partner rest induction => exact .switched files partner (induction second)

/-- What each moment hands on to the next holds at every moment, told from those before it,
and at the end. -/
theorem along {Fits : Moment → Prop} {Holds : Supervisor → List Moment → Prop}
    (step : ∀ {state earlier step}, Fits (.served state step) → Holds state earlier →
      Holds (state.step step).1 (earlier ++ [.served state step]))
    (wait : ∀ {state earlier} (requested : Files), Holds state earlier →
      Holds (state.waiting requested) earlier)
    (switch : ∀ {state earlier} (port : PortName) (role : Role) (answer : Answer)
      (files : Files) (partner : Handshake), Holds state earlier →
      Holds ({ state with files, partner, switching := false }.tellSwitch port role
        (.ofResult answer)) (earlier ++ [.switched state port role answer]))
    (course : Course state moments last) (fits : ∀ moment ∈ moments, Fits moment)
    {earlier : List Moment} (start : Holds state earlier) :
    (∀ before moment later, moments = before ++ moment :: later →
        Holds moment.state (earlier ++ before)) ∧
      Holds last (earlier ++ moments) := by
  induction course generalizing earlier with
  | ended state =>
      refine ⟨?_, ?_⟩
      · intro before moment later impossible
        simp at impossible
      · rwa [List.append_nil]
  | waits requested rest induction => exact induction fits (wait requested start)
  | @served state last asked moments rest induction =>
      have next := step (fits _ List.mem_cons_self) start
      have later := induction (fun moment mem => fits moment (List.mem_cons_of_mem _ mem)) next
      exact cons start later
  | @switched state last port role answer moments files partner rest induction =>
      have next := switch port role answer files partner start
      have later := induction (fun moment mem => fits moment (List.mem_cons_of_mem _ mem)) next
      exact cons start later
where
  /-- A first moment in front of those behind it. -/
  cons {Holds : Supervisor → List Moment → Prop} {first : Moment} {moments earlier : List Moment}
      {last : Supervisor} (start : Holds first.state earlier)
      (later : (∀ before moment after, moments = before ++ moment :: after →
          Holds moment.state (earlier ++ [first] ++ before)) ∧
        Holds last (earlier ++ [first] ++ moments)) :
      (∀ before moment after, first :: moments = before ++ moment :: after →
          Holds moment.state (earlier ++ before)) ∧
        Holds last (earlier ++ first :: moments) := by
    rw [List.append_cons]
    refine ⟨?_, later.2⟩
    intro before moment after cut
    cases before with
    | nil =>
        cases cut
        rwa [List.append_nil]
    | cons other before =>
        cases cut
        rw [List.append_cons]
        exact later.1 before moment after rfl

end Course

theorem course_steps (state : Supervisor) (steps : List Step) :
    Course state (state.stepMoments steps) (state.steps steps).1 := by
  induction steps generalizing state with
  | nil => exact .ended state
  | cons step rest induction => exact .served (induction (state.step step).1)

theorem course_switchPort (state : Supervisor) (port : PortName) (role : Role)
    (meanwhile : List Step) :
    Course state (state.switchMoments port role meanwhile)
      (state.switchPort port role meanwhile).1 := by
  have waited := meanwhile_run state port role meanwhile
  have told : (state.switchPort port role meanwhile).2.answer =
      (RoleChange.run state.files state.partner port role
        (state.serving meanwhile)).result.map fun _ => .nothing := rfl
  rw [switchMoments]
  dsimp only
  rw [told]
  rw [switchPort_eq_ending, ending]
  rw [waited]
  rw [← Outcome.ofResult_map _ fun _ => Reply.nothing]
  cases state.requested? port role with
  | none => exact .switched _ _ (.ended _)
  | some requested =>
      have waiting := course_steps (state.waiting requested) meanwhile
      exact .waits requested (waiting.trans (.switched _ _ (.ended _)))

theorem course_operate (state : Supervisor) (operation : Operation) :
    Course state (state.operationMoments operation) (state.operate operation).1 := by
  cases operation with
  | step step => exact .served (.ended _)
  | requestRole port role meanwhile =>
      simp only [operationMoments, operate, requestRole]
      cases PortName.of port with
      | error error => exact .ended state
      | ok port => exact course_switchPort state port role meanwhile

theorem course_run (state : Supervisor) (operations : List Operation) :
    Course state (state.moments operations) (state.run operations).1 := by
  induction operations generalizing state with
  | nil => exact .ended state
  | cons operation rest induction =>
      exact (course_operate state operation).trans (induction (state.operate operation).1)

end Supervisor

end UsbTypeC
