import UsbTypeC.Supervisor.Operation
import UsbTypeC.Report.EventLog
import UsbTypeC.Report.StatusTree
import UsbTypeC.Text.Numeral

/-! The command line: what it asks for, and what it prints. Options may stand
anywhere, and win over the environment. -/

namespace UsbTypeC

inductive Command where
  | serve
  | status (detail : StatusDetail)
  | requestRole (port : String) (kind : RoleKind) (role : String)
  deriving DecidableEq, Repr

/-- A command together with its options. -/
structure Invocation where
  root : String
  timeout : Nat
  primaryPort : PortName
  propertiesInMemory : Bool
  command : Command
  deriving DecidableEq, Repr

/-- Where a command runs. The system's own properties are there unless the command
line asks for properties that live in memory. -/
structure Surroundings where
  tree : Tree
  workingDirectory : Location
  environment : List (String × String)
  platformProperties : Properties
  colored : Bool

/-- What a command leaves behind. -/
structure Printed where
  exitCode : Nat
  output : String
  errors : String
  tree : Tree

namespace Invocation

def rootVariable : String := "TYPEC_HAL_SYSROOT"

def timeoutVariable : String := "TYPEC_HAL_TIMEOUT_MS"

def primaryPortVariable : String := "TYPEC_HAL_PRIMARY_PORT"

structure Words where
  options : List (String × String)
  flags : List String
  words : List String

def optionNames : List String :=
  ["--sysroot", "--timeout-ms", "--primary-port", "--shape"]

def flagNames : List String :=
  ["--memory-props"]

def assignment? (argument : String) : Option (String × String) :=
  match pieces '=' argument.toList with
  | name :: value :: rest =>
      if String.ofList name ∈ optionNames then
        some (String.ofList name, "=".intercalate ((value :: rest).map String.ofList))
      else none
  | _ => none

/-- Sorting the arguments into options with a value, flags and words. -/
def split : List String → Except String Words
  | [] => .ok { options := [], flags := [], words := [] }
  | [argument] =>
      if argument ∈ optionNames then .error (argument ++ " needs a value")
      else if argument ∈ flagNames then
        .ok { options := [], flags := [argument], words := [] }
      else match assignment? argument with
        | some assignment => .ok { options := [assignment], flags := [], words := [] }
        | none => .ok { options := [], flags := [], words := [argument] }
  | argument :: next :: rest =>
      if argument ∈ optionNames then
        (split rest).map fun words =>
          { words with options := (argument, next) :: words.options }
      else if argument ∈ flagNames then
        (split (next :: rest)).map fun words =>
          { words with flags := argument :: words.flags }
      else match assignment? argument with
        | some assignment =>
            (split (next :: rest)).map fun words =>
              { words with options := assignment :: words.options }
        | none =>
            (split (next :: rest)).map fun words =>
              { words with words := argument :: words.words }

def value? (words : Words) (environment : List (String × String))
    (option fallback : String) : Option String :=
  (words.options.lookup option).or (environment.lookup fallback)

def expected (value? : Option α) (problem : String) : Except String α :=
  match value? with
  | some value => .ok value
  | none => .error problem

def commandOf (words : Words) : Except String Command :=
  match words.words with
  | ["serve"] => .ok .serve
  | ["status"] =>
      match words.options.lookup "--shape" with
      | none => .ok (.status .contaminant)
      | some detail =>
          (expected (StatusDetail.ofName? detail) (quoted detail ++ " is not a status shape")).map
            .status
  | ["switch", port, kind, role] =>
      (expected (RoleKind.ofName? kind) (quoted kind ++ " is not a role type")).map
        fun kind => .requestRole port kind role
  | _ => .error "expected serve, status or switch PORT TYPE ROLE"

def ofArguments (arguments : List String) (environment : List (String × String)) :
    Except String Invocation := do
  let words ← split arguments
  let timeout ←
    match value? words environment "--timeout-ms" timeoutVariable with
    | none => .ok Configuration.default.attachTimeout
    | some text =>
        expected (numeralValue? 10 UInt64.size text) (quoted text ++ " is not a number")
  let primaryPort ←
    match value? words environment "--primary-port" primaryPortVariable with
    | none => .ok Configuration.default.primaryPort
    | some text => (PortName.of text).mapError Error.message
  let command ← commandOf words
  .ok {
    root := (value? words environment "--sysroot" rootVariable).getD "/"
    timeout
    primaryPort
    propertiesInMemory := words.flags.contains "--memory-props"
    command }

def configuration (invocation : Invocation) : Configuration :=
  { Configuration.default with
    root := ⟨invocation.root⟩
    primaryPort := invocation.primaryPort
    attachTimeout := invocation.timeout }

def properties (invocation : Invocation) (surroundings : Surroundings) : Properties :=
  if invocation.propertiesInMemory then .empty else surroundings.platformProperties

end Invocation

namespace Printed

def failure (surroundings : Surroundings) (tree : Tree) (message : String) : Printed where
  exitCode := 1
  output := ""
  errors :=
    Style.boldBrightRed.apply surroundings.colored "error:" ++ " " ++
      Style.brightRed.apply surroundings.colored message ++ "\n"
  tree := tree

end Printed

namespace Command

def logLines (state : Supervisor) : List String :=
  state.deliveries.flatMap fun delivery => EventLog.lines delivery.notification

/-- Serving registers an observer that logs what it is told, tells it the status
once, and lasts until it is ended from outside. -/
def serveUntilEnded (state : Supervisor) : Printed :=
  let served := (state.attach Observer.defaultDetail none).tellStatuses
  let lines := logLines served ++ ["Waiting for events...", "Shutting down"]
  { exitCode := 0
    output := ""
    errors := String.join (lines.map (· ++ "\n"))
    tree := served.detach.files.tree }

def showStatus (surroundings : Surroundings) (state : Supervisor) (detail : StatusDetail) :
    Printed :=
  match state.statuses detail with
  | .ok ports =>
      { exitCode := 0
        output := StatusTree.render surroundings.colored ports
        errors := ""
        tree := state.files.tree }
  | .error error => .failure surroundings state.files.tree error.message

def switchTo (surroundings : Surroundings) (state : Supervisor) (port : String)
    (role : Role) : Printed :=
  let (switched, ended) := state.requestRole port role []
  match ended.answer with
  | .ok _ =>
      { exitCode := 0
        output := Style.boldGreen.apply surroundings.colored "Switched" ++ " " ++ port ++ " " ++
          role.display ++ "\n"
        errors := ""
        tree := switched.files.tree }
  | .error error => .failure surroundings switched.files.tree error.message

def execute (surroundings : Surroundings) (state : Supervisor) : Command → Printed
  | .serve => serveUntilEnded state
  | .status detail => showStatus surroundings state detail
  | .requestRole port kind role =>
      match Role.ofName? kind role with
      | some role => switchTo surroundings state port role
      | none =>
          .failure surroundings state.files.tree
            (quoted role ++ " is not a " ++ kind.name ++ " role: " ++ Error.malformed.message)

/-- A command line from beginning to end. What is wrong with the arguments is told
before the files are looked at. -/
def run (surroundings : Surroundings) (arguments : List String) : Printed :=
  match Invocation.ofArguments arguments surroundings.environment with
  | .error problem => .failure surroundings surroundings.tree problem
  | .ok invocation =>
      match Supervisor.opened invocation.configuration (invocation.properties surroundings)
          surroundings.tree surroundings.workingDirectory with
      | .error error =>
          .failure surroundings surroundings.tree (invocation.root ++ ": " ++ error.message)
      | .ok state => execute surroundings state invocation.command

end Command

end UsbTypeC
