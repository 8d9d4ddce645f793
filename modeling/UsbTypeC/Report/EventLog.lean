import UsbTypeC.Notification

/-! Notifications as lines of a log. -/

namespace UsbTypeC.EventLog

def powerRole : PowerRole → String
  | .source => "Source"
  | .sink => "Sink"

def dataRole : DataRole → String
  | .host => "Host"
  | .device => "Device"

def portMode : PortMode → String
  | .ufp => "Ufp"
  | .dfp => "Dfp"
  | .drp => "Drp"
  | .audioAccessory => "AudioAccessory"
  | .debugAccessory => "DebugAccessory"

def present (spelling : α → String) : Option α → String
  | some value => "Some(" ++ spelling value ++ ")"
  | none => "None"

def portLine (status : PortStatus) : String :=
  "  " ++ status.port.text ++
    ": connected:" ++ (if status.connected then "true" else "false") ++
    " power:" ++ present powerRole status.powerRole ++
    " data:" ++ present dataRole status.dataRole ++
    " mode:" ++ present portMode status.mode

def lines : Notification → List String
  | .statuses ports outcome =>
      ("Port status (" ++ outcome.name ++ "):") :: ports.map portLine
  | .switched port role outcome =>
      ["Role switch " ++ port.text ++ " " ++ role.display ++ ": " ++ outcome.name]

end UsbTypeC.EventLog
