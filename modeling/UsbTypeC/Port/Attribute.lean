import UsbTypeC.Files.Root
import UsbTypeC.Port.Name
import UsbTypeC.Port.Role
import UsbTypeC.Text.Selected

/-! The files of a port. They lie in the directory of the port's name, below the
directory of all Type-C ports; what is attached to the port has a directory of
its own beside it. -/

namespace UsbTypeC

def portsDirectory : Path := ⟨"sys/class/typec"⟩

namespace PortName

def directory (port : PortName) : Path :=
  portsDirectory.join port.text

def partnerDirectory (port : PortName) : Path :=
  portsDirectory.join port.partner

def attributePath (port : PortName) (name : String) : Path :=
  port.directory.join name

def partnerAttributePath (port : PortName) (name : String) : Path :=
  port.partnerDirectory.join name

end PortName

namespace Files

/-- A mode is switched through `port_type`. Controllers that do not provide it
switch the mode through the data role. -/
def controlPath (files : Files) (port : PortName) : RoleKind → Path
  | .power => port.attributePath "power_role"
  | .data => port.attributePath "data_role"
  | .mode =>
      if files.has (port.attributePath "port_type") then port.attributePath "port_type"
      else port.attributePath "data_role"

/-- The selected choice of an attribute. -/
def readSelected (files : Files) (path : Path) : Except Error String :=
  (files.readValue path).map selected

def role (files : Files) (port : PortName) (kind : RoleKind) : Except Error String :=
  files.readSelected (files.controlPath port kind)

def powerOperationMode (files : Files) (port : PortName) : Except Error String :=
  files.readValue (port.attributePath "power_operation_mode")

def partnerPresent (files : Files) (port : PortName) : Bool :=
  files.has port.partnerDirectory

def accessoryMode (files : Files) (port : PortName) : Except Error String :=
  files.readValue (port.partnerAttributePath "accessory_mode")

/-- The attribute says `yes` or `no`, and its first letter decides. -/
def supportsPowerDelivery (files : Files) (port : PortName) : Except Error Bool :=
  (files.readValue (port.partnerAttributePath "supports_usb_power_delivery")).map
    fun text => text.toList.head? == some 'y'

end Files

end UsbTypeC
