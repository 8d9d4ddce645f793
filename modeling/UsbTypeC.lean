import UsbTypeC.Text.Quoted
import UsbTypeC.Text.Utf8
import UsbTypeC.Text.Pieces
import UsbTypeC.Text.Numeral
import UsbTypeC.Text.Blank
import UsbTypeC.Text.DecimalDigit
import UsbTypeC.Text.WordCharacter
import UsbTypeC.Files.Root
import UsbTypeC.Files.Attempt
import UsbTypeC.Files.Edit
import UsbTypeC.Files.Change
import UsbTypeC.Files.Snapshot
import UsbTypeC.Port.Survey
import UsbTypeC.Supervisor.Operation
import UsbTypeC.Command
import UsbTypeC.PropertyTool
import UsbTypeC.Main
import UsbTypeC.Proofs.Port.Enumeration
import UsbTypeC.Proofs.Files.Outline
import UsbTypeC.Proofs.Files.Writing
import UsbTypeC.Proofs.Supervisor.Frame
import UsbTypeC.Proofs.Supervisor.Handshake
import UsbTypeC.Proofs.Supervisor.Footprint
import UsbTypeC.Proofs.Text.Utf8
import UsbTypeC.Proofs.Usb.PowerBudget
import UsbTypeC.Proofs.Supervisor.PowerHistory
import UsbTypeC.Proofs.Port.Survey
import UsbTypeC.Proofs.Port.Detail
import UsbTypeC.Proofs.Text.Pieces
import UsbTypeC.Proofs.Uevent.Pattern
import UsbTypeC.Proofs.Uevent.ControllerName
import UsbTypeC.Proofs.Uevent.Classification
import UsbTypeC.Proofs.Supervisor.Deliveries
import UsbTypeC.Proofs.Text.Utf8Reading
import UsbTypeC.Proofs.Files.Rewriting
import UsbTypeC.Proofs.Usb.DeliveryPeriod
import UsbTypeC.Proofs.Supervisor.Unwatched
import UsbTypeC.Proofs.Property
import UsbTypeC.Proofs.Supervisor.Course
import UsbTypeC.Proofs.Supervisor.DebugBridge
import UsbTypeC.Proofs.Supervisor.Failures
import UsbTypeC.Proofs.Files.LastName
import UsbTypeC.Proofs.Supervisor.Ownership
import UsbTypeC.Proofs.Port.Sight
import UsbTypeC.Proofs.Port.RoleRewriting
import UsbTypeC.Proofs.Supervisor.SwitchedRole
import UsbTypeC.Proofs.Files.Joining
import UsbTypeC.Proofs.Port.Listing
import UsbTypeC.Proofs.Files.Child
import UsbTypeC.Proofs.Port.Partner
import UsbTypeC.Proofs.Supervisor.IdlePorts
import UsbTypeC.Proofs.Supervisor.LostHost
import UsbTypeC.Proofs.Supervisor.SupplyEvents
import UsbTypeC.Proofs.Supervisor.DirectSwitch
import UsbTypeC.Proofs.Text.Numeral
import UsbTypeC.Proofs.Usb.Autosuspend
import UsbTypeC.Proofs.Usb.Admission
import UsbTypeC.Proofs.Files.Reordering
import UsbTypeC.Proofs.Files.Series
import UsbTypeC.Proofs.Usb.PlatformController
import UsbTypeC.Proofs.Usb.WakeupProbe
import UsbTypeC.Proofs.Text.Utf8Parts
import UsbTypeC.Proofs.Uevent.Message
import UsbTypeC.Proofs.Text.Joined
import UsbTypeC.Proofs.Report.StatusTree
import UsbTypeC.Proofs.Files.Unlinked
import UsbTypeC.Proofs.Port.OwnPaths
import UsbTypeC.Proofs.Supervisor.Confinement
import UsbTypeC.Proofs.Files.Resolution
import UsbTypeC.Proofs.Files.Canonical
import UsbTypeC.Proofs.Files.ClearWay
import UsbTypeC.Proofs.Files.RealPath
import UsbTypeC.Proofs.Text.Blank
import UsbTypeC.Proofs.Text.Selected
import UsbTypeC.Proofs.Files.Aliases
