import UsbTypeC.Usb.Autosuspend
import UsbTypeC.Usb.PowerOverride
import UsbTypeC.Port.Name

/-! What the supervisor is told about the device it runs on. Times are in
milliseconds. -/

namespace UsbTypeC

structure Configuration where
  root : Path
  primaryPort : PortName
  attachTimeout : Nat
  hostSettleTime : Nat
  gadget : Gadget
  contaminantFiles : List Path
  autosuspend : Autosuspend
  deriving DecidableEq, Repr

def unpluggedHeadsetAdapter : DeviceId where
  vendor := 0x18d1
  product := 0x5029

/-- The candidates for the contaminant state are given in order of preference. -/
def Configuration.default : Configuration where
  root := ⟨"/"⟩
  primaryPort := .port0
  attachTimeout := 8000
  hostSettleTime := 1000
  gadget := { directory := ⟨"config/usb_gadget/g1"⟩, configuration := "b.1" }
  contaminantFiles := [
    ⟨"sys/class/power_supply/usb/moisture_detected"⟩,
    ⟨"sys/class/qcom-battery/moisture_detection_status"⟩,
    ⟨"sys/bus/iio/devices/iio:device4/in_index_usb_moisture_detected_input"⟩]
  autosuspend := { allowed := [unpluggedHeadsetAdapter], classReads := 3 }

end UsbTypeC
