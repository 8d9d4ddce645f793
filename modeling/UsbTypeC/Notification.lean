import UsbTypeC.Port.Status

/-! Telling an observer what happened. An observer says which detail of status it
understands. A notification that cannot be delivered is lost, and nobody is the
wiser for it but whoever looks at the record of deliveries. -/

namespace UsbTypeC

/-- Why a notification did not arrive. -/
structure DeliveryFailure where
  reason : String
  deriving DecidableEq, Repr

def DeliveryFailure.message (error : DeliveryFailure) : String :=
  "delivery failed: " ++ error.reason

structure Observer where
  number : Nat
  detail : StatusDetail
  failure : Option DeliveryFailure
  deriving DecidableEq, Repr

def Observer.defaultDetail : StatusDetail := .contaminant

inductive Notification where
  | statuses (ports : List PortStatus) (outcome : Outcome)
  | switched (port : PortName) (role : Role) (outcome : Outcome)
  deriving DecidableEq, Repr

/-- A notification on its way to an observer, and what kept it from arriving. -/
structure Delivery where
  observer : Observer
  notification : Notification
  failure : Option DeliveryFailure
  deriving DecidableEq, Repr

def Observer.deliver (observer : Observer) (notification : Notification) : Delivery where
  observer := observer
  notification := notification
  failure := observer.failure

end UsbTypeC
