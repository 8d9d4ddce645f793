import UsbTypeC.Files.Attempt
import UsbTypeC.Port.Attribute

/-! Switching a role. A power or data role takes effect at once, and is read back
to make sure of it. A mode takes effect only when the partner attaches again, so a
mode switch waits for that, and puts the port back into dual role when it fails. -/

namespace UsbTypeC

/-- What is known about a partner that may attach. Only a mode switch waits for
one; whatever attached before it started to wait does not count. -/
inductive Handshake where
  | idle
  | awaiting
  | confirmed
  deriving DecidableEq, Repr

def Handshake.outcome : Handshake → Except Error Unit
  | .confirmed => .ok ()
  | _ => .error .noPartner

namespace RoleChange

/-- Requesting a role that takes effect at once, and reading it back. -/
def direct (recorded : RecordedFiles) (port : PortName) (role : Role) :
    RecordedFiles × Except Error Unit :=
  let path := recorded.files.controlPath port role.kind
  match recorded.overwrite path role.control with
  | (refused, .error error) => (refused, .error error)
  | (requested, .ok _) =>
      match requested.files.readSelected path with
      | .error error => (requested, .error error)
      | .ok actual =>
          if actual = role.control then (requested, .ok ())
          else (requested, .error (.roleNotTaken role.control actual))

/-- How a switch ended, with the record of the writes that it attempted itself. What
happened while it waited is absent if it never came to waiting. -/
structure Ended (α : Type u) extends RecordedFiles where
  partner : Handshake
  result : Except Error Unit
  meanwhile : Option α

/-- The control file is chosen once, before the request is written, and the
fallback goes to the same file. -/
def mode (recorded : RecordedFiles) (port : PortName) (mode : PortMode)
    (meanwhile : Files → Handshake → Files × Handshake × α) : Ended α :=
  let path := recorded.files.controlPath port .mode
  match recorded.overwrite path (Role.mode mode).control with
  | (refused, .error error) =>
      { refused.tryOverwrite path Role.dual with
        partner := .idle
        result := .error error
        meanwhile := none }
  | (requested, .ok _) =>
      let (files, partner, happened) := meanwhile requested.files .awaiting
      let waited := { requested with files }
      match partner.outcome with
      | .ok _ =>
          { waited with
            partner := .idle
            result := .ok ()
            meanwhile := some happened }
      | .error error =>
          { waited.tryOverwrite path Role.dual with
            partner := .idle
            result := .error error
            meanwhile := some happened }

/-- Changing a role of a port. Only a mode waits for a partner. -/
def run (files : Files) (partner : Handshake) (port : PortName) (role : Role)
    (meanwhile : Files → Handshake → Files × Handshake × α) : Ended α :=
  match role with
  | .mode chosen => mode (.unwritten files) port chosen meanwhile
  | _ =>
      let (recorded, result) := direct (.unwritten files) port role
      { recorded with partner, result, meanwhile := none }

end RoleChange

end UsbTypeC
