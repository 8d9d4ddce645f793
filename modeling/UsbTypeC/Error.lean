import UsbTypeC.Fault
import UsbTypeC.Text.Quoted

/-! What can go wrong while ports are read or switched, and how it is told. -/

namespace UsbTypeC

/-- A fault of the file system, or something about a port that is not as it has to be. -/
inductive Error where
  | fault (cause : Fault)
  | malformed
  | badPortName (name : String)
  | noPartner
  | unknownRole (role : String)
  | roleNotTaken (expected actual : String)
  | noPortFound
  deriving DecidableEq, Repr

/-- Nothing is told of a read that never ends, since it is never answered. -/
def Error.message : Error → String
  | .fault .endless => ""
  | .fault cause => "I/O: " ++ cause.description
  | .malformed => "parse error"
  | .badPortName name => "invalid port name " ++ quoted name
  | .noPartner => "timed out waiting for a partner to attach"
  | .unknownRole role => "unrecognized role " ++ quoted role
  | .roleNotTaken expected actual =>
      "role reads back as " ++ quoted actual ++ " instead of " ++ quoted expected
  | .noPortFound => "no Type-C ports found"

end UsbTypeC
