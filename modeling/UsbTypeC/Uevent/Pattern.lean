import UsbTypeC.Text.DecimalDigit
import UsbTypeC.Text.Pieces
import UsbTypeC.Text.WordCharacter

/-! The shapes of the headers that are told apart by more than a word they hold.
Each matcher says whether a list of characters has a shape from its beginning to
its end; most are put together from what has to come first and a matcher for the
rest. -/

namespace UsbTypeC.Uevent

/-- Whether a whole list of characters has some shape. -/
abbrev Matcher := List Char → Bool

/-- A given text, and then the rest. -/
def fixed (text : String) (rest : Matcher) : Matcher := fun characters =>
  match withoutPrefix? text.toList characters with
  | some remaining => rest remaining
  | none => false

/-- One decimal digit of any script, and then the rest. -/
def digit (rest : Matcher) : Matcher
  | [] => false
  | head :: tail => isDecimalDigit head && rest tail

/-- Any characters of one line, as few or as many as needed. -/
def anything (rest : Matcher) : Matcher
  | [] => rest []
  | head :: tail => rest (head :: tail) || (head != '\n' && anything rest tail)

def oneLine : Matcher := fun characters =>
  !characters.contains '\n'

def isPortCharacter (character : Char) : Bool :=
  isDecimalDigit character || character == '.' || character == '-'

/-- The hubs and ports a device is plugged into, each after a slash. -/
def portChain : Matcher := fun characters =>
  match pieces '/' characters with
  | [] :: ports => ports.all fun port => !port.isEmpty && port.all isPortCharacter
  | _ => false

/-- Devices behind the host controller of the platform. -/
def hostedDevice : Matcher :=
  fixed "/devices/platform/soc/" <| anything <| fixed "dwc3/xhci-hcd." <| digit <|
    fixed ".auto/usb" <| digit <| fixed "/" <| digit <| fixed "-" <| digit portChain

def lostHost : Matcher :=
  fixed "/devices/platform/" <| anything <| fixed "dwc3/xhci-hcd." <| digit <|
    fixed ".auto/usb" oneLine

/-- The gadget's controller, whose name is taken as it is. -/
def gadgetController (controller : String) : Matcher :=
  fixed "/devices/platform/soc/" <| anything <| fixed "/" <| fixed controller <|
    fixed "/udc/" <| fixed controller List.isEmpty

/-- The device and the interface at the last slash of a path, if the interface is
named like one. -/
def interfaceOf? (path : List Char) : Option (List Char × List Char) :=
  let interface := (path.reverse.takeWhile (· != '/')).reverse
  match path.reverse.dropWhile (· != '/') with
  | _ :: device => if ':' ∈ interface then some (device.reverse, interface) else none
  | [] => none

/-! A controller is named by two words with one character between them, and its
name ends in `usb` before a slash, with the mark of the controller further on in
the same line. The first word is as long as it can be, so that the character after
it is no word character, unless this does not lead to the end of a name: then both
words and the character between them are parts of one longer word. -/

def word (characters : List Char) : List Char :=
  characters.takeWhile isWordCharacter

def afterWord (characters : List Char) : List Char :=
  characters.dropWhile isWordCharacter

def controllerEnd : Matcher :=
  fixed "/" <| anything <| fixed "dwc3" fun _ => true

/-- The last word of a name is long enough for what has to stand before `usb`. -/
def endsName (shortest : Nat) (lastWord rest : List Char) : Bool :=
  shortest ≤ lastWord.length && (withoutSuffix? "usb".toList lastWord).isSome &&
    controllerEnd rest

/-- The name whose words are kept apart by a character that belongs to neither. -/
def apart? (characters : List Char) : Option (List Char) :=
  match word characters, afterWord characters with
  | first :: more, between :: rest =>
      if between ≠ '\n' ∧ endsName 4 (word rest) (afterWord rest) then
        some (first :: more ++ between :: word rest)
      else none
  | _, _ => none

/-- The name that is one word as a whole. -/
def together? (characters : List Char) : Option (List Char) :=
  if endsName 6 (word characters) (afterWord characters) then some (word characters)
  else none

/-- The controller that a header names: the one after the first slash that is
followed by any. -/
def controller? : List Char → Option (List Char)
  | [] => none
  | head :: tail =>
      let here := if head = '/' then apart? tail <|> together? tail else none
      here <|> controller? tail

end UsbTypeC.Uevent
