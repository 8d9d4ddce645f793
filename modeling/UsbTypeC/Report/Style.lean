/-! Styled text for a terminal. A style is switched on in front of a text and off
behind it; a text that is not to be styled stays as it is. -/

namespace UsbTypeC

structure Style where
  codes : String
  deriving DecidableEq, Repr

namespace Style

def boldBrightRed : Style := ⟨"91;1"⟩

def brightRed : Style := ⟨"91"⟩

def boldGreen : Style := ⟨"32;1"⟩

def boldBrightGreen : Style := ⟨"92;1"⟩

def boldBlue : Style := ⟨"34;1"⟩

def bold : Style := ⟨"1"⟩

def boldYellow : Style := ⟨"33;1"⟩

def brightCyan : Style := ⟨"96"⟩

def magenta : Style := ⟨"35"⟩

def gray : Style := ⟨"90"⟩

/-- The text between the codes of the style and the code that ends every style. -/
def apply (style : Style) (colored : Bool) (text : String) : String :=
  if colored then "\x1b[" ++ style.codes ++ "m" ++ text ++ "\x1b[0m" else text

end Style

end UsbTypeC
