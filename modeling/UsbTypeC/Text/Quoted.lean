import UsbTypeC.Text.Unprintable

/-! Quoted texts, as messages show them. A quoted text stands in double quotes;
a quote or a backslash inside it follows a backslash, the four control
characters that have a letter are written with it, and every other character
without a picture is written as its code point in hexadecimal. -/

namespace UsbTypeC

/-- A character as it stands inside quotes. -/
def quotedCharacter (character : Char) : List Char :=
  if character = '"' then ['\\', '"']
  else if character = '\\' then ['\\', '\\']
  else if character = '\x00' then ['\\', '0']
  else if character = '\t' then ['\\', 't']
  else if character = '\r' then ['\\', 'r']
  else if character = '\n' then ['\\', 'n']
  else if isUnprintable character then
    ['\\', 'u', '\x7b'] ++ Nat.toDigits 16 character.toNat ++ ['\x7d']
  else [character]

def quoted (text : String) : String :=
  String.ofList ('"' :: (text.toList.flatMap quotedCharacter ++ ['"']))

end UsbTypeC
