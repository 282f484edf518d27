import FilePush.Text.Numeral

/-!
# Text on a terminal

A log is read on a terminal, which obeys control characters, and part of what a log says comes from
outside.  Text therefore goes there with its commands to the terminal spelled out.  Line feeds,
carriage returns and tabs stay, since they only lay out text.
-/

namespace FilePush

namespace Terminal

/-- The ASCII commands to a terminal: alert, backspace, form feed, escape and delete. -/
def asciiCommands : List Char := ['\x07', '\x08', '\x0C', '\x1B', '\x7F']

/-- Whether a character is one of the controls beyond ASCII, each of which is a command. -/
def isUpperControl (char : Char) : Bool := 0x80 ≤ char.toNat && char.toNat ≤ 0x9F

/-- A character for a terminal: itself, or the spelling of a command. -/
def char (char : Char) : String :=
  if asciiCommands.contains char then "\\x" ++ Numeral.hex 2 char.toNat
  else if isUpperControl char then "\\u\x7b" ++ Numeral.hex 2 char.toNat ++ "\x7d"
  else char.toString

/-- A text for a terminal. -/
def text (text : String) : String := String.join (text.toList.map char)

end Terminal

end FilePush
