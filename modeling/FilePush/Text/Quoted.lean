import FilePush.Text.Numeral
import FilePush.Text.Property
import FilePush.Text.Utf8

/-!
# Quoted text

Names that come from outside are shown in double quotes, so that what is shown has visible bounds
and no character of it acts on the terminal.  Whatever is invisible or could be mistaken is written
as an escape.
-/

namespace FilePush

namespace Quoted

/-- A character inside quotes: itself, or its escape. -/
def char (char : Char) : String :=
  match char with
  | '\x00' => "\\0"
  | '\t' => "\\t"
  | '\n' => "\\n"
  | '\r' => "\\r"
  | '\"' => "\\\""
  | '\\' => "\\\\"
  | char =>
      if Text.isCombining char || !Text.isPrintable char then
        "\\u\x7b" ++ Numeral.hex 1 char.toNat ++ "\x7d"
      else char.toString

/-- A text in quotes. -/
def text (text : String) : String :=
  "\"" ++ String.join (text.toList.map char) ++ "\""

/-- A byte string in quotes: the text it encodes, and every ill-formed byte as an escape. -/
def bytes (bytes : Bytes) : String :=
  let pieces := (Utf8.segments bytes).map fun
    | .scalar scalar => char scalar
    | .broken bad => String.join (bad.map fun byte => "\\x" ++ Numeral.upperByte byte)
  "\"" ++ String.join pieces ++ "\""

end Quoted

end FilePush
