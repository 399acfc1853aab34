import LineDebugger.Text.Numeral
import LineDebugger.Text.Printable

namespace LineDebugger
namespace Text

/-!
# Quoted text in diagnostics

A diagnostic shows a text between double quotes, in such a way that every character can
be told: backslashes and double quotes are escaped, the four usual controls have escapes
of one letter, and any other character that does not show is given by its code point.
-/

/-- How one character appears inside the quotes.  A single quote needs no escape. -/
def quotedChar (c : Char) : String :=
  match c with
  | '\x00' => "\\0"
  | '\t' => "\\t"
  | '\r' => "\\r"
  | '\n' => "\\n"
  | '\\' => "\\\\"
  | '"' => "\\\""
  | _ =>
      if isPrintable c then String.singleton c
      else "\\u\x7b" ++ Numeral.hex c.toNat ++ "\x7d"

/-- A text between double quotes. -/
def quoted (text : String) : String :=
  "\"" ++ String.join (text.toList.map quotedChar) ++ "\""

end Text
end LineDebugger
