import LineDebugger.Decimal.Layout
import LineDebugger.Text.Quoted

namespace LineDebugger
namespace Json

/-!
# Data and their two texts

A datum is what a record looks like from outside: named fields, lists, numbers, texts,
and alternatives told apart by a name.  It has two texts.  The compact JSON text can be
read back.  The diagnostic text names every record and alternative, which JSON does not.
-/

/-- A record or a part of one. -/
inductive Datum where
  | integer (value : Int)
  | single (bits : UInt32)
  | double (bits : UInt64)
  | boolean (value : Bool)
  | text (value : String)
  | list (items : List Datum)
  | record (name : String) (fields : List (String × Datum))
  /-- An alternative without content, written as its name. -/
  | choice (name : String)
  /-- An alternative with fields; JSON has its name as a field of its own. -/
  | tagged (name : String) (fields : List (String × Datum))
  /-- An alternative that JSON shows by its content alone. -/
  | wrapped (name : String) (content : Datum)
  /-- An alternative without content that JSON shows as null. -/
  | absent (name : String)

namespace Datum

/-! ## Compact JSON -/

/-- How one character appears in a JSON text.  Only quotes, backslashes and controls are
escaped. -/
def jsonChar (c : Char) : String :=
  if c = '"' then "\\\""
  else if c = '\\' then "\\\\"
  else if c = '\x08' then "\\b"
  else if c = '\x0c' then "\\f"
  else if c = '\n' then "\\n"
  else if c = '\r' then "\\r"
  else if c = '\t' then "\\t"
  else if c.toNat < 0x20 then "\\u" ++ Text.Numeral.paddedHex 4 c.toNat
  else String.singleton c

/-- A JSON text. -/
def jsonText (text : String) : String :=
  "\"" ++ String.join (text.toList.map jsonChar) ++ "\""

/-- The field that names an alternative. -/
def tagField : String := "type"

/-- The layout of floating-point numbers of 64 bits in JSON. -/
def doubleLayout : Decimal.Layout :=
  { Decimal.exchange with positional := fun exponent => -5 ≤ exponent && exponent ≤ 15 }

mutual

/-- The compact JSON text of a datum: no spaces, fields in the order given. -/
def compact : Datum -> String
  | .integer value => toString value
  | .single bits => Decimal.exchange.text .single bits.toNat
  | .double bits => doubleLayout.text .double bits.toNat
  | .boolean value => if value then "true" else "false"
  | .text value => jsonText value
  | .list items => "[" ++ compactItems items ++ "]"
  | .record _ fields => "\x7b" ++ compactFields fields ++ "\x7d"
  | .choice name => jsonText name
  | .tagged name fields =>
      "\x7b" ++ jsonText tagField ++ ":" ++ jsonText name
        ++ (if fields.isEmpty then "" else ",") ++ compactFields fields ++ "\x7d"
  | .wrapped _ content => compact content
  | .absent _ => "null"

/-- Items with commas between them. -/
def compactItems : List Datum -> String
  | [] => ""
  | [item] => compact item
  | item :: others => compact item ++ "," ++ compactItems others

/-- Fields with commas between them. -/
def compactFields : List (String × Datum) -> String
  | [] => ""
  | [(name, value)] => jsonText name ++ ":" ++ compact value
  | (name, value) :: others =>
      jsonText name ++ ":" ++ compact value ++ "," ++ compactFields others

end

/-! ## Diagnostics -/

mutual

/-- The diagnostic text of a datum. -/
def diagnostic : Datum -> String
  | .integer value => toString value
  | .single bits => Decimal.diagnostic.text .single bits.toNat
  | .double bits => Decimal.diagnostic.text .double bits.toNat
  | .boolean value => if value then "true" else "false"
  | .text value => Text.quoted value
  | .list items => "[" ++ diagnosticItems items ++ "]"
  | .record name fields | .tagged name fields =>
      if fields.isEmpty then name
      else name ++ " \x7b " ++ diagnosticFields fields ++ " \x7d"
  | .choice name | .absent name => name
  | .wrapped name content => name ++ "(" ++ diagnostic content ++ ")"

/-- Items with commas between them. -/
def diagnosticItems : List Datum -> String
  | [] => ""
  | [item] => diagnostic item
  | item :: others => diagnostic item ++ ", " ++ diagnosticItems others

/-- Fields with commas between them. -/
def diagnosticFields : List (String × Datum) -> String
  | [] => ""
  | [(name, value)] => name ++ ": " ++ diagnostic value
  | (name, value) :: others =>
      name ++ ": " ++ diagnostic value ++ ", " ++ diagnosticFields others

end

end Datum
end Json
end LineDebugger
