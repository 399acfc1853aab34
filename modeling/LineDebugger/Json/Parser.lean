import LineDebugger.Json.Number
import LineDebugger.Text.Numeral

namespace LineDebugger
namespace Json

/-!
# Parsing

`Document.parse` makes a document of any text; what is wrong with the text is in the
document.  The parsers below return, beside what they found, the characters that follow,
or `none` if nothing that follows can be made out.
-/

/-- Characters that may stand between the parts of a document. -/
def isSpace (c : Char) : Bool := c = ' ' || c = '\n' || c = '\t' || c = '\r'

/-- The characters from the first that is no space. -/
def skipSpace (chars : List Char) : List Char := chars.dropWhile isSpace

/-! ## Texts -/

/-- The value of a hexadecimal digit. -/
def hexDigit? (c : Char) : Option Nat :=
  if '0' ≤ c && c ≤ '9' then some (c.toNat - '0'.toNat)
  else if 'a' ≤ c && c ≤ 'f' then some (c.toNat - 'a'.toNat + 10)
  else if 'A' ≤ c && c ≤ 'F' then some (c.toNat - 'A'.toNat + 10)
  else none

/-- The number that four hexadecimal digits write. -/
def hexUnit? (a b c d : Char) : Option Nat := do
  return ((← hexDigit? a) * 16 + (← hexDigit? b)) * 256 + (← hexDigit? c) * 16 + (← hexDigit? d)

/-- Why there is no escape of four digits: fewer than four bytes are left, or they are no
digits. -/
def shortUnitFault (rest : List Char) : Fault :=
  if rest.foldr (fun c size => c.utf8Size + size) 0 < 4 then .cutOff else .malformed

/-- The character that a letter after a backslash stands for. -/
def escapedChar? (c : Char) : Option Char :=
  if c = '"' ∨ c = '\\' ∨ c = '/' then some c
  else if c = 'b' then some '\x08'
  else if c = 'f' then some '\x0c'
  else if c = 'n' then some '\n'
  else if c = 'r' then some '\r'
  else if c = 't' then some '\t'
  else none

/-- Whether a UTF-16 unit is the first half of a pair. -/
def isLeading (unit : Nat) : Bool := 0xD800 ≤ unit && unit ≤ 0xDBFF

/-- Whether a UTF-16 unit is the second half of a pair. -/
def isTrailing (unit : Nat) : Bool := 0xDC00 ≤ unit && unit ≤ 0xDFFF

/-- Read a text after its opening quote.  Halves of pairs must come in pairs. -/
def readText : List Char -> Except Fault (List Char)
  | [] => .error .cutOff
  | first :: rest =>
      if first = '"' then .ok []
      else if first.toNat < 0x20 then .error .malformed
      else if first ≠ '\\' then (readText rest).map (first :: ·)
      else match rest with
        | [] => .error .cutOff
        | letter :: rest =>
            if letter = 'u' then
              match rest with
              | a :: b :: c :: d :: rest =>
                  match hexUnit? a b c d with
                  | none => .error .malformed
                  | some unit =>
                      if isTrailing unit then .error .malformed
                      else if isLeading unit then
                        match rest with
                        | [] => .error .cutOff
                        | [slash] => .error (if slash = '\\' then .cutOff else .malformed)
                        | slash :: u :: rest =>
                            if slash ≠ '\\' ∨ u ≠ 'u' then .error .malformed
                            else match rest with
                              | a :: b :: c :: d :: rest =>
                                  match hexUnit? a b c d with
                                  | none => .error .malformed
                                  | some low =>
                                      if isTrailing low then
                                        (readText rest).map (Char.ofNat
                                          (0x10000 + (unit - 0xD800) * 1024
                                            + (low - 0xDC00)) :: ·)
                                      else .error .malformed
                              | rest => .error (shortUnitFault rest)
                      else (readText rest).map (Char.ofNat unit :: ·)
              | rest => .error (shortUnitFault rest)
            else match escapedChar? letter with
              | some c => (readText rest).map (c :: ·)
              | none => .error .malformed

/-- Pass over a text after its opening quote, to what follows the closing quote. -/
def passText : List Char -> Except Fault (List Char)
  | [] => .error .cutOff
  | first :: rest =>
      if first = '"' then .ok rest
      else if first.toNat < 0x20 then .error .malformed
      else if first ≠ '\\' then passText rest
      else match rest with
        | [] => .error .cutOff
        | letter :: rest =>
            if letter = 'u' then
              match rest with
              | a :: b :: c :: d :: rest =>
                  if (hexUnit? a b c d).isSome then passText rest else .error .malformed
              | rest => .error (shortUnitFault rest)
            else if (escapedChar? letter).isSome then passText rest
            else .error .malformed

/-- The fault of a text, for a reader. -/
def textFault (chars : List Char) : Fault :=
  match readText chars with
  | .error fault => fault
  | .ok _ => .malformed

/-! ## Numbers -/

/-- The digits at the front, and what follows them. -/
def takeDigits : List Char -> List Nat × List Char
  | [] => ([], [])
  | c :: rest =>
      match Text.Numeral.digit? c with
      | some digit =>
          let (digits, rest) := takeDigits rest
          (digit :: digits, rest)
      | none => ([], c :: rest)

/-- A numeral with what follows it, or why there is none, for a reader and for somebody
who passes over it. -/
abbrev NumeralScan : Type := Except (Fault × Fault) (Numeral × List Char)

/-- The fault of digits that are missing: for a reader the end of the text is no
mistake of the numeral. -/
def missingDigits (rest : List Char) : Fault × Fault :=
  (if rest.isEmpty then .cutOff else .malformed, .malformed)

/-- The exponent of a numeral, if there is one. -/
def scanExponent (numeral : Numeral) (chars : List Char) : NumeralScan :=
  match chars with
  | c :: rest =>
      if c = 'e' ∨ c = 'E' then
        let (minus, rest) := match rest with
          | '+' :: rest => (false, rest)
          | '-' :: rest => (true, rest)
          | rest => (false, rest)
        match takeDigits rest with
        | ([], rest) => .error (missingDigits rest)
        | (digits, rest) => .ok ({ numeral with exponent := some (minus, digits) }, rest)
      else .ok (numeral, chars)
  | [] => .ok (numeral, [])

/-- The fraction of a numeral, if there is one, and its exponent. -/
def scanFraction (numeral : Numeral) (chars : List Char) : NumeralScan :=
  match chars with
  | '.' :: rest =>
      match takeDigits rest with
      | ([], rest) => .error (missingDigits rest)
      | (digits, rest) => scanExponent { numeral with fraction := digits } rest
  | _ => scanExponent numeral chars

/-- A numeral after its sign.  The whole part has no zero in front of other digits. -/
def scanNumeral (negative : Bool) (chars : List Char) : NumeralScan :=
  match takeDigits chars with
  | ([], rest) => .error (missingDigits rest)
  | (0 :: _ :: _, _) => .error (.malformed, .malformed)
  | (whole, rest) => scanFraction { negative, whole } rest

/-! ## Documents -/

/-- What a parser found and the characters that follow. -/
structure Parsed where
  document : Document
  rest : Option (List Char)

/-- The end of a parse, where something began. -/
def Parsed.fault (opening : Opening) (read passed : Fault) : Parsed :=
  ⟨.broken opening read passed, none⟩

/-- The end of a parse, where nothing is left. -/
def Parsed.missing : Parsed := .fault .nothing .cutOff .cutOff

/-- A word that has to follow letter by letter. -/
def parseWord (document : Document) : (word chars : List Char) -> Parsed
  | [], rest => ⟨document, some rest⟩
  | _ :: _, [] => .fault .other .cutOff .cutOff
  | expected :: word, c :: rest =>
      if c = expected then parseWord document word rest
      else .fault .other .malformed .malformed

/-- A number. -/
def parseNumber (scan : NumeralScan) : Parsed :=
  match scan with
  | .ok (numeral, rest) => ⟨.number numeral.value, some rest⟩
  | .error (read, passed) => .fault .other read passed

/-- A text after its opening quote. -/
def parseText (chars : List Char) : Parsed :=
  match passText chars with
  | .ok rest => ⟨.text ((readText chars).map String.ofList), some rest⟩
  | .error passed => .fault .quote (textFault chars) passed

mutual

/-- A document, after any space.  Each call takes at least one character, so the number
of characters is fuel enough. -/
def parseValue : (fuel : Nat) -> List Char -> Parsed
  | 0, _ => .missing
  | fuel + 1, chars =>
      match skipSpace chars with
      | [] => .missing
      | c :: rest =>
          if c = 'n' then parseWord .null ['u', 'l', 'l'] rest
          else if c = 't' then parseWord (.boolean true) ['r', 'u', 'e'] rest
          else if c = 'f' then parseWord (.boolean false) ['a', 'l', 's', 'e'] rest
          else if c = '-' then parseNumber (scanNumeral true rest)
          else if (Text.Numeral.digit? c).isSome then parseNumber (scanNumeral false (c :: rest))
          else if c = '"' then parseText rest
          else if c = '[' then
            let (items, closing, rest) := parseItems fuel true rest
            ⟨.list items closing, rest⟩
          else if c = '\x7b' then parseObject fuel rest
          else .fault .other .malformed .malformed

/-- The items of a list up to its end.  Between items there are commas. -/
def parseItems : (fuel : Nat) -> (first : Bool) -> List Char ->
    List Document × Closing × Option (List Char)
  | 0, _, _ => ([], .missing, none)
  | fuel + 1, first, chars =>
      match skipSpace chars with
      | [] => ([], .missing, none)
      | c :: rest =>
          if c = ']' then ([], .closed, some rest)
          else if first then parseItem fuel (c :: rest)
          else if c = ',' then
            match skipSpace rest with
            | [] => ([], .afterComma, none)
            | c :: rest =>
                if c = ']' then ([], .stray, none) else parseItem fuel (c :: rest)
          else ([], .stray, none)

/-- An item of a list and those after it. -/
def parseItem : (fuel : Nat) -> List Char ->
    List Document × Closing × Option (List Char)
  | 0, _ => ([], .missing, none)
  | fuel + 1, chars =>
      let parsed := parseValue fuel chars
      match parsed.rest with
      | none => ([parsed.document], .stray, none)
      | some rest =>
          let (items, closing, rest) := parseItems fuel false rest
          (parsed.document :: items, closing, rest)

/-- An object after its opening brace. -/
def parseObject : (fuel : Nat) -> List Char -> Parsed
  | 0, _ => .missing
  | fuel + 1, chars =>
      match skipSpace chars with
      | [] => ⟨.object [] .missing, none⟩
      | c :: rest =>
          if c = '\x7d' then ⟨.object [] .closed, some rest⟩
          else if c = '"' then
            let (members, closing, rest) := parseMember fuel rest
            ⟨.object members closing, rest⟩
          else ⟨.keyless, none⟩

/-- A member of an object, after the opening quote of its key, and those after it. -/
def parseMember : (fuel : Nat) -> List Char ->
    List (Except Fault String × Document) × Closing × Option (List Char)
  | 0, _ => ([], .missing, none)
  | fuel + 1, chars =>
      match passText chars with
      | .error passed => ([], .badKey (textFault chars) passed, none)
      | .ok rest =>
          let key := (readText chars).map String.ofList
          let parsed : Parsed := match skipSpace rest with
            | [] => .missing
            | c :: rest =>
                if c = ':' then parseValue fuel rest
                else .fault .other .malformed .malformed
          match parsed.rest with
          | none => ([(key, parsed.document)], .stray, none)
          | some rest =>
              let (members, closing, rest) := parseMembers fuel rest
              ((key, parsed.document) :: members, closing, rest)

/-- What follows a member of an object. -/
def parseMembers : (fuel : Nat) -> List Char ->
    List (Except Fault String × Document) × Closing × Option (List Char)
  | 0, _ => ([], .missing, none)
  | fuel + 1, chars =>
      match skipSpace chars with
      | [] => ([], .missing, none)
      | c :: rest =>
          if c = '\x7d' then ([], .closed, some rest)
          else if c = ',' then
            match skipSpace rest with
            | [] => ([], .afterComma, none)
            | c :: rest =>
                if c = '"' then parseMember fuel rest else ([], .stray, none)
          else ([], .stray, none)

end

/-- The document at the front of a text, and the characters that follow it if it is
whole. -/
def Document.parse (text : String) : Parsed :=
  let chars := text.toList
  parseValue (3 * chars.length + 3) chars

end Json
end LineDebugger
