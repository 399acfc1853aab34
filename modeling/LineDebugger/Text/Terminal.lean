namespace LineDebugger
namespace Text
namespace Terminal

/-!
# Texts for terminals

A text for a terminal sets off some of its words by escape sequences.  The plain text has
neither these sequences nor the controls that show nothing, wherever they come from: an
escape in a part that somebody else has written is taken for the beginning of a sequence
like any other.
-/

/-! ## Words that are set off -/

/-- What words are set off for. -/
inductive Role where
  | heading
  | literal
  | fault
  | accepted
  | refused
  deriving DecidableEq, Repr

/-- The numbers by which a terminal sets off words. -/
def Role.renditions : Role -> List Nat
  | .heading => [1, 4]
  | .literal => [1]
  | .fault => [1, 31]
  | .accepted => [32]
  | .refused => [33]

/-- The sequence that asks for one way to show what follows. -/
def rendition (number : Nat) : String := "\x1b[" ++ toString number ++ "m"

/-- A text that is set off from what stands around it. -/
def Role.set (role : Role) (text : String) : String :=
  String.join (role.renditions.map rendition) ++ text ++ rendition 0

/-! ## Plain texts -/

/-- Where a character stands with respect to escape sequences. -/
inductive Position where
  /-- Outside of them. -/
  | outside
  /-- After an escape. -/
  | escape
  /-- After an escape and at least one mark that calls for another character. -/
  | intermediate
  /-- In a control sequence, which ends with a letter or the like. -/
  | control
  /-- In a command to the terminal, which a bell may end. -/
  | command
  /-- Before the text for a device, where it begins. -/
  | device
  /-- Before the text for a device, among its parameters. -/
  | deviceParameters
  /-- Before the text for a device, after the parameters. -/
  | deviceMarks
  /-- In a text that is not for the reader, which a terminator may end. -/
  | hidden
  deriving DecidableEq, Repr

/-- Controls that show as white space. -/
def isLayout (c : Char) : Bool := c = '\t' || c = '\n' || c = '\x0c' || c = '\r'

/-- Controls of seven bits and the deletion mark. -/
def isControl (c : Char) : Bool := c.toNat < 0x20 || c = '\x7f'

/-- The byte that ends a hidden text. -/
def terminator : UInt8 := 0x9C

/-- Whether a character beyond ASCII ends a hidden text.  A terminal looks at bytes, so
it finds the terminator also inside of a character; what is left of the character then
does not show. -/
def endsHidden (c : Char) : Bool := (String.utf8EncodeChar c).contains terminator

/-- Where a sequence stands after a character that is no control. -/
def Position.next (position : Position) (c : Char) : Position :=
  match position with
  | .escape =>
      if c ≤ '/' then .intermediate
      else if c = '[' then .control
      else if c = ']' then .command
      else if c = 'P' then .device
      else if c = 'X' ∨ c = '^' ∨ c = '_' then .hidden
      else .outside
  | .intermediate => if c ≤ '/' then .intermediate else .outside
  | .control => if c ≤ '?' then .control else .outside
  | .device =>
      if c ≤ '/' then .deviceMarks else if c ≤ '?' then .deviceParameters else .hidden
  | .deviceParameters =>
      if c ≤ '/' then .deviceMarks else if c ≤ ';' then .deviceParameters else .hidden
  | .deviceMarks => if c ≤ '/' then .deviceMarks else .hidden
  | position => position

/-- Whether controls are carried out in a sequence as they are outside of one. -/
def Position.obeysControls : Position -> Bool
  | .outside | .escape | .intermediate | .control => true
  | .command | .device | .deviceParameters | .deviceMarks | .hidden => false

/-- Take a character beyond ASCII.  In a sequence it has no meaning. -/
def Position.takeWide (position : Position) (c : Char) : List Char × Position :=
  match position with
  | .outside => ([c], .outside)
  | .hidden => ([], if endsHidden c then .outside else .hidden)
  | position => ([], position)

/-- Take a control.  One that shows ends the sequence in which it is carried out. -/
def Position.takeControl (position : Position) (c : Char) : List Char × Position :=
  if position.obeysControls && isLayout c then ([c], .outside)
  else if position = .command ∧ c = '\x07' then ([], .outside)
  else ([], position)

/-- Take one character: what is shown of it, and where the next one stands.  An escape
begins a sequence wherever it stands, and a cancellation ends it. -/
def Position.take (position : Position) (c : Char) : List Char × Position :=
  if c = '\x1b' then ([], .escape)
  else if c = '\x18' ∨ c = '\x1a' then ([], .outside)
  else if 0x7F < c.toNat then position.takeWide c
  else if isControl c then position.takeControl c
  else if position = .outside then ([c], .outside)
  else ([], position.next c)

/-- What is shown of characters. -/
def shown (position : Position) : List Char -> List Char
  | [] => []
  | c :: rest =>
      let (visible, position) := position.take c
      visible ++ shown position rest

/-- The text without escape sequences and controls. -/
def plain (text : String) : String := String.ofList (shown .outside text.toList)

end Terminal
end Text
end LineDebugger
