namespace LineDebugger
namespace Json

/-!
# JSON documents with their faults in place

A text that is read as JSON may go wrong in several ways at once, and the fault that is
reported is the first one that the reader meets.  Which one that is depends on what the
reader looks for: a number in place of a text is refused before anything after it is
looked at.  A `Document` therefore keeps every fault of the text at its place, and a
decoder that walks over the document meets them in the order of the text.

Parts of a document that nobody asks for are only *passed over*.  That is less strict
than reading them, so a fault may have two sides: what it is for a reader, and what it is
for somebody who passes over it.
-/

/-- The kinds of fault.  `mismatch` is a well-formed text that does not say what was
asked for, `malformed` is no JSON, and `cutOff` is the beginning of some JSON. -/
inductive Fault where
  | mismatch
  | malformed
  | cutOff
  deriving DecidableEq, Repr

/-- A number: an integer that fits into 64 bits, with or without a sign, or the bits of
a floating-point number. -/
inductive Number where
  | natural (value : Nat)
  | negative (value : Int)
  | float (bits : UInt64)
  deriving DecidableEq, Repr

/-- How a list or an object ends. -/
inductive Closing where
  | closed
  /-- The text ends where a comma or the closing bracket was due. -/
  | missing
  /-- The text ends after a comma. -/
  | afterComma
  /-- Something else stands where a comma, the closing bracket or a further element was
  due. -/
  | stray
  /-- A key of an object cannot be read, or cannot even be passed over. -/
  | badKey (read passed : Fault)
  deriving DecidableEq, Repr

/-- How something begins of which the rest cannot be made out. -/
inductive Opening where
  /-- The text ends before it. -/
  | nothing
  /-- It begins with a quote. -/
  | quote
  | other
  deriving DecidableEq, Repr

/-- A document.  Texts, keys and numbers may be fit to be passed over and yet not to be
read. -/
inductive Document where
  | null
  | boolean (value : Bool)
  | number (value : Except Fault Number)
  | text (value : Except Fault String)
  | list (items : List Document) (closing : Closing)
  | object (members : List (Except Fault String × Document)) (closing : Closing)
  /-- An object whose first member begins with something that is no text. -/
  | keyless
  /-- Something after which nothing can be made out: the fault for a reader, and the
  fault for somebody who passes over it. -/
  | broken (opening : Opening) (read passed : Fault)

namespace Closing

/-- The fault that a reader meets who asks for another element. -/
def faultAsElement : Closing -> Option Fault
  | .closed => none
  | .missing | .afterComma => some .cutOff
  | .stray => some .malformed
  | .badKey read _ => some read

/-- The fault that a reader meets who asks for the end. -/
def faultAsEnd : Closing -> Option Fault
  | .closed => none
  | .missing => some .cutOff
  | .afterComma | .stray | .badKey .. => some .malformed

/-- The fault that somebody meets who passes over. -/
def faultPassing : Closing -> Option Fault
  | .badKey _ passed => some passed
  | closing => closing.faultAsElement

end Closing

namespace Document

/-- What a reader meets who looks for something of another kind: a fault of what is
there, or else that it is of another kind. -/
def refusal : Document -> Fault
  | .number (.error fault) | .text (.error fault) => fault
  | .broken _ read _ => read
  | _ => .mismatch

mutual

/-- The fault that somebody meets who passes over a document. -/
def faultPassing : Document -> Option Fault
  | .list items closing => (faultPassingItems items).or closing.faultPassing
  | .object members closing => (faultPassingMembers members).or closing.faultPassing
  | .keyless => some .malformed
  | .broken _ _ passed => some passed
  | .null | .boolean _ | .number _ | .text _ => none

/-- The first fault among the items of a list. -/
def faultPassingItems : List Document -> Option Fault
  | [] => none
  | item :: others => (faultPassing item).or (faultPassingItems others)

/-- The first fault among the members of an object. -/
def faultPassingMembers : List (Except Fault String × Document) -> Option Fault
  | [] => none
  | (_, value) :: others => (faultPassing value).or (faultPassingMembers others)

end

mutual

/-- The fault that a reader meets who takes in a whole document, whatever it holds.
Lists and objects may be nested only so deep. -/
def faultReading (depth : Nat) : Document -> Option Fault
  | .number (.error fault) | .text (.error fault) => some fault
  | .list items closing =>
      if depth = 0 then some .malformed
      else (faultReadingItems (depth - 1) items).or closing.faultAsElement
  | .object members closing =>
      if depth = 0 then some .malformed
      else (faultReadingMembers (depth - 1) members).or closing.faultAsElement
  | .keyless => some .malformed
  | .broken _ read _ => some read
  | .null | .boolean _ | .number (.ok _) | .text (.ok _) => none

/-- The first fault among the items of a list. -/
def faultReadingItems (depth : Nat) : List Document -> Option Fault
  | [] => none
  | item :: others => (faultReading depth item).or (faultReadingItems depth others)

/-- The first fault among the members of an object. -/
def faultReadingMembers (depth : Nat) : List (Except Fault String × Document) -> Option Fault
  | [] => none
  | (.error fault, _) :: _ => some fault
  | (.ok _, value) :: others =>
      (faultReading depth value).or (faultReadingMembers depth others)

end

end Document
end Json
end LineDebugger
