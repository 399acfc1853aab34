import LineDebugger.Json.Datum
import LineDebugger.Json.Parser

namespace LineDebugger
namespace Json

/-!
# Decoders

A decoder takes a document for a datum of one shape.  It walks over the document in the
order of the text and stops at the first fault.  Records may be written as objects, with
fields in any order and others in between, or as lists of their fields in order.
-/

/-- A way to take a document for a datum. -/
abbrev Decoder : Type := Document -> Except Fault Datum

/-- How deep documents may be nested where they are read as a whole. -/
def maxDepth : Nat := 127

namespace Decoder

/-- Go on unless there is a fault. -/
def ensure (fault : Option Fault) : Except Fault Unit :=
  match fault with
  | some fault => .error fault
  | none => .ok ()

/-- An integer between two bounds, both included. -/
def integer (low high : Int) : Decoder
  | .number (.ok (.natural value)) =>
      if (value : Int) ≤ high then .ok (.integer value) else .error .mismatch
  | .number (.ok (.negative value)) =>
      if low ≤ value then .ok (.integer value) else .error .mismatch
  | document => .error document.refusal

def word8 : Decoder := integer 0 (UInt8.size - 1)
def word32 : Decoder := integer 0 (UInt32.size - 1)
def word64 : Decoder := integer 0 (UInt64.size - 1)
def signed32 : Decoder := integer Int32.minValue.toInt Int32.maxValue.toInt

/-- A text. -/
def text : Decoder
  | .text (.ok value) => .ok (.text value)
  | document => .error document.refusal

/-- The items of a list, in order. -/
def items (item : Decoder) : List Document -> Except Fault (List Datum)
  | [] => .ok []
  | first :: others => do
      let first ← item first
      let others ← items item others
      return first :: others

/-- A list of any length. -/
def list (item : Decoder) : Decoder
  | .list elements closing => do
      let data ← items item elements
      ensure closing.faultAsElement
      return .list data
  | document => .error document.refusal

/-! ## Records -/

/-- The fields of a record with their decoders. -/
abbrev Fields : Type := List (String × Decoder)

/-- The fields of a record that is written as a list. -/
def fieldsInOrder : Fields -> List Document -> Closing ->
    Except Fault (List (String × Datum) × List Document)
  | [], rest, _ => .ok ([], rest)
  | _ :: _, [], closing => .error (closing.faultAsElement.getD .mismatch)
  | (name, decode) :: fields, document :: rest, closing => do
      let value ← decode document
      let (values, rest) ← fieldsInOrder fields rest closing
      return ((name, value) :: values, rest)

/-- The members of an object that are fields, each at most once, in the order of the
text.  Other members are passed over. -/
def fieldsByName (fields : Fields) (found : List (String × Datum)) :
    List (Except Fault String × Document) -> Except Fault (List (String × Datum))
  | [] => .ok found
  | (key, document) :: others => do
      let name ← key
      match fields.lookup name with
      | none =>
          ensure document.faultPassing
          fieldsByName fields found others
      | some decode =>
          if (found.lookup name).isSome then .error .mismatch
          else
            let value ← decode document
            fieldsByName fields (found ++ [(name, value)]) others

/-- The fields in their own order, none of which may be missing. -/
def inOrder (fields : Fields) (found : List (String × Datum)) :
    Except Fault (List (String × Datum)) :=
  fields.mapM fun (name, _) =>
    match found.lookup name with
    | some value => .ok (name, value)
    | none => .error .mismatch

/-- The fields of a record.  `whole` says that the record is part of a document that has
been read as a whole before; then a list that is too long is no longer a fault of the
text but one of its meaning. -/
def fieldValues (whole : Bool) (fields : Fields) :
    Document -> Except Fault (List (String × Datum))
  | .object members closing => do
      let found ← fieldsByName fields [] members
      ensure closing.faultAsElement
      inOrder fields found
  | .list elements closing => do
      let (values, rest) ← fieldsInOrder fields elements closing
      if !rest.isEmpty then .error (if whole then .mismatch else .malformed)
      else
        ensure closing.faultAsEnd
        return values
  | .keyless => .error .malformed
  | document => .error document.refusal

/-- A record. -/
def record (whole : Bool) (name : String) (fields : Fields) : Decoder := fun document =>
  return .record name (← fieldValues whole fields document)

/-! ## Alternatives -/

/-- An alternative by its name. -/
def nameOf (names : List String) : Document -> Except Fault String
  | .text (.ok name) => if names.contains name then .ok name else .error .mismatch
  | document => .error document.refusal

/-- Alternatives without content: a name, or an object with the name as its only key and
null as its value.  Anything else is refused by its first character. -/
def choice (names : List String) : Decoder
  | .text value => do return .choice (← nameOf names (.text value))
  | .object ((key, document) :: others) closing => do
      let name ← nameOf names (.text key)
      match document with
      | .null =>
          if others.isEmpty then
            ensure closing.faultAsEnd
            return .choice name
          else .error .malformed
      | _ => .error document.refusal
  | .object [] closing => .error (closing.faultAsElement.getD .malformed)
  | .broken .nothing read _ | .broken .quote read _ => .error read
  | _ => .error .malformed

/-- The name of an alternative among the members of an object, and the other members.
The name may stand anywhere but only once; everything else is read as a whole. -/
def takeTag (names : List String) (depth : Nat) (tag : Option String) :
    List (Except Fault String × Document) ->
    Except Fault (Option String × List (Except Fault String × Document))
  | [] => .ok (tag, [])
  | (key, document) :: others => do
      let name ← key
      if name = Datum.tagField then
        if tag.isSome then .error .mismatch
        else takeTag names depth (some (← nameOf names document)) others
      else
        ensure (document.faultReading depth)
        let (tag, rest) ← takeTag names depth tag others
        return (tag, (key, document) :: rest)

/-- The fields of an alternative.  Without fields, members of an object are ignored, but
a list must not have further items. -/
def contentOf (fields : Fields) (document : Document) :
    Except Fault (List (String × Datum)) :=
  match fields, document with
  | [], .object .. => .ok []
  | fields, document => fieldValues true fields document

/-- Alternatives with fields, told apart by a name.  As an object the name is a member of
its own, as a list it is the first item. -/
def tagged (depth : Nat) (alternatives : List (String × Fields)) : Decoder := fun document => do
  let names := alternatives.map Prod.fst
  let (name, content) ← match document with
    | .object members closing => do
        let (tag, rest) ← takeTag names depth none members
        ensure closing.faultAsElement
        match tag with
        | some name => pure (name, Document.object rest .closed)
        | none => .error .mismatch
    | .list (first :: rest) closing => do
        let name ← nameOf names first
        ensure (Document.faultReadingItems depth rest)
        ensure closing.faultAsElement
        pure (name, Document.list rest .closed)
    | .list [] closing => .error (closing.faultAsElement.getD .mismatch)
    | .keyless => .error .malformed
    | document => .error document.refusal
  return .tagged name (← contentOf ((alternatives.lookup name).getD []) content)

/-- The first of several decoders that accepts a document, which is read as a whole
before. -/
def firstOf (depth : Nat) (decoders : List Decoder) : Decoder := fun document => do
  ensure (document.faultReading depth)
  match decoders.findSome? fun decode => (decode document).toOption with
  | some value => .ok value
  | none => .error .mismatch

/-- The datum that a text is, with nothing but spaces after it. -/
def decode (decoder : Decoder) (text : String) : Except Fault Datum := do
  let parsed := Document.parse text
  let value ← decoder parsed.document
  match parsed.rest with
  | none => .error .malformed
  | some rest => if (skipSpace rest).isEmpty then return value else .error .malformed

end Decoder
end Json
end LineDebugger
