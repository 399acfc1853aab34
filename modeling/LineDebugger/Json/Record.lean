import LineDebugger.Json.Decoder
import LineDebugger.Wire.EventSet
import LineDebugger.Wire.Record
import LineDebugger.Wire.Value

namespace LineDebugger
namespace Json

open Wire

/-!
# The JSON form of wire records

Each record has a `Form`: how it looks from outside, how a document is taken for it, and
how to get it back from what it looks like.  Writing and reading are then the same for
all of them.
-/

/-- How values of a type are written and read. -/
structure Form (α : Type) where
  toDatum : α -> Datum
  decoder : Decoder
  ofDatum? : Datum -> Option α

namespace Form

variable {α : Type}

/-- The compact JSON text of a value. -/
def write (form : Form α) (value : α) : String := (form.toDatum value).compact

/-- The diagnostic text of a value. -/
def diagnostic (form : Form α) (value : α) : String := (form.toDatum value).diagnostic

/-- The value that a JSON text stands for. -/
def read (form : Form α) (text : String) : Except Fault α := do
  match form.ofDatum? (← form.decoder.decode text) with
  | some value => return value
  | none => .error .mismatch

end Form

/-! ## Parts of records -/

/-- A word as a datum. -/
def ofWord64 (value : UInt64) : Datum := .integer value.toNat

/-- A word as a datum. -/
def ofWord32 (value : UInt32) : Datum := .integer value.toNat

/-- A byte as a datum. -/
def ofWord8 (value : UInt8) : Datum := .integer value.toNat

/-- A signed word as a datum. -/
def ofSigned32 (value : Int32) : Datum := .integer value.toInt

namespace Datum

def word64? : Datum -> Option UInt64
  | .integer value => some (UInt64.ofNat value.toNat)
  | _ => none

def word32? : Datum -> Option UInt32
  | .integer value => some (UInt32.ofNat value.toNat)
  | _ => none

def word8? : Datum -> Option UInt8
  | .integer value => some (UInt8.ofNat value.toNat)
  | _ => none

def signed32? : Datum -> Option Int32
  | .integer value => some (Int32.ofInt value)
  | _ => none

def text? : Datum -> Option String
  | .text value => some value
  | _ => none

/-- The items of a list, each taken for a value. -/
def listOf? {α : Type} (item? : Datum -> Option α) : Datum -> Option (List α)
  | .list items => items.mapM item?
  | _ => none

end Datum

/-! ## Locations and frames -/

def locationForm : Form Location where
  toDatum location := .record "Location"
    [("type_tag", ofWord8 location.typeTag), ("class_id", ofWord64 location.classId),
     ("method_id", ofWord64 location.methodId), ("index", ofWord64 location.index)]
  decoder := Decoder.record false "Location" fields
  ofDatum?
    | .record _ [(_, typeTag), (_, classId), (_, methodId), (_, index)] => do
        return ⟨← typeTag.word8?, ← classId.word64?, ← methodId.word64?, ← index.word64?⟩
    | _ => none
where
  fields : Decoder.Fields :=
    [("type_tag", Decoder.word8), ("class_id", Decoder.word64),
     ("method_id", Decoder.word64), ("index", Decoder.word64)]

/-- A location inside of a document that has been read as a whole. -/
def innerLocation : Decoder := Decoder.record true "Location" locationForm.fields

def frameForm : Form Frame where
  toDatum frame := .record "Frame"
    [("frame_id", ofWord64 frame.id), ("location", locationForm.toDatum frame.location)]
  decoder := Decoder.record false "Frame"
    [("frame_id", Decoder.word64), ("location", locationForm.decoder)]
  ofDatum?
    | .record _ [(_, id), (_, location)] => do
        return ⟨← id.word64?, ← locationForm.ofDatum? location⟩
    | _ => none

/-! ## Methods, fields, lines and variables -/

def methodForm : Form MethodInfo where
  toDatum method := .record "MethodInfo"
    [("method_id", ofWord64 method.id), ("name", .text method.name),
     ("signature", .text method.signature), ("mod_bits", ofSigned32 method.modifierBits)]
  decoder := Decoder.record false "MethodInfo"
    [("method_id", Decoder.word64), ("name", Decoder.text), ("signature", Decoder.text),
     ("mod_bits", Decoder.signed32)]
  ofDatum?
    | .record _ [(_, id), (_, name), (_, signature), (_, modifierBits)] => do
        return ⟨← id.word64?, ← name.text?, ← signature.text?, ← modifierBits.signed32?⟩
    | _ => none

def fieldForm : Form FieldInfo where
  toDatum field := .record "FieldInfo"
    [("field_id", ofWord64 field.id), ("name", .text field.name),
     ("signature", .text field.signature), ("mod_bits", ofSigned32 field.modifierBits)]
  decoder := Decoder.record false "FieldInfo"
    [("field_id", Decoder.word64), ("name", Decoder.text), ("signature", Decoder.text),
     ("mod_bits", Decoder.signed32)]
  ofDatum?
    | .record _ [(_, id), (_, name), (_, signature), (_, modifierBits)] => do
        return ⟨← id.word64?, ← name.text?, ← signature.text?, ← modifierBits.signed32?⟩
    | _ => none

def lineEntryForm : Form LineEntry where
  toDatum entry := .record "LineTableEntry"
    [("line_code_index", ofWord64 entry.codeIndex), ("line_number", ofSigned32 entry.line)]
  decoder := Decoder.record false "LineTableEntry"
    [("line_code_index", Decoder.word64), ("line_number", Decoder.signed32)]
  ofDatum?
    | .record _ [(_, codeIndex), (_, line)] => do
        return ⟨← codeIndex.word64?, ← line.signed32?⟩
    | _ => none

def lineTableForm : Form LineTable where
  toDatum table := .record "LineTable"
    [("start", ofWord64 table.start), ("end", ofWord64 table.finish),
     ("lines", .list (table.entries.map lineEntryForm.toDatum))]
  decoder := Decoder.record false "LineTable"
    [("start", Decoder.word64), ("end", Decoder.word64),
     ("lines", Decoder.list lineEntryForm.decoder)]
  ofDatum?
    | .record _ [(_, start), (_, finish), (_, entries)] => do
        return ⟨← start.word64?, ← finish.word64?,
          ← entries.listOf? lineEntryForm.ofDatum?⟩
    | _ => none

def variableForm : Form Variable where
  toDatum var := .record "Variable"
    [("code_index", ofWord64 var.codeIndex), ("name", .text var.name),
     ("signature", .text var.signature), ("length", ofWord32 var.length),
     ("slot", ofWord32 var.slot)]
  decoder := Decoder.record false "Variable"
    [("code_index", Decoder.word64), ("name", Decoder.text), ("signature", Decoder.text),
     ("length", Decoder.word32), ("slot", Decoder.word32)]
  ofDatum?
    | .record _ [(_, codeIndex), (_, name), (_, signature), (_, length), (_, slot)] => do
        return ⟨← codeIndex.word64?, ← name.text?, ← signature.text?, ← length.word32?,
          ← slot.word32?⟩
    | _ => none

/-! ## Values

JSON shows the payload of a value alone, so reading has to guess its kind: the first
kind that fits is taken, in the order of the list below.  Every number fits some kind no
later than the floating-point numbers of 32 bits. -/

/-- The payload of a value as a datum. -/
def ofData : ValueData -> Datum
  | .byte value => .wrapped "Byte" (.integer value.toInt)
  | .char unit => .wrapped "Char" (.integer unit.toNat)
  | .float bits => .wrapped "Float" (.single bits)
  | .double bits => .wrapped "Double" (.double bits)
  | .int value => .wrapped "Int" (.integer value.toInt)
  | .long value => .wrapped "Long" (.integer value.toInt)
  | .short value => .wrapped "Short" (.integer value.toInt)
  | .boolean value => .wrapped "Boolean" (.boolean value)
  | .object id => .wrapped "Object" (.integer id.toNat)
  | .void => .absent "Void"

/-- The payload that a datum shows. -/
def data? : Datum -> Option ValueData
  | .wrapped "Byte" (.integer value) => some (.byte (Int8.ofInt value))
  | .wrapped "Char" (.integer value) => some (.char (UInt16.ofNat value.toNat))
  | .wrapped "Float" (.single bits) => some (.float bits)
  | .wrapped "Boolean" (.boolean value) => some (.boolean value)
  | .absent "Void" => some .void
  | _ => none

/-- An alternative that is shown by its content. -/
def wrapping (name : String) (decoder : Decoder) : Decoder := fun document => do
  return .wrapped name (← decoder document)

/-- Any number, rounded to 32 bits. -/
def singleDecoder : Decoder
  | .number (.ok (.natural value)) =>
      .ok (.single (UInt32.ofNat (Decimal.BinaryFormat.single.encode false value 1)))
  | .number (.ok (.negative value)) =>
      .ok (.single (UInt32.ofNat (Decimal.BinaryFormat.single.encode true value.natAbs 1)))
  | .number (.ok (.float bits)) => .ok (.single (Decimal.narrow bits))
  | document => .error document.refusal

/-- True or false. -/
def booleanDecoder : Decoder
  | .boolean value => .ok (.boolean value)
  | document => .error document.refusal

/-- Nothing. -/
def voidDecoder : Decoder
  | .null => .ok (.absent "Void")
  | document => .error document.refusal

/-- The kinds of payload that reading tries. -/
def dataDecoders : List Decoder :=
  [wrapping "Byte" (Decoder.integer Int8.minValue.toInt Int8.maxValue.toInt),
   wrapping "Char" (Decoder.integer 0 (UInt16.size - 1)),
   wrapping "Float" singleDecoder,
   wrapping "Boolean" booleanDecoder,
   voidDecoder]

def valueForm : Form Value where
  toDatum value := .record "Value"
    [("tag", .choice value.tag.name), ("data", ofData value.data)]
  decoder := Decoder.record false "Value"
    [("tag", Decoder.choice (TypeTag.all.map TypeTag.name)),
     ("data", Decoder.firstOf (maxDepth - 1) dataDecoders)]
  ofDatum?
    | .record _ [(_, .choice name), (_, data)] => do
        return ⟨← TypeTag.ofName? name, ← data? data⟩
    | _ => none

/-! ## Events -/

/-- What an event reports as a datum. -/
def ofDetails : EventDetails -> Datum
  | .machineStart thread => .tagged "VMStart" [("thread", ofWord64 thread)]
  | .machineDeath => .tagged "VMDeath" []
  | .threadStart thread => .tagged "ThreadStart" [("thread", ofWord64 thread)]
  | .threadDeath thread => .tagged "ThreadDeath" [("thread", ofWord64 thread)]
  | .classPrepare thread typeTag typeId signature status => .tagged "ClassPrepare"
      [("thread", ofWord64 thread), ("ref_type_tag", ofWord8 typeTag),
       ("ref_type", ofWord64 typeId), ("signature", .text signature),
       ("status", ofSigned32 status)]
  | .breakpoint thread location => .tagged "Breakpoint"
      [("thread", ofWord64 thread), ("location", locationForm.toDatum location)]
  | .step thread location => .tagged "Step"
      [("thread", ofWord64 thread), ("location", locationForm.toDatum location)]
  | .unknown kind => .tagged "Unknown" [("kind", ofWord8 kind)]

/-- The alternatives of what an event reports. -/
def detailsAlternatives : List (String × Decoder.Fields) :=
  [("VMStart", thread), ("VMDeath", []), ("ThreadStart", thread), ("ThreadDeath", thread),
   ("ClassPrepare",
     [("thread", Decoder.word64), ("ref_type_tag", Decoder.word8),
      ("ref_type", Decoder.word64), ("signature", Decoder.text),
      ("status", Decoder.signed32)]),
   ("Breakpoint", place), ("Step", place), ("Unknown", [("kind", Decoder.word8)])]
where
  thread : Decoder.Fields := [("thread", Decoder.word64)]
  place : Decoder.Fields := [("thread", Decoder.word64), ("location", innerLocation)]

/-- What a datum reports. -/
def details? : Datum -> Option EventDetails
  | .tagged "VMStart" [(_, thread)] => do return .machineStart (← thread.word64?)
  | .tagged "VMDeath" [] => some .machineDeath
  | .tagged "ThreadStart" [(_, thread)] => do return .threadStart (← thread.word64?)
  | .tagged "ThreadDeath" [(_, thread)] => do return .threadDeath (← thread.word64?)
  | .tagged "ClassPrepare"
      [(_, thread), (_, typeTag), (_, typeId), (_, signature), (_, status)] => do
      return .classPrepare (← thread.word64?) (← typeTag.word8?) (← typeId.word64?)
        (← signature.text?) (← status.signed32?)
  | .tagged "Breakpoint" [(_, thread), (_, location)] => do
      return .breakpoint (← thread.word64?) (← locationForm.ofDatum? location)
  | .tagged "Step" [(_, thread), (_, location)] => do
      return .step (← thread.word64?) (← locationForm.ofDatum? location)
  | .tagged "Unknown" [(_, kind)] => do return .unknown (← kind.word8?)
  | _ => none

/-- An event.  What it reports is the fourth level of an event set, counted from the
set itself. -/
def eventForm : Form Event where
  toDatum event := .record "Event"
    [("kind", ofWord8 event.kind), ("request_id", ofSigned32 event.request),
     ("details", ofDetails event.details)]
  decoder := Decoder.record false "Event"
    [("kind", Decoder.word8), ("request_id", Decoder.signed32),
     ("details", Decoder.tagged (maxDepth - 4) detailsAlternatives)]
  ofDatum?
    | .record _ [(_, kind), (_, request), (_, details)] => do
        return ⟨← kind.word8?, ← request.signed32?, ← details? details⟩
    | _ => none

def eventSetForm : Form EventSet where
  toDatum set := .record "EventSet"
    [("suspend_policy", ofWord8 set.suspendPolicy),
     ("events", .list (set.events.map eventForm.toDatum))]
  decoder := Decoder.record false "EventSet"
    [("suspend_policy", Decoder.word8), ("events", Decoder.list eventForm.decoder)]
  ofDatum?
    | .record _ [(_, suspendPolicy), (_, events)] => do
        return ⟨← suspendPolicy.word8?, ← events.listOf? eventForm.ofDatum?⟩
    | _ => none

end Json
end LineDebugger
