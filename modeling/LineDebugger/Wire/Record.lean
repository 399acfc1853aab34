import LineDebugger.Wire.Location

namespace LineDebugger
namespace Wire

/-!
# Records about classes, methods and frames

Methods and fields of a class, local variables and source lines of a method, frames of
a thread: each has a reader and the writer of the layout that it reads.
-/

/-! ## Methods and fields -/

/-- A method of a class. -/
structure MethodInfo where
  id : UInt64
  name : String
  signature : String
  modifierBits : Int32
  deriving DecidableEq, Repr

/-- A field of a class. -/
structure FieldInfo where
  id : UInt64
  name : String
  signature : String
  modifierBits : Int32
  deriving DecidableEq, Repr

/-- The modifier bit of static members. -/
def staticBit : Int32 := 8

/-- Whether the field belongs to the class rather than to its objects. -/
def FieldInfo.isStatic (field : FieldInfo) : Bool := field.modifierBits &&& staticBit != 0

def readMethod : Reader MethodInfo := do
  let id ← readWord64
  let name ← readText
  let signature ← readText
  let modifierBits ← readSigned32
  return { id, name, signature, modifierBits }

def MethodInfo.bytes (method : MethodInfo) : List UInt8 :=
  wordBytes64 method.id ++ textBytes method.name ++ textBytes method.signature
    ++ signedBytes32 method.modifierBits

def readField : Reader FieldInfo := do
  let id ← readWord64
  let name ← readText
  let signature ← readText
  let modifierBits ← readSigned32
  return { id, name, signature, modifierBits }

def FieldInfo.bytes (field : FieldInfo) : List UInt8 :=
  wordBytes64 field.id ++ textBytes field.name ++ textBytes field.signature
    ++ signedBytes32 field.modifierBits

/-! ## Source lines -/

/-- The code index at which a stretch of a source line begins. -/
structure LineEntry where
  codeIndex : UInt64
  line : Int32
  deriving DecidableEq, Repr

/-- The source lines of a method.  The entries come in any order, and lines and code
indexes may repeat. -/
structure LineTable where
  start : UInt64
  finish : UInt64
  entries : List LineEntry
  deriving DecidableEq, Repr

namespace LineTable

/-- Keep the entry with the greater code index; of two equal ones the later. -/
def later (best : Option LineEntry) (entry : LineEntry) : Option LineEntry :=
  match best with
  | none => some entry
  | some held => if held.codeIndex ≤ entry.codeIndex then some entry else some held

/-- The source line that a code index belongs to: that of the entry with the greatest
code index not above it, the last one in the table if several share that index. -/
def lineForIndex (table : LineTable) (index : UInt64) : Option Int32 :=
  ((table.entries.filter fun entry => entry.codeIndex ≤ index).foldl later none).map
    LineEntry.line

/-- The lowest code index at which a source line begins. -/
def firstIndexOfLine (table : LineTable) (line : Int32) : Option UInt64 :=
  ((table.entries.filter fun entry => entry.line == line).map LineEntry.codeIndex).min?

end LineTable

def readLineEntry : Reader LineEntry := do
  let codeIndex ← readWord64
  let line ← readSigned32
  return { codeIndex, line }

def LineEntry.bytes (entry : LineEntry) : List UInt8 :=
  wordBytes64 entry.codeIndex ++ signedBytes32 entry.line

def readLineTable : Reader LineTable := do
  let start ← readWord64
  let finish ← readWord64
  let entries ← readList readLineEntry
  return { start, finish, entries }

def LineTable.bytes (table : LineTable) : List UInt8 :=
  wordBytes64 table.start ++ wordBytes64 table.finish
    ++ listBytes LineEntry.bytes table.entries

/-! ## Local variables -/

/-- A local variable of a method: where it lives and for which stretch of code. -/
structure Variable where
  codeIndex : UInt64
  name : String
  signature : String
  length : UInt32
  slot : UInt32
  deriving DecidableEq, Repr

/-- Whether the variable is live at a code index: from its first index on, for as many
indexes as its length says.  The end is a sum of machine words, which wraps around. -/
def Variable.isVisibleAt (var : Variable) (index : UInt64) : Bool :=
  var.codeIndex ≤ index && index < var.codeIndex + var.length.toUInt64

def readVariable : Reader Variable := do
  let codeIndex ← readWord64
  let name ← readText
  let signature ← readText
  let length ← readWord32
  let slot ← readWord32
  return { codeIndex, name, signature, length, slot }

def Variable.bytes (var : Variable) : List UInt8 :=
  wordBytes64 var.codeIndex ++ textBytes var.name ++ textBytes var.signature
    ++ wordBytes32 var.length ++ wordBytes32 var.slot

/-- The variables of a method, after the width of its arguments, which is not used. -/
def readVariableTable : Reader (List Variable) := do
  let _ ← readSigned32
  readList readVariable

/-! ## Frames -/

/-- A frame of a suspended thread. -/
structure Frame where
  id : UInt64
  location : Location
  deriving DecidableEq, Repr

def readFrame : Reader Frame := do
  let id ← readWord64
  let location ← readLocation
  return { id, location }

def Frame.bytes (frame : Frame) : List UInt8 :=
  wordBytes64 frame.id ++ frame.location.bytes

end Wire
end LineDebugger
