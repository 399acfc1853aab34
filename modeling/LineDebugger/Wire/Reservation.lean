import LineDebugger.Wire.Call

namespace LineDebugger
namespace Wire

/-!
# Room for the entries of lists

Six lists may be long: the events of a set, and the methods, fields, source lines, variables and
frames in the answers to calls.  Before the first entry of such a list is read, room is made for
all of them.  The count in front of the list says how many there are, but it is a number from the
other side, so no more room is made than the bytes behind the count can fill.  For this it is laid
down how many bytes an entry takes at least.
-/

/-- The lists for which room is made before their entries are read. -/
inductive CountedList where
  | events
  | methods
  | fields
  | lines
  | locals
  | frames
  deriving DecidableEq, Repr

namespace CountedList

/-- The type of the entries. -/
@[reducible] def Entry : CountedList -> Type
  | .events => Event
  | .methods => MethodInfo
  | .fields => FieldInfo
  | .lines => LineEntry
  | .locals => Variable
  | .frames => Frame

/-- How many bytes an entry takes at least.  An event has its kind and its request; methods,
fields and variables have texts, which may be empty but have a length.  A frame is counted by its
position alone. -/
def entrySize : CountedList -> Nat
  | .events => 5
  | .methods | .fields => 20
  | .lines => 12
  | .locals => 24
  | .frames => 25

/-- How many entries room is made for, once the count has been read and the others of the bytes
are left. -/
def room (list : CountedList) (count : Nat) (rest : List UInt8) : Nat :=
  boundedCapacity count rest.length list.entrySize

/-- What is read first: whatever stands in front of the count, and the count. -/
def readCount : CountedList -> Reader Nat
  | .events => do
      let _ ← readByte
      Wire.readCount
  | .lines => do
      let _ ← readWord64
      let _ ← readWord64
      Wire.readCount
  | .locals => do
      let _ ← readSigned32
      Wire.readCount
  | .methods | .fields | .frames => Wire.readCount

/-- What is read then: up to so many entries. -/
def readEntries : (list : CountedList) -> Nat -> Reader (List list.Entry)
  | .events => readEvents
  | .methods => readMethod.repeated
  | .fields => readField.repeated
  | .lines => readLineEntry.repeated
  | .locals => readVariable.repeated
  | .frames => readFrame.repeated

end CountedList

namespace Call

/-- The list in the answer to a call for which room is made. -/
def countedList? : Call -> Option CountedList
  | .methods _ => some .methods
  | .fields _ => some .fields
  | .lineTable .. => some .lines
  | .variableTable .. => some .locals
  | .frames .. => some .frames
  | _ => none

/-- How many entries this list has. -/
def entryCount : (question : Call) -> question.Answer -> Nat
  | .methods _, entries => entries.length
  | .fields _, entries => entries.length
  | .lineTable .., table => table.entries.length
  | .variableTable .., entries => entries.length
  | .frames .., entries => entries.length
  | _, _ => 0

end Call
end Wire
end LineDebugger
