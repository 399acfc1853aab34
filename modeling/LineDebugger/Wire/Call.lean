import LineDebugger.Wire.EventRequest
import LineDebugger.Wire.Packet
import LineDebugger.Wire.Record
import LineDebugger.Wire.Value

namespace LineDebugger
namespace Wire

/-!
# Calls

A call is a question that the debugger can put to the virtual machine.  Each one has a
command that carries it, with all of its arguments in the command's data, and a reader
for the data of its reply.  A reply with an error code is a fault whatever its data;
otherwise the data must begin with the answer, and what follows the answer is ignored.
-/

/-- A slot of a frame and the first letter of the type of the variable in it. -/
structure SlotQuery where
  slot : Int32
  letter : UInt8
  deriving DecidableEq, Repr

/-- The bytes of a slot query. -/
def SlotQuery.bytes (query : SlotQuery) : List UInt8 :=
  signedBytes32 query.slot ++ byteBytes query.letter

/-- A question to the virtual machine. -/
inductive Call where
  | resumeAll
  | dispose
  | signature (type : UInt64)
  | methods (type : UInt64)
  | fields (type : UInt64)
  | staticValues (type : UInt64) (fieldIds : List UInt64)
  | superclass (type : UInt64)
  | lineTable (type method : UInt64)
  | variableTable (type method : UInt64)
  | objectType (object : UInt64)
  | objectValues (object : UInt64) (fieldIds : List UInt64)
  | stringValue (string : UInt64)
  | frames (thread : UInt64) (start length : Int32)
  | arrayLength (array : UInt64)
  | arrayValues (array : UInt64) (first length : Int32)
  | frameValues (thread frame : UInt64) (slots : List SlotQuery)
  | request (wanted : EventRequest)
  | clearRequest (kind : UInt8) (id : Int32)
  deriving DecidableEq, Repr

namespace Call

/-- The type of the answer to a call. -/
@[reducible] def Answer : Call -> Type
  | .resumeAll | .dispose | .clearRequest .. => Unit
  | .signature _ | .stringValue _ => String
  | .methods _ => List MethodInfo
  | .fields _ => List FieldInfo
  | .staticValues .. | .objectValues .. | .arrayValues .. | .frameValues .. => List Value
  | .superclass _ => Option UInt64
  | .lineTable .. => LineTable
  | .variableTable .. => List Variable
  | .objectType _ => UInt64
  | .frames .. => List Frame
  | .arrayLength _ | .request _ => Int32

/-- The command that carries a call. -/
def command : Call -> Command
  | .resumeAll => ⟨1, 9, []⟩
  | .dispose => ⟨1, 6, []⟩
  | .signature type => ⟨2, 1, wordBytes64 type⟩
  | .fields type => ⟨2, 4, wordBytes64 type⟩
  | .methods type => ⟨2, 5, wordBytes64 type⟩
  | .staticValues type fieldIds =>
      ⟨2, 6, wordBytes64 type ++ listBytes wordBytes64 fieldIds⟩
  | .superclass type => ⟨3, 1, wordBytes64 type⟩
  | .lineTable type method => ⟨6, 1, wordBytes64 type ++ wordBytes64 method⟩
  | .variableTable type method => ⟨6, 2, wordBytes64 type ++ wordBytes64 method⟩
  | .objectType object => ⟨9, 1, wordBytes64 object⟩
  | .objectValues object fieldIds =>
      ⟨9, 2, wordBytes64 object ++ listBytes wordBytes64 fieldIds⟩
  | .stringValue string => ⟨10, 1, wordBytes64 string⟩
  | .frames thread start length =>
      ⟨11, 6, wordBytes64 thread ++ signedBytes32 start ++ signedBytes32 length⟩
  | .arrayLength array => ⟨13, 1, wordBytes64 array⟩
  | .arrayValues array first length =>
      ⟨13, 2, wordBytes64 array ++ signedBytes32 first ++ signedBytes32 length⟩
  | .request wanted => ⟨15, 1, wanted.bytes⟩
  | .clearRequest kind id => ⟨15, 2, byteBytes kind ++ signedBytes32 id⟩
  | .frameValues thread frame slots =>
      ⟨16, 1, wordBytes64 thread ++ wordBytes64 frame ++ listBytes SlotQuery.bytes slots⟩

/-- The superclass in a reply; the root of the class hierarchy answers zero. -/
def readSuperclass : Reader (Option UInt64) := do
  let type ← readWord64
  return if type = 0 then none else some type

/-- The type of an object, after its type tag, which is not used. -/
def readObjectType : Reader UInt64 := do
  let _ ← readByte
  readWord64

/-- The reader of the data of a reply. -/
def readAnswer : (call : Call) -> Reader call.Answer
  | .resumeAll | .dispose | .clearRequest .. => pure ()
  | .signature _ | .stringValue _ => readText
  | .methods _ => readList readMethod
  | .fields _ => readList readField
  | .staticValues .. | .objectValues .. | .frameValues .. => readList readTagged
  | .arrayValues .. => readRegion
  | .superclass _ => readSuperclass
  | .lineTable .. => readLineTable
  | .variableTable .. => readVariableTable
  | .objectType _ => readObjectType
  | .frames .. => readList readFrame
  | .arrayLength _ | .request _ => readSigned32

/-- What a reply says about a call. -/
def answer (call : Call) (reply : Reply) : Except Fault call.Answer := do
  reply.check
  match (call.readAnswer reply.data).result with
  | .ok answer => .ok answer
  | .error cause => .error (.malformed cause)

/-! ## Calls that are made of others -/

/-- Ask for a breakpoint at one exact position. -/
def setBreakpoint (location : Location) (policy : SuspendPolicy) : Call :=
  .request (.breakpoint location policy)

/-- Ask for a single step of a thread. -/
def setStep (thread : UInt64) (size depth : Int32) (pattern : Option String)
    (policy : SuspendPolicy) : Call :=
  .request (.step thread size depth pattern policy)

/-- Ask to be told when classes that match the pattern are prepared. -/
def setClassPrepare (pattern : String) (policy : SuspendPolicy) : Call :=
  .request (.classPrepare pattern policy)

/-- Withdraw a breakpoint. -/
def clearBreakpoint (id : Int32) : Call := .clearRequest EventKind.breakpoint id

/-- Withdraw a single step. -/
def clearStep (id : Int32) : Call := .clearRequest EventKind.singleStep id

end Call
end Wire
end LineDebugger
