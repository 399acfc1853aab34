import LineDebugger.Text.Numeral
import LineDebugger.Text.Utf8

namespace LineDebugger
namespace Wire

/-!
# What can go wrong on the wire

Payloads can be malformed, the transport can fail, and the virtual machine can reject
a command.  Each cause is a constructor; the wording is in the `message` functions
alone.  A fault is a *disconnect* when it means that the virtual machine is gone.
-/

open Text

/-- What a reader was after when the payload ran out. -/
inductive Item where
  | u8 | u16 | u32 | i32 | u64 | text | byte | double | float | long | short
  deriving DecidableEq, Repr

/-- The word that reports use for an item. -/
def Item.name : Item -> String
  | .u8 => "u8"
  | .u16 => "u16"
  | .u32 => "u32"
  | .i32 => "i32"
  | .u64 => "u64"
  | .text => "string"
  | .byte => "byte"
  | .double => "double"
  | .float => "float"
  | .long => "long"
  | .short => "short"

/-- Why bytes do not follow the protocol. -/
inductive Malformed where
  | tooShort (item : Item) (needed available : Nat)
  | badText (fault : Utf8.Fault)
  | negativeCount (count : Int32)
  | unknownTag (tag : UInt8)
  | shortReply
  | badReplyFlag (flag : UInt8)
  | other (text : String)
  deriving DecidableEq, Repr

def Malformed.message : Malformed -> String
  | .tooShort item needed available =>
      "Not enough data for " ++ item.name ++ s!": need {needed}, have {available}"
  | .badText fault => "Invalid UTF-8 in string: " ++ fault.message
  | .negativeCount count => s!"Negative count: {count.toInt}"
  | .unknownTag tag => s!"Unknown value tag: {tag.toNat}"
  | .shortReply => "Reply packet too short"
  | .badReplyFlag flag => "Invalid reply flag: 0x" ++ Numeral.hex flag.toNat
  | .other text => text

/-- How a transport failed.  The four named kinds mean that the other side is gone. -/
inductive TransportFailure where
  | unexpectedEnd | connectionReset | connectionAborted | brokenPipe | other
  deriving DecidableEq, Repr

/-- Whether the transport failed because the other side is gone. -/
def TransportFailure.isDisconnect : TransportFailure -> Bool
  | .other => false
  | _ => true

/-! ## Error codes of the protocol that mean something to the debugger -/

namespace ErrorCode

def none : UInt16 := 0
def invalidObject : UInt16 := 20
def invalidLocation : UInt16 := 24
def invalidField : UInt16 := 25
def invalidSlot : UInt16 := 35
def notFound : UInt16 := 41
def notImplemented : UInt16 := 99
def absentInformation : UInt16 := 101
def deadMachine : UInt16 := 112
def invalidIndex : UInt16 := 503

/-- The protocol's names of the error codes. -/
def names : List (UInt16 × String) :=
  [(0, "NONE"), (10, "INVALID_THREAD"), (13, "THREAD_NOT_SUSPENDED"),
   (20, "INVALID_OBJECT"), (21, "INVALID_CLASS"), (22, "CLASS_NOT_PREPARED"),
   (23, "INVALID_METHODID"), (24, "INVALID_LOCATION"), (25, "INVALID_FIELDID"),
   (30, "INVALID_FRAMEID"), (31, "NO_MORE_FRAMES"), (32, "OPAQUE_FRAME"),
   (34, "TYPE_MISMATCH"), (35, "INVALID_SLOT"), (40, "DUPLICATE"), (41, "NOT_FOUND"),
   (99, "NOT_IMPLEMENTED"), (101, "ABSENT_INFORMATION"), (102, "INVALID_EVENT_TYPE"),
   (103, "ILLEGAL_ARGUMENT"), (112, "VM_DEAD"), (113, "INTERNAL"),
   (503, "INVALID_INDEX"), (504, "INVALID_LENGTH"), (506, "INVALID_STRING"),
   (508, "INVALID_ARRAY")]

/-- The name of an error code, with one word for all that have none. -/
def name (code : UInt16) : String := (names.lookup code).getD "UNKNOWN_ERROR"

end ErrorCode

/-- Why a call on the wire failed. -/
inductive Fault where
  | transport (failure : TransportFailure) (text : String)
  | malformed (cause : Malformed)
  | badHandshake
  | rejected (code : UInt16) (name : String)
  | closed
  deriving DecidableEq, Repr

namespace Fault

def message : Fault -> String
  | .transport _ text => "IO error: " ++ text
  | .malformed cause => "Protocol error: " ++ cause.message
  | .badHandshake => "Invalid handshake"
  | .rejected code name => s!"JDWP error code {code.toNat}: {name}"
  | .closed => "Connection closed"

/-- Whether the fault means that the virtual machine is gone. -/
def isDisconnect : Fault -> Bool
  | .closed => true
  | .rejected code _ => code == ErrorCode.deadMachine
  | .transport failure _ => failure.isDisconnect
  | _ => false

/-- The error code with which the virtual machine rejected the command, if it did. -/
def code? : Fault -> Option UInt16
  | .rejected code _ => some code
  | _ => none

/-- The fault of a command that the virtual machine rejected with this code. -/
def ofCode (code : UInt16) : Fault := .rejected code (ErrorCode.name code)

/-- The stream ended before the handshake was complete. -/
def earlyEnd : Fault := .transport .unexpectedEnd "early eof"

/-- Nobody reads what is written any more. -/
def brokenPipe : Fault := .transport .brokenPipe "broken pipe"

end Fault
end Wire
end LineDebugger
