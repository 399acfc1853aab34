import LineDebugger.Connection.Link
import LineDebugger.Debuggee.Value

namespace LineDebugger
namespace Debuggee

/-!
# Targets

A target is whatever a session drives: something that answers requests.  A request is a
value of one inductive type and determines the type of its answer, so that a session's
log can hold any request with its outcome, and a statement about every target is a
statement about one function.  The state of a target is its own affair.
-/

/-! ## Failures -/

/-- Why a target did not do what it was asked for. -/
inductive TargetError where
  /-- The debuggee has ended or cannot be reached any more. -/
  | notAvailable (reason : String)
  /-- A name, line or index does not exist in the debuggee. -/
  | noSuchElement (reason : String)
  | other (reason : String)
  deriving DecidableEq, Repr

namespace TargetError

def message : TargetError -> String
  | .notAvailable reason => "target not available: " ++ reason
  | .noSuchElement reason => "no such element: " ++ reason
  | .other reason => "target error: " ++ reason

/-- Whether the debuggee is gone. -/
def isDisconnect : TargetError -> Bool
  | .notAvailable _ => true
  | _ => false

/-- The error codes with which a virtual machine says that something does not exist. -/
def absenceCodes : List UInt16 :=
  open Wire.ErrorCode in
  [notFound, absentInformation, invalidIndex, invalidField, invalidSlot, invalidObject,
   invalidLocation]

/-- A fault on the wire as the session sees it. -/
def ofFault (fault : Wire.Fault) : TargetError :=
  if fault.isDisconnect then .notAvailable fault.message
  else match fault.code? with
    | some code =>
        if absenceCodes.contains code then .noSuchElement fault.message
        else .other fault.message
    | none => .other fault.message

end TargetError

/-! ## Events -/

/-- What a target reports. -/
inductive TargetEvent where
  | classPrepared (thread classId : UInt64) (className : String)
  | breakpointHit (request : Int32) (thread : UInt64) (location : Location)
  | stepCompleted (request : Int32) (thread : UInt64) (location : Location)
  | disconnected
  | other
  deriving DecidableEq, Repr

/-- Events reported together.  If the batch is suspended, the debuggee is halted until
it is resumed. -/
structure EventBatch where
  suspended : Bool
  events : List TargetEvent
  deriving DecidableEq, Repr

/-! ## Requests -/

/-- How far a step goes: over the calls on a line or into them. -/
inductive StepScope where
  | overCalls
  | intoCalls
  deriving DecidableEq, Repr

/-- The kinds of request. -/
inductive RequestKind where
  | nextEvents | watchClassPrepare | locationsOfLine | enableBreakpoint | deleteBreakpoint
  | createStep | deleteStep | resume | frames | visibleVariables | fieldValue
  | arrayElement | arrayValues | detach
  deriving DecidableEq, Repr

/-- What a request of each kind is answered with.  Event requests are answered with the
number under which they are known from then on. -/
@[reducible] def RequestKind.Answer : RequestKind -> Type
  | .nextEvents => EventBatch
  | .watchClassPrepare | .enableBreakpoint | .createStep => Int32
  | .locationsOfLine => List Location
  | .deleteBreakpoint | .deleteStep | .resume | .detach => Unit
  | .frames => List StackFrame
  | .visibleVariables => List LocalVariable
  | .fieldValue | .arrayElement => Value
  | .arrayValues => List Value

/-- What a session can ask of a target. -/
inductive Request where
  /-- Wait for the next batch of events. -/
  | nextEvents
  /-- Halt when classes that match the pattern are prepared. -/
  | watchClassPrepare (pattern : String)
  /-- The places where the code of a source line begins, lowest code index first. -/
  | locationsOfLine (classId : UInt64) (line : UInt32)
  | enableBreakpoint (location : Location)
  | deleteBreakpoint (id : Int32)
  /-- Halt the thread once, at the next line of a class that matches the filter. -/
  | createStep (thread : UInt64) (scope : StepScope) (filter : String)
  | deleteStep (id : Int32)
  /-- Let every thread run. -/
  | resume
  /-- The innermost frames of a halted thread, all of them without a limit. -/
  | frames (thread : UInt64) (limit : Option Nat)
  | visibleVariables (thread : UInt64) (frame : StackFrame)
  /-- A field of an object by name, inherited ones included. -/
  | fieldValue (object : ObjectRef) (field : String)
  | arrayElement (array : ArrayRef) (index : Nat)
  /-- Every element of an array, in order. -/
  | arrayValues (array : ArrayRef)
  /-- Drop all event requests and let the debuggee run free. -/
  | detach
  deriving DecidableEq, Repr

namespace Request

def kind : Request -> RequestKind
  | .nextEvents => .nextEvents
  | .watchClassPrepare _ => .watchClassPrepare
  | .locationsOfLine .. => .locationsOfLine
  | .enableBreakpoint _ => .enableBreakpoint
  | .deleteBreakpoint _ => .deleteBreakpoint
  | .createStep .. => .createStep
  | .deleteStep _ => .deleteStep
  | .resume => .resume
  | .frames .. => .frames
  | .visibleVariables .. => .visibleVariables
  | .fieldValue .. => .fieldValue
  | .arrayElement .. => .arrayElement
  | .arrayValues _ => .arrayValues
  | .detach => .detach

/-- The type of the answer to a request. -/
@[reducible] def Answer (request : Request) : Type := request.kind.Answer

end Request

/-! ## Targets -/

/-- Something that answers requests.  The marks are the commands that it issued to find
an answer; a target that does not live behind a link issues none. -/
structure Target (σ : Type) where
  respond : (request : Request) ->
    Act σ Connection.Exchange TargetError request.Answer

end Debuggee
end LineDebugger
