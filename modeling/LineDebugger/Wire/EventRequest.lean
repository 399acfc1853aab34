import LineDebugger.Wire.EventSet

namespace LineDebugger
namespace Wire

/-!
# Event requests

The debugger asks for events by kind, with a policy for what is suspended when one
occurs and a list of modifiers that narrow the request, applied in order.
-/

/-- What is suspended when an event occurs. -/
inductive SuspendPolicy where
  | none
  | eventThread
  | all
  deriving DecidableEq, Repr

def SuspendPolicy.toByte : SuspendPolicy -> UInt8
  | .none => 0
  | .eventThread => 1
  | .all => 2

/-- A condition that narrows an event request. -/
inductive Modifier where
  | count (times : Int32)
  | threadOnly (thread : UInt64)
  | classMatch (pattern : String)
  | classExclude (pattern : String)
  | locationOnly (location : Location)
  | step (thread : UInt64) (size depth : Int32)
  deriving DecidableEq, Repr

/-! ## How far a single step goes: by lines, and into calls or over them -/

namespace StepShape

def line : Int32 := 1
def intoCalls : Int32 := 0
def overCalls : Int32 := 1

end StepShape

/-- The bytes of a modifier: its kind and its operands. -/
def Modifier.bytes : Modifier -> List UInt8
  | .count times => byteBytes 1 ++ signedBytes32 times
  | .threadOnly thread => byteBytes 3 ++ wordBytes64 thread
  | .classMatch pattern => byteBytes 5 ++ textBytes pattern
  | .classExclude pattern => byteBytes 6 ++ textBytes pattern
  | .locationOnly location => byteBytes 7 ++ location.bytes
  | .step thread size depth =>
      byteBytes 10 ++ wordBytes64 thread ++ signedBytes32 size ++ signedBytes32 depth

/-- A request for events of one kind. -/
structure EventRequest where
  kind : UInt8
  policy : SuspendPolicy
  modifiers : List Modifier
  deriving DecidableEq, Repr

namespace EventRequest

/-- The bytes of a request. -/
def bytes (request : EventRequest) : List UInt8 :=
  byteBytes request.kind ++ byteBytes request.policy.toByte
    ++ listBytes Modifier.bytes request.modifiers

/-- A breakpoint at one exact position. -/
def breakpoint (location : Location) (policy : SuspendPolicy) : EventRequest :=
  ⟨EventKind.breakpoint, policy, [.locationOnly location]⟩

/-- A single step of a thread, in classes that match the pattern if there is one.  The
count of one makes the request fire once; it still has to be cleared. -/
def step (thread : UInt64) (size depth : Int32) (pattern : Option String)
    (policy : SuspendPolicy) : EventRequest :=
  ⟨EventKind.singleStep, policy,
    [.step thread size depth] ++ (pattern.map Modifier.classMatch).toList ++ [.count 1]⟩

/-- The preparation of classes whose names match the pattern. -/
def classPrepare (pattern : String) (policy : SuspendPolicy) : EventRequest :=
  ⟨EventKind.classPrepare, policy, [.classMatch pattern]⟩

end EventRequest
end Wire
end LineDebugger
