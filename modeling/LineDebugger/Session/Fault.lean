import LineDebugger.Debuggee.Target
import LineDebugger.Text.Quoted

namespace LineDebugger
namespace Session

open Debuggee

/-!
# What can go wrong in a session

Errors of a command are reported to the operator and change nothing about the
conversation, except for the two that end it.  Errors of a session end it.
-/

/-- Why a command of the operator could not be carried out. -/
inductive CommandError where
  | noLocationForLine (line : UInt32)
  | noSuchVariable (name : String)
  | noSuchField (name : String)
  | indexOutOfRange (index : Int64) (length : Nat)
  | malformedNumber (text : String)
  | duplicateBreakpoint (line : UInt32)
  | noContext
  /-- The input ended while an answer was expected. -/
  | inputClosed
  | target (error : TargetError)
  deriving DecidableEq, Repr

namespace CommandError

def message : CommandError -> String
  | .noLocationForLine line => s!"No executable location for line {line.toNat}"
  | .noSuchVariable name => "variable: " ++ name ++ " not found. Probably a wrong input."
  | .noSuchField name => "Field " ++ name ++ " cannot be found, probably a wrong input."
  | .indexOutOfRange index length =>
      s!"Index out of bounds: {index.toInt} (length {length})"
  | .malformedNumber text => "Not a valid number: " ++ Text.quoted text
  | .duplicateBreakpoint line => s!"Breakpoint already set at line {line.toNat}"
  | .noContext => "No halted thread to operate on"
  | .inputClosed => "input closed"
  | .target error => error.message

/-- The failure of a target that is gone, which the operator cannot do anything about. -/
def lost? : CommandError -> Option TargetError
  | .target error => if error.isDisconnect then some error else none
  | _ => none

/-- Whether the conversation with the operator ends here. -/
def isFatal : CommandError -> Bool
  | .inputClosed => true
  | error => error.lost?.isSome

end CommandError

/-- Why a session did not come about or broke off. -/
inductive SessionError where
  | launchFailure (reason : String)
  | targetDisconnected
  | target (error : TargetError)
  deriving DecidableEq, Repr

def SessionError.message : SessionError -> String
  | .launchFailure reason => "failed to launch target: " ++ reason
  | .targetDisconnected => "target disconnected"
  | .target error => error.message

end Session
end LineDebugger
