import LineDebugger.Session.Dialogue
import LineDebugger.Session.Fault

namespace LineDebugger
namespace Session

open Debuggee

/-!
# Event requests and their records

Every breakpoint in the table and the active step stand for exactly one event request
that the target knows.  A record is made only after the request has been made, and
dropped only after the request has been deleted or turned out to be gone already.  So
that records and requests agree also after a failure, a failed deletion leaves its
record in place.
-/

variable {σ : Type} (target : Target σ)

/-- Delete an event request.  One that is gone already counts as deleted. -/
def deleteRequest (request : Request) : Dialogue σ TargetError Unit := do
  match ← (Dialogue.ask target request).attempt with
  | .ok _ => return ()
  | .error (.noSuchElement _) => return ()
  | .error error => Act.fail error

/-- Find the place for a breakpoint: the first location of the line. -/
def findLocation (classId : UInt64) (line : UInt32) :
    Dialogue σ CommandError Location := do
  match ← (Dialogue.ask target (.locationsOfLine classId line)).attempt with
  | .ok (location :: _) => return location
  | .ok [] => Act.fail (.noLocationForLine line)
  | .error (.noSuchElement _) => Act.fail (.noLocationForLine line)
  | .error error => Act.fail (.target error)

/-- Set a breakpoint at a line of a class.  A line that has one already is refused
without a word to the target. -/
def setBreakpoint (classId : UInt64) (line : UInt32) :
    Dialogue σ CommandError Breakpoint := do
  if ((← Dialogue.records).breakpoints.get? line).isSome then
    Act.fail (.duplicateBreakpoint line)
  else
    let location ← findLocation target classId line
    let request : Int32 ←
      (Dialogue.ask target (.enableBreakpoint location)).mapError CommandError.target
    let breakpoint : Breakpoint := { line, location, request }
    Dialogue.change fun records =>
      { records with breakpoints := records.breakpoints.insert breakpoint }
    return breakpoint

/-- Delete the breakpoint of a line.  The answer tells whether there was one. -/
def deleteBreakpoint (line : UInt32) : Dialogue σ TargetError Bool := do
  match (← Dialogue.records).breakpoints.get? line with
  | none => return false
  | some breakpoint =>
      deleteRequest target (.deleteBreakpoint breakpoint.request)
      Dialogue.change fun records =>
        { records with breakpoints := records.breakpoints.erase line }
      return true

/-- Give up the active step.  Its record is put back if the request cannot be deleted. -/
def dropStep : Dialogue σ TargetError Unit := do
  match (← Dialogue.records).step with
  | none => return ()
  | some previous =>
      Dialogue.change fun records => { records with step := none }
      match ← (deleteRequest target (.deleteStep previous.request)).attempt with
      | .ok _ => return ()
      | .error error =>
          Dialogue.change fun records => { records with step := some previous }
          Act.fail error

/-- Step a thread within the entry class, instead of any step asked for before. -/
def requestStep (thread : UInt64) (scope : StepScope) : Dialogue σ TargetError Unit := do
  dropStep target
  let filter := (← Dialogue.records).entryClass
  let request : Int32 ← Dialogue.ask target (.createStep thread scope filter)
  Dialogue.change fun records => { records with step := some { request, thread, scope } }

/-- Delete a step request whose completion has been reported.  If it was the active
step, no step is active any more. -/
def retireStep (request : Int32) : Dialogue σ TargetError Unit := do
  deleteRequest target (.deleteStep request)
  Dialogue.change fun records =>
    if records.step.map ActiveStep.request = some request then { records with step := none }
    else records

end Session
end LineDebugger
