import LineDebugger.Session.Dialogue
import LineDebugger.Session.Fault

namespace LineDebugger
namespace Session

open Debuggee

/-!
# Looking at a halted thread

Frames and variables are read afresh for every look, since they mean nothing once the
thread has run.  Arrays are shown with their elements where these can be read, and in
their compact form where they cannot.
-/

variable {σ : Type} (target : Target σ)

/-- The innermost frame of a thread. -/
def topFrame (thread : UInt64) : Dialogue σ TargetError StackFrame := do
  let frames : List StackFrame ← Dialogue.ask target (.frames thread (some 1))
  match frames with
  | frame :: _ => return frame
  | [] => Act.fail (.noSuchElement "thread has no frames")

/-- The variables that are visible in the innermost frame. -/
def frameVariables (thread : UInt64) : Dialogue σ TargetError (List LocalVariable) := do
  let frame ← topFrame target thread
  Dialogue.ask target (.visibleVariables thread frame)

/-- The text of a value, arrays with their elements.  Only the loss of the target keeps
a value from being shown. -/
def renderValue : Value -> Dialogue σ TargetError String
  | .array array => do
      match ← (Dialogue.ask target (.arrayValues array)).attempt with
      | .ok elements => return Value.renderElements elements
      | .error error =>
          if error.isDisconnect then Act.fail error
          else return (Value.array array).render
  | value => return value.render

/-- Write one line for each variable. -/
def sayVariables : List LocalVariable -> Dialogue σ TargetError Unit
  | [] => pure ()
  | shown :: others => do
      let value ← renderValue target shown.value
      Dialogue.say (shown.describe value)
      sayVariables others

/-- The line under a list. -/
def rule : String := "==========================="

/-- Show the variables of the innermost frame of a thread. -/
def showFrame (thread : UInt64) : Dialogue σ TargetError Unit := do
  let visible ← frameVariables target thread
  Dialogue.say "====current stack frame===="
  sayVariables target visible
  Dialogue.say rule

/-- Show the frames of a thread. -/
def showStack (thread : UInt64) : Dialogue σ TargetError Unit := do
  let frames : List StackFrame ← Dialogue.ask target (.frames thread none)
  Dialogue.say "====current stack trace===="
  Dialogue.sayAll (frames.map fun frame =>
    frame.location.methodName ++ ": " ++ frame.location.lineText)
  Dialogue.say rule

/-- Show the breakpoints.  This is the session's own knowledge; the target is not
asked. -/
def showBreakpoints {ε : Type} : Dialogue σ ε Unit := do
  match (← Dialogue.records).breakpoints.entries with
  | [] => Dialogue.say "No breakpoints set"
  | breakpoints => Dialogue.sayAll (breakpoints.map Breakpoint.describe)

/-- Show the variables at a halt.  That they cannot be read is reported and hinders
nothing, unless the target is gone. -/
def sayHaltVariables (thread : UInt64) : Dialogue σ TargetError Unit := do
  match ← (frameVariables target thread).attempt with
  | .ok visible => sayVariables target visible
  | .error error =>
      if error.isDisconnect then Act.fail error
      else Dialogue.say ("cannot read variables: " ++ error.message)

end Session
end LineDebugger
