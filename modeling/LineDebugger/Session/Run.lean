import LineDebugger.Session.Interpreter

namespace LineDebugger
namespace Session

open Debuggee

/-!
# Running a session

A session waits for a batch of events, turns to each event in order, and consults the
operator at the first one that halts.  A batch that suspended the debuggee is followed
by one resumption, after the operator has handed control back.  The session ends when
the debuggee reports its end, when it is lost, or when the operator leaves.
-/

/-- How a session ended. -/
inductive SessionEnd where
  /-- The debuggee reported its end. -/
  | disconnected
  /-- The debuggee was lost without a word. -/
  | connectionLost
  /-- The operator left. -/
  | operatorExit
  deriving DecidableEq, Repr

/-- What comes after an event.  `consulted` tells whether the operator has been consulted
in this batch. -/
inductive Course where
  | goOn (consulted : Bool)
  | finish (reason : SessionEnd)
  deriving DecidableEq, Repr

variable {σ ε : Type} (target : Target σ)

/-- What is said when the debuggee has reported its end. -/
def endNotice : String := "VM is now disconnected."

/-- What is said when the debuggee was lost without a word. -/
def lossNotice : String := "VM unexpectedly disconnected."

/-- Report that the debuggee was lost, and forget what was asked of it. -/
def connectionLost : Dialogue σ ε SessionEnd := do
  Dialogue.say lossNotice
  Dialogue.change Records.abandon
  return .connectionLost

/-- Let commands apply to this thread and class from now on. -/
def haltAt (thread classId : UInt64) : Dialogue σ ε Unit :=
  Dialogue.change fun records => { records with context := some { thread, classId } }

/-- Consult the operator, at most once in a batch. -/
def consult (consulted : Bool) : Dialogue σ TargetError Course := do
  if consulted then return .goOn true
  else
    Dialogue.note .consulted
    match ← interpret target with
    | .exited => return .finish .operatorExit
    | .resumed | .stepped => return .goOn true

/-- The line that reports a completed step. -/
def stepLine (location : Location) : String :=
  s!"step halted in {location.methodName} at {location.lineText}, "
    ++ toString location.codeIndex.toNat

/-- The line that reports a breakpoint. -/
def breakpointLine (location : Location) : String :=
  "breakpoint at " ++ location.lineText ++ " in " ++ location.qualifiedMethod

/-- React to one event. -/
def dispatch (consulted : Bool) : TargetEvent -> Dialogue σ TargetError Course
  | .classPrepared thread classId className => do
      haltAt thread classId
      Dialogue.say (className ++ " loaded")
      consult target consulted
  | .breakpointHit _ thread location => do
      haltAt thread location.classId
      Dialogue.say (breakpointLine location)
      sayHaltVariables target thread
      consult target consulted
  | .stepCompleted request thread location => do
      haltAt thread location.classId
      Dialogue.say (stepLine location)
      sayHaltVariables target thread
      retireStep target request
      consult target consulted
  | .disconnected => do
      Dialogue.say endNotice
      Dialogue.change Records.abandon
      return .finish .disconnected
  | .other => return .goOn consulted

/-- React to events in order, until one ends the session.  An event whose handling fails
is reported and left behind, unless the debuggee is gone. -/
def dispatchAll (consulted : Bool) : List TargetEvent -> Dialogue σ ε (Option SessionEnd)
  | [] => return none
  | event :: others => do
      Dialogue.note (.turnedTo event)
      match ← (dispatch target consulted event).attempt with
      | .ok (.finish reason) => return some reason
      | .ok (.goOn consulted) => dispatchAll consulted others
      | .error error =>
          if error.isDisconnect then return some (← connectionLost)
          else
            Dialogue.say ("error while handling event: " ++ error.message)
            dispatchAll consulted others

/-- Resume the debuggee.  A failure is reported, unless the debuggee is gone. -/
def resumeTarget : Dialogue σ ε (Option SessionEnd) := do
  match ← (Dialogue.ask target .resume).attempt with
  | .ok _ => return none
  | .error error =>
      if error.isDisconnect then return some (← connectionLost)
      else
        Dialogue.say ("error while resuming: " ++ error.message)
        return none

/-- React to a batch of events. -/
def dispatchBatch (batch : EventBatch) : Dialogue σ ε (Option SessionEnd) := do
  match ← dispatchAll target false batch.events with
  | some reason => return some reason
  | none => if batch.suspended then resumeTarget target else return none

/-- Drain batches of events until the session ends, for at most `rounds` batches.  A
session that is not over by then is unfinished. -/
def run : (rounds : Nat) -> Dialogue σ ε SessionEnd
  | 0 => Act.wait
  | rounds + 1 => do
      match ← (Dialogue.ask target .nextEvents).attempt with
      | .ok batch =>
          match ← dispatchBatch target batch with
          | some reason => return reason
          | none => run rounds
      | .error error =>
          if error.isDisconnect then connectionLost
          else
            Dialogue.say ("error while waiting for events: " ++ error.message)
            run rounds

/-- The lines that greet the operator. -/
def greeting : List String := "Welcome to the debugger" :: Command.helpLines

/-- A whole session: greet the operator, watch for the entry class, run, and let the
debuggee go if the operator left. -/
def start (rounds : Nat) : Dialogue σ SessionError SessionEnd := do
  Dialogue.sayAll greeting
  let entryClass := (← Dialogue.records).entryClass
  match ← (Dialogue.ask target (.watchClassPrepare entryClass)).attempt with
  | .error error =>
      if error.isDisconnect then Act.fail .targetDisconnected
      else Act.fail (.target error)
  | .ok _ =>
      let reason ← run target rounds
      if reason = .operatorExit then
        let _ : Except TargetError Unit ← (Dialogue.ask target .detach).attempt
      return reason

end Session
end LineDebugger
