import LineDebugger.Session.Command
import LineDebugger.Session.Inspection
import LineDebugger.Session.Requests
import LineDebugger.Text.Numeral

namespace LineDebugger
namespace Session

open Debuggee

/-!
# The command interpreter

While the target is halted, the operator's lines are taken one after the other.  What a
line means is given by the mode: it is a command, or it is the answer to a question that
an earlier line has raised.  Each line is taken exactly once, and taking it either
leads to the mode of the next line or hands control back.  An answer is therefore never
taken for a command, nor a command for an answer.  After an error the next line is a
command again.
-/

/-- How control is handed back. -/
inductive Handover where
  | resumed
  | stepped
  | exited
  deriving DecidableEq, Repr

/-- What comes after a line. -/
inductive Turn where
  | expect (mode : Mode)
  | handOver (handover : Handover)
  deriving DecidableEq, Repr

variable {σ : Type} (target : Target σ)

/-- The thread that is halted. -/
def haltContext : Dialogue σ CommandError HaltContext := do
  match (← Dialogue.records).context with
  | some context => return context
  | none => Act.fail .noContext

/-- Ask the operator a question. -/
def question (text : String) (mode : Mode) : Dialogue σ CommandError Turn := do
  Dialogue.say text
  return .expect mode

/-! ## Commands -/

/-- The question for the line of a breakpoint. -/
def lineQuestion : String := "Enter the line for the breakpoint: "

/-- Carry out something that raises no question. -/
def plainly (act : Dialogue σ CommandError Unit) : Dialogue σ CommandError Turn := do
  act
  return .expect .command

/-- Carry out a command as far as the line with it goes. -/
def execute : Command -> Dialogue σ CommandError Turn
  | .resume => return .handOver .resumed
  | .exit => return .handOver .exited
  | .stepOver => step .overCalls
  | .stepInto => step .intoCalls
  | .setBreakpoint => do question lineQuestion (.lineToBreakAt (← haltContext))
  | .deleteBreakpoint => question lineQuestion .lineToClear
  | .showBreakpoints => plainly showBreakpoints
  | .showFrame => plainly do
      let context ← haltContext
      (showFrame target context.thread).mapError CommandError.target
  | .showStack => plainly do
      let context ← haltContext
      (showStack target context.thread).mapError CommandError.target
  | .print => do
      question "Insert variable name to print" (.variableToPrint (← haltContext))
  | .help => plainly (Dialogue.sayAll Command.helpLines)
where
  /-- Ask for a step of the halted thread and hand control back. -/
  step (scope : StepScope) : Dialogue σ CommandError Turn := do
    let context ← haltContext
    (requestStep target context.thread scope).mapError CommandError.target
    return .handOver .stepped

/-! ## Answers -/

/-- The line number in an answer. -/
def lineNumber (answer : String) : Dialogue σ CommandError UInt32 :=
  match Text.Numeral.word32? answer with
  | some line => pure line
  | none => Act.fail (.malformedNumber answer)

/-- The line to set a breakpoint at has been named. -/
def breakAt (context : HaltContext) (answer : String) : Dialogue σ CommandError Unit := do
  let line ← lineNumber answer
  let _ ← setBreakpoint target context.classId line
  Dialogue.say s!"Breakpoint set at line {line.toNat}"

/-- The line whose breakpoint is to go has been named. -/
def clearAt (answer : String) : Dialogue σ CommandError Unit := do
  let line ← lineNumber answer
  let existed ← (deleteBreakpoint target line).mapError CommandError.target
  Dialogue.say <|
    if existed then s!"Breakpoint at line {line.toNat} deleted"
    else s!"No breakpoint at line {line.toNat}"

/-- The variable to print has been named.  An array raises the question for an index
and an object the question for a field; anything else is printed. -/
def printVariable (context : HaltContext) (name : String) :
    Dialogue σ CommandError Turn := do
  let visible ← (frameVariables target context.thread).mapError CommandError.target
  match visible.find? fun shown => shown.name == name with
  | none => Act.fail (.noSuchVariable name)
  | some shown =>
      match shown.value with
      | .array array =>
          question "Which index of the array should be printed?" (.indexToPrint name array)
      | .object object =>
          question "Which field should be printed?" (.fieldToPrint name object)
      | value => plainly (Dialogue.say (name ++ ": " ++ value.render))

/-- The index of an array element has been named.  The target is asked only for elements
that exist. -/
def printElement (name : String) (array : ArrayRef) (answer : String) :
    Dialogue σ CommandError Unit := do
  match Text.Numeral.signed64? answer with
  | none => Act.fail (.malformedNumber answer)
  | some index =>
      if 0 ≤ index.toInt ∧ index.toInt < array.length then
        let position := index.toInt.toNat
        let element : Value ←
          (Dialogue.ask target (.arrayElement array position)).mapError CommandError.target
        Dialogue.say s!"{name}[{position}]: {element.render}"
      else Act.fail (.indexOutOfRange index array.length)

/-- The field of an object has been named. -/
def printField (name : String) (object : ObjectRef) (field : String) :
    Dialogue σ CommandError Unit := do
  match ← (Dialogue.ask target (.fieldValue object field)).attempt with
  | .ok value =>
      let text ← (renderValue target value).mapError CommandError.target
      Dialogue.say (name ++ "." ++ field ++ ": " ++ text)
  | .error (.noSuchElement _) => Act.fail (.noSuchField field)
  | .error error => Act.fail (.target error)

/-! ## Lines -/

/-- Take a line for what it means.  A line that should be a command and is none is
passed over. -/
def Mode.take (mode : Mode) (line : String) : Dialogue σ CommandError Turn :=
  let answer := Text.trim line
  match mode with
  | .command =>
      match Command.ofLine? line with
      | some wanted => execute target wanted
      | none => return .expect .command
  | .lineToBreakAt context => plainly (breakAt target context answer)
  | .lineToClear => plainly (clearAt target answer)
  | .variableToPrint context => printVariable target context answer
  | .indexToPrint name array => plainly (printElement target name array answer)
  | .fieldToPrint name object => plainly (printField target name object answer)

/-- Take lines until one hands control back.  The end of the input means that the
operator leaves, whatever was expected.  Errors are reported, except that the target
is gone. -/
def interpretLines : (lines : List String) -> Mode -> Dialogue σ TargetError Handover
  | [], mode => do
      Dialogue.expect mode
      Dialogue.note (.read none)
      return .exited
  | line :: others, mode => do
      Dialogue.expect mode
      Dialogue.read line others
      match ← (mode.take target line).attempt with
      | .ok (.handOver handover) => return handover
      | .ok (.expect next) => interpretLines others next
      | .error error =>
          match error.lost? with
          | some lost => Act.fail lost
          | none =>
              Dialogue.say error.message
              interpretLines others .command

/-- Let the operator give commands until one hands control back. -/
def interpret : Dialogue σ TargetError Handover := fun situation =>
  interpretLines target situation.input .command situation

end Session
end LineDebugger
