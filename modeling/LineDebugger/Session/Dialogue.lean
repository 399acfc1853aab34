import LineDebugger.Debuggee.Target
import LineDebugger.Session.BreakpointTable

namespace LineDebugger
namespace Session

open Debuggee

/-!
# Dialogues

A session talks to two parties: it asks the target and it reads from and writes to the
operator.  A `Dialogue` is a computation over the situation of a session, that is, its
own bookkeeping, the state of the target, and the lines the operator has yet to enter.
Its log holds a moment for everything that was said, read or asked, together with the
situation just before, so that statements about a whole run can refer to any point of
it.
-/

/-- The thread and class that the operator's commands apply to. -/
structure HaltContext where
  thread : UInt64
  classId : UInt64
  deriving DecidableEq, Repr

/-- What the operator's next line means: it is a command, or the answer to a question. -/
inductive Mode where
  | command
  | lineToBreakAt (context : HaltContext)
  | lineToClear
  | variableToPrint (context : HaltContext)
  | indexToPrint (name : String) (array : ArrayRef)
  | fieldToPrint (name : String) (object : ObjectRef)
  deriving DecidableEq, Repr

/-- The one outstanding step request. -/
structure ActiveStep where
  request : Int32
  thread : UInt64
  scope : StepScope
  deriving DecidableEq, Repr

/-- The bookkeeping of a session.  The entry class filters which class preparations are
watched and where steps may halt. -/
structure Records where
  entryClass : String
  breakpoints : BreakpointTable := {}
  step : Option ActiveStep := none
  context : Option HaltContext := none
  deriving DecidableEq, Repr

/-- Forget every request and the halted thread.  This is right only when the target is
gone. -/
def Records.abandon (records : Records) : Records :=
  { records with breakpoints := {}, step := none, context := none }

/-- Where a session stands.  The mode is the one for which the operator was last asked
for a line. -/
structure Situation (σ : Type) where
  records : Records
  target : σ
  input : List String
  mode : Mode := .command

/-- A fresh session. -/
def Situation.initial {σ : Type} (target : σ) (input : List String) (entryClass : String) :
    Situation σ :=
  { records := { entryClass }, target, input }

/-- Something that happened in a session.  Reading nothing means that the input has
ended.  The last two are steps of the session's own: it turns to an event, and it
lets the operator give commands. -/
inductive Mark where
  | said (line : String)
  | read (line : Option String)
  | asked (request : Request) (outcome : Outcome TargetError request.Answer)
      (exchanges : List Connection.Exchange)
  | turnedTo (event : TargetEvent)
  | consulted

/-- A mark with the situation just before it. -/
structure Moment (σ : Type) where
  before : Situation σ
  mark : Mark

/-- A computation of a session. -/
abbrev Dialogue (σ ε α : Type) : Type := Act (Situation σ) (Moment σ) ε α

namespace Dialogue

variable {σ ε : Type}

/-- Leave a mark. -/
def note (mark : Mark) : Dialogue σ ε Unit := fun situation =>
  ⟨.ok (), [⟨situation, mark⟩], situation⟩

/-- Write a line for the operator. -/
def say (line : String) : Dialogue σ ε Unit := note (.said line)

/-- Write several lines for the operator. -/
def sayAll : List String -> Dialogue σ ε Unit
  | [] => pure ()
  | line :: others => do
      say line
      sayAll others

/-- Let the operator's next line be taken in this mode. -/
def expect (mode : Mode) : Dialogue σ ε Unit :=
  Act.update fun situation => { situation with mode }

/-- Take the operator's next line, leaving the others for later. -/
def read (line : String) (others : List String) : Dialogue σ ε Unit := do
  note (.read (some line))
  Act.update fun situation => { situation with input := others }

/-- Ask the target and wait for its answer. -/
def ask (target : Target σ) (request : Request) : Dialogue σ TargetError request.Answer :=
  fun situation =>
    let response := target.respond request situation.target
    ⟨response.outcome,
      [⟨situation, .asked request response.outcome response.log⟩],
      { situation with target := response.state }⟩

/-- The session's bookkeeping. -/
def records : Dialogue σ ε Records := do return (← Act.current).records

/-- Change the session's bookkeeping. -/
def change (f : Records -> Records) : Dialogue σ ε Unit :=
  Act.update fun situation => { situation with records := f situation.records }

end Dialogue
end Session
end LineDebugger
