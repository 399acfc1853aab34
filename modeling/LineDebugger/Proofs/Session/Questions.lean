import LineDebugger.Proofs.Session.Failure
import LineDebugger.Proofs.Session.Handover

namespace LineDebugger
namespace Session

open Debuggee

/-!
# Lines that raise questions

A line may be followed by a question, and then the next line is the answer to it.  Up to the
question nothing has been said and nothing has changed, so that a command that fails at its
last answer is as harmless as one that fails at once.  Which questions may follow one another
is laid down in scripts.
-/

variable {σ α : Type}

/-! ## Questions -/

/-- The question to which a line is the answer in this mode. -/
def Mode.question? : Mode -> Option String
  | .command => none
  | .lineToBreakAt _ | .lineToClear => some lineQuestion
  | .variableToPrint _ => some "Insert variable name to print"
  | .indexToPrint _ _ => some "Which index of the array should be printed?"
  | .fieldToPrint _ _ => some "Which field should be printed?"

/-- The series of questions that may be raised from this mode on, its own included. -/
def Mode.scripts : Mode -> List (List String)
  | .command => [[]]
  | .lineToBreakAt _ | .lineToClear => [[lineQuestion]]
  | .variableToPrint _ =>
      [["Insert variable name to print", "Which index of the array should be printed?"],
        ["Insert variable name to print", "Which field should be printed?"]]
  | .indexToPrint _ _ => [["Which index of the array should be printed?"]]
  | .fieldToPrint _ _ => [["Which field should be printed?"]]

/-- The series of questions that a command may raise. -/
def Command.scripts : Command -> List (List String)
  | .setBreakpoint | .deleteBreakpoint => [[lineQuestion]]
  | .print =>
      [["Insert variable name to print", "Which index of the array should be printed?"],
        ["Insert variable name to print", "Which field should be printed?"]]
  | _ => [[]]

/-- The questions of the one mode may come after those of the other. -/
def Mode.Leads (mode next : Mode) : Prop :=
  forall question script, mode.question? = some question -> script ∈ next.scripts ->
    question :: script ∈ mode.scripts

/-- The only thing said is the question to which the next line is the answer. -/
def Asked (live : σ -> Ledger) (leads : Mode -> Prop) (past : List (Moment σ))
    (present : Situation σ) (turn : Turn) (log : List (Moment σ)) (after : Situation σ) : Prop :=
  after.input = present.input ∧
    forall mode question, turn = .expect mode -> mode.question? = some question ->
      leads mode ∧ exists before, Unspoilt live past present before after ∧
        log = before ++ [⟨after, .said question⟩]

/-- A line that leaves everything as it was when it fails, and when it raises a question. -/
def Proceeds (live : σ -> Ledger) (leads : Mode -> Prop)
    (act : Dialogue σ CommandError Turn) : Prop :=
  forall past present, act.Reaches (spared live CommandError.isLoss past present)
    (Asked live leads past present) past present

namespace Proceeds

variable {live : σ -> Ledger} {leads : Mode -> Prop}

theorem turn {turn : Turn}
    (silent : forall mode, turn = .expect mode -> mode.question? = none) :
    Proceeds live leads (pure turn : Dialogue σ CommandError Turn) := by
  intro past present
  refine Act.reaches_pure.mpr ⟨rfl, fun mode question same asks => ?_⟩
  cases (silent mode same).symm.trans asks

theorem handOver (handover : Handover) :
    Proceeds live leads (pure (.handOver handover) : Dialogue σ CommandError Turn) :=
  turn (by intro mode impossible; cases impossible)

theorem fail (error : CommandError) :
    Proceeds live leads (Act.fail error : Dialogue σ CommandError Turn) :=
  fun past present => Act.reaches_fail.mpr fun _ => .refl live past present

theorem plainly {act : Dialogue σ CommandError Unit}
    (spares : Spares live CommandError.isLoss act) : Proceeds live leads (plainly act) := by
  intro past present
  refine (spares past present).bind fun _ log after same => ?_
  refine Act.reaches_pure.mpr ⟨same, fun mode question expects asks => ?_⟩
  cases expects
  cases asks

theorem question {text : String} {mode : Mode} (asks : mode.question? = some text)
    (follows : leads mode) :
    Proceeds live leads (question text mode : Dialogue σ CommandError Turn) := by
  intro past present
  refine Act.reaches_bind.mpr (reaches_say.mpr (Act.reaches_pure.mpr ⟨rfl, ?_⟩))
  intro _ question same asked
  cases same
  cases asks.symm.trans asked
  exact ⟨follows, past, .refl live past present, rfl⟩

theorem after {first : Dialogue σ CommandError α} {next : α -> Dialogue σ CommandError Turn}
    (looks : OnlyLooks live CommandError.isLoss first)
    (onward : forall value, Proceeds live leads (next value)) :
    Proceeds live leads (first >>= next) := by
  intro past present
  refine looks.reaches.bind fun value log after unspoilt => ?_
  refine (onward value log after).imp ?_ (fun _ _ => trivial) ?_
  · exact fun _ _ _ owed => spared_of_unspoilt unspoilt owed
  · rintro turn later last ⟨same, asked⟩
    refine ⟨same.trans unspoilt.input, fun mode question expects asks => ?_⟩
    obtain ⟨follows, before, still, rfl⟩ := asked mode question expects asks
    exact ⟨follows, before, unspoilt.trans still, rfl⟩

variable {target : Target σ} (clean : FailsCleanly target live)
include clean

theorem printVariable (context : HaltContext) (name : String) :
    Proceeds live (Mode.variableToPrint context).Leads (printVariable target context name) := by
  refine after (OnlyLooks.frameVariables clean context.thread).asCommand fun visible => ?_
  cases visible.find? fun shown => shown.name == name with
  | none => exact fail _
  | some shown =>
      obtain ⟨shownName, declaredType, value⟩ := shown
      cases value with
      | array array =>
          refine question rfl ?_
          rintro _ script ⟨⟩ member
          cases List.mem_singleton.mp member
          exact List.mem_cons_self
      | object object =>
          refine question rfl ?_
          rintro _ script ⟨⟩ member
          cases List.mem_singleton.mp member
          exact List.mem_cons_of_mem _ List.mem_cons_self
      | _ => exact plainly (Spares.say _)

/-- The answer to a question. -/
theorem answer {mode : Mode} (asked : mode ≠ .command) (line : String) :
    Proceeds live mode.Leads (mode.take target line) := by
  unfold Mode.take
  -- Nothing here depends on what the answer says.
  generalize Text.trim line = answer
  cases mode with
  | command => exact (asked rfl).elim
  | lineToBreakAt context => exact plainly (Spares.breakAt clean context _)
  | lineToClear => exact plainly (Spares.clearAt clean _)
  | variableToPrint context => exact printVariable clean context _
  | indexToPrint name array => exact plainly (Spares.printElement clean name array _)
  | fieldToPrint name object => exact plainly (Spares.printField clean name object _)

/-- A command that asks for no step. -/
theorem execute {wanted : Command} (other : wanted.scope? = none) :
    Proceeds live (fun mode => mode.scripts = wanted.scripts) (execute target wanted) := by
  cases wanted with
  | resume => exact handOver .resumed
  | exit => exact handOver .exited
  | stepOver => cases other
  | stepInto => cases other
  | setBreakpoint => exact after OnlyLooks.haltContext fun context => question rfl rfl
  | deleteBreakpoint => exact question rfl rfl
  | showBreakpoints => exact plainly Spares.showBreakpoints
  | showFrame =>
      exact plainly <| OnlyLooks.haltContext.bind fun context =>
        (Spares.showFrame clean context.thread).asCommand
  | showStack =>
      exact plainly <| OnlyLooks.haltContext.bind fun context =>
        (Spares.showStack clean context.thread).asCommand
  | print => exact after OnlyLooks.haltContext fun context => question rfl rfl
  | help => exact plainly (Spares.sayAll _)

end Proceeds

end Session
end LineDebugger
