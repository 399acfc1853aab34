import LineDebugger.Proofs.Session.Interpreter

namespace LineDebugger
namespace Session

open Debuggee

/-!
# Commands at a halt do not lack one

Some commands apply to the halted thread and fail if there is none.  This cannot happen as
long as a halt is on record, whatever line is taken in whatever mode: the commands look the
halt up at once, and the answer to a question carries with it the halt that the question was
about.
-/

variable {σ ε α : Type} {target : Target σ}

/-- The debts of a command that does not lack a halted thread. -/
def oriented : Exits (Situation σ) (Moment σ) CommandError where
  failed error _ _ := error ≠ .noContext
  unfinished _ := True

/-- A computation that never fails for want of a halted thread. -/
def Oriented (act : Dialogue σ CommandError α) : Prop :=
  forall past situation, act.Reaches oriented (fun _ _ _ => True) past situation

namespace Oriented

theorem pure (value : α) : Oriented (pure value : Dialogue σ CommandError α) :=
  fun _ _ => Act.reaches_pure.mpr trivial

theorem fail {error : CommandError} (different : error ≠ .noContext) :
    Oriented (Act.fail error : Dialogue σ CommandError α) :=
  fun _ _ => Act.reaches_fail.mpr different

theorem bind {β : Type} {first : Dialogue σ CommandError α}
    {next : α -> Dialogue σ CommandError β} (oriented : Oriented first)
    (onward : forall value, Oriented (next value)) : Oriented (first >>= next) :=
  fun past situation => (oriented past situation).bind fun value log after _ =>
    onward value log after

theorem ofTarget (act : Dialogue σ TargetError α) :
    Oriented (act.mapError CommandError.target) := by
  intro past situation
  rw [Act.reaches_mapError]
  refine Act.reaches_somehow.imp ?_ (fun _ _ => trivial) fun _ _ _ _ => trivial
  intro error log after _ impossible
  cases impossible

theorem attempt {act : Dialogue σ ε α} : Oriented (act.attempt) := by
  intro past situation
  rw [Act.reaches_attempt]
  exact Act.reaches_somehow.imp (fun _ _ _ _ => trivial) (fun _ _ => trivial)
    fun _ _ _ _ => trivial

theorem say (line : String) : Oriented (Dialogue.say line : Dialogue σ CommandError Unit) :=
  fun _ _ => reaches_say.mpr trivial

theorem sayAll (lines : List String) :
    Oriented (Dialogue.sayAll lines : Dialogue σ CommandError Unit) :=
  fun _ _ => reaches_sayAll.mpr trivial

theorem records : Oriented (Dialogue.records : Dialogue σ CommandError Records) :=
  fun _ _ => reaches_records.mpr trivial

theorem change (f : Records -> Records) :
    Oriented (Dialogue.change f : Dialogue σ CommandError Unit) :=
  fun _ _ => reaches_change.mpr trivial

theorem plainly {act : Dialogue σ CommandError Unit} (oriented : Oriented act) :
    Oriented (plainly act) :=
  oriented.bind fun _ => pure _

theorem question (text : String) (mode : Mode) :
    Oriented (question text mode : Dialogue σ CommandError Turn) :=
  (say text).bind fun _ => pure _

theorem showBreakpoints : Oriented (showBreakpoints : Dialogue σ CommandError Unit) := by
  refine records.bind fun records => ?_
  cases records.breakpoints.entries with
  | nil => exact say _
  | cons first others => exact sayAll _

theorem findLocation (classId : UInt64) (line : UInt32) :
    Oriented (findLocation target classId line) := by
  refine attempt.bind fun response => ?_
  cases response with
  | ok locations =>
      cases locations with
      | nil => exact fail (by intro impossible; cases impossible)
      | cons location others => exact pure location
  | error error => cases error <;> exact fail (by intro impossible; cases impossible)

theorem setBreakpoint (classId : UInt64) (line : UInt32) :
    Oriented (setBreakpoint target classId line) := by
  refine records.bind fun records => ?_
  cases (records.breakpoints.get? line).isSome with
  | true => exact fail (by intro impossible; cases impossible)
  | false =>
      refine (findLocation classId line).bind fun location => ?_
      refine (ofTarget _).bind fun request => ?_
      exact (change _).bind fun _ => pure _

theorem lineNumber (answer : String) :
    Oriented (lineNumber answer : Dialogue σ CommandError UInt32) := by
  unfold Session.lineNumber
  cases Text.Numeral.word32? answer with
  | none => exact fail (by intro impossible; cases impossible)
  | some line => exact pure line

theorem printVariable (context : HaltContext) (name : String) :
    Oriented (printVariable target context name) := by
  refine (ofTarget _).bind fun visible => ?_
  cases visible.find? fun shown => shown.name == name with
  | none => exact fail (by intro impossible; cases impossible)
  | some shown =>
      obtain ⟨shownName, declaredType, value⟩ := shown
      cases value with
      | array array => exact question _ _
      | object object => exact question _ _
      | _ => exact plainly (say _)

theorem printElement (name : String) (array : ArrayRef) (answer : String) :
    Oriented (printElement target name array answer) := by
  unfold Session.printElement
  cases Text.Numeral.signed64? answer with
  | none => exact fail (by intro impossible; cases impossible)
  | some index =>
      dsimp only
      split
      · exact (ofTarget _).bind fun element => say _
      · exact fail (by intro impossible; cases impossible)

theorem printField (name : String) (object : ObjectRef) (field : String) :
    Oriented (printField target name object field) := by
  refine attempt.bind fun response => ?_
  cases response with
  | ok value => exact (ofTarget _).bind fun text => say _
  | error error => cases error <;> exact fail (by intro impossible; cases impossible)

theorem breakAt (context : HaltContext) (answer : String) :
    Oriented (breakAt target context answer) := by
  refine (lineNumber answer).bind fun line => ?_
  exact (setBreakpoint context.classId line).bind fun _ => say _

theorem clearAt (answer : String) : Oriented (clearAt target answer) := by
  refine (lineNumber answer).bind fun line => ?_
  exact (ofTarget _).bind fun _ => say _

theorem answer {mode : Mode} {line : String} (asked : mode ≠ .command) :
    Oriented (mode.take target line) := by
  unfold Mode.take
  generalize Text.trim line = trimmed
  cases mode with
  | command => exact (asked rfl).elim
  | lineToBreakAt context => exact plainly (breakAt _ _)
  | lineToClear => exact plainly (clearAt _)
  | variableToPrint context => exact printVariable _ _
  | indexToPrint name array => exact plainly (printElement _ _ _)
  | fieldToPrint name object => exact plainly (printField _ _ _)

end Oriented

section Commands

variable {context : HaltContext} {past : List (Moment σ)} {situation : Situation σ}

theorem atHalt_oriented (halted : situation.records.context = some context)
    {next : HaltContext -> Dialogue σ CommandError α} (onward : Oriented (next context)) :
    (haltContext >>= next).Reaches oriented (fun _ _ _ => True) past situation := by
  rw [Act.reaches_bind, reaches_haltContext halted]
  exact onward past situation

theorem execute_oriented (halted : situation.records.context = some context)
    (command : Command) :
    (execute target command).Reaches oriented (fun _ _ _ => True) past situation := by
  have plainly {act : Dialogue σ CommandError Unit}
      (reaches : act.Reaches oriented (fun _ _ _ => True) past situation) :
      (plainly act).Reaches oriented (fun _ _ _ => True) past situation :=
    reaches.bind fun _ _ _ _ => Act.reaches_pure.mpr trivial
  have step (scope : StepScope) :
      (execute.step target scope).Reaches oriented (fun _ _ _ => True) past situation :=
    atHalt_oriented halted ((Oriented.ofTarget _).bind fun _ => Oriented.pure _)
  cases command with
  | resume => exact Act.reaches_pure.mpr trivial
  | exit => exact Act.reaches_pure.mpr trivial
  | stepOver => exact step .overCalls
  | stepInto => exact step .intoCalls
  | setBreakpoint => exact atHalt_oriented halted (Oriented.question _ _)
  | deleteBreakpoint => exact Oriented.question _ _ past situation
  | showBreakpoints => exact Oriented.showBreakpoints.plainly past situation
  | showFrame => exact plainly (atHalt_oriented halted (Oriented.ofTarget _))
  | showStack => exact plainly (atHalt_oriented halted (Oriented.ofTarget _))
  | print => exact atHalt_oriented halted (Oriented.question _ _)
  | help => exact (Oriented.sayAll _).plainly past situation

/-- While a thread is halted, no line fails for want of one. -/
theorem take_oriented (halted : situation.records.context = some context) (mode : Mode)
    (line : String) :
    (mode.take target line).Reaches oriented (fun _ _ _ => True) past situation := by
  by_cases commanded : mode = .command
  · subst commanded
    unfold Mode.take
    dsimp only
    cases Command.ofLine? line with
    | none => exact Oriented.pure _ past situation
    | some command => exact execute_oriented halted command
  · exact Oriented.answer commanded past situation

theorem take_ne_noContext (halted : situation.records.context = some context) (mode : Mode)
    (line : String) : (mode.take target line situation).outcome ≠ .failed .noContext := by
  intro lacking
  have reaches : (mode.take target line).Reaches oriented (fun _ _ _ => True) [] situation :=
    take_oriented halted mode line
  unfold Act.Reaches at reaches
  rw [lacking] at reaches
  exact reaches rfl

end Commands

end Session
end LineDebugger
