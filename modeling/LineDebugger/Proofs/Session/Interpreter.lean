import LineDebugger.Proofs.Session.Regime

namespace LineDebugger
namespace Session

open Debuggee

/-!
# The interpreter keeps every regime

Consulting the operator keeps whatever the steps of a conversation keep, for every list of
lines and every target.  The proof follows the interpreter: one statement for the commands,
one for each kind of answer, one for a line in any mode, and an induction on the lines.
Only one line makes the operator leave, the command for it; that no other line does is part
of the statement about a line.
-/

variable {σ ε : Type} {regime : Regime σ} {target : Target σ}

theorem reaches_haltContext {exits : Exits (Situation σ) (Moment σ) CommandError}
    {goal : HaltContext -> List (Moment σ) -> Situation σ -> Prop} {past : List (Moment σ)}
    {situation : Situation σ} {context : HaltContext}
    (halted : situation.records.context = some context) :
    haltContext.Reaches exits goal past situation ↔ goal context past situation := by
  unfold haltContext
  rw [Act.reaches_bind, reaches_records, halted, Act.reaches_pure]

/-- What is true when the interpreter has handed control back. -/
def Regime.handedOver (regime : Regime σ) : Handover -> List (Moment σ) -> Situation σ -> Prop
  | .exited => regime.left
  | _ => regime.holds

/-- The halt that the answer to a question will be about. -/
def Mode.context? : Mode -> Option HaltContext
  | .lineToBreakAt context | .variableToPrint context => some context
  | _ => none

/-- The answer will be about nothing but a halt of concern. -/
def Mode.Within (concern : HaltContext -> Prop) (mode : Mode) : Prop :=
  forall context, mode.context? = some context -> concern context

theorem command_within (concern : HaltContext -> Prop) : Mode.command.Within concern := by
  intro context impossible
  cases impossible

/-- A turn after which the operator has not left. -/
def Turn.Stays (concern : HaltContext -> Prop) : Turn -> Prop
  | .expect mode => mode.Within concern
  | .handOver handover => handover ≠ .exited

/-- A line that keeps the regime and does not make the operator leave. -/
def Regime.Stays (regime : Regime σ) (concern : HaltContext -> Prop)
    (act : Dialogue σ CommandError Turn) : Prop :=
  forall past situation, regime.holds past situation ->
    act.Reaches (regime.exits CommandError.isLoss)
      (fun turn log situation => turn.Stays concern ∧ regime.holds log situation)
      past situation

namespace Regime

/-- Control has come back because the input has ended, or because the last line that was taken
has handed it over.  The regime held until then. -/
inductive HandedBack (regime : Regime σ) (target : Target σ) :
    Handover -> List (Moment σ) -> Situation σ -> Prop where
  | inputEnded {log : List (Moment σ)} {situation : Situation σ} :
      regime.holds log situation ->
      HandedBack regime target .exited (log ++ [⟨situation, .read none⟩]) situation
  | line {handover : Handover} {log own : List (Moment σ)} {situation after : Situation σ}
      {line : String} {others : List String} :
      regime.holds log situation ->
      situation.mode.take target line { situation with input := others } =
        ⟨.ok (.handOver handover), own, after⟩ ->
      HandedBack regime target handover (log ++ ⟨situation, .read (some line)⟩ :: own) after

variable {concern : HaltContext -> Prop}

/-! ## Lines that do not make the operator leave -/

theorem Stays.pure {turn : Turn} (stays : turn.Stays concern) :
    regime.Stays concern (pure turn) :=
  fun _ _ holds => Act.reaches_pure.mpr ⟨stays, holds⟩

theorem Stays.handOver {handover : Handover} (stays : handover ≠ .exited) :
    regime.Stays concern (Pure.pure (.handOver handover)) :=
  Stays.pure stays

theorem Stays.bind {α : Type} {first : Dialogue σ CommandError α}
    {next : α -> Dialogue σ CommandError Turn}
    (keeps : regime.Keeps CommandError.isLoss first)
    (onward : forall value, regime.Stays concern (next value)) :
    regime.Stays concern (first >>= next) :=
  fun past situation holds =>
    (keeps past situation holds).bind fun value log situation => onward value log situation

theorem Stays.fail {error : CommandError} (harmless : error.isLoss = false) :
    regime.Stays concern (Act.fail error) :=
  fun _ _ holds => Act.reaches_fail.mpr (exits_failed.mpr (Or.inr ⟨harmless, holds⟩))

theorem Keeps.plainly {act : Dialogue σ CommandError Unit}
    (keeps : regime.Keeps CommandError.isLoss act) : regime.Stays concern (plainly act) :=
  Stays.bind keeps fun _ => Stays.pure (command_within concern)

namespace Serves

variable (laws : regime.Serves target concern)
include laws

theorem question {text : String} (plain : Plain text) {mode : Mode}
    (within : mode.Within concern) : regime.Stays concern (question text mode) :=
  Stays.bind (laws.keepsSay plain) fun _ => Stays.pure within

/-- The halt on record is of concern. -/
theorem haltContext (past : List (Moment σ)) (situation : Situation σ)
    (holds : regime.holds past situation) :
    (haltContext : Dialogue σ CommandError HaltContext).Reaches
      (regime.exits CommandError.isLoss)
      (fun context log after => concern context ∧ regime.holds log after) past situation := by
  cases halted : situation.records.context with
  | none =>
      unfold Session.haltContext
      rw [Act.reaches_bind, reaches_records, halted]
      exact Act.reaches_fail.mpr (exits_failed.mpr (Or.inr ⟨rfl, holds⟩))
  | some context => exact (reaches_haltContext halted).mpr ⟨laws.concerned holds halted, holds⟩

theorem atHalt {next : HaltContext -> Dialogue σ CommandError Turn}
    (onward : forall context, concern context -> regime.Stays concern (next context)) :
    regime.Stays concern (Session.haltContext >>= next) :=
  fun past situation holds =>
    (laws.haltContext past situation holds).bind fun context log situation halted =>
      onward context halted.1 log situation halted.2

theorem plainlyAtHalt {look : HaltContext -> Dialogue σ CommandError Unit}
    (keeps : forall context, concern context ->
      regime.Keeps CommandError.isLoss (look context)) :
    regime.Stays concern (Session.plainly (Session.haltContext >>= look)) :=
  Keeps.plainly fun past situation holds =>
    (laws.haltContext past situation holds).bind fun context log situation halted =>
      keeps context halted.1 log situation halted.2

/-! ## Commands -/

theorem step (scope : StepScope) : regime.Stays concern (execute.step target scope) := by
  refine laws.atHalt fun context concerned => ?_
  refine Stays.bind (laws.requestStep scope concerned).asCommand fun _ => ?_
  exact Stays.handOver (by decide)

/-- Every command but the one to leave stays. -/
theorem execute {wanted : Command} (stays : wanted ≠ .exit) :
    regime.Stays concern (execute target wanted) := by
  have asking {context : HaltContext} {mode : Mode} (concerned : concern context)
      (about : mode.context? = some context) : mode.Within concern := by
    intro other same
    cases about.symm.trans same
    exact concerned
  cases wanted with
  | resume => exact Stays.handOver (by decide)
  | stepOver => exact laws.step .overCalls
  | stepInto => exact laws.step .intoCalls
  | setBreakpoint =>
      exact laws.atHalt fun context concerned =>
        laws.question (by decide) (asking concerned rfl)
  | deleteBreakpoint =>
      exact laws.question (by decide) (by intro context impossible; cases impossible)
  | showBreakpoints => exact Keeps.plainly laws.showBreakpoints
  | showFrame =>
      exact laws.plainlyAtHalt fun context concerned =>
        (laws.showFrame (laws.locals concerned)).asCommand
  | showStack =>
      exact laws.plainlyAtHalt fun context concerned =>
        (laws.showStack (laws.stack concerned)).asCommand
  | print =>
      exact laws.atHalt fun context concerned =>
        laws.question (by decide) (asking concerned rfl)
  | help => exact Keeps.plainly (laws.keepsSayAll helpLines_plain)
  | exit => exact absurd rfl stays

/-! ## Answers -/

omit laws in
theorem lineNumber (answer : String) :
    regime.Keeps CommandError.isLoss (lineNumber answer : Dialogue σ CommandError UInt32) := by
  unfold Session.lineNumber
  cases Text.Numeral.word32? answer with
  | none => exact Keeps.fail rfl
  | some line => exact Keeps.pure line

theorem breakAt {context : HaltContext} (concerned : concern context) (answer : String) :
    regime.Keeps CommandError.isLoss (breakAt target context answer) := by
  refine (lineNumber answer).bind fun line => ?_
  refine (laws.setBreakpoint line concerned).bind fun _ => ?_
  exact laws.keepsSay (plain_append 'B' _ (by decide) (by decide))

theorem clearAt (answer : String) :
    regime.Keeps CommandError.isLoss (clearAt target answer) := by
  refine (lineNumber answer).bind fun line => ?_
  refine (laws.deleteBreakpoint line).asCommand.bind fun existed => ?_
  refine laws.keepsSay ?_
  cases existed with
  | true =>
      change Plain s!"Breakpoint at line {line.toNat} deleted"
      exact plain_of_head 'B' (by simp [toString]) (by decide)
  | false => exact plain_append 'N' _ (by decide) (by decide)

theorem printVariable {context : HaltContext} (concerned : concern context) (name : String) :
    regime.Stays concern (printVariable target context name) := by
  refine Stays.bind (laws.locals concerned).asCommand fun visible => ?_
  cases visible.find? fun shown => shown.name == name with
  | none => exact Stays.fail rfl
  | some shown =>
      obtain ⟨shownName, declaredType, value⟩ := shown
      cases value with
      | array array =>
          exact laws.question (by decide) (by intro context impossible; cases impossible)
      | object object =>
          exact laws.question (by decide) (by intro context impossible; cases impossible)
      | _ => exact Keeps.plainly (laws.keepsSay (plain_colon name _))

theorem printElement (name : String) (array : ArrayRef) (answer : String) :
    regime.Keeps CommandError.isLoss (printElement target name array answer) := by
  unfold Session.printElement
  cases Text.Numeral.signed64? answer with
  | none => exact Keeps.fail rfl
  | some index =>
      dsimp only
      split
      · refine (laws.detail (.arrayElement array index.toInt.toNat) rfl).asCommand.bind ?_
        intro element
        exact laws.keepsSay (plain_of_colon (by simp [toString]))
      · exact Keeps.fail rfl

theorem printField (name : String) (object : ObjectRef) (field : String) :
    regime.Keeps CommandError.isLoss (printField target name object field) := by
  refine (laws.detail (.fieldValue object field) rfl).handleAbsence ?_ ?_ ?_ ?_
  · intro value
    exact (laws.renderValue value).asCommand.bind fun text =>
      laws.keepsSay (plain_colon (name ++ "." ++ field) text)
  · exact fun absence => Keeps.fail rfl
  · exact fun reason => Keeps.fail rfl
  · exact fun reason => HandsOn.fail rfl

/-! ## Lines -/

theorem take {mode : Mode} (within : mode.Within concern) {line : String}
    (stays : ¬ (mode = .command ∧ Command.ofLine? line = some .exit)) :
    regime.Stays concern (mode.take target line) := by
  unfold Mode.take
  cases mode with
  | command =>
      dsimp only
      cases wanted : Command.ofLine? line with
      | none => exact Stays.pure (command_within concern)
      | some command =>
          refine laws.execute fun leaves => stays ⟨rfl, ?_⟩
          rw [wanted, leaves]
  | lineToBreakAt context => exact (laws.breakAt (within context rfl) _).plainly
  | lineToClear => exact (laws.clearAt _).plainly
  | variableToPrint context => exact laws.printVariable (within context rfl) _
  | indexToPrint name array => exact (laws.printElement name array _).plainly
  | fieldToPrint name object => exact (laws.printField name object _).plainly

/-- The induction is on the lines; the regime at the end of one line is the regime at the
beginning of the next, whatever the mode. -/
theorem interpretLines (lines : List String) {mode : Mode} (within : mode.Within concern) :
    forall past situation, regime.holds past situation ->
      (interpretLines target lines mode).Reaches (regime.exits TargetError.isDisconnect)
        (fun handover log after =>
          regime.HandedBack target handover log after ∧ regime.handedOver handover log after)
        past situation := by
  induction lines generalizing mode with
  | nil =>
      intro past situation holds
      unfold Session.interpretLines
      rw [Act.reaches_bind, reaches_expect, Act.reaches_bind, reaches_note, Act.reaches_pure]
      exact ⟨.inputEnded (laws.expect holds), laws.inputEnds (laws.expect holds)⟩
  | cons line others inductionHypothesis =>
      intro past situation holds
      unfold Session.interpretLines
      rw [Act.reaches_bind, reaches_expect, Act.reaches_bind, reaches_read]
      have expects : regime.holds past { situation with mode } := laws.expect holds
      by_cases leaves : mode = .command ∧ Command.ofLine? line = some .exit
      · obtain ⟨rfl, exit⟩ := leaves
        have left : regime.left (past ++ [⟨{ situation with mode := .command }, .read (some line)⟩])
            { situation with mode := .command, input := others } :=
          laws.leave rfl exit expects
        have exited : Mode.command.take target line =
            (pure (.handOver .exited) : Dialogue σ CommandError Turn) := by
          unfold Mode.take
          rw [exit]
          rfl
        rw [exited, Act.reaches_bind, Act.reaches_attempt, Act.reaches_pure, Act.reaches_pure]
        exact ⟨.line expects (congrFun exited _), left⟩
      · have reads : regime.holds (past ++ [⟨{ situation with mode }, .read (some line)⟩])
            { situation with mode, input := others } :=
          laws.read leaves expects
        have taken := (laws.take within leaves _ _ reads).both Act.reaches_own
        rw [Act.reaches_bind, Act.reaches_attempt]
        refine taken.imp ?_ (fun _ owed => owed.1) ?_
        · rintro error log situation ⟨owed, _⟩
          cases lost : error.lost? with
          | some loss =>
              rcases exits_failed.mp owed with ⟨_, lostNow⟩ | ⟨harmless, _⟩
              · simp only [lost]
                exact Act.reaches_fail.mpr
                  (exits_failed.mpr (Or.inl ⟨error.isDisconnect_of_lost? lost, lostNow⟩))
              · cases (congrArg Option.isSome lost).symm.trans harmless
          | none =>
              rcases exits_failed.mp owed with ⟨gone, _⟩ | ⟨_, holds⟩
              · cases (congrArg Option.isSome lost).symm.trans gone
              · simp only [lost, Act.reaches_bind, reaches_say]
                exact inductionHypothesis (command_within concern) _ _
                  (laws.say (commandError_message_plain error) holds)
        · rintro turn log after ⟨⟨stays, holds⟩, own, rfl, took⟩
          cases turn with
          | expect next => exact inductionHypothesis stays _ after holds
          | handOver handover =>
              rw [Act.reaches_pure]
              refine ⟨?_, ?_⟩
              · rw [List.append_assoc, List.singleton_append]
                exact .line expects took
              · cases handover with
                | exited => exact absurd rfl stays
                | resumed => exact holds
                | stepped => exact holds

/-- Consulting the operator keeps the regime until the operator leaves or the target is
gone. -/
theorem interpret (past : List (Moment σ)) (situation : Situation σ)
    (holds : regime.holds past situation) :
    (interpret target).Reaches (regime.exits TargetError.isDisconnect)
      (fun handover log after =>
        regime.HandedBack target handover log after ∧ regime.handedOver handover log after)
      past situation :=
  laws.interpretLines situation.input (command_within concern) past situation holds

end Serves

theorem Converses.interpret (laws : regime.Converses target) (past : List (Moment σ))
    (situation : Situation σ) (holds : regime.holds past situation) :
    (interpret target).Reaches (regime.exits TargetError.isDisconnect) regime.handedOver
      past situation :=
  (laws.serves.interpret past situation holds).widen fun _ _ _ held => held.2

end Regime
end Session
end LineDebugger
