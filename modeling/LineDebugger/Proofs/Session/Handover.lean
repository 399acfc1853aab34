import LineDebugger.Proofs.Session.Consultation
import LineDebugger.Proofs.Session.Ledger
import LineDebugger.Proofs.Session.Lineless
import LineDebugger.Proofs.Session.Resumption

namespace LineDebugger

/-- The scope of a step that a command asks for. -/
def Session.Command.scope? : Session.Command -> Option Debuggee.StepScope
  | .stepOver => some .overCalls
  | .stepInto => some .intoCalls
  | _ => none

namespace Session

open Debuggee

/-!
# How control comes back from the operator

The operator hands control back with one of a few lines, or by ending the input, and each of
these ways leaves its traces at the very end of the log.  A line hands control back only
where a command is expected: what looks like a command is an answer if there was a question.

The delicate case is a step.  It takes up to two requests to the target, one for the step
asked for before and one for the new step, and only if both have gone well does control come
back.  Otherwise the next line is read.  So a step that could not be registered never lets
the debuggee run.
-/

variable {σ : Type}

/-! ## Steps -/

/-- The step on record is given up: its request has been deleted, or the target did not know
of it any more. -/
def GivesUp (step : Option ActiveStep) (log : List (Moment σ)) : Prop :=
  match step with
  | none => log = []
  | some previous => exists deleted outcome,
      log = [deleted] ∧ deleted.Asks (.deleteStep previous.request) outcome ∧ Deleted outcome

/-- A step is registered: the one on record is given up, and the last thing is the answer to
the request for the new one, which is then on record. -/
def Registers (entryClass : String) (present after : Situation σ) (thread : UInt64)
    (scope : StepScope) (log : List (Moment σ)) : Prop :=
  exists givingUp created request,
    log = givingUp ++ [created] ∧ GivesUp present.records.step givingUp ∧
      created.Asks (.createStep thread scope entryClass) (.ok request) ∧
      after.records.step = some ⟨request, thread, scope⟩

section Steps

variable {target : Target σ} {past : List (Moment σ)} {situation : Situation σ}

theorem dropStep_reaches :
    (dropStep target).Reaches (.anyway fun _ => True)
      (fun _ log after => exists givingUp, log = past ++ givingUp ∧
        GivesUp situation.records.step givingUp ∧
        after.records.entryClass = situation.records.entryClass)
      past situation := by
  unfold dropStep
  rw [Act.reaches_bind, reaches_records]
  cases active : situation.records.step with
  | none => exact Act.reaches_pure.mpr ⟨[], (List.append_nil past).symm, rfl, rfl⟩
  | some previous =>
      rw [Act.reaches_bind, reaches_change, Act.reaches_bind, Act.reaches_attempt]
      refine Accurate.deleteRequest_reaches ?_ ?_ trivial
      · intro outcome responded deleted
        exact Act.reaches_pure.mpr
          ⟨_, rfl, ⟨_, outcome, rfl, asking_asks responded, deleted⟩, rfl⟩
      · intro error responded kept
        dsimp only
        rw [Act.reaches_bind, reaches_change, Act.reaches_fail]
        trivial

theorem requestStep_registers (thread : UInt64) (scope : StepScope) :
    (requestStep target thread scope).Reaches (.anyway fun _ => True)
      (fun _ log after => exists own, log = past ++ own ∧
        Registers situation.records.entryClass situation after thread scope own)
      past situation := by
  refine dropStep_reaches.bind ?_
  rintro _ _ after ⟨givingUp, rfl, givenUp, sameClass⟩
  rw [Act.reaches_bind, reaches_records]
  refine Act.reaches_bind.mpr (Reaches.ask ?_ (fun _ _ => trivial) fun _ => trivial)
  intro request responded
  rw [reaches_change, sameClass]
  rw [sameClass] at responded
  refine ⟨givingUp ++ [_], List.append_assoc _ _ _, givingUp, _, request, rfl, givenUp, ?_, rfl⟩
  exact asking_asks responded

end Steps

/-! ## Lines that hand control back -/

/-- The halt that commands apply to, and the class that the session is about. -/
def Records.About (context : HaltContext) (entryClass : String) (records : Records) : Prop :=
  records.context = some context ∧ records.entryClass = entryClass

/-- How control has come back, by the end of the log. -/
inductive Yields (context : HaltContext) (entryClass : String) :
    Handover -> List (Moment σ) -> Situation σ -> Prop where
  | resumed {talk : List (Moment σ)} {present after : Situation σ} {line : String} :
      present.mode = .command -> Command.ofLine? line = some .resume ->
      Yields context entryClass .resumed (talk ++ [⟨present, .read (some line)⟩]) after
  | stepped {talk registration : List (Moment σ)} {present after : Situation σ} {line : String}
      {command : Command} {scope : StepScope} :
      present.mode = .command -> Command.ofLine? line = some command ->
      command.scope? = some scope ->
      Registers entryClass present after context.thread scope registration ->
      Yields context entryClass .stepped
        (talk ++ ⟨present, .read (some line)⟩ :: registration) after
  | exited {talk : List (Moment σ)} {present after : Situation σ} {line : String} :
      present.mode = .command -> Command.ofLine? line = some .exit ->
      Yields context entryClass .exited (talk ++ [⟨present, .read (some line)⟩]) after
  | inputEnded {talk : List (Moment σ)} {present after : Situation σ} :
      present.input = [] ->
      Yields context entryClass .exited (talk ++ [⟨present, .read none⟩]) after

/-- A computation after which a further line is expected. -/
def Expects (act : Dialogue σ CommandError Turn) : Prop :=
  forall past situation, act.Reaches (.anyway fun _ => True)
    (fun turn _ _ => forall handover, turn ≠ .handOver handover) past situation

namespace Expects

theorem pure (mode : Mode) : Expects (pure (.expect mode) : Dialogue σ CommandError Turn) := by
  intro past situation
  rw [Act.reaches_pure]
  intro handover impossible
  cases impossible

theorem fail (error : CommandError) : Expects (Act.fail error : Dialogue σ CommandError Turn) :=
  fun _ _ => Act.reaches_fail.mpr trivial

theorem bind {α : Type} {first : Dialogue σ CommandError α}
    {next : α -> Dialogue σ CommandError Turn} (onward : forall value, Expects (next value)) :
    Expects (first >>= next) :=
  fun _ _ => Act.reaches_somehow.bind fun value log after _ => onward value log after

theorem question (text : String) (mode : Mode) :
    Expects (question text mode : Dialogue σ CommandError Turn) :=
  bind fun _ => pure mode

theorem plainly (act : Dialogue σ CommandError Unit) : Expects (plainly act) :=
  bind fun _ => pure .command

theorem printVariable (target : Target σ) (context : HaltContext) (name : String) :
    Expects (printVariable target context name) := by
  refine bind fun visible => ?_
  cases visible.find? fun shown => shown.name == name with
  | none => exact fail _
  | some shown =>
      obtain ⟨shownName, declaredType, value⟩ := shown
      cases value with
      | array array => exact question _ _
      | object object => exact question _ _
      | _ => exact plainly _

/-- An answer never hands control back. -/
theorem answer {target : Target σ} {mode : Mode} {line : String} (asked : mode ≠ .command) :
    Expects (mode.take target line) := by
  unfold Mode.take
  cases mode with
  | command => exact (asked rfl).elim
  | lineToBreakAt context => exact plainly _
  | lineToClear => exact plainly _
  | variableToPrint context => exact printVariable _ _ _
  | indexToPrint name array => exact plainly _
  | fieldToPrint name object => exact plainly _

end Expects

section Lines

variable {target : Target σ} {context : HaltContext} {entryClass : String}
  {talk : List (Moment σ)} {present : Situation σ} {line : String} {others : List String}

/-- What is owed when a line has been taken. -/
def yieldsIf (context : HaltContext) (entryClass : String) (turn : Turn) (log : List (Moment σ))
    (after : Situation σ) : Prop :=
  forall handover, turn = .handOver handover -> Yields context entryClass handover log after

theorem Expects.yieldsIf {act : Dialogue σ CommandError Turn} {past : List (Moment σ)}
    {situation : Situation σ} (expects : Expects act) :
    act.Reaches (.anyway fun _ => True) (yieldsIf context entryClass) past situation :=
  (expects past situation).widen fun _ _ _ expected handover handsOver =>
    absurd handsOver (expected handover)

theorem step_yields {command : Command} {scope : StepScope}
    (about : present.records.About context entryClass) (commanded : present.mode = .command)
    (wanted : Command.ofLine? line = some command) (steps : command.scope? = some scope) :
    (execute.step target scope).Reaches (.anyway fun _ => True) (yieldsIf context entryClass)
      (talk ++ [⟨present, .read (some line)⟩]) { present with input := others } := by
  have halted : ({ present with input := others } : Situation σ).records.context =
      some context := about.1
  unfold execute.step
  rw [Act.reaches_bind, reaches_haltContext halted, Act.reaches_bind, Act.reaches_mapError]
  refine (requestStep_registers context.thread scope).imp (fun _ _ _ _ => trivial)
    (fun _ _ => trivial) ?_
  rintro _ _ after ⟨own, rfl, registers⟩
  rw [Act.reaches_pure]
  intro handover handsOver
  cases handsOver
  rw [List.append_assoc, List.singleton_append]
  rw [about.2] at registers
  exact .stepped commanded wanted steps registers

/-- A command hands control back only if it is one of four. -/
theorem execute_yields {command : Command} (about : present.records.About context entryClass)
    (commanded : present.mode = .command) (wanted : Command.ofLine? line = some command) :
    (execute target command).Reaches (.anyway fun _ => True) (yieldsIf context entryClass)
      (talk ++ [⟨present, .read (some line)⟩]) { present with input := others } := by
  cases command with
  | resume =>
      refine Act.reaches_pure.mpr fun handover handsOver => ?_
      cases handsOver
      exact .resumed commanded wanted
  | exit =>
      refine Act.reaches_pure.mpr fun handover handsOver => ?_
      cases handsOver
      exact .exited commanded wanted
  | stepOver => exact step_yields about commanded wanted rfl
  | stepInto => exact step_yields about commanded wanted rfl
  | setBreakpoint => exact (Expects.bind fun _ => Expects.question _ _).yieldsIf
  | deleteBreakpoint => exact (Expects.question _ _).yieldsIf
  | showBreakpoints => exact (Expects.plainly _).yieldsIf
  | showFrame => exact (Expects.plainly _).yieldsIf
  | showStack => exact (Expects.plainly _).yieldsIf
  | print => exact (Expects.bind fun _ => Expects.question _ _).yieldsIf
  | help => exact (Expects.plainly _).yieldsIf

theorem take_yields {mode : Mode} (inForce : present.mode = mode)
    (about : present.records.About context entryClass) :
    (mode.take target line).Reaches (.anyway fun _ => True) (yieldsIf context entryClass)
      (talk ++ [⟨present, .read (some line)⟩]) { present with input := others } := by
  by_cases commanded : mode = .command
  · subst commanded
    unfold Mode.take
    dsimp only
    cases wanted : Command.ofLine? line with
    | none => exact (Expects.pure _).yieldsIf
    | some command => exact execute_yields about inForce wanted
  · exact (Expects.answer commanded).yieldsIf

end Lines

/-! ## The halt stays the same -/

/-- The regime of a halt that stays on record. -/
def halting (context : HaltContext) (entryClass : String) : Regime σ where
  holds _ situation := situation.records.About context entryClass
  lost _ _ := True
  left _ _ := True
  waiting := Unanswered

namespace Halting

open Regime

variable {context : HaltContext} {entryClass : String} {target : Target σ}

theorem keepsAsk (request : Request) :
    (halting context entryClass).Keeps TargetError.isDisconnect
      (Dialogue.ask target request) := by
  intro past situation about
  refine Reaches.ask (fun _ _ => about) (fun _ _ => failed_of_both trivial about) ?_
  exact fun responded => ⟨past, _, request, rfl, asking_asks responded⟩

theorem overlooks : (halting context entryClass).Overlooks target fun _ => True where
  ask _ := keepsAsk _
  change rearranges about :=
    ⟨(rearranges _).1.trans about.1, (rearranges _).2.trans about.2⟩
  changeLost _ _ := trivial

theorem converses : (halting context entryClass).Converses target where
  say _ about := about
  expect about := about
  read _ about := about
  leave _ _ _ := trivial
  inputEnds _ := trivial
  inspect request _ := keepsAsk request
  setBreakpoint classId line := overlooks.setBreakpoint ⟨0, classId⟩ trivial line
  deleteBreakpoint := overlooks.deleteBreakpoint
  requestStep thread := overlooks.requestStep ⟨thread, 0⟩ trivial

end Halting

/-! ## The end of the input -/

/-- If the end of the input is the last thing to be noticed, no line is left then. -/
def UsesUp (log : List (Moment σ)) : Prop :=
  forall talk present, log = talk ++ [⟨present, .read none⟩] -> present.input = []

/-- The induction is on the lines, which are those of the input. -/
theorem interpretLines_usesUp (target : Target σ) (lines : List String) :
    forall mode past situation, situation.input = lines ->
      (interpretLines target lines mode).Reaches (.anyway fun _ => True)
        (fun _ log _ => UsesUp log) past situation := by
  induction lines with
  | nil =>
      intro mode past situation nothing
      unfold interpretLines
      rw [Act.reaches_bind, reaches_expect, Act.reaches_bind, reaches_note, Act.reaches_pure]
      intro talk present ends
      cases (List.append_inj' ends rfl).2
      exact nothing
  | cons line others inductionHypothesis =>
      intro mode past situation _
      unfold interpretLines
      rw [Act.reaches_bind, reaches_expect, Act.reaches_bind, reaches_read, Act.reaches_bind,
        Act.reaches_attempt]
      refine Act.reaches_own.imp ?_ (fun _ _ => trivial) ?_
      · rintro error _ after ⟨own, rfl, took⟩
        have between := take_between target mode line { situation with mode, input := others }
        rw [took] at between
        cases lost : error.lost? with
        | some loss =>
            simp only [lost]
            exact Act.reaches_fail.mpr trivial
        | none =>
            simp only [lost]
            rw [Act.reaches_bind, reaches_say]
            exact inductionHypothesis _ _ _ (Prod.mk.inj between.state).2
      · rintro turn _ after ⟨own, rfl, took⟩
        have between := take_between target mode line { situation with mode, input := others }
        rw [took] at between
        cases turn with
        | expect next => exact inductionHypothesis _ _ _ (Prod.mk.inj between.state).2
        | handOver handover =>
            refine Act.reaches_pure.mpr fun talk present ends => ?_
            -- The last thing is either the line or something that was done for it.
            rw [List.append_assoc] at ends
            rcases List.eq_nil_or_concat' own with rfl | ⟨front, last, rfl⟩
            · rw [List.append_nil] at ends
              cases (List.append_inj' ends rfl).2
            · rw [← List.append_assoc, ← List.append_assoc] at ends
              cases (List.append_inj' ends rfl).2
              have silent := (between.moments _ (List.mem_append_right front
                (List.mem_singleton_self _))).1
              cases silent

/-! ## Consultations -/

section Consultations

variable {context : HaltContext} {entryClass : String} {handover : Handover}
  {log : List (Moment σ)} {after : Situation σ}

theorem Regime.HandedBack.yields {target : Target σ}
    (handedBack : (halting context entryClass).HandedBack target handover log after)
    (usesUp : UsesUp log) : Yields context entryClass handover log after := by
  cases handedBack with
  | inputEnded about => exact .inputEnded (usesUp _ _ rfl)
  | @line _ talk own present _ line others about took =>
      have yields : yieldsIf context entryClass _
          (talk ++ [⟨present, .read (some line)⟩] ++ own) after :=
        (take_yields rfl about).of_ok took
      rw [List.append_assoc, List.singleton_append] at yields
      exact yields handover rfl

/-- Wherever the operator asks for a step that does not come to be registered, a further line
is read before control comes back. -/
def Insists (context : HaltContext) (entryClass : String) (log : List (Moment σ)) : Prop :=
  forall front present line command scope back,
    log = front ++ ⟨present, .read (some line)⟩ :: back ->
    present.mode = .command -> Command.ofLine? line = some command ->
    command.scope? = some scope ->
    (forall moment request, moment ∈ back ->
      ¬ moment.Asks (.createStep context.thread scope entryClass) (.ok request)) ->
    exists later answer, later ∈ back ∧ later.mark = .read answer

/-- Nothing is read while a step is registered. -/
theorem Registers.silent {present : Situation σ} {thread : UInt64} {scope : StepScope}
    (registers : Registers entryClass present after thread scope log) {moment : Moment σ}
    (member : moment ∈ log) {answer : Option String} : moment.mark ≠ .read answer := by
  obtain ⟨givingUp, created, request, rfl, givesUp, ⟨exchanges, asked⟩, _⟩ := registers
  intro reads
  rcases List.mem_append.mp member with dropped | last
  · unfold GivesUp at givesUp
    cases step : present.records.step with
    | none =>
        rw [step] at givesUp
        subst givesUp
        cases dropped
    | some previous =>
        rw [step] at givesUp
        obtain ⟨deleted, outcome, rfl, ⟨_, deletion⟩, _⟩ := givesUp
        cases List.mem_singleton.mp dropped
        cases deletion.symm.trans reads
  · cases List.mem_singleton.mp last
    cases asked.symm.trans reads

/-- Only a step that is registered hands control back. -/
theorem Yields.insists (yields : Yields context entryClass handover log after) :
    Insists context entryClass log := by
  rintro front present line command scope back rfl commanded wanted steps unregistered
  generalize whole : front ++ ⟨present, .read (some line)⟩ :: back = log at yields
  cases yields with
  | resumed _ resumes =>
      rcases places whole with ⟨same, rfl⟩ | impossible | member
      · cases same
        cases wanted.symm.trans resumes
        cases steps
      · cases impossible
      · exact ⟨_, _, member, rfl⟩
  | exited _ leaves =>
      rcases places whole with ⟨same, rfl⟩ | impossible | member
      · cases same
        cases wanted.symm.trans leaves
        cases steps
      · cases impossible
      · exact ⟨_, _, member, rfl⟩
  | inputEnded _ =>
      rcases places whole with ⟨same, rfl⟩ | impossible | member
      · cases same
      · cases impossible
      · exact ⟨_, _, member, rfl⟩
  | stepped _ wantedLast stepsLast registers =>
      rcases places whole with ⟨same, rfl⟩ | inside | member
      · cases same
        cases wanted.symm.trans wantedLast
        cases steps.symm.trans stepsLast
        obtain ⟨givingUp, created, request, rfl, _, asked, _⟩ := registers
        refine absurd asked (unregistered created request ?_)
        exact List.mem_append_right givingUp (List.mem_singleton.mpr rfl)
      · exact absurd rfl (registers.silent inside)
      · exact ⟨_, _, member, rfl⟩

end Consultations

/-- Marks of a consultation: the target is neither resumed nor waited for nor let go. -/
def Consulting (log : List (Moment σ)) : Prop :=
  forall moment, moment ∈ log -> moment.mark.Halted

/-- A consultation at a halt comes back in one of four ways, as the last lines of the operator
have asked for, unless the target is gone or owes an answer.  While it goes on the debuggee is
not driven, and a step that could not be registered does not end it. -/
theorem control_comes_back_as_asked (target : Target σ) {situation : Situation σ}
    {context : HaltContext} (halted : situation.records.context = some context) :
    (interpret target).Reaches
      ⟨fun error log _ => (exists reason, error = .notAvailable reason) ∧ Consulting log,
        fun log => Unanswered log ∧ Consulting log⟩
      (fun handover log after =>
        Yields context situation.records.entryClass handover log after ∧
          Insists context situation.records.entryClass log ∧ Consulting log)
      [] situation := by
  have laws : (halting context situation.records.entryClass).Converses target :=
    Halting.converses
  have handsBack := laws.serves.interpret [] situation ⟨halted, rfl⟩
  have firmly : (interpret target).Reaches firm (fun _ _ _ => True) [] situation :=
    interpretLines_firm situation.input .command [] situation
  have undriven : (interpret target).Reaches (.anyway Consulting) (fun _ log _ => Consulting log)
      [] situation :=
    Act.reaches_anyway.mpr (Calm.interpret_permits halted_allows.toAllowsTalk target situation)
  have usedUp : (interpret target).Reaches (.anyway fun _ => True) (fun _ log _ => UsesUp log)
      [] situation := interpretLines_usesUp target situation.input .command [] situation rfl
  refine (((handsBack.both firmly).both undriven).both usedUp).imp ?_ ?_ ?_
  · rintro error log after ⟨⟨⟨_, gone⟩, consulting⟩, _⟩
    cases error with
    | notAvailable reason => exact ⟨⟨reason, rfl⟩, consulting⟩
    | noSuchElement reason => cases gone
    | other reason => cases gone
  · rintro log ⟨⟨⟨unanswered, _⟩, consulting⟩, _⟩
    exact ⟨unanswered, consulting⟩
  · rintro handover log after ⟨⟨⟨⟨handedBack, _⟩, _⟩, consulting⟩, usesUp⟩
    have yields := handedBack.yields usesUp
    exact ⟨yields, yields.insists, consulting⟩

/-- The operator asks for a step while another is on record. -/
theorem a_second_step_hands_control_back :
    let records : Records :=
      { entryClass := "Main", context := some ⟨1, 2⟩, step := some ⟨0, 1, .intoCalls⟩ }
    let situation : Situation Ledger := ⟨records, { steps := {0} }, ["n"], .command⟩
    records.context = some ⟨1, 2⟩ ∧
      Yields ⟨1, 2⟩ "Main" .stepped (interpret bookkeeper situation).log
        (interpret bookkeeper situation).state := by
  intro records situation
  have ran : interpret bookkeeper situation =
      ⟨.ok .stepped, (interpret bookkeeper situation).log,
        (interpret bookkeeper situation).state⟩ := by rfl
  have halted : situation.records.context = some ⟨1, 2⟩ := rfl
  exact ⟨halted, ((control_comes_back_as_asked bookkeeper halted).of_ok ran).1⟩

end Session
end LineDebugger
