import LineDebugger.Proofs.Session.Handover
import LineDebugger.Proofs.Session.Printing

namespace LineDebugger
namespace Session

open Debuggee

/-!
# Commands and their answers

A command takes the lines that answer its questions, and no others.  How many these are depends
on the command, and for `p` on what the target shows.  The answers are therefore told by the
moments at which they are taken, since a moment knows the state of the target.

Whatever is taken is taken from the front of the input.  An answer, whatever it reads like, does
not hand control back; that it is missing does.
-/

variable {σ : Type} {ε α β : Type} {target : Target σ}

/-! ## Lines taken -/

/-- The moments at which a line is taken, or the end of the input noticed. -/
def readings (log : List (Moment σ)) : List (Moment σ) :=
  log.filter fun moment => moment.mark.reads

theorem readings_append (log later : List (Moment σ)) :
    readings (log ++ later) = readings log ++ readings later :=
  List.filter_append ..

theorem readings_reading (situation : Situation σ) (mode : Mode) (answer : Option String)
    (later : List (Moment σ)) :
    readings (.reading situation mode answer :: later)
      = .reading situation mode answer :: readings later :=
  rfl

theorem readings_eq_nil {log : List (Moment σ)}
    (unread : forall moment, moment ∈ log -> moment.mark.reads = false) : readings log = [] :=
  List.filter_eq_nil_iff.mpr fun moment member => by
    rw [unread moment member]
    exact Bool.false_ne_true

/-- The line that is taken at a moment. -/
def Moment.line? (moment : Moment σ) : Option String :=
  match moment.mark with
  | .read answer => answer
  | _ => none

/-- The lines that are taken, in order. -/
def linesTaken (log : List (Moment σ)) : List String := log.filterMap Moment.line?

theorem linesTaken_append (log later : List (Moment σ)) :
    linesTaken (log ++ later) = linesTaken log ++ linesTaken later :=
  List.filterMap_append ..

theorem linesTaken_eq_nil {log : List (Moment σ)}
    (unread : forall moment, moment ∈ log -> moment.mark.reads = false) : linesTaken log = [] := by
  refine List.filterMap_eq_nil_iff.mpr fun moment member => ?_
  have quiet := unread moment member
  unfold Moment.line?
  cases mark : moment.mark with
  | read answer =>
      rw [mark] at quiet
      cases quiet
  | _ => rfl

/-- Whatever is taken at a moment is the first of the lines that are left then. -/
def Moment.TakesFirst (moment : Moment σ) : Prop :=
  forall answer, moment.mark = .read answer -> moment.before.input.head? = answer

/-- The lines that a stretch takes are drawn from the front of the input, one after the other,
and the halt stays as it is. -/
structure Draws (present : Situation σ) (log : List (Moment σ)) (after : Situation σ) : Prop where
  halt : after.records.context = present.records.context
  first : forall moment, moment ∈ log -> moment.TakesFirst
  lines : present.input = linesTaken log ++ after.input

namespace Draws

variable {present middle after : Situation σ} {own more : List (Moment σ)}

theorem idle : Draws present [] present := ⟨rfl, List.forall_mem_nil _, rfl⟩

theorem append (early : Draws present own middle) (late : Draws middle more after) :
    Draws present (own ++ more) after where
  halt := late.halt.trans early.halt
  first := List.forall_mem_append.mpr ⟨early.first, late.first⟩
  lines := by
    rw [linesTaken_append, List.append_assoc, ← late.lines]
    exact early.lines

theorem takesFirst {mode : Mode} {answer : Option String} (next : present.input.head? = answer) :
    (Moment.reading present mode answer).TakesFirst := by
  intro other same
  cases same
  exact next

theorem reading {line : String} {others : List String} (next : present.input = line :: others)
    (mode : Mode) :
    Draws present [.reading present mode (some line)] { present with mode, input := others } :=
  ⟨rfl, List.forall_mem_singleton.mpr (takesFirst (congrArg List.head? next)), next⟩

theorem inputEnded (nothing : present.input = []) (mode : Mode) :
    Draws present [.reading present mode none] { present with mode } :=
  ⟨rfl, List.forall_mem_singleton.mpr (takesFirst (congrArg List.head? nothing)), rfl⟩

/-- Where no line is taken, none is drawn. -/
theorem of_unread (unread : forall moment, moment ∈ own -> moment.mark.reads = false)
    (halt : after.records.context = present.records.context) (input : after.input = present.input) :
    Draws present own after := by
  refine ⟨halt, fun moment member answer same => ?_, ?_⟩
  · have quiet := unread moment member
    rw [same] at quiet
    cases quiet
  · rw [linesTaken_eq_nil unread, input, List.nil_append]

theorem of_between {progress : Progress (Situation σ) (Moment σ) ε α}
    (between : Between present progress) : Draws present progress.log progress.state :=
  have same := Prod.mk.inj between.state
  of_unread (fun moment member => (between.moments moment member).1) same.1 same.2

/-- The induction is on the lines that are left. -/
theorem settle (lines : List String) : forall (turn : Turn) (present : Situation σ),
    present.input = lines ->
      Draws present (settle target lines turn present).log
        (settle target lines turn present).state := by
  induction lines with
  | nil =>
      intro turn present next
      cases turn with
      | handOver handover => exact .idle
      | expect mode =>
          cases mode with
          | command => exact .idle
          | _ => exact .inputEnded next _
  | cons line others inductionHypothesis =>
      intro turn present next
      cases turn with
      | handOver handover => exact .idle
      | expect mode =>
          by_cases asked : mode = .command
          · subst asked
            exact .idle
          · have taken := take_between target mode line
              { present with mode, input := others }
            rw [settle_cons asked]
            refine (reading next mode).append
              (Act.bind_stretch Draws .append (of_between taken) fun turn own after came => ?_)
            rw [came] at taken
            exact inductionHypothesis turn after (Prod.mk.inj taken.state).2

theorem carryOut (target : Target σ) (wanted : Command) (present : Situation σ) :
    Draws present (carryOut target wanted present).log (carryOut target wanted present).state := by
  have executed := execute_between target wanted present
  refine Act.bind_stretch Draws .append (of_between executed) fun turn own after came => ?_
  rw [came] at executed
  exact settle present.input turn after (Prod.mk.inj executed.state).2

end Draws

/-! ## Answers -/

theorem Between.readings {present : Situation σ} {progress : Progress (Situation σ) (Moment σ) ε α}
    (between : Between present progress) : readings progress.log = [] :=
  readings_eq_nil fun moment member => (between.moments moment member).1

/-- The name of a variable raises a further question. -/
inductive Raises (name : String) (visible : List LocalVariable) : Mode -> Prop where
  | index {shown : LocalVariable} {array : ArrayRef} :
      FirstNamed name visible shown -> shown.value = .array array ->
      Raises name visible (.indexToPrint name array)
  | field {shown : LocalVariable} {object : ObjectRef} :
      FirstNamed name visible shown -> shown.value = .object object ->
      Raises name visible (.fieldToPrint name object)

/-- The commands that ask questions. -/
def Command.asks : Command -> Bool
  | .setBreakpoint | .deleteBreakpoint | .print => true
  | _ => false

/-- The commands with which the operator hands control back. -/
def Command.handsOver : Command -> Bool
  | .resume | .stepOver | .stepInto | .exit => true
  | _ => false

/-- The answers that a command takes: one for the two commands about breakpoints, one or two for
`p`, and none for the others. -/
inductive Answers (target : Target σ) (context : HaltContext) :
    Command -> List (Moment σ) -> Prop where
  | none {wanted : Command} : wanted.asks = false -> Answers target context wanted []
  | lineToBreakAt {before : Situation σ} {answer : Option String} :
      before.mode = .lineToBreakAt context ->
      Answers target context .setBreakpoint [⟨before, .read answer⟩]
  | lineToClear {before : Situation σ} {answer : Option String} : before.mode = .lineToClear ->
      Answers target context .deleteBreakpoint [⟨before, .read answer⟩]
  | variable {before : Situation σ} {answer : Option String} :
      before.mode = .variableToPrint context ->
      (forall line visible mode, answer = some line ->
        (frameVariables target context.thread before).outcome = .ok visible ->
        ¬ Raises (Text.trim line) visible mode) ->
      Answers target context .print [⟨before, .read answer⟩]
  | detail {before next : Situation σ} {line : String} {answer : Option String}
      {visible : List LocalVariable} :
      before.mode = .variableToPrint context ->
      (frameVariables target context.thread before).outcome = .ok visible ->
      Raises (Text.trim line) visible next.mode ->
      Answers target context .print [⟨before, .read (some line)⟩, ⟨next, .read answer⟩]

/-- The input has ended where an answer was expected. -/
def Missing (answers : List (Moment σ)) : Prop :=
  exists moment, moment ∈ answers ∧ moment.mark = .read none

/-- What a command comes to.  Four commands hand control back, if they succeed, and the others do
so only if an answer is missing. -/
inductive Concludes : Command -> List (Moment σ) -> Outcome CommandError (Option Handover) ->
    Prop where
  | resumes : Concludes .resume [] (.ok (some .resumed))
  | exits : Concludes .exit [] (.ok (some .exited))
  | steps {wanted : Command} {scope : StepScope} {outcome} : wanted.scope? = some scope ->
      (forall result, outcome = .ok result -> result = some .stepped) ->
      Concludes wanted [] outcome
  | stays {wanted : Command} {answers : List (Moment σ)} {outcome} :
      wanted.handsOver = false ->
      (forall handover, outcome = .ok (some handover) ↔ handover = .exited ∧ Missing answers) ->
      Concludes wanted answers outcome

/-- What follows a question that no answer to another question follows. -/
structure Settles (mode : Mode) (lines : List String) (present : Situation σ)
    (progress : Progress (Situation σ) (Moment σ) CommandError (Option Handover)) : Prop where
  answers : readings progress.log = [.reading present mode lines.head?]
  outcome : forall handover, progress.outcome = .ok (some handover) ↔
    handover = .exited ∧ Missing (readings progress.log)

theorem missing_singleton {present : Situation σ} {mode : Mode} {answer : Option String} :
    Missing [.reading present mode answer] ↔ answer = none := by
  constructor
  · rintro ⟨moment, member, ended⟩
    cases List.mem_singleton.mp member
    exact Mark.read.inj ended
  · rintro rfl
    exact ⟨_, List.mem_singleton_self _, rfl⟩

/-- A line that is there is not missing. -/
theorem missing_cons {present : Situation σ} {mode : Mode} {line : String}
    {answers : List (Moment σ)} :
    Missing (.reading present mode (some line) :: answers) ↔ Missing answers := by
  constructor
  · rintro ⟨moment, member, ended⟩
    rcases List.mem_cons.mp member with rfl | later
    · cases Mark.read.inj ended
    · exact ⟨moment, later, ended⟩
  · rintro ⟨moment, member, ended⟩
    exact ⟨moment, List.mem_cons_of_mem _ member, ended⟩

theorem Settles.unanswered {mode : Mode} (asked : mode ≠ .command) (present : Situation σ) :
    Settles mode [] present (settle target [] (.expect mode) present) := by
  have ended : settle target [] (.expect mode) present
      = ⟨.ok (some .exited), [.reading present mode none], { present with mode }⟩ := by
    cases mode with
    | command => exact absurd rfl asked
    | _ => rfl
  rw [ended]
  refine ⟨rfl, fun handover => ⟨?_, ?_⟩⟩
  · intro same
    cases same
    exact ⟨rfl, missing_singleton.mpr rfl⟩
  · rintro ⟨rfl, _⟩
    rfl

/-- An answer after which a command is expected. -/
theorem Settles.once {mode : Mode} (asked : mode ≠ .command) {line : String}
    {others : List String} {present : Situation σ}
    (once : forall next own after, mode.take target line { present with mode, input := others }
      = ⟨.ok (.expect next), own, after⟩ -> next = .command) :
    Settles mode (line :: others) present
      (settle target (line :: others) (.expect mode) present) := by
  have unread := (take_between target mode line
    { present with mode, input := others }).readings
  have given (rest : List (Moment σ)) (nothing : readings rest = []) :
      readings ([.reading present mode (some line)] ++ rest)
        = [.reading present mode (some line)] := by
    rw [readings_append, nothing]
    rfl
  have settled {progress : Progress (Situation σ) (Moment σ) CommandError (Option Handover)}
      (nothing : readings progress.log = [])
      (stays : forall handover, progress.outcome ≠ .ok (some handover)) :
      Settles mode (line :: others) present
        (progress.after [.reading present mode (some line)]) := by
    refine ⟨given _ nothing, fun handover =>
      ⟨fun handsOver => absurd handsOver (stays handover), ?_⟩⟩
    rintro ⟨_, missing⟩
    rw [Progress.after, given _ nothing, missing_singleton] at missing
    cases missing
  rw [settle_cons asked]
  cases took : mode.take target line { present with mode, input := others } with
  | mk outcome own after =>
      rw [took] at unread
      cases outcome with
      | ok turn =>
          cases turn with
          | handOver handover =>
              exact absurd rfl ((Expects.answer asked [] _).of_ok took handover)
          | expect next =>
              cases once next own after took
              have ended : (pure none : Dialogue σ CommandError (Option Handover)) after
                  = ⟨.ok none, [], after⟩ := rfl
              rw [Act.bind_ok took, settle_command, ended]
              refine settled ?_ (by rintro handover ⟨⟩)
              rw [Progress.after, List.append_nil]
              exact unread
      | failed error =>
          rw [Act.bind_failed took]
          exact settled unread (by rintro handover ⟨⟩)
      | unfinished =>
          rw [Act.bind_unfinished took]
          exact settled unread (by rintro handover ⟨⟩)

theorem plainly_expects_command (act : Dialogue σ CommandError Unit) (present : Situation σ) :
    (plainly act).Reaches (.anyway fun _ => True) (fun turn _ _ => turn = .expect .command) []
      present :=
  Act.reaches_somehow.bind fun _ _ _ _ => Act.reaches_pure.mpr rfl

/-- The last question of a command. -/
theorem Settles.last {mode : Mode} (asked : mode ≠ .command)
    (last : forall line, exists act, mode.take target line = plainly act) (lines : List String)
    (present : Situation σ) :
    Settles mode lines present (settle target lines (.expect mode) present) := by
  cases lines with
  | nil => exact .unanswered asked present
  | cons line others =>
      refine .once asked fun next own after took => ?_
      obtain ⟨act, plain⟩ := last line
      rw [plain] at took
      exact Turn.expect.inj ((plainly_expects_command act _).of_ok took)

/-! ### The answers to `p` -/

theorem Raises.find? {name : String} {visible : List LocalVariable} {mode : Mode}
    (raises : Raises name visible mode) :
    exists shown, (visible.find? fun other => other.name == name) = some shown ∧
      ((exists array, shown.value = .array array ∧ mode = .indexToPrint name array) ∨
        exists object, shown.value = .object object ∧ mode = .fieldToPrint name object) := by
  cases raises with
  | index first shows => exact ⟨_, find?_eq_some_iff.mpr first, .inl ⟨_, shows, rfl⟩⟩
  | field first shows => exact ⟨_, find?_eq_some_iff.mpr first, .inr ⟨_, shows, rfl⟩⟩

/-- There are no variables to be seen, or their names raise no further question. -/
def NoneRaised (target : Target σ) (context : HaltContext) (name : String)
    (present : Situation σ) : Prop :=
  forall visible mode, (frameVariables target context.thread present).outcome = .ok visible ->
    ¬ Raises name visible mode

/-- The name of a variable leads to a further question just where the variable raises one. -/
theorem printVariable_reaches (target : Target σ) (context : HaltContext) (name : String)
    (present : Situation σ) :
    (printVariable target context name).Reaches
      (.anyway fun _ => NoneRaised target context name present)
      (fun turn _ _ =>
        (turn = .expect .command ∧ NoneRaised target context name present) ∨
          exists visible mode,
            (frameVariables target context.thread present).outcome = .ok visible ∧
              Raises name visible mode ∧ turn = .expect mode)
      [] present := by
  have unread {outcome own after}
      (read : frameVariables target context.thread present = ⟨outcome, own, after⟩)
      (failed : forall visible, outcome ≠ .ok visible) :
      NoneRaised target context name present := by
    intro visible mode found
    rw [read] at found
    exact absurd found (failed visible)
  refine Act.reaches_bind.mpr (Act.reaches_mapError.mpr (Act.reaches_own.imp ?_ ?_ ?_))
  · rintro error _ after ⟨own, rfl, read⟩
    exact unread read fun visible impossible => nomatch impossible
  · rintro _ ⟨own, after, rfl, read⟩
    exact unread read fun visible impossible => nomatch impossible
  · rintro visible _ after ⟨own, rfl, read⟩
    have found : (frameVariables target context.thread present).outcome = .ok visible := by
      rw [read]
    have none (quiet : forall mode, ¬ Raises name visible mode) :
        NoneRaised target context name present := by
      intro other mode alsoFound
      cases found.symm.trans alsoFound
      exact quiet mode
    cases first : visible.find? fun shown => shown.name == name with
    | none =>
        refine Act.reaches_fail.mpr (none fun mode raises => ?_)
        obtain ⟨_, some, _⟩ := raises.find?
        cases first.symm.trans some
    | some shown =>
        have named := find?_eq_some_iff.mp first
        obtain ⟨shownName, declaredType, value⟩ := shown
        have plain (noArray : forall array, value ≠ .array array)
            (noObject : forall object, value ≠ .object object) :
            NoneRaised target context name present := by
          refine none fun mode raises => ?_
          obtain ⟨_, some, shows⟩ := raises.find?
          cases first.symm.trans some
          rcases shows with ⟨array, same, _⟩ | ⟨object, same, _⟩
          · exact noArray array same
          · exact noObject object same
        cases value with
        | array array =>
            exact Act.reaches_bind.mpr (reaches_say.mpr (Act.reaches_pure.mpr
              (.inr ⟨visible, _, found, .index named rfl, rfl⟩)))
        | object object =>
            exact Act.reaches_bind.mpr (reaches_say.mpr (Act.reaches_pure.mpr
              (.inr ⟨visible, _, found, .field named rfl, rfl⟩)))
        | _ =>
            refine Act.reaches_bind.mpr (reaches_say.mpr (Act.reaches_pure.mpr
              (.inl ⟨rfl, plain ?_ ?_⟩)))
            · intro array impossible
              cases impossible
            · intro object impossible
              cases impossible

/-- What the variables are does not depend on the lines that are left. -/
theorem frameVariables_alike (target : Target σ) (thread : UInt64) {present other : Situation σ}
    (alike : present.Alike other) :
    (frameVariables target thread present).outcome
      = (frameVariables target thread other).outcome :=
  have arranging : Lineless.Arranging target (frameVariables target thread) :=
    .frameVariables Lineless.halted_of_inspects thread
  (arranging.same present other alike).outcome

/-- The answers that are taken belong to the command, and control comes back only if one of them
is missing. -/
structure Answered (target : Target σ) (context : HaltContext) (wanted : Command)
    (progress : Progress (Situation σ) (Moment σ) CommandError (Option Handover)) : Prop where
  answers : Answers target context wanted (readings progress.log)
  outcome : forall handover, progress.outcome = .ok (some handover) ↔
    handover = .exited ∧ Missing (readings progress.log)

/-- Where the name of a variable raises a question, the answer to it is taken next. -/
theorem printVariable_raised {context : HaltContext} {name : String} {present : Situation σ}
    (some : ¬ NoneRaised target context name present) :
    exists visible mode own after,
      (frameVariables target context.thread present).outcome = .ok visible ∧
        Raises name visible mode ∧
        printVariable target context name present = ⟨.ok (.expect mode), own, after⟩ := by
  have reached := printVariable_reaches target context name present
  unfold Act.Reaches at reached
  cases came : printVariable target context name present with
  | mk outcome own after =>
      rw [came] at reached
      cases outcome with
      | failed error => exact absurd reached some
      | unfinished => exact absurd reached some
      | ok turn =>
          rcases reached with ⟨_, none⟩ | ⟨visible, mode, found, raises, rfl⟩
          · exact absurd none some
          · exact ⟨visible, mode, own, after, found, raises, rfl⟩

theorem Raises.settles {name : String} {visible : List LocalVariable} {mode : Mode}
    (raises : Raises name visible mode) (target : Target σ) (lines : List String)
    (present : Situation σ) :
    Settles mode lines present (settle target lines (.expect mode) present) := by
  cases raises with
  | index => exact .last (Mode.ne_command rfl) (fun _ => ⟨_, rfl⟩) lines present
  | field => exact .last (Mode.ne_command rfl) (fun _ => ⟨_, rfl⟩) lines present

/-- The answers to the command to print. -/
theorem Answered.print (context : HaltContext) (lines : List String) (present : Situation σ) :
    Answered target context .print
      (settle target lines (.expect (.variableToPrint context)) present) := by
  have asked : Mode.variableToPrint context ≠ .command := Mode.ne_command rfl
  have single {lines : List String}
      (settles : Settles (.variableToPrint context) lines present
        (settle target lines (.expect (.variableToPrint context)) present))
      (none : forall line, lines.head? = some line ->
        NoneRaised target context (Text.trim line)
          { present with mode := .variableToPrint context }) :
      Answered target context .print
        (settle target lines (.expect (.variableToPrint context)) present) := by
    refine ⟨?_, settles.outcome⟩
    rw [settles.answers]
    exact .variable rfl fun line visible mode same found => none line same visible mode found
  cases lines with
  | nil => exact single (.unanswered asked present) fun line impossible => nomatch impossible
  | cons line others =>
      have named : (Mode.variableToPrint context).take target line
          = printVariable target context (Text.trim line) := rfl
      have sameSight : (frameVariables target context.thread
            { present with mode := .variableToPrint context, input := others }).outcome
          = (frameVariables target context.thread
            { present with mode := .variableToPrint context }).outcome :=
        frameVariables_alike target context.thread ⟨rfl, rfl⟩
      by_cases none : NoneRaised target context (Text.trim line)
          { present with mode := .variableToPrint context, input := others }
      · refine single (.once asked fun next own after took => ?_) ?_
        · rw [named] at took
          rcases (printVariable_reaches target context _ _).of_ok took with
            ⟨same, _⟩ | ⟨visible, mode, found, raises, _⟩
          · exact Turn.expect.inj same
          · exact absurd raises (none visible mode found)
        · intro _ same visible mode found
          cases same
          exact none visible mode (sameSight.trans found)
      · obtain ⟨visible, mode, own, after, found, raises, took⟩ := printVariable_raised none
        have unread := (take_between target (.variableToPrint context) line
          { present with mode := .variableToPrint context, input := others }).readings
        have further := raises.settles target others after
        have both : readings (.reading present (.variableToPrint context) (some line) ::
            (own ++ (settle target others (.expect mode) after).log))
            = [.reading present (.variableToPrint context) (some line),
              .reading after mode others.head?] := by
          rw [named, took] at unread
          rw [readings_reading, readings_append, unread, further.answers]
          rfl
        rw [settle_cons asked, named, Act.bind_ok took]
        refine ⟨both ▸ .detail rfl (sameSight.symm.trans found) raises, fun handover => ?_⟩
        refine (further.outcome handover).trans (and_congr_right fun _ => ?_)
        exact (further.answers ▸ both ▸ missing_cons).symm

/-! ## Commands with their answers -/

/-- The turn after a command that raises no question. -/
def Turn.settled : Option Handover -> Turn
  | some handover => .handOver handover
  | none => .expect .command

theorem settle_settled (lines : List String) (result : Option Handover) :
    settle target lines (.settled result) = pure result := by
  cases result with
  | some handover => exact settle_handOver lines handover
  | none => exact settle_command lines

/-- A command that raises no question is carried out at once. -/
theorem carryOut_at_once {wanted : Command} {present : Situation σ} {result : Option Handover}
    (settled : (execute target wanted).Reaches (.anyway fun _ => True)
      (fun turn _ _ => turn = .settled result) [] present) :
    readings (carryOut target wanted present).log = [] ∧
      forall other, (carryOut target wanted present).outcome = .ok other -> other = result := by
  have unread := (execute_between target wanted present).readings
  change readings ((execute target wanted >>= settle target present.input) present).log = [] ∧
    forall other, ((execute target wanted >>= settle target present.input) present).outcome
      = .ok other -> other = result
  cases came : execute target wanted present with
  | mk outcome own after =>
      rw [came] at unread
      cases outcome with
      | ok turn =>
          have ended : (pure result : Dialogue σ CommandError (Option Handover)) after
              = ⟨.ok result, [], after⟩ := rfl
          cases settled.of_ok came
          rw [Act.bind_ok came, settle_settled, ended, Progress.after, List.append_nil]
          exact ⟨unread, fun other same => (Outcome.ok.inj same).symm⟩
      | failed error =>
          rw [Act.bind_failed came]
          exact ⟨unread, by rintro other ⟨⟩⟩
      | unfinished =>
          rw [Act.bind_unfinished came]
          exact ⟨unread, by rintro other ⟨⟩⟩

/-- A command that does nothing but hand control back. -/
theorem carryOut_handsOver {wanted : Command} {handover : Handover}
    (leaves : execute target wanted = pure (.handOver handover)) (present : Situation σ) :
    carryOut target wanted present = ⟨.ok (some handover), [], present⟩ := by
  have executed : execute target wanted present = ⟨.ok (.handOver handover), [], present⟩ := by
    rw [leaves]
    rfl
  rw [carryOut, Act.bind_ok executed, settle_handOver]
  rfl

/-- A command that raises a question. -/
theorem carryOut_asks {wanted : Command} {present : Situation σ} {text : String} {mode : Mode}
    (asks : execute target wanted present
      = (question text mode : Dialogue σ CommandError Turn) present) :
    carryOut target wanted present
      = (settle target present.input (.expect mode) present).after [⟨present, .said text⟩] := by
  have asked : execute target wanted present
      = ⟨.ok (.expect mode), [⟨present, .said text⟩], present⟩ := asks
  exact Act.bind_ok asked _

/-- Saying something takes no line. -/
theorem Answered.after_said {context : HaltContext} {wanted : Command} {text : String}
    {present : Situation σ}
    {progress : Progress (Situation σ) (Moment σ) CommandError (Option Handover)}
    (answered : Answered target context wanted progress) :
    Answered target context wanted (progress.after [⟨present, .said text⟩]) :=
  ⟨answered.answers, answered.outcome⟩

/-- What a command takes, and what it comes to. -/
structure Carried (target : Target σ) (context : HaltContext) (wanted : Command)
    (progress : Progress (Situation σ) (Moment σ) CommandError (Option Handover)) : Prop where
  answers : Answers target context wanted (readings progress.log)
  concludes : Concludes wanted (readings progress.log) progress.outcome

namespace Carried

variable {context : HaltContext} {wanted : Command} {present : Situation σ}

theorem of_answered {progress} (answered : Answered target context wanted progress)
    (stays : wanted.handsOver = false) : Carried target context wanted progress :=
  ⟨answered.answers, .stays stays answered.outcome⟩

/-- A command that only does something takes no answer. -/
theorem plainly {act : Dialogue σ CommandError Unit}
    (plain : execute target wanted = Session.plainly act) (silent : wanted.asks = false)
    (stays : wanted.handsOver = false) :
    Carried target context wanted (carryOut target wanted present) := by
  have settled : (execute target wanted).Reaches (.anyway fun _ => True)
      (fun turn _ _ => turn = .settled none) [] present :=
    plain ▸ plainly_expects_command act present
  obtain ⟨unread, outcome⟩ := carryOut_at_once settled
  refine ⟨unread ▸ .none silent, .stays stays fun handover => ⟨fun same => ?_, ?_⟩⟩
  · cases outcome _ same
  · rintro ⟨_, moment, member, _⟩
    rw [unread] at member
    cases member

theorem step {scope : StepScope} (steps : wanted.scope? = some scope) :
    Carried target context wanted (carryOut target wanted present) := by
  have comes : (execute.step target scope).Reaches (.anyway fun _ => True)
      (fun turn _ _ => turn = .settled (some .stepped)) [] present :=
    Act.reaches_somehow.bind fun _ _ _ _ => Act.reaches_somehow.bind fun _ _ _ _ =>
      Act.reaches_pure.mpr rfl
  have stepped : (execute target wanted).Reaches (.anyway fun _ => True)
      (fun turn _ _ => turn = .settled (some .stepped)) [] present ∧ wanted.asks = false := by
    cases wanted with
    | stepOver => cases steps; exact ⟨comes, rfl⟩
    | stepInto => cases steps; exact ⟨comes, rfl⟩
    | _ => cases steps
  obtain ⟨unread, outcome⟩ := carryOut_at_once stepped.1
  exact ⟨unread ▸ .none stepped.2, unread ▸ .steps steps outcome⟩

/-- A command with one question. -/
theorem asking {text : String} {mode : Mode}
    (asks : execute target wanted present
      = (question text mode : Dialogue σ CommandError Turn) present)
    (asked : mode ≠ .command)
    (last : forall line, exists act, mode.take target line = Session.plainly act)
    (answers : forall answer, Answers target context wanted [.reading present mode answer])
    (stays : wanted.handsOver = false) :
    Carried target context wanted (carryOut target wanted present) := by
  have settles : Settles mode present.input present
      (settle target present.input (.expect mode) present) :=
    .last asked last present.input present
  rw [carryOut_asks asks]
  exact of_answered (Answered.after_said ⟨settles.answers ▸ answers _, settles.outcome⟩) stays

end Carried

theorem carryOut_carried (target : Target σ) (wanted : Command) {context : HaltContext}
    (present : Situation σ) (halted : present.records.context = some context) :
    Carried target context wanted (carryOut target wanted present) := by
  cases wanted with
  | resume =>
      rw [carryOut_handsOver rfl present]
      exact ⟨.none rfl, .resumes⟩
  | exit =>
      rw [carryOut_handsOver rfl present]
      exact ⟨.none rfl, .exits⟩
  | stepOver => exact .step rfl
  | stepInto => exact .step rfl
  | setBreakpoint =>
      exact .asking (Act.bind_ok (haltContext_halted halted) _) (Mode.ne_command rfl)
        (fun _ => ⟨_, rfl⟩) (fun _ => .lineToBreakAt rfl) rfl
  | deleteBreakpoint =>
      exact .asking rfl (Mode.ne_command rfl) (fun _ => ⟨_, rfl⟩) (fun _ => .lineToClear rfl) rfl
  | print =>
      rw [carryOut_asks (Act.bind_ok (haltContext_halted halted) _)]
      exact .of_answered (Answered.after_said (.print context present.input present)) rfl
  | showBreakpoints => exact .plainly rfl rfl rfl
  | showFrame => exact .plainly rfl rfl rfl
  | showStack => exact .plainly rfl rfl rfl
  | help => exact .plainly rfl rfl rfl

end Session
end LineDebugger
