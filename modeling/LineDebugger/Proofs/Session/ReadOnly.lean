import LineDebugger.Debuggee.Scripted
import LineDebugger.Proofs.Session.LineByLine

namespace LineDebugger
namespace Session

open Debuggee

/-!
# Looking changes nothing

Five commands only show something, and so does a halt when its variables are printed.  Nothing
is changed by this on record, and the target is asked for nothing but to be looked at.

Two of these commands, and a line that is no command, do not even ask the target.  So a script
can be padded with such lines wherever a command is expected, and the session cannot be told
from the one without them by what the target is asked, nor by how control comes back.  Where a
command is expected depends on the target, since `p` raises a second question for some values
only; the places for padding are therefore those at which the session took a command.
-/

variable {σ ε α : Type} {target : Target σ}

/-! ## Commands that only look -/

/-- The commands that only look at the session and the halted debuggee. -/
def Command.inspects : Command -> Bool
  | .showBreakpoints | .showFrame | .showStack | .print | .help => true
  | _ => false

/-- The answers that these commands ask for. -/
def Mode.Inspects : Mode -> Prop
  | .lineToBreakAt _ | .lineToClear => False
  | _ => True

def Turn.Inspects : Turn -> Prop
  | .expect mode => mode.Inspects
  | .handOver _ => True

/-- A mark of someone who only looks.  The answers to questions are taken all the same. -/
def Mark.Inspects : Mark -> Prop
  | .said _ | .read _ => True
  | .asked request _ _ => request.kind.inspects = true
  | _ => False

/-- The records are the same throughout, and the target is only looked at. -/
abbrev ReadOnly (present : Situation σ) (progress : Progress (Situation σ) (Moment σ) ε α) :
    Prop :=
  Steady Mark.Inspects Situation.records present progress.log progress.state

/-- The computations without lines that only look. -/
abbrev Looking (target : Target σ) (act : Dialogue σ ε α) : Prop :=
  Lineless target (fun request => request.kind.inspects = true) (fun _ => False) act

theorem Looking.readOnly {act : Dialogue σ ε α} (looking : Looking target act)
    (present : Situation σ) : ReadOnly present (act present) :=
  Lineless.steady looking (fun _ => trivial) (fun _ _ _ inspects => inspects)
    (fun _ impossible => impossible.elim) (fun _ _ => rfl) present

theorem execute_looking {wanted : Command} (inspects : wanted.inspects = true) :
    Looking target (execute target wanted) := by
  cases wanted with
  | showBreakpoints => exact .plainly .showBreakpoints
  | showFrame =>
      exact .plainly <| .andThen .haltContext fun context =>
        .mapError _ (.showFrame (fun _ inspects => inspects) context.thread)
  | showStack =>
      exact .plainly <| .andThen .haltContext fun context =>
        .mapError _ (.showStack (fun _ inspects => inspects) context.thread)
  | print => exact .andThen .haltContext fun context => .question _ _
  | help => exact .plainly (.sayAll _)
  | _ => cases inspects

theorem take_looking {mode : Mode} (asked : mode ≠ .command) (inspects : mode.Inspects)
    (line : String) : Looking target (mode.take target line) := by
  unfold Mode.take
  cases mode with
  | command => exact (asked rfl).elim
  | lineToBreakAt context => exact inspects.elim
  | lineToClear => exact inspects.elim
  | variableToPrint context => exact .printVariable (fun _ inspects => inspects) context _
  | indexToPrint name array =>
      exact .plainly (.printElement (fun _ inspects => inspects) name array _)
  | fieldToPrint name object =>
      exact .plainly (.printField (fun _ inspects => inspects) name object _)

/-! ### What comes next -/

/-- What such a line leads to is again of this kind. -/
def LeadsOn (act : Dialogue σ CommandError Turn) : Prop :=
  forall situation, act.Reaches (.anyway fun _ => True) (fun turn _ _ => turn.Inspects) [] situation

namespace LeadsOn

theorem turn {turn : Turn} (inspects : turn.Inspects) :
    LeadsOn (pure turn : Dialogue σ CommandError Turn) :=
  fun _ => Act.reaches_pure.mpr inspects

theorem fail (error : CommandError) : LeadsOn (Act.fail error : Dialogue σ CommandError Turn) :=
  fun _ => Act.reaches_fail.mpr trivial

theorem bind {first : Dialogue σ CommandError α} {next : α -> Dialogue σ CommandError Turn}
    (onward : forall value, LeadsOn (next value)) : LeadsOn (first >>= next) := by
  intro situation
  refine Act.reaches_somehow.bind fun value log after _ => ?_
  exact ((onward value after).after log).imp (fun _ _ _ _ => trivial) (fun _ _ => trivial)
    fun turn _ _ ⟨_, _, inspects⟩ => inspects

theorem plainly (act : Dialogue σ CommandError Unit) : LeadsOn (plainly act) :=
  bind fun _ => turn trivial

theorem question (text : String) {mode : Mode} (inspects : mode.Inspects) :
    LeadsOn (question text mode : Dialogue σ CommandError Turn) :=
  bind fun _ => turn inspects

theorem execute {wanted : Command} (inspects : wanted.inspects = true) :
    LeadsOn (execute target wanted) := by
  cases wanted with
  | showBreakpoints => exact plainly _
  | showFrame => exact plainly _
  | showStack => exact plainly _
  | print => exact bind fun context => question _ trivial
  | help => exact plainly _
  | _ => cases inspects

theorem printVariable (context : HaltContext) (name : String) :
    LeadsOn (printVariable target context name) := by
  refine bind fun visible => ?_
  cases visible.find? fun shown => shown.name == name with
  | none => exact fail _
  | some shown =>
      obtain ⟨shownName, declaredType, value⟩ := shown
      cases value with
      | array array => exact question _ trivial
      | object object => exact question _ trivial
      | _ => exact plainly _

theorem take {mode : Mode} (asked : mode ≠ .command) (inspects : mode.Inspects) (line : String) :
    LeadsOn (mode.take target line) := by
  unfold Mode.take
  cases mode with
  | command => exact (asked rfl).elim
  | lineToBreakAt context => exact inspects.elim
  | lineToClear => exact inspects.elim
  | variableToPrint context => exact printVariable context _
  | indexToPrint name array => exact plainly _
  | fieldToPrint name object => exact plainly _

end LeadsOn

/-! ### With their answers -/

/-- The induction is on the lines; each of them answers a question about what is to be shown. -/
theorem settle_readOnly (lines : List String) : forall turn : Turn, turn.Inspects ->
    forall present : Situation σ, ReadOnly present (settle target lines turn present) := by
  have paused (mode : Mode) (answer : Option String) (present : Situation σ) :
      (Moment.reading present mode answer).mark.Inspects ∧
        (Moment.reading present mode answer).before.records = present.records := ⟨trivial, rfl⟩
  induction lines with
  | nil =>
      intro turn inspects present
      cases turn with
      | handOver handover => exact .idle
      | expect mode =>
          cases mode with
          | command => exact .idle
          | _ => exact ⟨List.forall_mem_singleton.mpr (paused _ none present), rfl⟩
  | cons line others inductionHypothesis =>
      intro turn inspects present
      cases turn with
      | handOver handover => exact .idle
      | expect mode =>
          by_cases asked : mode = .command
          · subst asked
            exact .idle
          · have taken : Steady Mark.Inspects Situation.records present
                [.reading present mode (some line)] { present with mode, input := others } :=
              ⟨List.forall_mem_singleton.mpr (paused _ _ present), rfl⟩
            rw [settle_cons asked]
            refine taken.append (Act.bind_stretch (Steady Mark.Inspects Situation.records) .append
              ((take_looking asked inspects line).readOnly _) fun turn own after came => ?_)
            exact inductionHypothesis turn ((LeadsOn.take asked inspects line _).of_ok came) after

theorem carryOut_readOnly {wanted : Command} (inspects : wanted.inspects = true)
    (present : Situation σ) : ReadOnly present (carryOut target wanted present) := by
  refine Act.bind_stretch (Steady Mark.Inspects Situation.records) .append
    ((execute_looking inspects).readOnly present) fun turn own after came => ?_
  exact settle_readOnly present.input turn ((LeadsOn.execute inspects present).of_ok came) after

/-! ## Lines that do not even ask the target -/

/-- The lines that ask the target for nothing: two of the commands, and what is no command. -/
def Idle (line : String) : Prop :=
  Command.ofLine? line = none ∨ Command.ofLine? line = some .help ∨
    Command.ofLine? line = some .showBreakpoints

instance (line : String) : Decidable (Idle line) := inferInstanceAs (Decidable (_ ∨ _))

/-- Whether the target is asked. -/
def Mark.calls : Mark -> Bool
  | .asked _ _ _ => true
  | _ => false

/-- What the target has been asked for, and what has come of it. -/
def calls (log : List (Moment σ)) : List Mark := (log.map Moment.mark).filter Mark.calls

theorem calls_append (log later : List (Moment σ)) :
    calls (log ++ later) = calls log ++ calls later := by
  rw [calls, List.map_append, List.filter_append]
  rfl

theorem sayAll_eq (lines : List String) (present : Situation σ) :
    (Dialogue.sayAll lines : Dialogue σ ε Unit) present
      = ⟨.ok (), lines.map fun line => ⟨present, .said line⟩, present⟩ := by
  induction lines with
  | nil => rfl
  | cons line others inductionHypothesis =>
      have said : (Dialogue.say line : Dialogue σ ε Unit) present
          = ⟨.ok (), [⟨present, .said line⟩], present⟩ := rfl
      rw [Dialogue.sayAll, Act.bind_ok said, inductionHypothesis]
      rfl

theorem calls_said (lines : List String) (present : Situation σ) :
    calls (lines.map fun line => (⟨present, .said line⟩ : Moment σ)) = [] := by
  rw [calls, List.map_map]
  refine List.filter_eq_nil_iff.mpr (List.forall_mem_map.mpr fun line _ => ?_)
  exact Bool.false_ne_true

/-- An idle line is talk, and the next line is a command again. -/
theorem Idle.take {line : String} (idle : Idle line) (target : Target σ)
    (present : Situation σ) :
    exists own, Mode.command.take target line present = ⟨.ok (.expect .command), own, present⟩ ∧
      calls own = [] := by
  have plainly (lines : List String) {act : Dialogue σ CommandError Unit}
      (speaks : act present = ⟨.ok (), lines.map fun line => ⟨present, .said line⟩, present⟩) :
      exists own, Session.plainly act present = ⟨.ok (.expect .command), own, present⟩ ∧
        calls own = [] := by
    refine ⟨_, Act.bind_ok speaks _, ?_⟩
    rw [calls_append, calls_said]
    rfl
  unfold Mode.take
  dsimp only
  rcases idle with unknown | help | shows
  · rw [unknown]
    exact ⟨[], rfl, rfl⟩
  · rw [help]
    exact plainly _ (sayAll_eq _ present)
  · rw [shows]
    have recorded : (Dialogue.records : Dialogue σ CommandError Records) present
        = ⟨.ok present.records, [], present⟩ := rfl
    cases entries : present.records.breakpoints.entries with
    | nil =>
        refine plainly ["No breakpoints set"] ?_
        rw [showBreakpoints, Act.bind_ok recorded, entries]
        rfl
    | cons first others =>
        refine plainly ((first :: others).map Breakpoint.describe) ?_
        rw [showBreakpoints, Act.bind_ok recorded, entries]
        change Progress.after [] (Dialogue.sayAll _ present) = _
        rw [sayAll_eq]
        rfl

/-! ## Padding -/

/-- What is heard at a moment, if anything is, and what it is heard for.  Nothing but the end of
the input is heard when there is no line. -/
def Moment.hearing? (moment : Moment σ) : Option (Mode × Option String) :=
  match moment.mark with
  | .read answer => some (moment.before.mode, answer)
  | _ => none

/-- What has been heard, in order. -/
def hearings (log : List (Moment σ)) : List (Mode × Option String) :=
  log.filterMap Moment.hearing?

theorem hearings_append (log later : List (Moment σ)) :
    hearings (log ++ later) = hearings log ++ hearings later :=
  List.filterMap_append ..

theorem hearings_reading (situation : Situation σ) (mode : Mode) (answer : Option String)
    (later : List (Moment σ)) :
    hearings (.reading situation mode answer :: later) = (mode, answer) :: hearings later :=
  rfl

theorem hearings_eq_nil {log : List (Moment σ)}
    (unread : forall moment, moment ∈ log -> moment.mark.reads = false) : hearings log = [] := by
  refine List.filterMap_eq_nil_iff.mpr fun moment member => ?_
  have quiet := unread moment member
  unfold Moment.hearing?
  cases mark : moment.mark with
  | read answer =>
      rw [mark] at quiet
      cases quiet
  | _ => rfl

/-- A script in which a session hears what it has heard in another one, but for idle lines where a
command was expected, and of which it leaves `rest` unheard. -/
inductive Padded (rest : List String) : List (Mode × Option String) -> List String -> Prop where
  | handedOver : Padded rest [] rest
  | ended (mode : Mode) : rest = [] -> Padded rest [(mode, none)] []
  | taken {heard : List (Mode × Option String)} {script : List String} (mode : Mode)
      (line : String) :
      Padded rest heard script -> Padded rest ((mode, some line) :: heard) (line :: script)
  | idle {answer : Option String} {heard : List (Mode × Option String)} {line : String}
      {script : List String} :
      Idle line -> Padded rest ((.command, answer) :: heard) script ->
      Padded rest ((.command, answer) :: heard) (line :: script)

/-- The target cannot tell two consultations from one another, and neither can whoever waits for
control to come back. -/
structure SameCalls (first second : Progress (Situation σ) (Moment σ) ε α) : Prop where
  outcome : first.outcome = second.outcome
  calls : calls first.log = calls second.log
  state : first.state.Alike second.state

theorem SameCalls.after {own others : List (Moment σ)}
    (same : Session.calls own = Session.calls others)
    {first second : Progress (Situation σ) (Moment σ) ε α} (later : SameCalls first second) :
    SameCalls (first.after own) (second.after others) := by
  refine ⟨later.outcome, ?_, later.state⟩
  rw [Progress.after, Progress.after, calls_append, calls_append, same, later.calls]

/-- A consultation passes over the padding, without a call, to what was heard first. -/
theorem Padded.reach {rest script : List String} {mode : Mode} {answer : Option String}
    {heard : List (Mode × Option String)} (padded : Padded rest ((mode, answer) :: heard) script)
    (target : Target σ) :
    forall other : Situation σ, other.input = script -> exists own later left,
      interpretLines target script mode other
          = (interpretLines target left mode later).after own ∧
        calls own = [] ∧ other.Alike later ∧ later.input = left ∧
        ((answer = none ∧ left = [] ∧ rest = []) ∨
          exists line others, answer = some line ∧ left = line :: others ∧
            Padded rest heard others) := by
  generalize first : (mode, answer) :: heard = hearings at padded
  induction padded with
  | handedOver => cases first
  | ended mode nothing =>
      cases first
      exact fun other stands =>
        ⟨[], other, [], rfl, rfl, ⟨rfl, rfl⟩, stands, .inl ⟨rfl, rfl, nothing⟩⟩
  | taken mode line further =>
      cases first
      exact fun other stands =>
        ⟨[], other, _, rfl, rfl, ⟨rfl, rfl⟩, stands, .inr ⟨_, _, rfl, rfl, further⟩⟩
  | @idle _ _ line script idle further inductionHypothesis =>
      cases first
      intro other stands
      obtain ⟨own, took, silent⟩ :=
        idle.take target { other with mode := .command, input := script }
      obtain ⟨more, later, left, same, quiet, alike, input, found⟩ :=
        inductionHypothesis rfl { other with mode := .command, input := script } rfl
      refine ⟨.reading other .command (some line) :: own ++ more, later, left, ?_, ?_,
        ⟨alike.records, alike.target⟩, input, found⟩
      · rw [interpretLines_expects took, same, ← Progress.after_append]
      · rw [calls_append, quiet, List.append_nil]
        exact silent

/-- Padding these lines, wherever a consultation comes to hear them, changes no call. -/
def Paddable (target : Target σ) (lines : List String) : Prop :=
  forall mode (situation other : Situation σ) rest script, other.input = script ->
    situation.Alike other ->
    Padded rest (hearings (interpretLines target lines mode situation).log) script ->
    SameCalls (interpretLines target lines mode situation)
        (interpretLines target script mode other) ∧
      (interpretLines target script mode other).state.input = rest

theorem paddable_nil : Paddable target [] := by
  intro mode situation other rest script stands alike padded
  rw [interpretLines_nil] at padded ⊢
  rw [hearings_reading] at padded
  obtain ⟨own, later, left, same, quiet, moved, input, found⟩ :=
    padded.reach target other stands
  rcases found with ⟨_, rfl, rfl⟩ | ⟨line, others, reads, _⟩
  · rw [same, interpretLines_nil]
    refine ⟨⟨rfl, ?_, alike.records.trans moved.records, alike.target.trans moved.target⟩, input⟩
    rw [Progress.after, calls_append, quiet]
    rfl
  · cases reads

/-- What a line leads to is the same in both sessions, and then either both are over, or both go on
with the lines that are left. -/
theorem proceed_padded {others rest script : List String} (onward : Paddable target others)
    (mode : Mode) (line : String) {situation other : Situation σ} (stands : other.input = script)
    (alike : situation.Alike other)
    (padded : Padded rest
      (hearings (((mode.take target line).attempt >>= proceed target others) situation).log)
      script) :
    SameCalls (((mode.take target line).attempt >>= proceed target others) situation)
        (((mode.take target line).attempt >>= proceed target script) other) ∧
      (((mode.take target line).attempt >>= proceed target script) other).state.input = rest := by
  have same := take_same target mode line alike
  have steady := take_between target mode line situation
  have kept := congrArg Prod.snd (take_between target mode line other).state
  cases took : mode.take target line situation with
  | mk outcome own after =>
      cases alsoTook : mode.take target line other with
      | mk alsoOutcome alsoOwn last =>
          rw [took, alsoTook] at same
          rw [took] at steady
          rw [alsoTook] at kept
          obtain ⟨outcomes, marks, moved⟩ := same
          cases outcomes
          have silent : hearings own = [] :=
            hearings_eq_nil fun moment member => (steady.moments moment member).1
          have input : last.input = script := kept.trans stands
          have asked : calls own = calls alsoOwn := congrArg (List.filter Mark.calls) marks
          have leaves : Padded rest (hearings (own ++ [])) script -> last.input = rest := by
            intro heard
            rw [List.append_nil, silent] at heard
            cases heard
            exact input
          cases outcome with
          | ok turn =>
              rw [Act.bind_ok (Act.attempt_ok took)] at padded ⊢
              rw [Act.bind_ok (Act.attempt_ok alsoTook)]
              cases turn with
              | handOver handover =>
                  exact ⟨SameCalls.after asked ⟨rfl, rfl, moved⟩, leaves padded⟩
              | expect next =>
                  rw [Progress.after, hearings_append, silent] at padded
                  obtain ⟨further, left⟩ := onward next after last rest script input moved padded
                  exact ⟨further.after asked, left⟩
          | failed error =>
              rw [Act.bind_ok (Act.attempt_failed took)] at padded ⊢
              rw [Act.bind_ok (Act.attempt_failed alsoTook)]
              cases lost : error.lost? with
              | some loss =>
                  simp only [proceed, lost] at padded ⊢
                  exact ⟨SameCalls.after asked ⟨rfl, rfl, moved⟩, leaves padded⟩
              | none =>
                  simp only [proceed, lost] at padded ⊢
                  rw [Progress.after, hearings_append, silent] at padded
                  obtain ⟨further, left⟩ :=
                    onward .command after last rest script input moved padded
                  have told : SameCalls
                      ((interpretLines target others .command after).after
                        [⟨after, .said error.message⟩])
                      ((interpretLines target script .command last).after
                        [⟨last, .said error.message⟩]) := SameCalls.after (by rfl) further
                  exact ⟨told.after asked, left⟩
          | unfinished =>
              rw [Act.bind_unfinished (Act.attempt_unfinished took)] at padded ⊢
              rw [Act.bind_unfinished (Act.attempt_unfinished alsoTook)]
              rw [← List.append_nil own] at padded
              exact ⟨⟨rfl, asked, moved⟩, leaves padded⟩

/-- The induction is on the lines that were heard; in front of each of them there may be some that
ask for nothing. -/
theorem paddable (lines : List String) : Paddable target lines := by
  induction lines with
  | nil => exact paddable_nil
  | cons line others inductionHypothesis =>
      intro mode situation other rest script stands alike padded
      rw [interpretLines_line, Progress.after, List.singleton_append, hearings_reading] at padded
      obtain ⟨own, later, left, same, quiet, moved, _, found⟩ :=
        padded.reach target other stands
      rcases found with ⟨impossible, _⟩ | ⟨_, more, reads, rfl, further⟩
      · cases impossible
      · cases reads
        have still : ({ situation with mode, input := others } : Situation σ).Alike
            { later with mode, input := more } :=
          ⟨alike.records.trans moved.records, alike.target.trans moved.target⟩
        obtain ⟨heard, unheard⟩ :=
          proceed_padded inductionHypothesis mode line rfl still further
        rw [same, interpretLines_line, interpretLines_line, ← Progress.after_append]
        refine ⟨heard.after ?_, unheard⟩
        rw [calls_append, quiet]
        rfl

/-! ## Inspection -/

/-- To look changes nothing.  Whatever the target does, the five commands that look at the session,
with the answers that they ask for, a line that is no command, and the printing of the variables
at a halt leave the records as they were, and ask the target for nothing but to be looked at.
Hence a script may be padded with idle lines wherever a command is expected: the calls stay the
same, and so do the way in which control comes back and the lines that are left. -/
theorem inspection_is_read_only (target : Target σ) (situation : Situation σ) :
    (forall wanted : Command, wanted.inspects = true ->
      ReadOnly situation (carryOut target wanted situation)) ∧
    (forall line, Command.ofLine? line = none ->
      ReadOnly situation (Mode.command.take target line situation)) ∧
    (forall thread, ReadOnly situation (sayHaltVariables target thread situation)) ∧
    forall rest script, Padded rest (hearings (interpret target situation).log) script ->
      SameCalls (interpret target situation)
          (interpret target { situation with input := script }) ∧
        (interpret target { situation with input := script }).state.input = rest := by
  refine ⟨fun wanted inspects => carryOut_readOnly inspects situation, ?_, ?_, ?_⟩
  · intro line unknown
    unfold Mode.take
    dsimp only
    rw [unknown]
    exact .idle
  · intro thread
    have looking : Looking target (sayHaltVariables target thread) :=
      .sayHaltVariables (fun _ inspects => inspects) thread
    exact looking.readOnly situation
  · intro rest script padded
    exact paddable situation.input .command situation { situation with input := script } rest script
      rfl ⟨rfl, rfl⟩ padded

/-- A target that shows one array, and nothing else. -/
def exhibit : Scripted where
  facts :=
    { lines := fun _ => []
      frames := [⟨1, ⟨1, "Main", 1, "main", some 3, 0⟩⟩]
      locals := [⟨"xs", "int[]", .array ⟨7, "int", 2⟩⟩]
      fields := fun _ _ => none
      arrays := fun _ => some [.int 4, .int 5] }
  prepared _ := []

/-- The operator has an element printed and resumes.  The padding stands before each of the two
commands, and some of it reads like an answer. -/
theorem padding_is_not_noticed :
    let situation : Situation Scripted :=
      ⟨{ entryClass := "Main", context := some ⟨1, 1⟩ }, exhibit, ["p", "xs", "1", "r"], .command⟩
    let script := ["h", "p", "xs", "1", "0", " sb ", "xs", "r", "h", "e"]
    Padded ["h", "e"] (hearings (interpret Scripted.target situation).log) script ∧
      SameCalls (interpret Scripted.target situation)
        (interpret Scripted.target { situation with input := script }) := by
  intro situation script
  have heard : hearings (interpret Scripted.target situation).log =
      [(.command, some "p"), (.variableToPrint ⟨1, 1⟩, some "xs"),
        (.indexToPrint "xs" ⟨7, "int", 2⟩, some "1"), (.command, some "r")] := by
    decide +kernel
  have padded : Padded ["h", "e"] (hearings (interpret Scripted.target situation).log) script := by
    rw [heard]
    exact .idle (by decide) <| .taken _ _ <| .taken _ _ <| .taken _ _ <| .idle (by decide) <|
      .idle (by decide) <| .idle (by decide) <| .taken _ _ .handedOver
  exact ⟨padded, ((inspection_is_read_only Scripted.target situation).2.2.2 _ _ padded).1⟩

end Session
end LineDebugger
