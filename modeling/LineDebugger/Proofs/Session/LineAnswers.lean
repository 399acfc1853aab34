import LineDebugger.Proofs.Session.Answers
import LineDebugger.Proofs.Session.Editing
import LineDebugger.Proofs.Text.Blank

namespace LineDebugger
namespace Session

open Debuggee

/-!
# Lines named in answers

The commands to set and to delete a breakpoint ask for a line.  The answer names one if it is a
numeral with blanks around it, and if its number has room in 32 bits; then exactly this line is the
one that is edited.  Any other answer is refused, and nothing has been done.

How the number is written makes no difference, so an entry that was made with one spelling of a line
is found again with every other one.
-/

variable {σ α : Type} {target : Target σ}

/-! ## Answers that name a line -/

/-- The answer is a numeral for this line, with blanks around it. -/
def Names (answer : String) (line : UInt32) : Prop :=
  Text.PaddedNumeral answer.toList line.toNat

theorem word32?_trim_eq_some_iff {answer : String} {line : UInt32} :
    Text.Numeral.word32? (Text.trim answer) = some line ↔ Names answer line :=
  Text.Numeral.word32?_eq_some_iff.trans Text.unsignedDigits_trim_iff

theorem lineNumber_of_names {answer : String} {line : UInt32} (names : Names answer line) :
    (lineNumber (Text.trim answer) : Dialogue σ CommandError UInt32) = pure line := by
  rw [lineNumber, word32?_trim_eq_some_iff.mpr names]

theorem lineNumber_of_not_names {answer : String} (nameless : forall line, ¬ Names answer line) :
    (lineNumber (Text.trim answer) : Dialogue σ CommandError UInt32)
      = Act.fail (.malformedNumber (Text.trim answer)) := by
  have unread : Text.Numeral.word32? (Text.trim answer) = none :=
    Option.eq_none_iff_forall_ne_some.mpr fun line read =>
      nameless line (word32?_trim_eq_some_iff.mp read)
  rw [lineNumber, unread]

/-- An answer names a line if its number has room in 32 bits, and then that number is the line. -/
theorem exists_names_iff {answer : String} : (exists line, Names answer line) ↔
    exists number, Text.PaddedNumeral answer.toList number ∧ number ≤ 4294967295 := by
  constructor
  · rintro ⟨line, names⟩
    exact ⟨line.toNat, names, Nat.le_of_lt_succ line.toNat_lt⟩
  · rintro ⟨number, numeral, bounded⟩
    refine ⟨UInt32.ofNat number, ?_⟩
    rw [Names, UInt32.toNat_ofNat_of_lt' (Nat.lt_succ_of_le bounded)]
    exact numeral

/-! ## Edits with a report -/

theorem mapError_id (act : Dialogue σ CommandError α) : act.mapError id = act := by
  funext present
  cases made : act present with
  | mk outcome own after =>
      rw [Act.mapError_of id made]
      cases outcome <;> rfl

namespace Edit

/-- A failed edit as a failed command. -/
def restate : (edit : Edit) -> edit.Error -> CommandError
  | .set _ _ => id
  | .delete _ => CommandError.target

/-- What the operator is told of an edit. -/
def news : (edit : Edit) -> edit.Answer -> String
  | .set _ line, _ => s!"Breakpoint set at line {line.toNat}"
  | .delete line, existed =>
      if existed then s!"Breakpoint at line {line.toNat} deleted"
      else s!"No breakpoint at line {line.toNat}"

/-- Make an edit and say what has come of it. -/
def report (target : Target σ) (edit : Edit) : Dialogue σ CommandError (Option Handover) := do
  let answer ← (edit.act target).mapError edit.restate
  Dialogue.say (edit.news answer)
  return none

variable (target) (edit : Edit) (present : Situation σ)

/-- The report adds one line, and only if the edit has come out well. -/
theorem report_eq : exists more,
    edit.report target present
      = ⟨((edit.act target present).outcome.mapError edit.restate).map fun _ => none,
          (edit.act target present).log ++ more, (edit.act target present).state⟩ ∧
      forall moment, moment ∈ more -> exists text, moment.mark = .said text := by
  cases made : edit.act target present with
  | mk outcome own after =>
      have restated : Act.mapError edit.restate (edit.act target) present
          = ⟨outcome.mapError edit.restate, own, after⟩ := Act.mapError_of _ made
      cases outcome with
      | ok answer =>
          refine ⟨[⟨after, .said (edit.news answer)⟩], ?_, List.forall_mem_singleton.mpr ⟨_, rfl⟩⟩
          rw [report, Act.bind_ok restated]
          rfl
      | failed error =>
          refine ⟨[], ?_, List.forall_mem_nil _⟩
          rw [report, Act.bind_failed restated, List.append_nil]
          rfl
      | unfinished =>
          refine ⟨[], ?_, List.forall_mem_nil _⟩
          rw [report, Act.bind_unfinished restated, List.append_nil]
          rfl

theorem report_state : (edit.report target present).state = (edit.act target present).state := by
  obtain ⟨more, made, -⟩ := edit.report_eq target present
  rw [made]

variable {target edit present}

theorem report_eq_ok_iff : (edit.report target present).outcome = .ok none ↔
    exists answer, (edit.act target present).outcome = .ok answer := by
  obtain ⟨more, made, -⟩ := edit.report_eq target present
  rw [made]
  cases (edit.act target present).outcome <;> simp [Outcome.map, Outcome.mapError]

theorem report_eq_failed_iff {error : CommandError} :
    (edit.report target present).outcome = .failed error ↔
      exists cause, (edit.act target present).outcome = .failed cause ∧
        edit.restate cause = error := by
  obtain ⟨more, made, -⟩ := edit.report_eq target present
  rw [made]
  cases (edit.act target present).outcome <;> simp [Outcome.map, Outcome.mapError]

end Edit

/-! ## Failures of edits -/

/-- What keeps a breakpoint from being set: the line is listed already, or else there is no place
for it, or the target has failed. -/
inductive Obstacle (present : Situation σ) (line : UInt32) : CommandError -> Prop where
  | listed : (present.records.breakpoints.get? line).isSome = true ->
      Obstacle present line (.duplicateBreakpoint line)
  | noLocation : present.records.breakpoints.get? line = none ->
      Obstacle present line (.noLocationForLine line)
  | target (error : TargetError) : present.records.breakpoints.get? line = none ->
      Obstacle present line (.target error)

theorem obstacle_of_placeFor {present : Situation σ} {line : UInt32}
    {outcome : Outcome TargetError (List Location)} {error : CommandError}
    (missing : present.records.breakpoints.get? line = none)
    (failed : placeFor line outcome = .failed error) : Obstacle present line error := by
  unfold placeFor at failed
  split at failed <;> cases failed
  · exact .noLocation missing
  · exact .noLocation missing
  · exact .target _ missing

theorem obstacle_of_setBreakpoint {present : Situation σ} {classId : UInt64} {line : UInt32}
    {error : CommandError} (failed : (setBreakpoint target classId line present).outcome
      = .failed error) : Obstacle present line error := by
  cases missing : present.records.breakpoints.get? line with
  | some entry =>
      have listed := Option.isSome_iff_exists.mpr ⟨entry, missing⟩
      rw [setBreakpoint_of_listed target present classId listed] at failed
      cases failed
      exact .listed listed
  | none =>
      have looked : findLocation target classId line present = _ := findLocation_of rfl
      have free : ¬ (present.records.breakpoints.get? line).isSome = true := by
        rw [missing]
        exact Bool.false_ne_true
      unfold setBreakpoint at failed
      rw [Act.bind_ok (records_of present), if_neg free] at failed
      cases place : placeFor line
          (target.respond (.locationsOfLine classId line) present.target).outcome with
      | failed error =>
          rw [Act.bind_failed (looked.trans (by rw [place]))] at failed
          cases failed
          exact obstacle_of_placeFor missing place
      | unfinished =>
          rw [Act.bind_unfinished (looked.trans (by rw [place]))] at failed
          cases failed
      | ok location =>
          rw [Act.bind_ok (looked.trans (by rw [place]))] at failed
          cases registered : (target.respond (.enableBreakpoint location)
              (present.answered target (.locationsOfLine classId line)).target).outcome with
          | ok request =>
              rw [Act.bind_ok (enableBreakpoint_of registered)] at failed
              cases failed
          | failed error =>
              rw [Act.bind_failed (enableBreakpoint_of registered)] at failed
              cases failed
              exact .target error missing
          | unfinished =>
              rw [Act.bind_unfinished (enableBreakpoint_of registered)] at failed
              cases failed

/-- No edit fails because an answer was no numeral. -/
theorem Edit.restate_ne_malformed {edit : Edit} {present : Situation σ} {cause : edit.Error}
    {text : String} (came : (edit.act target present).outcome = .failed cause) :
    edit.restate cause ≠ .malformedNumber text := by
  intro restated
  cases edit with
  | set classId line =>
      cases restated
      cases obstacle_of_setBreakpoint came
  | delete line => cases restated

/-! ## The commands that ask for a line -/

/-- The commands that ask for a line, with the mode of the answer and the edit that it decides. -/
inductive AsksLine : Option HaltContext -> Command -> Mode -> (UInt32 -> Edit) -> Prop where
  | set (context : HaltContext) :
      AsksLine (some context) .setBreakpoint (.lineToBreakAt context) (.set context.classId)
  | delete (halted : Option HaltContext) : AsksLine halted .deleteBreakpoint .lineToClear .delete

/-- The question for a line, and its answer. -/
def questioned (situation : Situation σ) (mode : Mode) (answer : String) : List (Moment σ) :=
  [⟨situation, .said lineQuestion⟩, .reading situation mode (some answer)]

section Commands

variable {wanted : Command} {mode : Mode} {edit : UInt32 -> Edit} {situation : Situation σ}
  {answer : String} {others : List String}

theorem AsksLine.execute (asks : AsksLine situation.records.context wanted mode edit) :
    execute target wanted situation
      = (question lineQuestion mode : Dialogue σ CommandError Turn) situation := by
  generalize halted : situation.records.context = context at asks
  cases asks with
  | set context =>
      rw [Session.execute, Act.bind_ok (haltContext_halted halted)]
      rfl
  | delete => rfl

theorem AsksLine.ne_command {halted : Option HaltContext}
    (asks : AsksLine halted wanted mode edit) : mode ≠ .command := by
  cases asks <;> exact nofun

theorem plainly_settle (act : Dialogue σ CommandError Unit) (others : List String) :
    (plainly act >>= settle target others) = act >>= fun _ => pure none := by
  rw [plainly, Act.bind_assoc]
  refine congrArg (act >>= ·) (funext fun _ => ?_)
  exact settle_command others

/-- The answer decides which edit is made, and nothing is asked after it. -/
theorem AsksLine.answered {halted : Option HaltContext} (asks : AsksLine halted wanted mode edit) :
    (mode.take target answer >>= settle target others)
      = lineNumber (Text.trim answer) >>= fun line => (edit line).report target := by
  cases asks with
  | set context =>
      change plainly (breakAt target context (Text.trim answer)) >>= settle target others = _
      rw [plainly_settle, breakAt, Act.bind_assoc]
      refine congrArg (_ >>= ·) (funext fun line => ?_)
      rw [Act.bind_assoc, Edit.report]
      exact congrArg (· >>= _) (mapError_id _).symm
  | delete =>
      change plainly (clearAt target (Text.trim answer)) >>= settle target others = _
      rw [plainly_settle, clearAt, Act.bind_assoc]
      refine congrArg (_ >>= ·) (funext fun line => ?_)
      rw [Act.bind_assoc]
      rfl

theorem carryOut_answered (asks : AsksLine situation.records.context wanted mode edit)
    (next : situation.input = answer :: others) :
    carryOut target wanted situation
      = ((lineNumber (Text.trim answer) >>= fun line => (edit line).report target)
          { situation with mode, input := others }).after (questioned situation mode answer) := by
  rw [carryOut_asks asks.execute, next, settle_cons asks.ne_command, asks.answered,
    ← Progress.after_append]
  rfl

theorem carryOut_named (asks : AsksLine situation.records.context wanted mode edit)
    (next : situation.input = answer :: others) {line : UInt32} (names : Names answer line) :
    carryOut target wanted situation
      = ((edit line).report target { situation with mode, input := others }).after
          (questioned situation mode answer) := by
  rw [carryOut_answered asks next, lineNumber_of_names names]
  rfl

/-! The command comes to what its edit comes to. -/

theorem carryOut_state (asks : AsksLine situation.records.context wanted mode edit)
    (next : situation.input = answer :: others) {line : UInt32} (names : Names answer line) :
    (carryOut target wanted situation).state
      = ((edit line).act target { situation with mode, input := others }).state := by
  rw [carryOut_named asks next names]
  exact Edit.report_state target (edit line) _

theorem carryOut_eq_ok_iff (asks : AsksLine situation.records.context wanted mode edit)
    (next : situation.input = answer :: others) {line : UInt32} (names : Names answer line) :
    (carryOut target wanted situation).outcome = .ok none ↔ exists result,
      ((edit line).act target { situation with mode, input := others }).outcome = .ok result := by
  rw [carryOut_named asks next names]
  exact Edit.report_eq_ok_iff

theorem carryOut_eq_failed_iff (asks : AsksLine situation.records.context wanted mode edit)
    (next : situation.input = answer :: others) {line : UInt32} (names : Names answer line)
    {error : CommandError} :
    (carryOut target wanted situation).outcome = .failed error ↔ exists cause,
      ((edit line).act target { situation with mode, input := others }).outcome = .failed cause ∧
        (edit line).restate cause = error := by
  rw [carryOut_named asks next names]
  exact Edit.report_eq_failed_iff

theorem carryOut_unnamed (asks : AsksLine situation.records.context wanted mode edit)
    (next : situation.input = answer :: others) (nameless : forall line, ¬ Names answer line) :
    carryOut target wanted situation
      = ⟨.failed (.malformedNumber (Text.trim answer)), questioned situation mode answer,
          { situation with mode, input := others }⟩ := by
  rw [carryOut_answered asks next, lineNumber_of_not_names nameless]
  rfl

end Commands

/-! ## Setting and deleting with two spellings -/

theorem deleteBreakpoint_log_of_listed {present : Situation σ} {line : UInt32} {entry : Breakpoint}
    (listed : present.records.breakpoints.get? line = some entry) :
    (deleteBreakpoint target line present).log
      = [.asking target (.deleteBreakpoint entry.request) present] := by
  have asked : deleteRequest target (.deleteBreakpoint entry.request) present = _ :=
    deleteRequest_of rfl
  unfold deleteBreakpoint
  rw [Act.bind_ok (records_of present), listed]
  dsimp only
  cases result : deletion
      (target.respond (.deleteBreakpoint entry.request) present.target).outcome with
  | ok done => rw [Act.bind_ok (asked.trans (by rw [result]))]; rfl
  | failed error => rw [Act.bind_failed (asked.trans (by rw [result]))]; rfl
  | unfinished => rw [Act.bind_unfinished (asked.trans (by rw [result]))]; rfl

/-- The entry of a line, as the command to delete it finds it. -/
structure Clears (target : Target σ) (line : UInt32) (answer : String) (others : List String)
    (situation : Situation σ) (entry : Breakpoint) : Prop where
  same : entry.line = line
  listed : situation.records.breakpoints.get? line = some entry
  asked : exists more, (carryOut target .deleteBreakpoint situation).log
    = questioned situation .lineToClear answer
      ++ .asking target (.deleteBreakpoint entry.request)
        { situation with mode := .lineToClear, input := others } :: more ∧
    forall moment, moment ∈ more -> exists text, moment.mark = .said text
  erased : (carryOut target .deleteBreakpoint situation).outcome = .ok none ->
    (carryOut target .deleteBreakpoint situation).state.records.breakpoints
      = situation.records.breakpoints.erase line

section Spellings

variable {situation : Situation σ} {answer : String} {others : List String} {line : UInt32}

theorem clears_of_listed (next : situation.input = answer :: others) (names : Names answer line)
    {entry : Breakpoint} (listed : situation.records.breakpoints.get? line = some entry) :
    Clears target line answer others situation entry := by
  have ran : carryOut target .deleteBreakpoint situation = _ :=
    carryOut_named (.delete _) next names
  have edited := deleteBreakpoint_comesOut target
    { situation with mode := .lineToClear, input := others } line
  refine ⟨(BreakpointTable.mem_of_get?_eq_some listed).2, listed, ?_, fun came => ?_⟩
  · obtain ⟨more, made, said⟩ := (Edit.delete line).report_eq target
      { situation with mode := .lineToClear, input := others }
    refine ⟨more, ?_, said⟩
    have log : ((Edit.delete line).act target
        { situation with mode := .lineToClear, input := others }).log = _ :=
      deleteBreakpoint_log_of_listed listed
    rw [ran, made]
    dsimp only [Progress.after]
    rw [log]
    rfl
  · obtain ⟨existed, deleted⟩ := (carryOut_eq_ok_iff (.delete _) next names).mp came
    rw [carryOut_state (.delete _) next names]
    change (deleteBreakpoint target line _).outcome = _ at deleted
    change (deleteBreakpoint target line _).state.records.breakpoints = _
    generalize deleteBreakpoint target line _ = made at edited deleted ⊢
    cases edited with
    | unlisted missing => cases missing.symm.trans listed
    | deleted _ table => exact table
    | inVain failed _ => exact absurd deleted (failed _)

/-- A line that is not listed has nothing to delete, and the target is not asked. -/
theorem clears_nothing (next : situation.input = answer :: others) (names : Names answer line)
    (missing : situation.records.breakpoints.get? line = none) :
    carryOut target .deleteBreakpoint situation
      = ⟨.ok none,
          questioned situation .lineToClear answer
            ++ [⟨{ situation with mode := .lineToClear, input := others },
                  .said s!"No breakpoint at line {line.toNat}"⟩],
          { situation with mode := .lineToClear, input := others }⟩ := by
  have ran : carryOut target .deleteBreakpoint situation = _ :=
    carryOut_named (.delete _) next names
  have idle : (deleteBreakpoint target line).mapError CommandError.target
      { situation with mode := .lineToClear, input := others } = _ :=
    Act.mapError_of _ (deleteBreakpoint_of_unlisted target
      { situation with mode := .lineToClear, input := others } missing)
  rw [ran, Edit.report]
  exact congrArg (Progress.after _) (Act.bind_ok idle _)

end Spellings

/-- What is done with the answer to the question for a line. -/
structure DecidedBy (target : Target σ) (wanted : Command) (mode : Mode) (edit : UInt32 -> Edit)
    (situation : Situation σ) (answer : String) (others : List String) : Prop where
  accepted : forall line, Names answer line -> carryOut target wanted situation
    = ((edit line).report target { situation with mode, input := others }).after
        (questioned situation mode answer)
  refused :
    (forall number, Text.PaddedNumeral answer.toList number -> 4294967295 < number) ->
    carryOut target wanted situation
      = ⟨.failed (.malformedNumber (Text.trim answer)), questioned situation mode answer,
          { situation with mode, input := others }⟩
  malformed_iff :
    (exists text, (carryOut target wanted situation).outcome = .failed (.malformedNumber text)) ↔
      forall number, Text.PaddedNumeral answer.toList number -> 4294967295 < number

/-- A line has been named to the command to set a breakpoint, and is named again to the command to
delete one, while the table is as the first has left it.  What is deleted is the entry that has been
made, or that was there already; if there is none, there is nothing to delete. -/
structure SameEntry (target : Target σ) (line : UInt32) (situation later : Situation σ)
    (answer : String) (others : List String) : Prop where
  listed : (carryOut target .setBreakpoint situation).outcome = .ok none ∨
      (carryOut target .setBreakpoint situation).outcome = .failed (.duplicateBreakpoint line) ->
    exists entry, Clears target line answer others later entry
  unlisted : (carryOut target .setBreakpoint situation).outcome ≠ .ok none ->
    (carryOut target .setBreakpoint situation).outcome ≠ .failed (.duplicateBreakpoint line) ->
    carryOut target .deleteBreakpoint later
      = ⟨.ok none,
          questioned later .lineToClear answer
            ++ [⟨{ later with mode := .lineToClear, input := others },
                  .said s!"No breakpoint at line {line.toNat}"⟩],
          { later with mode := .lineToClear, input := others }⟩
  undone : (carryOut target .setBreakpoint situation).outcome = .ok none ->
    (carryOut target .deleteBreakpoint later).outcome = .ok none ->
    (carryOut target .deleteBreakpoint later).state.records.breakpoints
      = situation.records.breakpoints

theorem not_names_iff {answer : String} : (forall line, ¬ Names answer line) ↔
    forall number, Text.PaddedNumeral answer.toList number -> 4294967295 < number := by
  rw [← not_exists, exists_names_iff, not_exists]
  exact forall_congr' fun number => by rw [not_and, Nat.not_le]

theorem decidedBy {wanted : Command} {mode : Mode} {edit : UInt32 -> Edit}
    {situation : Situation σ} {answer : String} {others : List String}
    (asks : AsksLine situation.records.context wanted mode edit)
    (next : situation.input = answer :: others) :
    DecidedBy target wanted mode edit situation answer others where
  accepted line names := carryOut_named asks next names
  refused huge := carryOut_unnamed asks next (not_names_iff.mpr huge)
  malformed_iff := by
    rw [← not_names_iff]
    constructor
    · rintro ⟨text, failed⟩ line names
      obtain ⟨cause, came, restated⟩ := (carryOut_eq_failed_iff asks next names).mp failed
      exact Edit.restate_ne_malformed came restated
    · intro nameless
      exact ⟨_, congrArg Progress.outcome (carryOut_unnamed asks next nameless)⟩

/-- A breakpoint that was not set, but not because its line is listed, has left the line without an
entry. -/
theorem get?_of_setBreakpoint_failed {present : Situation σ} {classId : UInt64} {line : UInt32}
    (failed : forall entry, (setBreakpoint target classId line present).outcome ≠ .ok entry)
    (other : (setBreakpoint target classId line present).outcome
      ≠ .failed (.duplicateBreakpoint line)) :
    (setBreakpoint target classId line present).state.records.breakpoints.get? line = none := by
  have edited := setBreakpoint_comesOut target present classId line
  rw [edited.inVain_records failed]
  cases missing : present.records.breakpoints.get? line with
  | none => rfl
  | some entry =>
      have listed := Option.isSome_iff_exists.mpr ⟨entry, missing⟩
      rw [setBreakpoint_of_listed target present classId listed] at other
      exact absurd rfl other

theorem listed_of_duplicate {present : Situation σ} {classId : UInt64} {line : UInt32}
    (failed : (setBreakpoint target classId line present).outcome
      = .failed (.duplicateBreakpoint line)) : exists entry,
    (setBreakpoint target classId line present).state.records.breakpoints.get? line
      = some entry := by
  cases obstacle_of_setBreakpoint failed with
  | listed listed =>
      rw [setBreakpoint_of_listed target present classId listed]
      exact Option.isSome_iff_exists.mp listed

theorem sameEntry {situation later : Situation σ} {context : HaltContext} {first second : String}
    {line : UInt32} {firstOthers secondOthers : List String}
    (halted : situation.records.context = some context)
    (asked : situation.input = first :: firstOthers) (names : Names first line)
    (askedLater : later.input = second :: secondOthers) (namesAgain : Names second line)
    (kept : later.records.breakpoints
      = (carryOut target .setBreakpoint situation).state.records.breakpoints) :
    SameEntry target line situation later second secondOthers := by
  have asks : AsksLine situation.records.context .setBreakpoint (.lineToBreakAt context)
      (.set context.classId) := halted ▸ .set context
  let present := { situation with mode := .lineToBreakAt context, input := firstOthers }
  have table : later.records.breakpoints
      = (setBreakpoint target context.classId line present).state.records.breakpoints :=
    kept.trans (congrArg (·.records.breakpoints) (carryOut_state asks asked names))
  have succeeds : (carryOut target .setBreakpoint situation).outcome = .ok none ↔
      exists entry, (setBreakpoint target context.classId line present).outcome = .ok entry :=
    carryOut_eq_ok_iff asks asked names
  refine ⟨fun came => ?_, fun unset other => ?_, fun came cleared => ?_⟩
  · have listed : exists entry, later.records.breakpoints.get? line = some entry := by
      rw [table]
      rcases came with came | duplicate
      · obtain ⟨entry, set⟩ := succeeds.mp came
        exact ⟨entry, (setBreakpoint_comesOut target present context.classId line).get?_self set⟩
      · obtain ⟨_, failed, rfl⟩ := (carryOut_eq_failed_iff asks asked names).mp duplicate
        exact listed_of_duplicate failed
    obtain ⟨entry, listed⟩ := listed
    exact ⟨entry, clears_of_listed askedLater namesAgain listed⟩
  · refine clears_nothing askedLater namesAgain ?_
    rw [table]
    refine get?_of_setBreakpoint_failed (fun entry set => unset (succeeds.mpr ⟨entry, set⟩)) ?_
    exact fun failed => other ((carryOut_eq_failed_iff asks asked names).mpr ⟨_, failed, rfl⟩)
  · obtain ⟨entry, set⟩ := succeeds.mp came
    obtain ⟨existed, deleted⟩ := (carryOut_eq_ok_iff (.delete _) askedLater namesAgain).mp cleared
    have same : ({ later with mode := .lineToClear, input := secondOthers } :
        Situation σ).records.breakpoints = _ := table
    rw [carryOut_state (.delete _) askedLater namesAgain]
    exact (delete_after_set set same deleted).2

/-- Lines are named by numerals.  At a command that asks for a line, an answer is accepted exactly
if it is a numeral with blanks around it and its number has room in 32 bits, and then this number is
the line that is edited.  Every other answer is refused before anything has been asked of the
target, and nothing has changed but that the answer has been taken.

So the way in which a line is written does not matter: what has been set under one spelling is
deleted under any other. -/
theorem lines_are_named_by_numerals (target : Target σ) :
    (forall (wanted : Command) (mode : Mode) (edit : UInt32 -> Edit) (situation : Situation σ)
        (answer : String) (others : List String),
      AsksLine situation.records.context wanted mode edit -> situation.input = answer :: others ->
      DecidedBy target wanted mode edit situation answer others) ∧
    forall (situation later : Situation σ) (line : UInt32) (first second : String)
        (firstOthers secondOthers : List String),
      situation.records.context.isSome = true -> situation.input = first :: firstOthers ->
      Names first line -> later.input = second :: secondOthers -> Names second line ->
      later.records.breakpoints
        = (carryOut target .setBreakpoint situation).state.records.breakpoints ->
      SameEntry target line situation later second secondOthers := by
  constructor
  · intro wanted mode edit situation answer others asks next
    exact decidedBy asks next
  · intro situation later line first second firstOthers secondOthers halted asked names
      askedLater namesAgain kept
    obtain ⟨context, halted⟩ := Option.isSome_iff_exists.mp halted
    exact sameEntry halted asked names askedLater namesAgain kept

/-- The bookkeeper is halted, and these lines are to be taken. -/
def haltedWith (input : List String) : Situation Ledger :=
  { records := { entryClass := "Main", context := some ⟨1, 1⟩ }, target := {}, input }

/-- The greatest line is named in two ways, and the number after it names none. -/
theorem the_greatest_line_is_named :
    (carryOut bookkeeper .deleteBreakpoint (haltedWith ["4294967296"])).outcome
        = .failed (.malformedNumber "4294967296") ∧
      exists entry, Clears bookkeeper 4294967295 "004294967295\t" []
        { (carryOut bookkeeper .setBreakpoint (haltedWith ["+4294967295 "])).state with
          input := ["004294967295\t"] } entry := by
  obtain ⟨decided, same⟩ := lines_are_named_by_numerals bookkeeper
  constructor
  · have nameless : forall line, ¬ Names "4294967296" line := by
      intro line names
      have read := word32?_trim_eq_some_iff.mpr names
      have unread : Text.Numeral.word32? (Text.trim "4294967296") = none := by decide
      cases unread.symm.trans read
    have refused := (decided _ _ _ (haltedWith ["4294967296"]) _ _ (.delete _) rfl).refused
    exact congrArg Progress.outcome (refused (not_names_iff.mp nameless))
  · have first : Names "+4294967295 " 4294967295 := word32?_trim_eq_some_iff.mp (by decide)
    have second : Names "004294967295\t" 4294967295 := word32?_trim_eq_some_iff.mp (by decide)
    have came : (carryOut bookkeeper .setBreakpoint (haltedWith ["+4294967295 "])).outcome
        = .ok none := by
      rfl
    let later := { (carryOut bookkeeper .setBreakpoint (haltedWith ["+4294967295 "])).state with
      input := ["004294967295\t"] }
    exact (same (haltedWith ["+4294967295 "]) later _ _ _ _ _ rfl rfl first rfl second rfl).listed
      (.inl came)

end Session
end LineDebugger
