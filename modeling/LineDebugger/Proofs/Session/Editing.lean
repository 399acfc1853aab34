import LineDebugger.Proofs.Session.Ledger

namespace LineDebugger
namespace Session

open Debuggee

/-!
# Editing the table of breakpoints

Breakpoints are set and deleted one at a time, and whatever the target says to it decides how
such an edit comes out.  `ComesOut` lists the ways, each with all that it does to the table.
Most of what there is to say about a table follows from the list alone.

What a table holds is told by the edits it has seen.  Between two edits the target may have
gone on, and so may everything else in the session; only the table is handed on.  So a history
lists the edits together with the situations in which they were made.
-/

variable {σ : Type}

/-- An edit of the table. -/
inductive Edit where
  | set (classId : UInt64) (line : UInt32)
  | delete (line : UInt32)
  deriving DecidableEq, Repr

namespace Edit

/-- The line that the edit is about. -/
def line : Edit -> UInt32
  | .set _ line => line
  | .delete line => line

/-- What an edit fails with. -/
@[reducible]
def Error : Edit -> Type
  | .set _ _ => CommandError
  | .delete _ => TargetError

/-- What an edit answers. -/
@[reducible]
def Answer : Edit -> Type
  | .set _ _ => Breakpoint
  | .delete _ => Bool

/-- What the session does to make the edit. -/
def act (target : Target σ) : (edit : Edit) -> Dialogue σ edit.Error edit.Answer
  | .set classId line => setBreakpoint target classId line
  | .delete line => deleteBreakpoint target line

end Edit

/-! ## What the target says -/

/-- The place for a breakpoint, going by what is said about the locations of its line. -/
def placeFor (line : UInt32) :
    Outcome TargetError (List Location) -> Outcome CommandError Location
  | .ok (location :: _) => .ok location
  | .ok [] => .failed (.noLocationForLine line)
  | .failed (.noSuchElement _) => .failed (.noLocationForLine line)
  | .failed error => .failed (.target error)
  | .unfinished => .unfinished

theorem ok_of_placeFor {line : UInt32} {outcome : Outcome TargetError (List Location)}
    {location : Location} (place : placeFor line outcome = .ok location) :
    exists others, outcome = .ok (location :: others) := by
  unfold placeFor at place
  split at place <;> cases place
  exact ⟨_, rfl⟩

/-- Whether an event request has been deleted, going by what is said about it. -/
def deletion {α : Type} : Outcome TargetError α -> Outcome TargetError Unit
  | .ok _ => .ok ()
  | .failed (.noSuchElement _) => .ok ()
  | .failed error => .failed error
  | .unfinished => .unfinished

section Responses

variable {target : Target σ} {situation : Situation σ}

theorem findLocation_of {classId : UInt64} {line : UInt32}
    {outcome : Outcome TargetError (List Location)}
    (came : (target.respond (.locationsOfLine classId line) situation.target).outcome = outcome) :
    findLocation target classId line situation =
      ⟨placeFor line outcome, [.asking target (.locationsOfLine classId line) situation],
        situation.answered target (.locationsOfLine classId line)⟩ := by
  unfold findLocation
  have asked := ask_of came
  cases outcome with
  | ok locations =>
      rw [Act.bind_ok (Act.attempt_ok asked)]
      cases locations <;> rfl
  | failed error =>
      rw [Act.bind_ok (Act.attempt_failed asked)]
      cases error <;> rfl
  | unfinished => rw [Act.bind_unfinished (Act.attempt_unfinished asked)]; rfl

theorem enableBreakpoint_of {location : Location} {outcome : Outcome TargetError Int32}
    (came : (target.respond (.enableBreakpoint location) situation.target).outcome = outcome) :
    (Act.mapError CommandError.target (Dialogue.ask target (.enableBreakpoint location)) :
        Dialogue σ CommandError Int32) situation =
      ⟨outcome.mapError .target, [.asking target (.enableBreakpoint location) situation],
        situation.answered target (.enableBreakpoint location)⟩ :=
  Act.mapError_of _ (ask_of came)

theorem deleteRequest_of {request : Request} {outcome : Outcome TargetError request.Answer}
    (came : (target.respond request situation.target).outcome = outcome) :
    deleteRequest target request situation =
      ⟨deletion outcome, [.asking target request situation],
        situation.answered target request⟩ := by
  unfold deleteRequest
  have asked := ask_of came
  cases outcome with
  | ok answer => rw [Act.bind_ok (Act.attempt_ok asked)]; rfl
  | failed error =>
      rw [Act.bind_ok (Act.attempt_failed asked)]
      cases error <;> rfl
  | unfinished => rw [Act.bind_unfinished (Act.attempt_unfinished asked)]; rfl

end Responses

/-! ## How an edit comes out -/

/-- What the target has answered for a breakpoint: its place is the first of the locations of
its line, and its request is the one that was made for that place. -/
structure Creates (target : Target σ) (classId : UInt64) (before : Situation σ)
    (entry : Breakpoint) : Prop where
  located : exists others,
    (target.respond (.locationsOfLine classId entry.line) before.target).outcome
      = .ok (entry.location :: others)
  registered :
    (target.respond (.enableBreakpoint entry.location)
      (before.answered target (.locationsOfLine classId entry.line)).target).outcome
      = .ok entry.request
  enabled : entry.enabled = true

/-- The ways in which an edit comes out, and what each of them does to the table. -/
inductive Edit.ComesOut (target : Target σ) (before : Situation σ) :
    (edit : Edit) -> Progress (Situation σ) (Moment σ) edit.Error edit.Answer -> Prop where
  | duplicate {classId : UInt64} {line : UInt32}
      (listed : (before.records.breakpoints.get? line).isSome = true) :
      ComesOut target before (.set classId line) ⟨.failed (.duplicateBreakpoint line), [], before⟩
  | unlisted {line : UInt32} (missing : before.records.breakpoints.get? line = none) :
      ComesOut target before (.delete line) ⟨.ok false, [], before⟩
  | set {classId : UInt64} {line : UInt32} {entry : Breakpoint} {own : List (Moment σ)}
      {after : Situation σ} (missing : before.records.breakpoints.get? line = none)
      (same : entry.line = line) (created : Creates target classId before entry)
      (table : after.records.breakpoints = before.records.breakpoints.insert entry) :
      ComesOut target before (.set classId line) ⟨.ok entry, own, after⟩
  | deleted {line : UInt32} {entry : Breakpoint} {own : List (Moment σ)} {after : Situation σ}
      (listed : before.records.breakpoints.get? line = some entry)
      (table : after.records.breakpoints = before.records.breakpoints.erase line) :
      ComesOut target before (.delete line) ⟨.ok true, own, after⟩
  | inVain {edit : Edit} {outcome : Outcome edit.Error edit.Answer} {own : List (Moment σ)}
      {after : Situation σ} (failed : forall answer, outcome ≠ .ok answer)
      (records : after.records = before.records) :
      ComesOut target before edit ⟨outcome, own, after⟩

section Inversion

variable (target : Target σ) (before : Situation σ)

/-- A line that is listed already is refused without a word to the target. -/
theorem setBreakpoint_of_listed (classId : UInt64) {line : UInt32}
    (listed : (before.records.breakpoints.get? line).isSome = true) :
    setBreakpoint target classId line before
      = ⟨.failed (.duplicateBreakpoint line), [], before⟩ := by
  unfold setBreakpoint
  rw [Act.bind_ok (records_of before), if_pos listed]
  rfl

/-- Once a place has been found for it, a breakpoint takes one more request and no other. -/
theorem setBreakpoint_log_of_located {classId : UInt64} {line : UInt32} {location : Location}
    {others : List Location} (missing : before.records.breakpoints.get? line = none)
    (located : (target.respond (.locationsOfLine classId line) before.target).outcome
      = .ok (location :: others)) :
    (setBreakpoint target classId line before).log =
      [.asking target (.locationsOfLine classId line) before,
        .asking target (.enableBreakpoint location)
          (before.answered target (.locationsOfLine classId line))] := by
  have free : ¬ (before.records.breakpoints.get? line).isSome = true := by
    rw [missing]
    exact Bool.false_ne_true
  unfold setBreakpoint
  rw [Act.bind_ok (records_of before), if_neg free, Act.bind_ok (findLocation_of located)]
  cases registered : (target.respond (.enableBreakpoint location)
      (before.answered target (.locationsOfLine classId line)).target).outcome with
  | ok request => rw [Act.bind_ok (enableBreakpoint_of registered)]; rfl
  | failed error => rw [Act.bind_failed (enableBreakpoint_of registered)]; rfl
  | unfinished => rw [Act.bind_unfinished (enableBreakpoint_of registered)]; rfl

/-- A line that is not listed has nothing to delete. -/
theorem deleteBreakpoint_of_unlisted {line : UInt32}
    (missing : before.records.breakpoints.get? line = none) :
    deleteBreakpoint target line before = ⟨.ok false, [], before⟩ := by
  unfold deleteBreakpoint
  rw [Act.bind_ok (records_of before), missing]
  rfl

theorem setBreakpoint_comesOut (classId : UInt64) (line : UInt32) :
    (Edit.set classId line).ComesOut target before (setBreakpoint target classId line before) := by
  cases missing : before.records.breakpoints.get? line with
  | some entry =>
      have listed := Option.isSome_iff_exists.mpr ⟨entry, missing⟩
      rw [setBreakpoint_of_listed target before classId listed]
      exact .duplicate listed
  | none =>
      have looked : findLocation target classId line before = _ := findLocation_of rfl
      have free : ¬ (before.records.breakpoints.get? line).isSome = true := by
        rw [missing]
        exact Bool.false_ne_true
      unfold setBreakpoint
      rw [Act.bind_ok (records_of before), if_neg free]
      cases place : placeFor line
          (target.respond (.locationsOfLine classId line) before.target).outcome with
      | failed error =>
          rw [Act.bind_failed (looked.trans (by rw [place]))]
          exact .inVain (by intro _ impossible; cases impossible) rfl
      | unfinished =>
          rw [Act.bind_unfinished (looked.trans (by rw [place]))]
          exact .inVain (by intro _ impossible; cases impossible) rfl
      | ok location =>
          have located := ok_of_placeFor place
          rw [Act.bind_ok (looked.trans (by rw [place]))]
          cases registered : (target.respond (.enableBreakpoint location)
              (before.answered target (.locationsOfLine classId line)).target).outcome with
          | ok request =>
              rw [Act.bind_ok (enableBreakpoint_of registered)]
              have created : Creates target classId before ⟨line, location, request, true⟩ :=
                ⟨located, registered, rfl⟩
              exact .set missing rfl created rfl
          | failed error =>
              rw [Act.bind_failed (enableBreakpoint_of registered)]
              exact .inVain (by intro _ impossible; cases impossible) rfl
          | unfinished =>
              rw [Act.bind_unfinished (enableBreakpoint_of registered)]
              exact .inVain (by intro _ impossible; cases impossible) rfl

theorem deleteBreakpoint_comesOut (line : UInt32) :
    (Edit.delete line).ComesOut target before (deleteBreakpoint target line before) := by
  cases listed : before.records.breakpoints.get? line with
  | none =>
      rw [deleteBreakpoint_of_unlisted target before listed]
      exact .unlisted listed
  | some entry =>
      have asked : deleteRequest target (.deleteBreakpoint entry.request) before = _ :=
        deleteRequest_of rfl
      unfold deleteBreakpoint
      rw [Act.bind_ok (records_of before), listed]
      dsimp only
      cases result : deletion
          (target.respond (.deleteBreakpoint entry.request) before.target).outcome with
      | ok done =>
          rw [Act.bind_ok (asked.trans (by rw [result]))]
          exact .deleted listed rfl
      | failed error =>
          rw [Act.bind_failed (asked.trans (by rw [result]))]
          exact .inVain (by intro _ impossible; cases impossible) rfl
      | unfinished =>
          rw [Act.bind_unfinished (asked.trans (by rw [result]))]
          exact .inVain (by intro _ impossible; cases impossible) rfl

theorem Edit.comesOut (edit : Edit) : edit.ComesOut target before (edit.act target before) := by
  cases edit with
  | set classId line => exact setBreakpoint_comesOut target before classId line
  | delete line => exact deleteBreakpoint_comesOut target before line

end Inversion

/-! ### What follows for the table -/

/-- The entry that an edit leaves for its line when it comes out well. -/
def Edit.leaves : (edit : Edit) -> edit.Answer -> Option Breakpoint
  | .set _ _, entry => some entry
  | .delete _, _ => none

namespace Edit.ComesOut

variable {target : Target σ} {before : Situation σ} {edit : Edit}
  {made : Progress (Situation σ) (Moment σ) edit.Error edit.Answer}

theorem inVain_records (comesOut : edit.ComesOut target before made)
    (failed : forall answer, made.outcome ≠ .ok answer) :
    made.state.records = before.records := by
  cases comesOut with
  | duplicate listed => rfl
  | unlisted missing => rfl
  | set missing same created table => exact absurd rfl (failed _)
  | deleted listed table => exact absurd rfl (failed _)
  | inVain failed records => exact records

theorem get?_self {answer : edit.Answer} (comesOut : edit.ComesOut target before made)
    (came : made.outcome = .ok answer) :
    made.state.records.breakpoints.get? edit.line = edit.leaves answer := by
  cases comesOut with
  | duplicate listed => cases came
  | unlisted missing => exact missing
  | @set _ _ entry _ _ missing same created table =>
      cases came
      subst same
      exact (congrArg (·.get? entry.line) table).trans (BreakpointTable.get?_insert_self missing)
  | @deleted line _ _ _ listed table =>
      exact (congrArg (·.get? line) table).trans (BreakpointTable.get?_erase_self _ _)
  | inVain failed records => exact absurd came (failed answer)

/-- The breakpoints of other lines have nothing to do with an edit. -/
theorem get?_of_ne {line : UInt32} (comesOut : edit.ComesOut target before made)
    (other : line ≠ edit.line) :
    made.state.records.breakpoints.get? line = before.records.breakpoints.get? line := by
  cases comesOut with
  | duplicate listed => rfl
  | unlisted missing => rfl
  | set missing same created table =>
      exact (congrArg (·.get? line) table).trans
        (BreakpointTable.get?_insert_of_ne (same ▸ other))
  | deleted listed table =>
      exact (congrArg (·.get? line) table).trans (BreakpointTable.get?_erase_of_ne other)
  | inVain failed records => exact congrArg (·.breakpoints.get? line) records

theorem ascending (comesOut : edit.ComesOut target before made)
    (ascending : before.records.breakpoints.Ascending) :
    made.state.records.breakpoints.Ascending := by
  cases comesOut with
  | duplicate listed => exact ascending
  | unlisted missing => exact ascending
  | set missing same created table =>
      dsimp only
      rw [table]
      exact ascending.insert (same ▸ missing)
  | deleted listed table =>
      dsimp only
      rw [table]
      exact ascending.erase _
  | inVain failed records =>
      dsimp only
      rw [records]
      exact ascending

end Edit.ComesOut

/-- A breakpoint that has been set can be deleted again, and then the table is the one from
before, whatever else has happened in between. -/
theorem delete_after_set {target : Target σ} {situation later : Situation σ} {classId : UInt64}
    {line : UInt32} {entry : Breakpoint} {answer : Bool}
    (set : (setBreakpoint target classId line situation).outcome = .ok entry)
    (kept : later.records.breakpoints =
      (setBreakpoint target classId line situation).state.records.breakpoints)
    (deleted : (deleteBreakpoint target line later).outcome = .ok answer) :
    answer = true ∧ (deleteBreakpoint target line later).state.records.breakpoints
      = situation.records.breakpoints := by
  have setting := setBreakpoint_comesOut target situation classId line
  have deleting := deleteBreakpoint_comesOut target later line
  have present := setting.get?_self set
  generalize setBreakpoint target classId line situation = made at set kept setting present
  generalize deleteBreakpoint target line later = undone at deleted deleting ⊢
  cases deleting with
  | unlisted missing =>
      rw [← kept] at present
      exact absurd (missing.symm.trans present) (by intro impossible; cases impossible)
  | inVain failed records => exact absurd deleted (failed answer)
  | deleted listed table =>
      cases deleted
      refine ⟨rfl, table.trans ?_⟩
      cases setting with
      | duplicate listed => cases set
      | inVain failed records => exact absurd set (failed entry)
      | set missing same created inserted =>
          subst same
          rw [kept]
          dsimp only
          rw [inserted]
          exact BreakpointTable.erase_insert missing

/-! ## Histories -/

/-- An edit together with the situation in which it was made. -/
structure Revision (σ : Type) where
  before : Situation σ
  edit : Edit

/-- What was done for the edit. -/
def Revision.made (target : Target σ) (revision : Revision σ) :
    Progress (Situation σ) (Moment σ) revision.edit.Error revision.edit.Answer :=
  revision.edit.act target revision.before

/-- Whether the edit has come out well. -/
def Revision.succeeds (target : Target σ) (revision : Revision σ) : Bool :=
  match (revision.made target).outcome with
  | .ok _ => true
  | _ => false

/-- The edit has put this entry into the table. -/
def Revision.Sets (target : Target σ) (revision : Revision σ) (entry : Breakpoint) : Prop :=
  exists classId, revision.edit = .set classId entry.line ∧
    (setBreakpoint target classId entry.line revision.before).outcome = .ok entry ∧
    Creates target classId revision.before entry

/-- The edits that a table has seen since it was empty. -/
inductive Edited (target : Target σ) : List (Revision σ) -> BreakpointTable -> Prop where
  | untouched : Edited target [] {}
  | further {history : List (Revision σ)} {revision : Revision σ}
      (earlier : Edited target history revision.before.records.breakpoints) :
      Edited target (history ++ [revision]) (revision.made target).state.records.breakpoints

/-- The last edit of a line that has come out well. -/
def lastSuccess (target : Target σ) (history : List (Revision σ)) (line : UInt32) :
    Option (Revision σ) :=
  (history.filter fun revision =>
    revision.edit.line == line && revision.succeeds target).getLast?

section LastSuccess

variable {target : Target σ} {history : List (Revision σ)} {revision : Revision σ}
  {line : UInt32}

theorem lastSuccess_snoc
    (counts : (revision.edit.line == line && revision.succeeds target) = true) :
    lastSuccess target (history ++ [revision]) line = some revision := by
  rw [lastSuccess, List.filter_append, List.filter_singleton, counts]
  exact List.getLast?_concat

theorem lastSuccess_snoc_of_not
    (counts : (revision.edit.line == line && revision.succeeds target) = false) :
    lastSuccess target (history ++ [revision]) line = lastSuccess target history line := by
  rw [lastSuccess, List.filter_append, List.filter_singleton, counts]
  exact congrArg List.getLast? (List.append_nil _)

theorem succeeds_iff : revision.succeeds target = true ↔
    exists answer, (revision.made target).outcome = .ok answer := by
  unfold Revision.succeeds
  constructor
  · intro succeeds
    split at succeeds
    · exact ⟨_, ‹_›⟩
    · cases succeeds
  · rintro ⟨answer, came⟩
    rw [came]

end LastSuccess

/-- The table says of a line what the last edit of the line that came out well has left. -/
def Accounts (target : Target σ) (history : List (Revision σ)) (line : UInt32)
    (listed : Option Breakpoint) : Prop :=
  match lastSuccess target history line with
  | none => listed = none
  | some revision => exists answer,
      (revision.made target).outcome = .ok answer ∧ listed = revision.edit.leaves answer

/-- One more edit either leaves both the entry and the last success as they were, or is itself the
last success and has left the entry. -/
theorem Accounts.snoc {target : Target σ} {history : List (Revision σ)} {revision : Revision σ}
    {line : UInt32}
    (accounts : Accounts target history line (revision.before.records.breakpoints.get? line)) :
    Accounts target (history ++ [revision]) line
      ((revision.made target).state.records.breakpoints.get? line) := by
  have comesOut := revision.edit.comesOut target revision.before
  have beside (counts : (revision.edit.line == line && revision.succeeds target) = false)
      (same : (revision.made target).state.records.breakpoints.get? line
        = revision.before.records.breakpoints.get? line) :
      Accounts target (history ++ [revision]) line
        ((revision.made target).state.records.breakpoints.get? line) := by
    rw [Accounts, lastSuccess_snoc_of_not counts, same]
    exact accounts
  by_cases about : line = revision.edit.line
  · subst about
    cases succeeds : revision.succeeds target with
    | true =>
        obtain ⟨answer, came⟩ := succeeds_iff.mp succeeds
        rw [Accounts, lastSuccess_snoc (by rw [succeeds, beq_self_eq_true, Bool.and_self])]
        exact ⟨answer, came, comesOut.get?_self came⟩
    | false =>
        have failed : forall answer, (revision.made target).outcome ≠ .ok answer := by
          intro answer came
          rw [succeeds_iff.mpr ⟨answer, came⟩] at succeeds
          cases succeeds
        refine beside (by rw [succeeds, Bool.and_false]) ?_
        exact congrArg (fun records : Records => records.breakpoints.get? revision.edit.line)
          (comesOut.inVain_records failed)
  · refine beside ?_ (comesOut.get?_of_ne about)
    rw [beq_eq_false_iff_ne.mpr (Ne.symm about), Bool.false_and]

theorem Edited.accounts {target : Target σ} {history : List (Revision σ)}
    {table : BreakpointTable} (edited : Edited target history table) (line : UInt32) :
    Accounts target history line (table.get? line) := by
  induction edited with
  | untouched => rfl
  | further earlier inductionHypothesis => exact inductionHypothesis.snoc

theorem Edited.ascending {target : Target σ} {history : List (Revision σ)}
    {table : BreakpointTable} (edited : Edited target history table) : table.Ascending := by
  induction edited with
  | untouched => exact .nil
  | further earlier inductionHypothesis => exact (Edit.comesOut _ _ _).ascending inductionHypothesis

/-- An entry is left by a line's last success exactly if this has set it. -/
theorem sets_of_leaves {target : Target σ} {revision : Revision σ}
    {answer : revision.edit.Answer} {entry : Breakpoint}
    (came : (revision.made target).outcome = .ok answer)
    (leaves : revision.edit.leaves answer = some entry) : revision.Sets target entry := by
  obtain ⟨before, edit⟩ := revision
  cases edit with
  | delete line => cases leaves
  | set classId line =>
      cases leaves
      have comesOut := setBreakpoint_comesOut target before classId line
      change (setBreakpoint target classId line before).outcome = .ok entry at came
      have outcome := came
      generalize setBreakpoint target classId line before = made at came comesOut
      cases comesOut with
      | duplicate listed => cases came
      | inVain failed records => exact absurd came (failed _)
      | set missing same created table =>
          cases came
          subst same
          exact ⟨classId, rfl, outcome, created⟩

/-- The table is a finite map by line, and its history has made it what it is.  The fields up to
`listed` say what it lists, and the others what a further edit does. -/
structure MapsLines (target : Target σ) (history : List (Revision σ))
    (table : BreakpointTable) : Prop where
  ascending : table.Ascending
  keyed : forall entry, entry ∈ table.entries -> table.get? entry.line = some entry
  made : forall entry, entry ∈ table.entries -> exists revision,
    lastSuccess target history entry.line = some revision ∧ revision.Sets target entry
  listed : forall line, (table.get? line).isSome = true ↔ exists revision classId,
    lastSuccess target history line = some revision ∧ revision.edit = .set classId line
  duplicate : forall situation classId line, situation.records.breakpoints = table ->
    (table.get? line).isSome = true ->
    setBreakpoint target classId line situation
      = ⟨.failed (.duplicateBreakpoint line), [], situation⟩
  unlisted : forall situation line, situation.records.breakpoints = table ->
    table.get? line = none ->
    deleteBreakpoint target line situation = ⟨.ok false, [], situation⟩
  failed : forall situation edit error, (Edit.act target edit situation).outcome = .failed error ->
    (edit.act target situation).state.records = situation.records
  others : forall situation edit line, situation.records.breakpoints = table ->
    line ≠ Edit.line edit ->
    (edit.act target situation).state.records.breakpoints.get? line = table.get? line
  undone : forall situation later classId line entry answer,
    situation.records.breakpoints = table ->
    (setBreakpoint target classId line situation).outcome = .ok entry ->
    later.records.breakpoints =
      (setBreakpoint target classId line situation).state.records.breakpoints ->
    (deleteBreakpoint target line later).outcome = .ok answer ->
    answer = true ∧ (deleteBreakpoint target line later).state.records.breakpoints = table

/-- Whatever edits a table has seen, and however the target has responded to them, it is the map
by line that they have made. -/
theorem edited_table_maps_lines {target : Target σ} {history : List (Revision σ)}
    {table : BreakpointTable} (edited : Edited target history table) :
    MapsLines target history table where
  ascending := edited.ascending
  keyed _ present := edited.ascending.functional.get?_of_mem present
  made entry present := by
    have listed := edited.ascending.functional.get?_of_mem present
    have accounts := edited.accounts entry.line
    unfold Accounts at accounts
    split at accounts
    · cases listed.symm.trans accounts
    · rename_i revision last
      obtain ⟨answer, came, left⟩ := accounts
      exact ⟨revision, last, sets_of_leaves came (left.symm.trans listed)⟩
  listed line := by
    have accounts := edited.accounts line
    unfold Accounts at accounts
    constructor
    · intro listed
      obtain ⟨entry, found⟩ := Option.isSome_iff_exists.mp listed
      obtain ⟨_, rfl⟩ := BreakpointTable.mem_of_get?_eq_some found
      split at accounts
      · cases found.symm.trans accounts
      · rename_i revision last
        obtain ⟨answer, came, left⟩ := accounts
        obtain ⟨classId, isSet, _⟩ := sets_of_leaves came (left.symm.trans found)
        exact ⟨revision, classId, last, isSet⟩
    · rintro ⟨⟨before, edit⟩, classId, last, rfl⟩
      rw [last] at accounts
      obtain ⟨entry, _, left⟩ := accounts
      rw [left]
      rfl
  duplicate situation classId line same listed :=
    setBreakpoint_of_listed target situation classId (same ▸ listed)
  unlisted situation line same missing :=
    deleteBreakpoint_of_unlisted target situation (same ▸ missing)
  failed situation edit error came := by
    refine (edit.comesOut target situation).inVain_records fun answer same => ?_
    cases came.symm.trans same
  others situation edit line same other := by
    rw [(edit.comesOut target situation).get?_of_ne other, same]
  undone situation later classId line entry answer same set kept deleted :=
    same ▸ delete_after_set set kept deleted

/-- The bookkeeper is asked to set a breakpoint, to set it again, to set another one, and to delete
the first. -/
def bookkeeperEdits : List (Revision Ledger) :=
  let first : Revision Ledger := ⟨.initial {} [] "Main", .set 1 5⟩
  let second : Revision Ledger := ⟨(first.made bookkeeper).state, .set 1 5⟩
  let third : Revision Ledger := ⟨(second.made bookkeeper).state, .set 1 3⟩
  let fourth : Revision Ledger := ⟨(third.made bookkeeper).state, .delete 5⟩
  [first, second, third, fourth]

theorem bookkeeperEdits_edited :
    Edited bookkeeper bookkeeperEdits ⟨[⟨3, ⟨1, "Main", 1, "main", some 3, 0⟩, 1, true⟩]⟩ := by
  have edited : Edited bookkeeper ([] ++ [bookkeeperEdits[0]] ++ [bookkeeperEdits[1]]
      ++ [bookkeeperEdits[2]] ++ [bookkeeperEdits[3]])
      (bookkeeperEdits[3].made bookkeeper).state.records.breakpoints :=
    .further (.further (.further (.further .untouched)))
  have left : (bookkeeperEdits[3].made bookkeeper).state.records.breakpoints
      = ⟨[⟨3, ⟨1, "Main", 1, "main", some 3, 0⟩, 1, true⟩]⟩ := by decide
  exact left ▸ edited

/-- One breakpoint is left. -/
theorem bookkeeper_table_maps_lines :
    MapsLines bookkeeper bookkeeperEdits
      ⟨[⟨3, ⟨1, "Main", 1, "main", some 3, 0⟩, 1, true⟩]⟩ :=
  edited_table_maps_lines bookkeeperEdits_edited

end Session
end LineDebugger
