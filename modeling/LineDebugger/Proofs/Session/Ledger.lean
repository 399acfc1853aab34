import Mathlib.Data.Finset.Card
import Mathlib.Data.Finset.Option
import LineDebugger.Proofs.Session.BreakpointTable
import LineDebugger.Proofs.Session.Run

namespace LineDebugger

/-- The requests that change what event requests there are. -/
def Debuggee.RequestKind.registers : Debuggee.RequestKind -> Bool
  | .enableBreakpoint | .deleteBreakpoint | .createStep | .deleteStep | .detach => true
  | _ => false

namespace Session

open Debuggee

/-!
# Records in step with the target

The records of a session claim to list the event requests that the target knows.  Here the
claim is held against a target that keeps a ledger of its own.  Nothing is assumed about
such a target but the ledger: which events it reports, which of its requests fail, and how,
is up to it.

Records and ledger are in step whenever a line is read, an event is turned to, or anything
is asked of the target, with one exception.  A step is taken off the records before its
request is deleted, and put back if the deletion fails; for the time of this one request
the ledger is ahead.  Failed deletions are the delicate part: a request that is unknown to
the target was none of the ledger's, so counting it as deleted is right, and after every
other failure it still is.
-/

variable {σ ε : Type}

/-! ## Ledgers -/

/-- The event requests that a target keeps for a session. -/
structure Ledger where
  breakpoints : Finset Int32 := ∅
  steps : Finset Int32 := ∅
  deriving DecidableEq

/-- What the response to a request may do to a ledger.  A request that has not been answered
may have done anything, and so may a target that is let go; every failure but one
leaves things as they were. -/
def Ledger.Follows (before after : Ledger) :
    (request : Request) -> Outcome TargetError request.Answer -> Prop
  | _, .unfinished => True
  | .detach, _ => True
  | .enableBreakpoint _, .ok request =>
      request ∉ before.breakpoints ∧
        after = { before with breakpoints := insert request before.breakpoints }
  | .deleteBreakpoint request, .ok _ =>
      after = { before with breakpoints := before.breakpoints.erase request }
  | .deleteBreakpoint request, .failed (.noSuchElement _) =>
      request ∉ before.breakpoints ∧ after = before
  | .createStep _ _ _, .ok request =>
      request ∉ before.steps ∧ after = { before with steps := insert request before.steps }
  | .deleteStep request, .ok _ =>
      after = { before with steps := before.steps.erase request }
  | .deleteStep request, .failed (.noSuchElement _) =>
      request ∉ before.steps ∧ after = before
  | _, _ => after = before

/-- What counts as a successful deletion. -/
def Deleted {α : Type} : Outcome TargetError α -> Prop
  | .ok _ => True
  | .failed (.noSuchElement _) => True
  | _ => False

/-- The requests that delete an event request, and the ledger without it.  A request that the
target did not know of was not in the ledger, so the ledger without it is the ledger. -/
inductive Ledger.Deletes (before : Ledger) : Request -> Ledger -> Prop where
  | breakpoint (request : Int32) :
      Deletes before (.deleteBreakpoint request)
        { before with breakpoints := before.breakpoints.erase request }
  | step (request : Int32) :
      Deletes before (.deleteStep request)
        { before with steps := before.steps.erase request }

/-- A target that keeps a ledger of its event requests. -/
def KeepsLedger (target : Target σ) (ledger : σ -> Ledger) : Prop :=
  forall request state, (ledger state).Follows (ledger (target.respond request state).state)
    request (target.respond request state).outcome

theorem KeepsLedger.answered {target : Target σ} {ledger : σ -> Ledger}
    (keeps : KeepsLedger target ledger) {request : Request} {situation : Situation σ}
    {outcome : Outcome TargetError request.Answer}
    (responded : (target.respond request situation.target).outcome = outcome) :
    (ledger situation.target).Follows (ledger (situation.answered target request).target)
      request outcome := by
  subst responded
  exact keeps request situation.target

namespace Ledger.Follows

variable {before after : Ledger}

/-- Requests of other kinds are none of the ledger's business. -/
theorem unchanged {request : Request}
    {outcome : Outcome TargetError request.Answer} (follows : before.Follows after request outcome)
    (foreign : request.kind.registers = false) (finished : outcome ≠ .unfinished) :
    after = before := by
  cases outcome with
  | unfinished => exact absurd rfl finished
  | ok answer => cases request <;> first | exact follows | cases foreign
  | failed error => cases request <;> first | exact follows | cases foreign

/-- Deleted is what the target says is deleted, and what it has never heard of. -/
theorem deleted {request : Request} {outcome : Outcome TargetError request.Answer}
    {without : Ledger} (follows : before.Follows after request outcome)
    (deletes : before.Deletes request without) (deleted : Deleted outcome) : after = without := by
  cases outcome with
  | ok answer => cases deletes <;> exact follows
  | failed error =>
      cases error with
      | noSuchElement reason =>
          cases deletes <;> rw [follows.2, Finset.erase_eq_of_notMem follows.1]
      | notAvailable reason => exact deleted.elim
      | other reason => exact deleted.elim
  | unfinished => exact deleted.elim

theorem kept {request : Request} {error : TargetError} {without : Ledger}
    (follows : before.Follows after request (.failed error))
    (deletes : before.Deletes request without)
    (kept : ¬ Deleted (.failed error : Outcome TargetError request.Answer)) : after = before := by
  cases error with
  | noSuchElement reason => exact absurd trivial kept
  | notAvailable reason => cases deletes <;> exact follows
  | other reason => cases deletes <;> exact follows

end Ledger.Follows

/-! ## Records -/

/-- The records list exactly the requests of the ledger, each of them once. -/
structure Records.InStep (records : Records) (ledger : Ledger) : Prop where
  functional : records.breakpoints.Functional
  distinct : records.breakpoints.requests.Nodup
  breakpoints : ledger.breakpoints = records.breakpoints.requests.toFinset
  steps : ledger.steps = (records.step.map ActiveStep.request).toFinset

namespace Records.InStep

variable {records : Records} {ledger : Ledger}

theorem enable {breakpoint : Breakpoint} (inStep : records.InStep ledger)
    (missing : records.breakpoints.get? breakpoint.line = none)
    (fresh : breakpoint.request ∉ ledger.breakpoints) :
    ({ records with breakpoints := records.breakpoints.insert breakpoint } : Records).InStep
      { ledger with breakpoints := insert breakpoint.request ledger.breakpoints } := by
  have requests := BreakpointTable.requests_insert_perm missing
  refine ⟨inStep.functional.insert missing, ?_, ?_, inStep.steps⟩
  · refine requests.nodup_iff.mpr (List.nodup_cons.mpr ⟨fun member => fresh ?_, inStep.distinct⟩)
    rw [inStep.breakpoints]
    exact List.mem_toFinset.mpr member
  · change insert breakpoint.request ledger.breakpoints = _
    rw [List.toFinset_eq_of_perm _ _ requests, List.toFinset_cons, inStep.breakpoints]

theorem disable {breakpoint : Breakpoint} (inStep : records.InStep ledger)
    (present : breakpoint ∈ records.breakpoints.entries) :
    ({ records with breakpoints := records.breakpoints.erase breakpoint.line } : Records).InStep
      { ledger with breakpoints := ledger.breakpoints.erase breakpoint.request } := by
  refine ⟨inStep.functional.erase _, ?_, ?_, inStep.steps⟩
  · exact inStep.distinct.sublist (BreakpointTable.requests_erase_sublist _ _)
  · change ledger.breakpoints.erase breakpoint.request = _
    rw [BreakpointTable.requests_erase_toFinset inStep.functional inStep.distinct present,
      inStep.breakpoints]

theorem beginStep (inStep : records.InStep ledger) (step : ActiveStep)
    (idle : records.step = none) :
    ({ records with step := some step } : Records).InStep
      { ledger with steps := insert step.request ledger.steps } := by
  refine ⟨inStep.functional, inStep.distinct, inStep.breakpoints, ?_⟩
  change insert step.request ledger.steps = {step.request}
  rw [inStep.steps, idle]
  rfl

/-- Whatever step is deleted, it is taken off the records if it was there. -/
theorem endStep (inStep : records.InStep ledger) (request : Int32) :
    (if records.step.map ActiveStep.request = some request then { records with step := none }
      else records).InStep
      { ledger with steps := ledger.steps.erase request } := by
  split
  · rename_i active
    refine ⟨inStep.functional, inStep.distinct, inStep.breakpoints, ?_⟩
    change ledger.steps.erase request = ∅
    rw [inStep.steps, active]
    exact Finset.erase_singleton request
  · rename_i other
    refine ⟨inStep.functional, inStep.distinct, inStep.breakpoints, ?_⟩
    change ledger.steps.erase request = _
    have unknown : request ∉ ledger.steps := by
      rw [inStep.steps, Option.mem_toFinset]
      exact other
    rw [Finset.erase_eq_of_notMem unknown, inStep.steps]

end Records.InStep

/-! ## Sessions -/

/-- A mark at which records and ledger have to be in step. -/
def Mark.Settled : Mark -> Prop
  | .asked (.deleteStep _) _ _ => False
  | _ => True

/-- At every settled point the records were in step with the ledger. -/
def Accurate (ledger : σ -> Ledger) (log : List (Moment σ)) : Prop :=
  forall moment, moment ∈ log -> moment.mark.Settled ->
    moment.before.records.InStep (ledger moment.before.target)

/-- The regime of records that are in step. -/
def accurate (ledger : σ -> Ledger) : Regime σ where
  holds log situation :=
    Accurate ledger log ∧ situation.records.InStep (ledger situation.target)
  lost log situation :=
    Accurate ledger log ∧ situation.records.InStep (ledger situation.target)
  left log situation :=
    Accurate ledger log ∧ situation.records.InStep (ledger situation.target)
  waiting := Accurate ledger

theorem accurate_nil (ledger : σ -> Ledger) : Accurate ledger [] := List.forall_mem_nil _

theorem Accurate.snoc {ledger : σ -> Ledger} {log : List (Moment σ)} {moment : Moment σ}
    (past : Accurate ledger log)
    (now : moment.mark.Settled -> moment.before.records.InStep (ledger moment.before.target)) :
    Accurate ledger (log ++ [moment]) :=
  List.forall_mem_append.mpr ⟨past, List.forall_mem_singleton.mpr now⟩

namespace Accurate

open Regime

variable {ledger : σ -> Ledger} {target : Target σ} {isLoss : ε -> Bool}
  {past : List (Moment σ)} {situation : Situation σ}

/-- Whether a failure is the loss of the target makes no difference to the records. -/
theorem failed {error : ε} (holds : (accurate ledger).holds past situation) :
    ((accurate ledger).exits isLoss).failed error past situation :=
  failed_of_both holds holds

/-- A response that leaves the ledger as it was. -/
theorem answered_same {request : Request}
    (same : ledger (situation.answered target request).target = ledger situation.target)
    (holds : (accurate ledger).holds past situation) :
    (accurate ledger).holds (past ++ [.asking target request situation])
      (situation.answered target request) := by
  refine ⟨holds.1.snoc fun _ => holds.2, ?_⟩
  rw [same]
  exact holds.2

variable (keeps : KeepsLedger target ledger)
include keeps

theorem answered_foreign (request : Request) (foreign : request.kind.registers = false)
    {outcome : Outcome TargetError request.Answer}
    (responded : (target.respond request situation.target).outcome = outcome)
    (finished : outcome ≠ .unfinished) (holds : (accurate ledger).holds past situation) :
    (accurate ledger).holds (past ++ [.asking target request situation])
      (situation.answered target request) :=
  answered_same ((keeps.answered responded).unchanged foreign finished) holds

theorem keepsAsk {request : Request} (foreign : request.kind.registers = false) :
    (accurate ledger).Keeps TargetError.isDisconnect (Dialogue.ask target request) := by
  intro past situation holds
  refine Reaches.ask ?_ ?_ ?_
  · intro answer responded
    exact answered_foreign keeps request foreign responded
      (by intro impossible; cases impossible) holds
  · intro error responded
    exact failed (answered_foreign keeps request foreign responded
      (by intro impossible; cases impossible) holds)
  · intro responded
    exact holds.1.snoc fun _ => holds.2

/-! ### Breakpoints -/

/-- Looking for a place changes neither the records nor the ledger. -/
theorem findLocation_reaches (classId : UInt64) (line : UInt32)
    (holds : (accurate ledger).holds past situation) :
    (findLocation target classId line).Reaches ((accurate ledger).exits CommandError.isLoss)
      (fun _ log after => (accurate ledger).holds log after ∧ after.records = situation.records)
      past situation := by
  unfold findLocation
  refine Reaches.tryAsk ?_ ?_ ?_
  · intro locations responded
    have after := answered_foreign keeps (.locationsOfLine classId line) rfl responded
      (by intro impossible; cases impossible) holds
    cases locations with
    | nil => exact Act.reaches_fail.mpr (failed after)
    | cons location others => exact Act.reaches_pure.mpr ⟨after, rfl⟩
  · intro error responded
    have after := answered_foreign keeps (.locationsOfLine classId line) rfl responded
      (by intro impossible; cases impossible) holds
    cases error with
    | noSuchElement reason => exact Act.reaches_fail.mpr (failed after)
    | notAvailable reason => exact Act.reaches_fail.mpr (failed after)
    | other reason => exact Act.reaches_fail.mpr (failed after)
  · intro responded
    exact holds.1.snoc fun _ => holds.2

theorem setBreakpoint (classId : UInt64) (line : UInt32) :
    (accurate ledger).Keeps CommandError.isLoss (setBreakpoint target classId line) := by
  intro past situation holds
  unfold Session.setBreakpoint
  rw [Act.reaches_bind, reaches_records]
  cases missing : situation.records.breakpoints.get? line with
  | some breakpoint => exact Act.reaches_fail.mpr (failed holds)
  | none =>
      refine (findLocation_reaches keeps classId line holds).bind ?_
      intro location log after ⟨holds, same⟩
      rw [← same] at missing
      refine Act.reaches_bind.mpr (Act.reaches_mapError.mpr (Reaches.ask ?_ ?_ ?_))
      · intro request responded
        obtain ⟨fresh, entered⟩ := keeps.answered responded
        rw [Act.reaches_bind, reaches_change, Act.reaches_pure]
        refine ⟨holds.1.snoc fun _ => holds.2, ?_⟩
        rw [entered]
        exact holds.2.enable missing fresh
      · intro error responded
        exact failed (answered_same (keeps.answered responded) holds)
      · intro responded
        exact holds.1.snoc fun _ => holds.2

/-! ### Deletions -/

omit keeps in
/-- A deletion is over in one of two ways, or it fails. -/
theorem deleteRequest_reaches {request : Request}
    {exits : Exits (Situation σ) (Moment σ) TargetError} {goal : Unit -> _ -> _ -> Prop}
    (onDeleted : forall outcome, (target.respond request situation.target).outcome = outcome ->
      Deleted outcome ->
      goal () (past ++ [.asking target request situation]) (situation.answered target request))
    (onFailure : forall error,
      (target.respond request situation.target).outcome = .failed error ->
      ¬ Deleted (.failed error : Outcome TargetError request.Answer) ->
      exits.failed error (past ++ [.asking target request situation])
        (situation.answered target request))
    (onWait : exits.unfinished (past ++ [.asking target request situation])) :
    (deleteRequest target request).Reaches exits goal past situation := by
  unfold deleteRequest
  refine Reaches.tryAsk ?_ ?_ fun _ => onWait
  · exact fun answer responded => Act.reaches_pure.mpr (onDeleted _ responded trivial)
  · intro error responded
    cases error with
    | noSuchElement reason => exact Act.reaches_pure.mpr (onDeleted _ responded trivial)
    | notAvailable reason => exact Act.reaches_fail.mpr (onFailure _ responded id)
    | other reason => exact Act.reaches_fail.mpr (onFailure _ responded id)

theorem deleteBreakpoint (line : UInt32) :
    (accurate ledger).Keeps TargetError.isDisconnect (deleteBreakpoint target line) := by
  intro past situation holds
  unfold Session.deleteBreakpoint
  rw [Act.reaches_bind, reaches_records]
  cases found : situation.records.breakpoints.get? line with
  | none => exact Act.reaches_pure.mpr holds
  | some breakpoint =>
      obtain ⟨present, rfl⟩ := BreakpointTable.mem_of_get?_eq_some found
      refine Act.reaches_bind.mpr (deleteRequest_reaches ?_ ?_ ?_)
      · intro outcome responded deleted
        rw [Act.reaches_bind, reaches_change, Act.reaches_pure]
        refine ⟨holds.1.snoc fun _ => holds.2, ?_⟩
        rw [(keeps.answered responded).deleted (.breakpoint _) deleted]
        exact holds.2.disable present
      · intro error responded kept
        exact failed (answered_same ((keeps.answered responded).kept (.breakpoint _) kept) holds)
      · exact holds.1.snoc fun _ => holds.2

/-! ### Steps -/

/-- While the request is deleted the record is gone; it is put back if the request stays. -/
theorem dropStep_reaches (holds : (accurate ledger).holds past situation) :
    (dropStep target).Reaches ((accurate ledger).exits TargetError.isDisconnect)
      (fun _ log after => (accurate ledger).holds log after ∧ after.records.step = none)
      past situation := by
  unfold dropStep
  rw [Act.reaches_bind, reaches_records]
  cases active : situation.records.step with
  | none => exact Act.reaches_pure.mpr ⟨holds, active⟩
  | some previous =>
      rw [Act.reaches_bind, reaches_change, Act.reaches_bind, Act.reaches_attempt]
      have ahead {moment : Moment σ} {response : _} {exchanges : _}
          (mark : moment.mark = .asked (.deleteStep previous.request) response exchanges) :
          Accurate ledger (past ++ [moment]) :=
        holds.1.snoc fun settled => by rw [mark] at settled; exact settled.elim
      refine deleteRequest_reaches ?_ ?_ ?_
      · intro outcome responded deleted
        refine Act.reaches_pure.mpr ⟨⟨ahead rfl, ?_⟩, rfl⟩
        have ended := holds.2.endStep previous.request
        rw [active, Option.map_some, if_pos rfl] at ended
        rw [(keeps.answered responded).deleted (.step _) deleted]
        exact ended
      · intro error responded kept
        dsimp only
        rw [Act.reaches_bind, reaches_change, Act.reaches_fail]
        refine failed ⟨ahead rfl, ?_⟩
        rw [(keeps.answered responded).kept (.step _) kept]
        have restored : ({ situation.records with step := some previous } : Records) =
            situation.records := by rw [← active]
        change ({ situation.records with step := some previous } : Records).InStep _
        rw [restored]
        exact holds.2
      · exact ahead rfl

theorem requestStep (thread : UInt64) (scope : StepScope) :
    (accurate ledger).Keeps TargetError.isDisconnect (requestStep target thread scope) := by
  intro past situation holds
  refine (dropStep_reaches keeps holds).bind ?_
  intro _ log after ⟨holds, idle⟩
  rw [Act.reaches_bind, reaches_records]
  refine Act.reaches_bind.mpr (Reaches.ask ?_ ?_ ?_)
  · intro request responded
    obtain ⟨_, entered⟩ := keeps.answered responded
    rw [reaches_change]
    refine ⟨holds.1.snoc fun _ => holds.2, ?_⟩
    rw [entered]
    exact holds.2.beginStep ⟨request, thread, scope⟩ idle
  · intro error responded
    exact failed (answered_same (keeps.answered responded) holds)
  · intro responded
    exact holds.1.snoc fun _ => holds.2

/-- The request whose completion is reported need not be the one on record. -/
theorem retireStep (request : Int32) :
    (accurate ledger).Keeps TargetError.isDisconnect (retireStep target request) := by
  intro past situation holds
  refine Act.reaches_bind.mpr (deleteRequest_reaches ?_ ?_ ?_)
  · intro outcome responded deleted
    rw [reaches_change]
    refine ⟨holds.1.snoc fun _ => holds.2, ?_⟩
    rw [(keeps.answered responded).deleted (.step _) deleted]
    exact holds.2.endStep request
  · intro error responded kept
    exact failed (answered_same ((keeps.answered responded).kept (.step _) kept) holds)
  · exact holds.1.snoc fun _ => holds.2

/-! ### The laws -/

omit keeps in
theorem noted {mark : Mark} (holds : (accurate ledger).holds past situation) :
    (accurate ledger).holds (past ++ [⟨situation, mark⟩]) situation :=
  ⟨holds.1.snoc fun _ => holds.2, holds.2⟩

theorem governs : (accurate ledger).Governs target where
  say _ holds := noted holds
  expect holds := holds
  read _ holds := noted holds
  leave _ _ holds := noted holds
  inputEnds holds := noted holds
  inspect request looks := by
    refine keepsAsk keeps ?_
    cases kind : request.kind <;> rw [kind] at looks <;> first | rfl | cases looks
  setBreakpoint := setBreakpoint keeps
  deleteBreakpoint := deleteBreakpoint keeps
  requestStep := requestStep keeps
  haltAt holds := ⟨holds.1, holds.2.functional, holds.2.distinct, holds.2.breakpoints,
    holds.2.steps⟩
  turnTo _ holds := noted holds
  consult holds := noted holds
  retireStep := retireStep keeps
  nextEvents := keepsAsk keeps rfl
  resume := keepsAsk keeps rfl
  watch _ := keepsAsk keeps rfl
  pause holds := holds.1

/-! ## Whole sessions -/

omit keeps in
/-- The records are in step up to the end, and stay so if the target is not gone. -/
theorem of_ended {reason : SessionEnd} {log : List (Moment σ)} {after : Situation σ}
    (ended : (accurate ledger).Ended reason log after) :
    Accurate ledger log ∧
      (reason = .operatorExit -> after.records.InStep (ledger after.target)) := by
  cases ended with
  | reported holds =>
      refine ⟨?_, by intro impossible; cases impossible⟩
      rw [List.append_cons]
      exact (noted (noted holds)).1
  | lost lost => exact ⟨(noted lost).1, by intro impossible; cases impossible⟩
  | left left => exact ⟨left.1, fun _ => left.2⟩

end Accurate

theorem inStep_initial (entryClass : String) :
    ({ entryClass } : Records).InStep {} :=
  ⟨List.nodup_nil, List.nodup_nil, rfl, rfl⟩

/-- From a fresh session with a target that keeps a ledger, the records are in step with it
at every settled point: when a line is read, when an event is turned to, when the target is
asked for anything but to delete a step, and when the operator has left. -/
theorem session_records_in_step {target : Target σ} {ledger : σ -> Ledger}
    (keeps : KeepsLedger target ledger) {state : σ} (fresh : ledger state = {})
    (input : List String) (entryClass : String) (rounds : Nat) :
    (run target rounds : Dialogue σ ε SessionEnd).Reaches
        ⟨fun _ _ _ => False, Accurate ledger⟩
        (fun reason log after => Accurate ledger log ∧
          (reason = .operatorExit -> after.records.InStep (ledger after.target)))
        [] (.initial state input entryClass) ∧
      (start target rounds).Reaches ⟨fun _ log _ => Accurate ledger log, Accurate ledger⟩
        (fun _ log _ => Accurate ledger log) [] (.initial state input entryClass) := by
  have governs := Accurate.governs keeps
  have holds : (accurate ledger).holds [] (.initial state input entryClass) := by
    refine ⟨accurate_nil ledger, ?_⟩
    change ({ entryClass } : Records).InStep (ledger state)
    rw [fresh]
    exact inStep_initial entryClass
  constructor
  · refine (governs.run_reaches rounds [] _ holds).imp ?_ ?_ ?_
    · exact fun _ _ _ impossible => impossible
    · exact fun _ accurate => accurate
    · exact fun _ _ _ ended => Accurate.of_ended ended
  · refine (governs.start_reaches rounds [] _ holds).imp ?_ ?_ ?_
    · intro error log after owed
      rcases Regime.opening_failed.mp owed with ⟨_, lost⟩ | ⟨_, holds⟩
      · exact lost.1
      · exact holds.1
    · rintro log (waiting | ⟨earlier, present, left, rfl⟩)
      · exact waiting
      · exact left.1.snoc fun _ => left.2
    · rintro reason log after released
      cases released with
      | released left => exact left.1.snoc fun _ => left.2
      | gone _ ended => exact (Accurate.of_ended ended).1

/-! ## A bookkeeper

Some target does keep a ledger, and a session with it has breakpoints and steps.
-/

/-- A target that does nothing but keep its ledger.  It reports the completion of the same
step over and over, whether there is such a step or not. -/
def bookkeeper : Target Ledger where
  respond
    | .nextEvents => Act.done ⟨true, [.stepCompleted 0 1 ⟨1, "Main", 1, "main", some 3, 0⟩]⟩
    | .locationsOfLine _ line => Act.done [⟨1, "Main", 1, "main", some line, 0⟩]
    | .enableBreakpoint _ => fun ledger =>
        let next := Int32.ofNat ledger.breakpoints.card
        if next ∈ ledger.breakpoints then ⟨.failed (.other "no number left"), [], ledger⟩
        else ⟨.ok next, [], { ledger with breakpoints := insert next ledger.breakpoints }⟩
    | .deleteBreakpoint request => fun ledger =>
        if request ∈ ledger.breakpoints then
          ⟨.ok (), [], { ledger with breakpoints := ledger.breakpoints.erase request }⟩
        else ⟨.failed (.noSuchElement "no such breakpoint"), [], ledger⟩
    | .createStep _ _ _ => fun ledger =>
        let next := Int32.ofNat ledger.steps.card
        if next ∈ ledger.steps then ⟨.failed (.other "no number left"), [], ledger⟩
        else ⟨.ok next, [], { ledger with steps := insert next ledger.steps }⟩
    | .deleteStep request => fun ledger =>
        if request ∈ ledger.steps then
          ⟨.ok (), [], { ledger with steps := ledger.steps.erase request }⟩
        else ⟨.failed (.noSuchElement "no such step"), [], ledger⟩
    | .resume => Act.done ()
    | .detach => fun _ => ⟨.ok (), [], {}⟩
    | _ => Act.fail (.other "not in the books")

theorem bookkeeper_keeps : KeepsLedger bookkeeper id := by
  intro request ledger
  unfold bookkeeper
  cases request with
  | enableBreakpoint location =>
      by_cases taken : Int32.ofNat ledger.breakpoints.card ∈ ledger.breakpoints
      · simp only [if_pos taken]
        rfl
      · simp only [if_neg taken]
        exact ⟨taken, rfl⟩
  | deleteBreakpoint request =>
      by_cases known : request ∈ ledger.breakpoints
      · simp only [if_pos known]
        rfl
      · simp only [if_neg known]
        exact ⟨known, rfl⟩
  | createStep thread scope filter =>
      by_cases taken : Int32.ofNat ledger.steps.card ∈ ledger.steps
      · simp only [if_pos taken]
        rfl
      · simp only [if_neg taken]
        exact ⟨taken, rfl⟩
  | deleteStep request =>
      by_cases known : request ∈ ledger.steps
      · simp only [if_pos known]
        rfl
      · simp only [if_neg known]
        exact ⟨known, rfl⟩
  | detach => trivial
  | _ => rfl

/-- The operator sets a breakpoint, steps and leaves. -/
theorem bookkeeper_session_in_step :
    (run bookkeeper 2 : Dialogue Ledger Unit SessionEnd).Reaches
        ⟨fun _ _ _ => False, Accurate id⟩
        (fun reason log after => Accurate id log ∧
          (reason = .operatorExit -> after.records.InStep after.target))
        [] (.initial {} ["b", "3", "n", "e"] "Main") ∧
      (start bookkeeper 2).Reaches ⟨fun _ log _ => Accurate id log, Accurate id⟩
        (fun _ log _ => Accurate id log) [] (.initial {} ["b", "3", "n", "e"] "Main") :=
  session_records_in_step bookkeeper_keeps rfl ["b", "3", "n", "e"] "Main" 2

/-- In this session the breakpoint and the step are once on the books together, and at the
end the step is off them again. -/
example :
    let session := (run bookkeeper 2 : Dialogue Ledger Unit SessionEnd)
      (.initial {} ["b", "3", "n", "e"] "Main")
    (exists moment, moment ∈ session.log ∧
        moment.before.target = { breakpoints := {0}, steps := {0} }) ∧
      session.state.target = { breakpoints := {0} } := by
  decide

end Session
end LineDebugger
