import LineDebugger.Proofs.Session.Failure
import LineDebugger.Proofs.Session.Handover

namespace LineDebugger
namespace Session

open Debuggee

/-!
# No step is alive but the one on record

A step takes the place of the one on record, and that one is given up before the new one is
asked for.  This is the one place where a command may fail after a change: if the new step is
refused, the old one is gone.  The records do not hide it, since then no step is on record.

Here no more is demanded of the target than that its failures change nothing.  A step may end
without a word, and then the records are ahead of the target; but they are never behind.
-/

variable {σ ε : Type}

/-! ## Steps -/

/-- The step on record has been given up, and with it its request. -/
structure GivenUp (live : σ -> Ledger) (previous : ActiveStep) (past : List (Moment σ))
    (present : Situation σ) (log : List (Moment σ)) (after : Situation σ) : Prop where
  deleted : exists deleted outcome, log = past ++ [deleted] ∧
    deleted.Asks (.deleteStep previous.request) outcome ∧ Deleted outcome
  records : after.records = { present.records with step := none }
  input : after.input = present.input
  breakpoints : (live after.target).breakpoints = (live present.target).breakpoints
  steps : (live after.target).steps ⊆ (live present.target).steps.erase previous.request

/-- The step on record has been given up, but the new one has been refused. -/
def StepLost (live : σ -> Ledger) (thread : UInt64) (scope : StepScope)
    (past : List (Moment σ)) (present : Situation σ) (cause : TargetError)
    (log : List (Moment σ)) (after : Situation σ) : Prop :=
  exists previous front created, present.records.step = some previous ∧
    GivenUp live previous past present front after ∧ log = front ++ [created] ∧
    created.Asks (.createStep thread scope present.records.entryClass) (.failed cause)

/-- Nothing has been said since then, and no line has been taken. -/
def Silent (past log : List (Moment σ)) : Prop :=
  exists own, log = past ++ own ∧ forall moment, moment ∈ own -> moment.mark.talks = false

theorem Silent.snoc {past log : List (Moment σ)} (silent : Silent past log) {moment : Moment σ}
    (quiet : moment.mark.talks = false) : Silent past (log ++ [moment]) := by
  obtain ⟨own, rfl, silent⟩ := silent
  exact ⟨own ++ [moment], List.append_assoc _ _ _,
    List.forall_mem_append.mpr ⟨silent, List.forall_mem_singleton.mpr quiet⟩⟩

theorem Unspoilt.silent {live : σ -> Ledger} {past log : List (Moment σ)}
    {present after : Situation σ} (unspoilt : Unspoilt live past present log after) :
    Silent past log := by
  obtain ⟨own, rfl, harmless⟩ := unspoilt.quiet
  exact ⟨own, rfl, fun moment member => (harmless moment member).talks⟩

theorem GivenUp.silent {live : σ -> Ledger} {previous : ActiveStep} {past log : List (Moment σ)}
    {present after : Situation σ} (givenUp : GivenUp live previous past present log after) :
    Silent past log := by
  obtain ⟨deleted, outcome, rfl, ⟨exchanges, asked⟩, -⟩ := givenUp.deleted
  refine ⟨[deleted], rfl, List.forall_mem_singleton.mpr ?_⟩
  rw [asked]
  rfl

/-- The new step is on record, and no step is alive that was neither on record nor alive
before. -/
structure Replaced (live : σ -> Ledger) (thread : UInt64) (scope : StepScope)
    (past : List (Moment σ)) (present : Situation σ) (log : List (Moment σ))
    (after : Situation σ) : Prop where
  silent : Silent past log
  input : after.input = present.input
  steps : exists request, after.records.step = some ⟨request, thread, scope⟩ ∧
    (live after.target).steps ⊆ insert request ((live present.target).steps \
      (present.records.step.map ActiveStep.request).toFinset)

section Steps

variable {live : σ -> Ledger} {target : Target σ} (clean : FailsCleanly target live)
  {past : List (Moment σ)} {present : Situation σ}
include clean

/-- A step that has not been given up is back on record. -/
theorem dropStep_clean :
    (dropStep target).Reaches
      ⟨fun _ log after => Unspoilt live past present log after, Silent past⟩
      (fun _ log after =>
        (present.records.step = none ∧ Unspoilt live past present log after) ∨
          exists previous, present.records.step = some previous ∧
            GivenUp live previous past present log after)
      past present := by
  unfold dropStep
  rw [Act.reaches_bind, reaches_records]
  cases active : present.records.step with
  | none => exact Act.reaches_pure.mpr (.inl ⟨rfl, .refl live past present⟩)
  | some previous =>
      rw [Act.reaches_bind, reaches_change, Act.reaches_bind, Act.reaches_attempt]
      refine Accurate.deleteRequest_reaches ?_ ?_ ⟨[_], rfl, List.forall_mem_singleton.mpr rfl⟩
      · intro outcome responded deleted
        refine Act.reaches_pure.mpr (.inr ⟨previous, rfl, ?_⟩)
        obtain ⟨breakpoints, steps⟩ := clean.of_deleted responded deleted
        exact ⟨⟨_, outcome, rfl, asking_asks responded, deleted⟩, rfl, rfl, breakpoints, steps⟩
      · intro error responded kept
        dsimp only
        rw [Act.reaches_bind, reaches_change, Act.reaches_fail]
        refine ⟨⟨_, rfl, List.forall_mem_singleton.mpr ?_⟩, ?_, rfl, ?_⟩
        · rw [Moment.asking_eq responded]
          exact kept
        · change ({ present.records with step := some previous } : Records) = present.records
          rw [← active]
        · exact clean.of_failed responded (by intro impossible; cases impossible)

theorem requestStep_clean (thread : UInt64) (scope : StepScope) :
    (requestStep target thread scope).Reaches
      ⟨fun error log after => Unspoilt live past present log after ∨
        StepLost live thread scope past present error log after, Silent past⟩
      (fun _ log after => Replaced live thread scope past present log after) past present := by
  refine Act.reaches_bind.mpr ((dropStep_clean clean).imp (fun _ _ _ unspoilt => .inl unspoilt)
    (fun _ silent => silent) ?_)
  intro _ log after dropped
  have entryClass : after.records.entryClass = present.records.entryClass := by
    rcases dropped with ⟨_, unspoilt⟩ | ⟨_, _, givenUp⟩
    · rw [unspoilt.records]
    · rw [givenUp.records]
  have input : after.input = present.input := by
    rcases dropped with ⟨_, unspoilt⟩ | ⟨_, _, givenUp⟩
    · exact unspoilt.input
    · exact givenUp.input
  have silent : Silent past log := by
    rcases dropped with ⟨_, unspoilt⟩ | ⟨_, _, givenUp⟩
    · exact unspoilt.silent
    · exact givenUp.silent
  have steps : (live after.target).steps ⊆ (live present.target).steps \
      (present.records.step.map ActiveStep.request).toFinset := by
    rcases dropped with ⟨idle, unspoilt⟩ | ⟨previous, active, givenUp⟩
    · rw [idle, unspoilt.live]
      exact subset_of_eq Finset.sdiff_empty.symm
    · rw [active]
      exact givenUp.steps.trans (subset_of_eq (Finset.erase_eq _ _))
  rw [Act.reaches_bind, reaches_records, entryClass]
  refine Act.reaches_bind.mpr (Reaches.ask ?_ ?_ fun _ => silent.snoc rfl)
  · intro (request : Int32) responded
    have entered : (live (after.answered target
        (.createStep thread scope present.records.entryClass)).target).steps
          ⊆ insert request (live after.target).steps := clean.answered responded
    rw [reaches_change]
    exact ⟨silent.snoc rfl, input, request, rfl,
      entered.trans (Finset.insert_subset_insert _ steps)⟩
  · intro error responded
    have same := clean.of_failed responded (by intro impossible; cases impossible)
    rcases dropped with ⟨_, unspoilt⟩ | ⟨previous, active, givenUp⟩
    · have other : (Request.createStep thread scope present.records.entryClass).kind ≠
          .deleteStep := by
        intro impossible
        cases impossible
      exact .inl (unspoilt.asking (asking_harmless other after) same)
    · refine .inr ⟨previous, log, _, active, ?_, rfl, asking_asks responded⟩
      refine ⟨givenUp.deleted, givenUp.records, givenUp.input, ?_, ?_⟩
      · rw [same]
        exact givenUp.breakpoints
      · rw [same]
        exact givenUp.steps

end Steps

/-! ## Whole sessions -/

/-- No step is alive but the one on record. -/
def Situation.Covers (live : σ -> Ledger) (situation : Situation σ) : Prop :=
  (live situation.target).steps ⊆ (situation.records.step.map ActiveStep.request).toFinset

/-- Whatever step is deleted, it is taken off the records if it was there. -/
theorem Records.covers_endStep {records : Records} {request : Int32} {steps fewer : Finset Int32}
    (covers : steps ⊆ (records.step.map ActiveStep.request).toFinset)
    (deleted : fewer ⊆ steps.erase request) :
    fewer ⊆ ((if records.step.map ActiveStep.request = some request
      then { records with step := none } else records).step.map ActiveStep.request).toFinset := by
  split
  · rename_i active
    rw [active] at covers
    exact (deleted.trans (Finset.erase_subset_erase request covers)).trans
      (subset_of_eq (Finset.erase_singleton request))
  · exact (deleted.trans (Finset.erase_subset request steps)).trans covers

namespace Situation.Covers

variable {live : σ -> Ledger} {past log : List (Moment σ)} {present after : Situation σ}

theorem unspoilt (covers : present.Covers live)
    (unspoilt : Unspoilt live past present log after) : after.Covers live := by
  unfold Covers at covers ⊢
  rw [unspoilt.records, unspoilt.live]
  exact covers

/-- The step that was given up was the only one. -/
theorem givenUp {previous : ActiveStep} (covers : present.Covers live)
    (active : present.records.step = some previous)
    (givenUp : GivenUp live previous past present log after) :
    (live after.target).steps = ∅ := by
  unfold Covers at covers
  rw [active] at covers
  refine Finset.subset_empty.mp (givenUp.steps.trans ?_)
  refine (Finset.erase_subset_erase previous.request covers).trans ?_
  exact subset_of_eq (Finset.erase_singleton previous.request)

theorem stepLost {thread : UInt64} {scope : StepScope} {cause : TargetError}
    (covers : present.Covers live)
    (lost : StepLost live thread scope past present cause log after) : after.Covers live := by
  obtain ⟨previous, front, created, active, givenUp, -⟩ := lost
  unfold Covers
  rw [covers.givenUp active givenUp]
  exact Finset.empty_subset _

theorem replaced {thread : UInt64} {scope : StepScope} (covers : present.Covers live)
    (replaced : Replaced live thread scope past present log after) : after.Covers live := by
  obtain ⟨request, active, steps⟩ := replaced.steps
  unfold Covers at covers ⊢
  rw [Finset.sdiff_eq_empty_iff_subset.mpr covers] at steps
  rw [active]
  exact steps

end Situation.Covers

theorem StepLost.silent {live : σ -> Ledger} {thread : UInt64} {scope : StepScope}
    {past log : List (Moment σ)} {present after : Situation σ} {cause : TargetError}
    (lost : StepLost live thread scope past present cause log after) : Silent past log := by
  obtain ⟨previous, front, created, -, givenUp, rfl, ⟨exchanges, asked⟩⟩ := lost
  refine givenUp.silent.snoc ?_
  rw [asked]
  rfl

theorem StepLost.input {live : σ -> Ledger} {thread : UInt64} {scope : StepScope}
    {past log : List (Moment σ)} {present after : Situation σ} {cause : TargetError}
    (lost : StepLost live thread scope past present cause log after) :
    after.input = present.input := by
  obtain ⟨_, _, _, _, givenUp, _⟩ := lost
  exact givenUp.input

/-- Whenever a line was to be taken, no step was alive but the one on record. -/
def Covered (live : σ -> Ledger) (log : List (Moment σ)) : Prop :=
  forall moment answer, moment ∈ log -> moment.mark = .read answer -> moment.before.Covers live

/-- The regime of steps that are on record as long as they are alive. -/
def covering (live : σ -> Ledger) : Regime σ where
  holds log situation := Covered live log ∧ situation.Covers live
  lost log _ := Covered live log
  left log _ := Covered live log
  waiting := Covered live

theorem covered_nil (live : σ -> Ledger) : Covered live [] := by
  intro moment answer impossible
  cases impossible

theorem Covered.snoc {live : σ -> Ledger} {log : List (Moment σ)} {moment : Moment σ}
    (covered : Covered live log)
    (now : forall answer, moment.mark = .read answer -> moment.before.Covers live) :
    Covered live (log ++ [moment]) := by
  intro other answer member reads
  rcases List.mem_append.mp member with earlier | last
  · exact covered other answer earlier reads
  · cases List.mem_singleton.mp last
    exact now answer reads

theorem Covered.silent {live : σ -> Ledger} {past log : List (Moment σ)}
    (covered : Covered live past) (silent : Silent past log) : Covered live log := by
  obtain ⟨own, rfl, silent⟩ := silent
  intro moment answer member reads
  rcases List.mem_append.mp member with earlier | late
  · exact covered moment answer earlier reads
  · have quiet := silent moment late
    rw [reads] at quiet
    cases quiet

namespace Covering

open Regime

variable {live : σ -> Ledger} {target : Target σ} {isLoss : ε -> Bool}
  {past : List (Moment σ)} {situation : Situation σ}

theorem failed {error : ε} {log : List (Moment σ)} {after : Situation σ}
    (holds : (covering live).holds log after) :
    ((covering live).exits isLoss).failed error log after :=
  failed_of_both holds.1 holds

/-- The target has been asked, and no step has been brought about. -/
theorem asked {request : Request} (holds : (covering live).holds past situation)
    (fewer : (live (situation.answered target request).target).steps
      ⊆ (live situation.target).steps) :
    (covering live).holds (past ++ [.asking target request situation])
      (situation.answered target request) :=
  ⟨holds.1.snoc (by intro _ impossible; cases impossible), fewer.trans holds.2⟩

theorem noted {mark : Mark} (holds : (covering live).holds past situation) :
    (covering live).holds (past ++ [⟨situation, mark⟩]) situation :=
  ⟨holds.1.snoc fun _ _ => holds.2, holds.2⟩

variable (clean : FailsCleanly target live)
include clean

theorem keepsAsk {request : Request} (other : request.kind ≠ .createStep)
    (stays : request ≠ .detach) :
    (covering live).Keeps TargetError.isDisconnect (Dialogue.ask target request) := by
  intro past situation holds
  refine Reaches.ask ?_ ?_ ?_
  · exact fun answer responded => asked holds (clean.of_ok responded other stays)
  · exact fun error responded =>
      failed (asked holds (subset_of_eq (congrArg Ledger.steps (clean.of_failed responded stays))))
  · exact fun _ => holds.1.snoc (by intro _ impossible; cases impossible)

theorem overlooksBreakpoints : (covering live).OverlooksBreakpoints target fun _ => True where
  find _ := keepsAsk clean (by intro impossible; cases impossible)
    (by intro impossible; cases impossible)
  enable _ := keepsAsk clean (by intro impossible; cases impossible)
    (by intro impossible; cases impossible)
  delete _ := keepsAsk clean (by intro impossible; cases impossible)
    (by intro impossible; cases impossible)
  enter holds := holds

theorem requestStep (thread : UInt64) (scope : StepScope) :
    (covering live).Keeps TargetError.isDisconnect (requestStep target thread scope) := by
  intro past situation holds
  refine (requestStep_clean clean thread scope).imp ?_ (fun _ => holds.1.silent) ?_
  · rintro error log after (unspoilt | lost)
    · exact failed ⟨holds.1.silent unspoilt.silent, holds.2.unspoilt unspoilt⟩
    · exact failed ⟨holds.1.silent lost.silent, holds.2.stepLost lost⟩
  · exact fun _ log after replaced =>
      ⟨holds.1.silent replaced.silent, holds.2.replaced replaced⟩

theorem retireStep (request : Int32) :
    (covering live).Keeps TargetError.isDisconnect (retireStep target request) := by
  intro past situation holds
  refine Act.reaches_bind.mpr (Accurate.deleteRequest_reaches ?_ ?_ ?_)
  · intro outcome responded deleted
    rw [reaches_change]
    exact ⟨holds.1.snoc (by intro _ impossible; cases impossible),
      Records.covers_endStep holds.2 (clean.of_deleted responded deleted).2⟩
  · exact fun error responded _ => failed (asked holds (subset_of_eq (congrArg Ledger.steps
      (clean.of_failed responded (by intro impossible; cases impossible)))))
  · exact holds.1.snoc (by intro _ impossible; cases impossible)

theorem governs : (covering live).Governs target where
  say _ holds := noted holds
  expect holds := holds
  read _ holds := noted holds
  leave _ _ holds := (noted holds).1
  inputEnds holds := (noted holds).1
  inspect request looks := by
    refine keepsAsk clean ?_ ?_
    · intro same
      rw [same] at looks
      cases looks
    · rintro rfl
      cases looks
  setBreakpoint classId line := (overlooksBreakpoints clean).setBreakpoint ⟨0, classId⟩ trivial line
  deleteBreakpoint := (overlooksBreakpoints clean).deleteBreakpoint
  requestStep := requestStep clean
  haltAt holds := holds
  turnTo _ holds := noted holds
  consult holds := noted holds
  retireStep := retireStep clean
  nextEvents := keepsAsk clean (by intro impossible; cases impossible)
    (by intro impossible; cases impossible)
  resume := keepsAsk clean (by intro impossible; cases impossible)
    (by intro impossible; cases impossible)
  watch _ := keepsAsk clean (by intro impossible; cases impossible)
    (by intro impossible; cases impossible)
  pause holds := holds.1

omit clean in
theorem of_ended {reason : SessionEnd} {log : List (Moment σ)} {after : Situation σ}
    (ended : (covering live).Ended reason log after) : Covered live log := by
  cases ended with
  | reported holds =>
      rw [List.append_cons]
      exact (noted (noted holds)).1
  | lost lost => exact lost.snoc (by intro _ impossible; cases impossible)
  | left left => exact left

end Covering

/-- Throughout a run, and throughout a whole session, no step is alive but the one on record
whenever the operator is asked for a line. -/
theorem session_covers {target : Target σ} {live : σ -> Ledger}
    (clean : FailsCleanly target live) {state : σ} (fresh : live state = {})
    (input : List String) (entryClass : String) (rounds : Nat) :
    Covered live
        ((run target rounds : Dialogue σ ε SessionEnd) (.initial state input entryClass)).log ∧
      Covered live (start target rounds (.initial state input entryClass)).log := by
  have laws := Covering.governs clean
  have holds : (covering live).holds [] (.initial state input entryClass) := by
    refine ⟨covered_nil live, ?_⟩
    change (live state).steps ⊆ _
    rw [fresh]
    exact Finset.empty_subset _
  constructor
  · have covers : (run target rounds : Dialogue σ ε SessionEnd).Reaches
        (.anyway (Covered live)) (fun _ log _ => Covered live log) []
        (.initial state input entryClass) := by
      refine (laws.run_reaches rounds [] _ holds).imp ?_ (fun _ waiting => waiting) ?_
      · exact fun _ _ _ impossible => impossible.elim
      · exact fun _ _ _ ended => Covering.of_ended ended
    exact Act.reaches_anyway.mp covers
  · have covers : (start target rounds).Reaches
        (.anyway (Covered live)) (fun _ log _ => Covered live log) []
        (.initial state input entryClass) := by
      refine (laws.start_reaches rounds [] _ holds).imp ?_ ?_ ?_
      · intro error log after owed
        rcases Regime.opening_failed.mp owed with ⟨_, lost⟩ | ⟨_, held⟩
        · exact lost
        · exact held.1
      · rintro log (waiting | ⟨before, last, left, rfl⟩)
        · exact waiting
        · exact Covered.snoc left (by intro _ impossible; cases impossible)
      · intro reason log after released
        cases released with
        | released left => exact Covered.snoc left (by intro _ impossible; cases impossible)
        | gone _ ended => exact Covering.of_ended ended
    exact Act.reaches_anyway.mp covers

end Session
end LineDebugger
