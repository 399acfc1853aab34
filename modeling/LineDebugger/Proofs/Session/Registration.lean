import LineDebugger.Proofs.Session.Handover
import LineDebugger.Proofs.Session.LineByLine

namespace LineDebugger
namespace Session

open Debuggee

/-!
# What a consultation does to the step on record

While the operator is consulted the step on record may be given up, and a new one may be
registered in its place.  A step that has been registered hands control back, so the request for it
is the last thing that happens in a consultation, and before it no step has been registered.

No other step is given up than the one that was on record when the consultation began.  This is
what keeps a step alive that has nothing to do with the halt.
-/

variable {σ : Type} {ε α : Type} {target : Target σ}

/-- The target is asked for a step and grants it. -/
def Moment.CreatesStep (moment : Moment σ) (thread : UInt64) (scope : StepScope)
    (request : Int32) : Prop :=
  exists filter, moment.Asks (.createStep thread scope filter) (.ok request)

/-- The target is asked to delete a step. -/
def Moment.DeletesStep (moment : Moment σ) (request : Int32) : Prop :=
  exists outcome, moment.Asks (.deleteStep request) outcome

/-- The mark is not about steps. -/
def Mark.Stepless : Mark -> Prop
  | .asked request _ _ => request.kind.steps = false
  | _ => True

theorem Moment.not_createsStep {moment : Moment σ} (stepless : moment.mark.Stepless)
    {thread : UInt64} {scope : StepScope} {request : Int32} :
    ¬ moment.CreatesStep thread scope request := by
  rintro ⟨filter, exchanges, asked⟩
  rw [asked] at stepless
  cases stepless

theorem Moment.not_deletesStep {moment : Moment σ} (stepless : moment.mark.Stepless)
    {request : Int32} : ¬ moment.DeletesStep request := by
  rintro ⟨outcome, exchanges, asked⟩
  rw [asked] at stepless
  cases stepless

/-- The number of the step on record. -/
def Situation.stepRequest (situation : Situation σ) : Option Int32 :=
  situation.records.step.map ActiveStep.request

/-! ## Before and after a step has been registered -/

/-- Since the start no step has been registered, and none has been given up but the one that was
on record. -/
structure Unstepped (start : Situation σ) (log : List (Moment σ)) (present : Situation σ) :
    Prop where
  unregistered : forall moment, moment ∈ log -> forall thread scope request,
    ¬ moment.CreatesStep thread scope request
  deletes : forall moment, moment ∈ log -> forall request, moment.DeletesStep request ->
    start.stepRequest = some request
  step : present.records.step = start.records.step ∨ present.records.step = none

namespace Unstepped

variable {start present after : Situation σ} {log : List (Moment σ)} {moment : Moment σ}

theorem refl (start : Situation σ) : Unstepped start [] start :=
  ⟨List.forall_mem_nil _, List.forall_mem_nil _, .inl rfl⟩

/-- A further moment in which no step is registered. -/
theorem snoc (unstepped : Unstepped start log present)
    (unregistered : forall thread scope request, ¬ moment.CreatesStep thread scope request)
    (deletes : forall request, moment.DeletesStep request -> start.stepRequest = some request)
    (step : after.records.step = start.records.step ∨ after.records.step = none) :
    Unstepped start (log ++ [moment]) after where
  unregistered := List.forall_mem_append.mpr
    ⟨unstepped.unregistered, List.forall_mem_singleton.mpr unregistered⟩
  deletes := List.forall_mem_append.mpr ⟨unstepped.deletes, List.forall_mem_singleton.mpr deletes⟩
  step := step

/-- A further moment that is not about steps. -/
theorem stepless (unstepped : Unstepped start log present) (stepless : moment.mark.Stepless)
    (same : after.records.step = present.records.step) :
    Unstepped start (log ++ [moment]) after := by
  refine unstepped.snoc (fun _ _ _ => Moment.not_createsStep stepless) ?_ (same ▸ unstepped.step)
  exact fun _ deletes => absurd deletes (Moment.not_deletesStep stepless)

/-- The step on record is that of the start. -/
theorem stepRequest_eq {request : Int32} (unstepped : Unstepped start log present)
    (active : present.stepRequest = some request) : start.stepRequest = some request := by
  rcases unstepped.step with same | none
  · rwa [Situation.stepRequest, same] at active
  · rw [Situation.stepRequest, none] at active
    cases active

end Unstepped

/-- The situation once a step has been registered. -/
def Situation.registered (target : Target σ) (thread : UInt64) (scope : StepScope)
    (filter : String) (request : Int32) (situation : Situation σ) : Situation σ :=
  let answered := situation.answered target (.createStep thread scope filter)
  { answered with records := { answered.records with step := some ⟨request, thread, scope⟩ } }

/-- A step has been registered, and nothing has happened since. -/
inductive Stepped (target : Target σ) (start : Situation σ) :
    List (Moment σ) -> Situation σ -> Prop where
  | registered {log : List (Moment σ)} {present : Situation σ} {thread : UInt64}
      {scope : StepScope} {filter : String} {request : Int32}
      (unstepped : Unstepped start log present)
      (granted : (target.respond (.createStep thread scope filter) present.target).outcome
        = .ok request) :
      Stepped target start (log ++ [.asking target (.createStep thread scope filter) present])
        (present.registered target thread scope filter request)

/-- Either no step has been registered since the start, or one at the very end. -/
def Consulted (target : Target σ) (start : Situation σ) (log : List (Moment σ))
    (after : Situation σ) : Prop :=
  Unstepped start log after ∨ Stepped target start log after

/-- No other step is deleted than the one that was on record. -/
theorem Consulted.deletes {start after : Situation σ} {log : List (Moment σ)} {request : Int32}
    (consulted : Consulted target start log after) {moment : Moment σ} (member : moment ∈ log)
    (deletes : moment.DeletesStep request) : start.stepRequest = some request := by
  rcases consulted with unstepped | ⟨unstepped, granted⟩
  · exact unstepped.deletes moment member request deletes
  · rcases List.mem_append.mp member with earlier | last
    · exact unstepped.deletes moment earlier request deletes
    · cases List.mem_singleton.mp last
      obtain ⟨outcome, exchanges, asked⟩ := deletes
      rw [Moment.asking_eq granted] at asked
      cases asked

/-! ## Single lines -/

section Lines

variable {start present : Situation σ} {past : List (Moment σ)}

/-- What is owed as long as no step has been registered. -/
def unsteppedYet (start : Situation σ) : Exits (Situation σ) (Moment σ) ε :=
  ⟨fun _ => Unstepped start, fun _ => True⟩

theorem Lineless.Listing.unstepped {act : Dialogue σ ε α} (listing : Lineless.Listing target act)
    (unstepped : Unstepped start past present) :
    act.Reaches (unsteppedYet start) (fun _ => Unstepped start) past present := by
  refine Lineless.reaches listing ?_ ?_ ?_ past present unstepped
  · exact fun line log situation unstepped => unstepped.stepless trivial rfl
  · exact fun request unstepping log situation unstepped _ => unstepped.stepless unstepping.2 rfl
  · intro f relists log situation unstepped
    obtain ⟨breakpoints, same⟩ := relists situation.records
    refine ⟨unstepped.unregistered, unstepped.deletes, ?_⟩
    change (f situation.records).step = _ ∨ (f situation.records).step = _
    rw [same]
    exact unstepped.step

theorem dropStep_unstepped (unstepped : Unstepped start past present) :
    (dropStep target).Reaches (unsteppedYet start) (fun _ => Unstepped start) past present := by
  unfold dropStep
  rw [Act.reaches_bind, reaches_records]
  cases active : present.records.step with
  | none => exact Act.reaches_pure.mpr unstepped
  | some previous =>
      have recorded : start.stepRequest = some previous.request := by
        refine unstepped.stepRequest_eq ?_
        rw [Situation.stepRequest, active]
        rfl
      have deleting {after : Situation σ}
          (step : after.records.step = start.records.step ∨ after.records.step = none) :
          Unstepped start (past ++ [.asking target (.deleteStep previous.request)
            { present with records := { present.records with step := none } }]) after := by
        refine unstepped.snoc ?_ ?_ step
        · rintro thread scope request ⟨filter, exchanges, asked⟩
          cases asked
        · rintro request ⟨outcome, exchanges, asked⟩
          cases asked
          exact recorded
      rw [Act.reaches_bind, reaches_change, Act.reaches_bind, Act.reaches_attempt]
      refine Accurate.deleteRequest_reaches ?_ ?_ trivial
      · exact fun outcome responded deleted => Act.reaches_pure.mpr (deleting (.inr rfl))
      · intro error responded kept
        dsimp only
        rw [Act.reaches_bind, reaches_change, Act.reaches_fail]
        exact deleting (active ▸ unstepped.step)

theorem requestStep_steps (thread : UInt64) (scope : StepScope)
    (unstepped : Unstepped start past present) :
    (requestStep target thread scope).Reaches (unsteppedYet start) (fun _ => Stepped target start)
      past present := by
  refine (dropStep_unstepped unstepped).bind fun _ log between unstepped => ?_
  rw [Act.reaches_bind, reaches_records]
  refine Act.reaches_bind.mpr (Reaches.ask ?_ ?_ fun _ => trivial)
  · exact fun request granted => reaches_change.mpr (.registered unstepped granted)
  · intro error refused
    refine unstepped.snoc ?_ ?_ unstepped.step
    · rintro thread scope request ⟨filter, exchanges, asked⟩
      rw [Moment.asking_eq refused] at asked
      cases asked
    · rintro request ⟨outcome, exchanges, asked⟩
      rw [Moment.asking_eq refused] at asked
      cases asked

/-- What is owed when a line has been taken: a step may have been registered only if control is
handed back. -/
def Turned (target : Target σ) (start : Situation σ) :
    Turn -> List (Moment σ) -> Situation σ -> Prop
  | .expect _ => Unstepped start
  | .handOver _ => Consulted target start

theorem Turned.of_unstepped {turn : Turn} {log : List (Moment σ)} {after : Situation σ}
    (unstepped : Unstepped start log after) : Turned target start turn log after := by
  cases turn with
  | expect mode => exact unstepped
  | handOver handover => exact .inl unstepped

theorem Lineless.Listing.turned {act : Dialogue σ CommandError Turn}
    (listing : Lineless.Listing target act) (unstepped : Unstepped start past present) :
    act.Reaches (unsteppedYet start) (Turned target start) past present :=
  (listing.unstepped unstepped).widen fun _ _ _ unstepped => .of_unstepped unstepped

theorem step_turned (scope : StepScope) (unstepped : Unstepped start past present) :
    (execute.step target scope).Reaches (unsteppedYet start) (Turned target start)
      past present := by
  have halted : Lineless.Listing target haltContext := .haltContext
  refine (halted.unstepped unstepped).bind fun context log between unstepped => ?_
  refine Act.reaches_bind.mpr (Act.reaches_mapError.mpr ?_)
  refine (requestStep_steps context.thread scope unstepped).widen fun _ log after stepped => ?_
  exact Act.reaches_pure.mpr (.inr stepped)

theorem execute_turned (wanted : Command) (unstepped : Unstepped start past present) :
    (execute target wanted).Reaches (unsteppedYet start) (Turned target start) past present := by
  cases wanted with
  | stepOver => exact step_turned .overCalls unstepped
  | stepInto => exact step_turned .intoCalls unstepped
  | _ =>
      refine Lineless.Listing.turned (Lineless.Listing.execute ?_ ?_) unstepped <;>
        (intro impossible; cases impossible)

theorem take_turned (mode : Mode) (line : String) (unstepped : Unstepped start past present) :
    (mode.take target line).Reaches (unsteppedYet start) (Turned target start) past present := by
  by_cases commanded : mode = .command
  · subst commanded
    unfold Mode.take
    dsimp only
    cases Command.ofLine? line with
    | none => exact Act.reaches_pure.mpr unstepped
    | some wanted => exact execute_turned wanted unstepped
  · exact (Lineless.Listing.take line commanded).turned unstepped

end Lines

/-! ## Consultations -/

/-- The induction is on the lines: as long as control stays with the operator, no step has been
registered. -/
theorem interpretLines_consulted {start : Situation σ} (lines : List String) :
    forall mode past present, Unstepped start past present ->
      (interpretLines target lines mode).Reaches (.anyway fun _ => True)
        (fun _ => Consulted target start) past present := by
  induction lines with
  | nil =>
      intro mode past present unstepped
      unfold interpretLines
      rw [Act.reaches_bind, reaches_expect, Act.reaches_bind, reaches_note, Act.reaches_pure]
      exact .inl (unstepped.stepless trivial rfl)
  | cons line others inductionHypothesis =>
      intro mode past present unstepped
      unfold interpretLines
      rw [Act.reaches_bind, reaches_expect, Act.reaches_bind, reaches_read, Act.reaches_bind,
        Act.reaches_attempt]
      have taken : Unstepped start (past ++ [⟨{ present with mode }, .read (some line)⟩])
          { present with mode, input := others } := unstepped.stepless trivial rfl
      refine (take_turned mode line taken).imp ?_ (fun _ _ => trivial) ?_
      · intro error log between unstepped
        dsimp only
        cases error.lost? with
        | some loss => exact Act.reaches_fail.mpr trivial
        | none =>
            rw [Act.reaches_bind, reaches_say]
            exact inductionHypothesis .command _ _ (unstepped.stepless trivial rfl)
      · intro turn log between turned
        cases turn with
        | expect next => exact inductionHypothesis next log between turned
        | handOver handover => exact Act.reaches_pure.mpr turned

/-- A consultation that is over has registered a step at its very end, or none at all. -/
theorem interpret_consulted (target : Target σ) (situation : Situation σ) {handover : Handover}
    {own : List (Moment σ)} {after : Situation σ}
    (ran : interpret target situation = ⟨.ok handover, own, after⟩) :
    Consulted target situation own after :=
  (interpretLines_consulted situation.input .command [] situation (.refl situation)).of_ok ran

end Session
end LineDebugger
