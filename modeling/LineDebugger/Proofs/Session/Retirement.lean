import LineDebugger.Proofs.Session.Display
import LineDebugger.Proofs.Session.Editing
import LineDebugger.Proofs.Session.Registration

namespace LineDebugger

/-- The step whose completion an event reports. -/
def Debuggee.TargetEvent.completed? : Debuggee.TargetEvent -> Option Int32
  | .stepCompleted request _ _ => some request
  | _ => none

namespace Session

open Debuggee

/-!
# Retiring a step

A step that has completed is deleted as soon as its completion has been announced, and before the
operator is consulted.  It need not be the step on record: breakpoints and steps arrive in one
batch, and if the breakpoint comes first the operator may have asked for another step by then.  So
the record is dropped only if it is that of the step which has completed.

An event is received first, whether or not the operator is consulted about it then.  Receiving it
takes no line, and it concerns no step but the one that the event reports.
-/

variable {σ : Type} {target : Target σ}

/-! ## Receiving events -/

/-- What is done about an event before the operator is consulted. -/
def receive (target : Target σ) : TargetEvent -> Dialogue σ TargetError Unit
  | .classPrepared thread classId className => do
      haltAt thread classId
      Dialogue.say (className ++ " loaded")
  | .breakpointHit _ thread location => do
      haltAt thread location.classId
      Dialogue.say (breakpointLine location)
      sayHaltVariables target thread
  | .stepCompleted request thread location => do
      haltAt thread location.classId
      Dialogue.say (stepLine location)
      sayHaltVariables target thread
      retireStep target request
  | .disconnected | .other => pure ()

theorem dispatch_eq_receive {event : TargetEvent} {context : HaltContext}
    (halts : event.halt? = some context) (consulted : Bool) :
    dispatch target consulted event
      = receive target event >>= fun _ => consult target consulted := by
  cases event with
  | disconnected => cases halts
  | other => cases halts
  | _ => simp only [dispatch, receive, Act.bind_assoc]

/-- A request that it takes to receive the event. -/
def Receiving (event : TargetEvent) (request : Request) : Prop :=
  request.kind.inspects = true ∨
    exists completed, event.completed? = some completed ∧ request = .deleteStep completed

/-- A change of the records that leaves every step on record but the one that has completed. -/
def Records.Retires (event : TargetEvent) (f : Records -> Records) : Prop :=
  forall records step, records.step = some step -> event.completed? ≠ some step.request ->
    (f records).step = some step

theorem receive_lineless (target : Target σ) (event : TargetEvent) :
    Lineless target (Receiving event) (Records.Retires event) (receive target event) := by
  have looks (request : Request) (inspects : request.kind.inspects = true) :
      Receiving event request := .inl inspects
  have halts (thread classId : UInt64) : Lineless target (Receiving event)
      (Records.Retires event) (haltAt thread classId : Dialogue σ TargetError Unit) :=
    .change fun records step active _ => active
  cases event with
  | classPrepared thread classId className => exact .andThen (halts _ _) fun _ => .say _
  | breakpointHit request thread location =>
      exact .andThen (halts _ _) fun _ => .andThen (.say _) fun _ =>
        Lineless.sayHaltVariables looks thread
  | stepCompleted request thread location =>
      refine .andThen (halts _ _) fun _ => .andThen (.say _) fun _ =>
        .andThen (Lineless.sayHaltVariables looks thread) fun _ =>
        .andThen (Lineless.deleteRequest (.inr ⟨request, rfl, rfl⟩)) fun _ => .change ?_
      intro records step active other
      have kept : records.step.map ActiveStep.request ≠ some request := by
        rw [active]
        exact fun same => other same.symm
      dsimp only
      rw [if_neg kept]
      exact active
  | disconnected => exact .done ()
  | other => exact .done ()

/-- To receive an event, no step is asked for. -/
theorem receive_unregistered (target : Target σ) (event : TargetEvent) (present : Situation σ) :
    forall moment, moment ∈ (receive target event present).log ->
      forall thread scope request, ¬ moment.CreatesStep thread scope request := by
  have steady : Steady
      (fun mark => forall before thread scope request,
        ¬ (⟨before, mark⟩ : Moment σ).CreatesStep thread scope request)
      (fun _ => ()) present (receive target event present).log
      (receive target event present).state := by
    refine Lineless.steady (receive_lineless target event) ?_ ?_ (fun _ _ _ => rfl)
      (fun _ _ => rfl) present
    · rintro line before thread scope request ⟨filter, exchanges, asked⟩
      cases asked
    · rintro query outcome exchanges receiving before thread scope request ⟨filter, _, asked⟩
      obtain ⟨rfl, _⟩ := Mark.asked.inj asked
      rcases receiving with inspects | ⟨_, _, impossible⟩
      · cases inspects
      · cases impossible
  exact fun moment member => (steady.moments moment member).1 moment.before

/-- An event is received, and then the operator may be consulted about it, if nobody has been
consulted yet. -/
theorem received_of_goesOn {consulted next : Bool} {event : TargetEvent}
    {situation after : Situation σ} {own : List (Moment σ)}
    (handled : dispatch target consulted event situation = ⟨.ok (.goOn next), own, after⟩) :
    exists received between, receive target event situation = ⟨.ok (), received, between⟩ ∧
      ((own = received ∧ after = between ∧ next = consulted) ∨
        (consulted = false ∧ next = true ∧ exists talk,
          own = received ++ ⟨between, .consulted⟩ :: talk ∧
            Consulted target between talk after)) := by
  cases halts : event.halt? with
  | none =>
      cases event with
      | disconnected => cases congrArg Progress.outcome handled
      | other =>
          cases handled
          exact ⟨[], situation, rfl, .inl ⟨rfl, rfl, rfl⟩⟩
      | _ => cases halts
  | some context =>
      rw [dispatch_eq_receive halts] at handled
      obtain ⟨_, received, between, ran, whole⟩ :=
        Act.ok_of_bind (congrArg Progress.outcome handled)
      rw [whole] at handled
      refine ⟨received, between, ran, ?_⟩
      cases consulted with
      | true =>
          cases handled
          exact .inl ⟨List.append_nil _, rfl, rfl⟩
      | false =>
          rw [consult_eq] at handled
          cases talked : interpret target between with
          | mk outcome talk last =>
              rw [talked] at handled
              cases outcome with
              | failed error => cases handled
              | unfinished => cases handled
              | ok handover =>
                  have consulted := interpret_consulted target between talked
                  cases handover with
                  | exited => cases handled
                  | _ =>
                      cases handled
                      exact .inr ⟨rfl, rfl, talk, rfl, consulted⟩

/-! ## Deleting the step -/

/-- The records once a step is not on record any more. -/
def Records.withoutStep (records : Records) (request : Int32) : Records :=
  if records.step.map ActiveStep.request = some request then { records with step := none }
  else records

/-- The situation once a step has been retired. -/
def Situation.retired (target : Target σ) (request : Int32) (situation : Situation σ) :
    Situation σ :=
  { situation.answered target (.deleteStep request) with
    records := situation.records.withoutStep request }

section Retired

variable {request : Int32} {situation : Situation σ}

theorem retired_step_of_eq (active : situation.stepRequest = some request) :
    (situation.retired target request).records.step = none :=
  congrArg Records.step (if_pos active)

theorem retired_step_of_ne (other : situation.stepRequest ≠ some request) :
    (situation.retired target request).records.step = situation.records.step :=
  congrArg Records.step (if_neg other)

/-- Whatever was on record, the step that has been retired is not. -/
theorem retired_stepRequest_ne : (situation.retired target request).stepRequest ≠ some request := by
  by_cases active : situation.stepRequest = some request
  · rw [Situation.stepRequest, retired_step_of_eq active]
    intro impossible
    cases impossible
  · rw [Situation.stepRequest, retired_step_of_ne active]
    exact active

theorem deletion_eq_ok_iff {α : Type} {outcome : Outcome TargetError α} :
    deletion outcome = .ok () ↔ Deleted outcome := by
  cases outcome with
  | ok answer => exact ⟨fun _ => trivial, fun _ => rfl⟩
  | failed error => cases error <;> simp [deletion, Deleted]
  | unfinished => simp [deletion, Deleted]

theorem Deleted.finished {α : Type} {outcome : Outcome TargetError α} (deleted : Deleted outcome) :
    outcome ≠ .unfinished := by
  rintro rfl
  exact deleted

/-- A step that the target does not know any more counts as retired. -/
theorem retireStep_of_deleted
    (deleted : Deleted (target.respond (.deleteStep request) situation.target).outcome) :
    retireStep target request situation =
      ⟨.ok (), [.asking target (.deleteStep request) situation],
        situation.retired target request⟩ := by
  have asked : deleteRequest target (.deleteStep request) situation = _ := deleteRequest_of rfl
  rw [deletion_eq_ok_iff.mpr deleted] at asked
  unfold retireStep
  rw [Act.bind_ok asked]
  rfl

theorem deleted_of_retireStep (retired : (retireStep target request situation).outcome = .ok ()) :
    Deleted (target.respond (.deleteStep request) situation.target).outcome := by
  have asked : deleteRequest target (.deleteStep request) situation = _ := deleteRequest_of rfl
  unfold retireStep at retired
  rcases Act.ok_of_bind retired with ⟨_, own, next, ran, -⟩
  exact deletion_eq_ok_iff.mp (congrArg Progress.outcome (asked.symm.trans ran))

end Retired

/-! ## Completed steps -/

/-- To print the variables takes no more than to look at the halted thread. -/
theorem sayHaltVariables_looks (target : Target σ) (thread : UInt64) (present : Situation σ) :
    Steady (fun mark => mark.Stepless ∧ mark ≠ .consulted) Situation.records present
      (sayHaltVariables target thread present).log
      (sayHaltVariables target thread present).state := by
  have looking : Lineless target (fun request => request.kind.inspects = true) (fun _ => False)
      (sayHaltVariables target thread) := .sayHaltVariables (fun _ inspects => inspects) thread
  refine looking.steady (fun line => ⟨trivial, nofun⟩) ?_ (fun _ impossible => impossible.elim)
    (fun _ _ => rfl) present
  exact fun request outcome exchanges inspects =>
    ⟨RequestKind.unstepping_of_inspects inspects, nofun⟩

/-- A consultation deletes no other step than the one on record. -/
theorem consult_deletes {consulted : Bool} {situation : Situation σ} {course : Course}
    (came : (consult target consulted situation).outcome = .ok course) {request : Int32}
    (other : situation.stepRequest ≠ some request) :
    forall moment, moment ∈ (consult target consulted situation).log ->
      ¬ moment.DeletesStep request := by
  cases consulted with
  | true => exact List.forall_mem_nil _
  | false =>
      rw [consult_eq] at came ⊢
      have unrelated : (⟨situation, .consulted⟩ : Moment σ).mark.Stepless := trivial
      refine List.forall_mem_cons.mpr ⟨Moment.not_deletesStep unrelated, ?_⟩
      intro moment member deletes
      cases ran : interpret target situation with
      | mk outcome own after =>
          rw [ran] at came member
          cases outcome with
          | ok handover =>
              exact other ((interpret_consulted target situation ran).deletes member deletes)
          | _ => cases came

/-- How a completed step is handled: its variables are printed, then its request is deleted, and
then the operator is consulted. -/
structure Retirement (target : Target σ) (consulted : Bool) (request : Int32) (thread : UInt64)
    (location : Location) (situation : Situation σ) (printed : List (Moment σ))
    (stopped : Situation σ) : Prop where
  prints : sayHaltVariables target thread (situation.haltedAt ⟨thread, location.classId⟩)
    = ⟨.ok (), printed, stopped⟩
  early : forall moment, moment ∈ printed -> moment.mark.Stepless ∧ moment.mark ≠ .consulted
  deleted : Deleted (target.respond (.deleteStep request) stopped.target).outcome
  handled : dispatch target consulted (.stepCompleted request thread location) situation
    = (consult target consulted (stopped.retired target request)).after
        (⟨situation.haltedAt ⟨thread, location.classId⟩, .said (stepLine location)⟩ ::
          (printed ++ [.asking target (.deleteStep request) stopped]))
  once : forall moment,
    moment ∈ printed ++ (consult target consulted (stopped.retired target request)).log ->
      ¬ moment.DeletesStep request
  ended : situation.stepRequest = some request ->
    (stopped.retired target request).records.step = none
  kept : situation.stepRequest ≠ some request ->
    (stopped.retired target request).records.step = situation.records.step

/-- A completed step that is handled without an error is retired. -/
theorem stepCompleted_retires (target : Target σ) (consulted : Bool) (request : Int32)
    (thread : UInt64) (location : Location) (situation : Situation σ) {course : Course}
    (came : (dispatch target consulted (.stepCompleted request thread location) situation).outcome
      = .ok course) :
    exists printed stopped,
      Retirement target consulted request thread location situation printed stopped := by
  have looks := sayHaltVariables_looks target thread
    (situation.haltedAt ⟨thread, location.classId⟩)
  have handled : dispatch target consulted (.stepCompleted request thread location) situation = _ :=
    dispatch_eq (.step request) consulted situation
  rw [handled] at came
  obtain ⟨_, printed, stopped, prints, shown⟩ := Act.ok_of_bind came
  rw [shown] at came handled
  rw [prints] at looks
  obtain ⟨_, _, _, retires, _⟩ := Act.ok_of_bind came
  have deleted := deleted_of_retireStep (congrArg Progress.outcome retires)
  have closed : closeHalt target consulted (.stepCompleted request thread location) stopped
      = (consult target consulted (stopped.retired target request)).after
          [.asking target (.deleteStep request) stopped] :=
    Act.bind_ok (retireStep_of_deleted deleted) _
  rw [closed] at came handled
  have records : stopped.records = (situation.haltedAt ⟨thread, location.classId⟩).records :=
    looks.state
  have same : stopped.records.step = situation.records.step := by
    rw [records]
    rfl
  have sameRequest : stopped.stepRequest = situation.stepRequest :=
    congrArg (Option.map ActiveStep.request) same
  refine ⟨printed, stopped, prints, ?_, deleted, ?_, ?_, ?_, ?_⟩
  · exact fun moment member => (looks.moments moment member).1
  · rw [handled, ← Progress.after_append, ← Progress.after_append]
    rfl
  · exact List.forall_mem_append.mpr
      ⟨fun moment member => Moment.not_deletesStep (looks.moments moment member).1.1,
        consult_deletes came retired_stepRequest_ne⟩
  · exact fun active => retired_step_of_eq (sameRequest.trans active)
  · intro other
    rw [retired_step_of_ne (sameRequest.symm ▸ other), same]

end Session
end LineDebugger
