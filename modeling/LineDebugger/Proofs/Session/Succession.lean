import LineDebugger.Proofs.Session.Numbers

namespace LineDebugger
namespace Session

open Debuggee

/-!
# A step and its successor

When a breakpoint is hit in the very moment in which a step completes, both are reported in one
batch, and in either order.  The operator is consulted at the first of them and may ask for another
step there.  After the batch the old step has to be gone and the new one has to be there, whichever
came first.

On a target that never gives out a number twice, this is so.  Once the old step has been retired,
nothing brings it back.  And a step that the operator has registered survives the rest of the
batch, since the operator is not consulted again and no event reports the completion of a step that
was not there when the batch arrived.
-/

variable {σ ε : Type} {target : Target σ}

/-! ## Batches that are handled without an error -/

/-- Events are handled without an error, and the session goes on after each of them. -/
inductive HandledWell (target : Target σ) :
    Bool -> List TargetEvent -> Situation σ -> List (Moment σ) -> Situation σ -> Prop where
  | done {consulted : Bool} {situation : Situation σ} :
      HandledWell target consulted [] situation [] situation
  | event {consulted next : Bool} {event : TargetEvent} {events : List TargetEvent}
      {situation between after : Situation σ} {own log : List (Moment σ)}
      (handled : dispatch target consulted event situation = ⟨.ok (.goOn next), own, between⟩)
      (others : HandledWell target next events between log after) :
      HandledWell target consulted (event :: events) situation
        (⟨situation, .turnedTo event⟩ :: own ++ log) after

theorem HandledWell.of_outcome {consulted next : Bool} {event : TargetEvent}
    {events : List TargetEvent} {situation after : Situation σ} {log : List (Moment σ)}
    (came : (dispatch target consulted event situation).outcome = .ok (.goOn next))
    (others : HandledWell target next events (dispatch target consulted event situation).state log
      after) :
    HandledWell target consulted (event :: events) situation
      (⟨situation, .turnedTo event⟩ :: (dispatch target consulted event situation).log ++ log)
      after := by
  refine .event ?_ others
  rw [← came]

theorem HandledWell.dispatchAll {consulted : Bool} {events : List TargetEvent}
    {situation after : Situation σ} {log : List (Moment σ)}
    (handled : HandledWell target consulted events situation log after) :
    (dispatchAll target consulted events : Dialogue σ ε (Option SessionEnd)) situation
      = ⟨.ok none, log, after⟩ := by
  induction handled with
  | done => rfl
  | @event consulted next event events situation between after own log handled others
      inductionHypothesis =>
      have noted : (Dialogue.note (.turnedTo event) : Dialogue σ ε Unit) situation
          = ⟨.ok (), [⟨situation, .turnedTo event⟩], situation⟩ := rfl
      unfold Session.dispatchAll
      rw [Act.bind_ok noted, Act.bind_ok (Act.attempt_ok handled)]
      change Progress.after _ (Progress.after own (Session.dispatchAll target next events between))
        = _
      rw [inductionHypothesis]
      rfl

/-! ### What is kept while events are handled -/

theorem Regime.Handles.keeps {regime : Regime σ} (laws : regime.Handles target)
    {consulted next : Bool} {event : TargetEvent} {situation between : Situation σ}
    {past own : List (Moment σ)}
    (handled : dispatch target consulted event situation = ⟨.ok (.goOn next), own, between⟩)
    (holds : regime.holds past situation) :
    regime.holds (past ++ ⟨situation, .turnedTo event⟩ :: own) between := by
  have goesOn : event ≠ .disconnected := by
    rintro rfl
    cases congrArg Progress.outcome handled
  have after := (laws.handle consulted goesOn holds).of_ok handled
  rw [List.append_assoc] at after
  exact after

theorem HandledWell.keeps {regime : Regime σ} (laws : regime.Handles target) {consulted : Bool}
    {events : List TargetEvent} {situation after : Situation σ} {log : List (Moment σ)}
    (handled : HandledWell target consulted events situation log after) {past : List (Moment σ)}
    (holds : regime.holds past situation) : regime.holds (past ++ log) after := by
  induction handled generalizing past with
  | done =>
      rw [List.append_nil]
      exact holds
  | event handled others inductionHypothesis =>
      rw [← List.append_assoc]
      exact inductionHypothesis (laws.keeps handled holds)

/-- The induction is on the events: after the one that reports the completion of the step, the step
is gone for good. -/
theorem HandledWell.retires {used : σ -> Int32 -> Prop} {live : σ -> Ledger}
    (afresh : NumbersAfresh target used) (clean : FailsCleanly target live) {request : Int32}
    {consulted : Bool} {events : List TargetEvent} {situation after : Situation σ}
    {log : List (Moment σ)} (handled : HandledWell target consulted events situation log after)
    {thread : UInt64} {location : Location}
    (member : .stepCompleted request thread location ∈ events) {past : List (Moment σ)}
    (spent : Spent used live request False past situation) :
    Spent used live request True (past ++ log) after := by
  induction handled generalizing past with
  | done => cases member
  | @event consulted next event events situation between after own log handled others
      inductionHypothesis =>
      rw [← List.append_assoc]
      rcases List.mem_cons.mp member with rfl | later
      · have turned : Spent used live request False
            (past ++ [⟨situation, .turnedTo (.stepCompleted request thread location)⟩])
            situation := spent.snoc trivial rfl rfl
        have retired := (turned.dispatch_retires afresh clean _ thread location).of_ok handled
        rw [List.append_assoc] at retired
        exact others.keeps (Spent.attends afresh clean).handles retired
      · exact inductionHypothesis later
          ((Spent.attends afresh clean).handles.keeps handled spent)

/-! ### The step that takes over -/

/-- The step is on record, and it is alive. -/
structure Stands (ledger : σ -> Ledger) (step : ActiveStep) (situation : Situation σ) : Prop where
  recorded : situation.records.step = some step
  alive : step.request ∈ (ledger situation.target).steps

theorem Ledger.Follows.stays {before after : Ledger} {completed request : Int32}
    {outcome : Outcome TargetError Unit}
    (follows : before.Follows after (.deleteStep completed) outcome)
    (finished : outcome ≠ .unfinished) (other : request ≠ completed)
    (alive : request ∈ before.steps) : request ∈ after.steps := by
  cases outcome with
  | unfinished => exact absurd rfl finished
  | ok answer =>
      rw [show after = _ from follows]
      exact Finset.mem_erase.mpr ⟨other, alive⟩
  | failed error =>
      cases error with
      | noSuchElement reason => exact follows.2 ▸ alive
      | _ => exact (show after = before from follows) ▸ alive

/-- To receive an event is no harm to a step of which the event says nothing. -/
theorem Stands.receive {ledger : σ -> Ledger} (keeps : KeepsLedger target ledger)
    {step : ActiveStep} {event : TargetEvent} (other : event.completed? ≠ some step.request)
    {situation after : Situation σ} {own : List (Moment σ)}
    (received : receive target event situation = ⟨.ok (), own, after⟩)
    (stands : Stands ledger step situation) : Stands ledger step after := by
  have kept : (Session.receive target event).Reaches
      ⟨fun _ _ present => Stands ledger step present, fun _ => True⟩
      (fun _ _ present => Stands ledger step present) [] situation := by
    refine Lineless.reaches (receive_lineless target event) ?_ ?_ ?_ [] situation stands
    · exact fun _ _ _ stands => stands
    · rintro query (inspects | ⟨completed, completes, rfl⟩) log present stands finished
      · refine ⟨stands.recorded, ?_⟩
        rw [keeps.failsCleanly.of_looks (RequestKind.looks_of_inspects inspects) rfl finished]
        exact stands.alive
      · refine ⟨stands.recorded, (keeps.answered rfl).stays finished ?_ stands.alive⟩
        rintro rfl
        exact other completes
    · exact fun f retires log present stands =>
        ⟨retires present.records step stands.recorded other, stands.alive⟩
  exact kept.of_ok received

/-- When the operator has been consulted, a step that is granted is on record and alive. -/
theorem Consulted.stands {ledger : σ -> Ledger} (keeps : KeepsLedger target ledger)
    {start after : Situation σ} {talk : List (Moment σ)}
    (consulted : Consulted target start talk after) {moment : Moment σ} (member : moment ∈ talk)
    {thread : UInt64} {scope : StepScope} {request : Int32}
    (creates : moment.CreatesStep thread scope request) :
    Stands ledger ⟨request, thread, scope⟩ after := by
  rcases consulted with unstepped | ⟨unstepped, granted⟩
  · exact absurd creates (unstepped.unregistered moment member thread scope request)
  · rcases List.mem_append.mp member with earlier | last
    · exact absurd creates (unstepped.unregistered moment earlier thread scope request)
    · cases List.mem_singleton.mp last
      obtain ⟨filter, same, grants⟩ := granted_of_createsStep creates
      cases same
      cases granted.symm.trans grants
      obtain ⟨_, entered⟩ := keeps.answered granted
      refine ⟨rfl, ?_⟩
      change request ∈ (ledger (Situation.answered target _ _).target).steps
      rw [entered]
      exact Finset.mem_insert_self _ _

/-- If a step is registered while an event is handled, then the operator has been consulted, and
the step is on record and alive. -/
theorem stands_of_createsStep {ledger : σ -> Ledger} (keeps : KeepsLedger target ledger)
    {consulted next : Bool} {event : TargetEvent} {situation after : Situation σ}
    {own : List (Moment σ)}
    (handled : dispatch target consulted event situation = ⟨.ok (.goOn next), own, after⟩)
    {moment : Moment σ} (member : moment ∈ own) {thread : UInt64} {scope : StepScope}
    {request : Int32} (creates : moment.CreatesStep thread scope request) :
    next = true ∧ Stands ledger ⟨request, thread, scope⟩ after := by
  have unreceived := receive_unregistered target event situation
  obtain ⟨received, _, ran, ⟨rfl, _, _⟩ | ⟨_, consulted, talk, rfl, talked⟩⟩ :=
    received_of_goesOn handled
  · rw [ran] at unreceived
    exact absurd creates (unreceived moment member thread scope request)
  · rw [ran] at unreceived
    rcases List.mem_append.mp member with early | talking
    · exact absurd creates (unreceived moment early thread scope request)
    · rcases List.mem_cons.mp talking with rfl | talking
      · obtain ⟨filter, exchanges, asked⟩ := creates
        cases asked
      · exact ⟨consulted, talked.stands keeps talking creates⟩

theorem HandledWell.stands {ledger : σ -> Ledger} (keeps : KeepsLedger target ledger)
    {step : ActiveStep} {consulted : Bool} {events : List TargetEvent}
    {situation after : Situation σ} {log : List (Moment σ)}
    (handled : HandledWell target consulted events situation log after) (already : consulted = true)
    (others : forall event, event ∈ events -> event.completed? ≠ some step.request)
    (stands : Stands ledger step situation) : Stands ledger step after := by
  induction handled with
  | done => exact stands
  | event handled further inductionHypothesis =>
      obtain ⟨received, between, ran, ⟨_, rfl, rfl⟩ | ⟨impossible, _⟩⟩ :=
        received_of_goesOn handled
      · exact inductionHypothesis already
          (fun event member => others event (List.mem_cons_of_mem _ member))
          (stands.receive keeps (others _ List.mem_cons_self) ran)
      · cases already.symm.trans impossible

/-- The induction is on the events.  The operator is consulted at the first one that halts, and
the events after it leave alone what has been registered there. -/
theorem HandledWell.registers {ledger : σ -> Ledger} (keeps : KeepsLedger target ledger)
    {consulted : Bool} {events : List TargetEvent} {situation after : Situation σ}
    {log : List (Moment σ)} (handled : HandledWell target consulted events situation log after) :
    forall moment, moment ∈ log -> forall thread scope request,
      moment.CreatesStep thread scope request ->
        (forall event, event ∈ events -> event.completed? ≠ some request) ->
          Stands ledger ⟨request, thread, scope⟩ after := by
  induction handled with
  | done => exact List.forall_mem_nil _
  | @event consulted next event events situation between after own log handled others
      inductionHypothesis =>
      intro moment member thread scope request creates unreported
      have unreportedYet := fun following further =>
        unreported following (List.mem_cons_of_mem event further)
      rcases List.mem_append.mp member with now | later
      · rcases List.mem_cons.mp now with rfl | inside
        · obtain ⟨filter, exchanges, asked⟩ := creates
          cases asked
        · obtain ⟨consulted, stands⟩ := stands_of_createsStep keeps handled inside creates
          exact others.stands keeps consulted unreportedYet stands
      · exact inductionHypothesis moment later thread scope request creates unreportedYet

/-! ## Whole batches -/

/-- A debuggee that goes on after a batch leaves everything about steps as it is. -/
theorem resumeTarget_stepless {ledger : σ -> Ledger} (keeps : KeepsLedger target ledger)
    (past : List (Moment σ)) (present : Situation σ) :
    (resumeTarget target : Dialogue σ ε (Option SessionEnd)).Reaches (.anyway fun _ => True)
      (fun result log after => result = none ->
        (exists own, log = past ++ own ∧ forall moment, moment ∈ own -> moment.mark.Stepless) ∧
          after.records = present.records ∧ ledger after.target = ledger present.target)
      past present := by
  unfold resumeTarget
  refine Reaches.tryAsk ?_ ?_ fun _ => trivial
  · intro answer responded
    refine Act.reaches_pure.mpr fun _ => ⟨⟨[_], rfl, ?_⟩, rfl, ?_⟩
    · exact List.forall_mem_singleton.mpr rfl
    · exact (keeps.answered responded).unchanged rfl nofun
  · intro error responded
    dsimp only
    split
    · exact Act.reaches_somehow.bind fun _ _ _ _ => Act.reaches_pure.mpr nofun
    · rw [Act.reaches_bind, reaches_say, Act.reaches_pure]
      refine fun _ => ⟨⟨[_, _], List.append_assoc _ _ _, ?_⟩, rfl, ?_⟩
      · exact List.forall_mem_cons.mpr ⟨rfl, List.forall_mem_singleton.mpr trivial⟩
      · exact (keeps.answered responded).unchanged rfl nofun

/-- What is left of the steps of a batch: those that have completed are neither alive nor on
record, and one that the operator has registered is both.  The completions are those of steps
whose numbers had been `issued` when the batch arrived. -/
structure TurnedOver (ledger : σ -> Ledger) (issued : Int32 -> Prop) (batch : EventBatch)
    (log : List (Moment σ)) (after : Situation σ) : Prop where
  retired : forall request thread location,
    .stepCompleted request thread location ∈ batch.events -> issued request ->
      request ∉ (ledger after.target).steps ∧ after.stepRequest ≠ some request
  registered : forall moment, moment ∈ log -> forall thread scope request,
    moment.CreatesStep thread scope request ->
      (forall event, event ∈ batch.events -> event.completed? = some request ->
        issued request) ->
        Stands ledger ⟨request, thread, scope⟩ after

/-- What is not about steps makes no difference to them. -/
theorem TurnedOver.further {ledger : σ -> Ledger} {issued : Int32 -> Prop} {batch : EventBatch}
    {log own : List (Moment σ)} {between after : Situation σ}
    (turned : TurnedOver ledger issued batch log between)
    (stepless : forall moment, moment ∈ own -> moment.mark.Stepless)
    (records : after.records = between.records)
    (same : ledger after.target = ledger between.target) :
    TurnedOver ledger issued batch (log ++ own) after where
  retired request thread location member number := by
    rw [Situation.stepRequest, records, same]
    exact turned.retired request thread location member number
  registered moment member thread scope request creates reported := by
    rcases List.mem_append.mp member with earlier | late
    · obtain ⟨recorded, alive⟩ :=
        turned.registered moment earlier thread scope request creates reported
      exact ⟨records ▸ recorded, same ▸ alive⟩
    · exact absurd creates (Moment.not_createsStep (stepless moment late))

/-- A number that had been issued before the batch is not given out in the course of it, so none
of its events reports the completion of a step that is registered there. -/
theorem HandledWell.turnsOver {ledger : σ -> Ledger} (keeps : KeepsLedger target ledger)
    {used : σ -> Int32 -> Prop} (afresh : NumbersAfresh target used) {batch : EventBatch}
    {situation between : Situation σ} {handling : List (Moment σ)}
    (handled : HandledWell target false batch.events situation handling between) :
    TurnedOver ledger (used situation.target) batch handling between := by
  have spent (request : Int32) (number : used situation.target request) :
      Spent used ledger request False [] situation :=
    ⟨number, List.forall_mem_nil _, False.elim⟩
  constructor
  · intro request thread location member number
    have gone := handled.retires afresh keeps.failsCleanly member (spent request number)
    exact gone.gone trivial
  · intro moment member thread scope request creates issued
    refine handled.registers keeps moment member thread scope request creates ?_
    intro event reported completes
    have still := handled.keeps (Spent.attends afresh keeps.failsCleanly).handles
      (spent request (issued event reported completes))
    exact still.unissued moment member thread scope creates

theorem dispatchBatch_turnsOver {ledger : σ -> Ledger} (keeps : KeepsLedger target ledger)
    {used : σ -> Int32 -> Prop} (afresh : NumbersAfresh target used) {batch : EventBatch}
    {situation between after : Situation σ} {handling log : List (Moment σ)}
    (handled : HandledWell target false batch.events situation handling between)
    (finished : (dispatchBatch target batch : Dialogue σ ε (Option SessionEnd)) situation
      = ⟨.ok none, log, after⟩) :
    TurnedOver ledger (used situation.target) batch log after := by
  have turned := handled.turnsOver keeps afresh
  unfold dispatchBatch at finished
  rw [Act.bind_ok handled.dispatchAll] at finished
  cases suspended : batch.suspended with
  | false =>
      simp only [suspended, Bool.false_eq_true, if_false] at finished
      cases finished
      exact turned.further (List.forall_mem_nil _) rfl rfl
  | true =>
      simp only [suspended, if_true] at finished
      cases ran : (resumeTarget target : Dialogue σ ε (Option SessionEnd)) between with
      | mk outcome own last =>
          rw [ran] at finished
          cases finished
          obtain ⟨⟨_, rfl, stepless⟩, records, same⟩ :=
            (resumeTarget_stepless keeps [] between).of_ok ran rfl
          exact turned.further stepless records same

/-- A step that has completed is retired.  If its event is handled without an error, its request is
deleted once, after its variables have been printed and before the operator is consulted, and it is
off the records then if it was on them, while any other step stays on record.  A step that the
target does not know any more counts as deleted.

So, on a target that never gives out a number twice, the steps that a batch reports as completed
are neither alive nor on record after the batch, in whatever order its events come and whatever
the operator does; and if the operator has registered a step, it is alive and on record. -/
theorem completed_steps_are_retired (target : Target σ) :
    (forall consulted request thread location situation course,
      (dispatch target consulted (.stepCompleted request thread location) situation).outcome
          = .ok course ->
        exists printed stopped,
          Retirement target consulted request thread location situation printed stopped) ∧
      (forall request situation reason,
        (target.respond (.deleteStep request) situation.target).outcome
            = .failed (.noSuchElement reason) ->
          retireStep target request situation = ⟨.ok (),
            [.asking target (.deleteStep request) situation],
            situation.retired target request⟩) ∧
      forall (ledger : σ -> Ledger) (used : σ -> Int32 -> Prop) batch situation handling between
          log after,
        KeepsLedger target ledger -> NumbersAfresh target used ->
        HandledWell target false batch.events situation handling between ->
        (dispatchBatch target batch : Dialogue σ ε (Option SessionEnd)) situation
            = ⟨.ok none, log, after⟩ ->
          TurnedOver ledger (used situation.target) batch log after := by
  refine ⟨?_, ?_, ?_⟩
  · intro consulted request thread location situation course came
    exact stepCompleted_retires target consulted request thread location situation came
  · intro request situation reason unknown
    exact retireStep_of_deleted (unknown ▸ trivial)
  · intro ledger used batch situation handling between log after keeps afresh handled finished
    exact dispatchBatch_turnsOver keeps afresh handled finished

/-! ## A counter -/

/-- A ledger, and the numbers of all the steps there have ever been. -/
structure Numbered where
  ledger : Ledger := {}
  issued : Finset Int32 := ∅
  deriving DecidableEq

/-- A bookkeeper who does not give out the number of a step again. -/
def counter : Target Numbered where
  respond
    | .createStep _ _ _ => fun state =>
        let next := Int32.ofNat state.issued.card
        if next ∈ state.issued ∪ state.ledger.steps then
          ⟨.failed (.other "no number left"), [], state⟩
        else
          ⟨.ok next, [],
            { ledger := { state.ledger with steps := insert next state.ledger.steps }
              issued := insert next state.issued }⟩
    | query => fun state =>
        let response := bookkeeper.respond query state.ledger
        ⟨response.outcome, response.log, { state with ledger := response.state }⟩

theorem counter_keeps : KeepsLedger counter Numbered.ledger := by
  intro query state
  cases query with
  | createStep thread scope filter =>
      unfold counter
      by_cases taken : Int32.ofNat state.issued.card ∈ state.issued ∪ state.ledger.steps
      · simp only [if_pos taken]
        rfl
      · simp only [if_neg taken]
        exact ⟨fun member => taken (Finset.mem_union_right _ member), rfl⟩
  | _ => exact bookkeeper_keeps _ state.ledger

theorem counter_afresh : NumbersAfresh counter fun state request => request ∈ state.issued where
  remembers query state request number := by
    cases query with
    | createStep thread scope filter =>
        unfold counter
        by_cases taken : Int32.ofNat state.issued.card ∈ state.issued ∪ state.ledger.steps
        · simp only [if_pos taken]
          exact number
        · simp only [if_neg taken]
          exact Finset.mem_insert_of_mem number
    | _ => exact number
  fresh thread scope filter state request granted := by
    unfold counter at granted ⊢
    by_cases taken : Int32.ofNat state.issued.card ∈ state.issued ∪ state.ledger.steps
    · simp only [if_pos taken] at granted
      cases granted
    · simp only [if_neg taken] at granted ⊢
      cases granted
      exact ⟨fun member => taken (Finset.mem_union_left _ member), Finset.mem_insert_self _ _⟩

/-- The place where a breakpoint is hit and a step completes. -/
def crossing : Location := ⟨1, "Main", 1, "main", some 3, 0⟩

/-- The breakpoint is reported first, or the step is. -/
def crossingBatch (breakpointFirst : Bool) : EventBatch :=
  ⟨true, bif breakpointFirst then [.breakpointHit 4 1 crossing, .stepCompleted 0 1 crossing]
    else [.stepCompleted 0 1 crossing, .breakpointHit 4 1 crossing]⟩

/-- A step is on record, and the operator will ask for another one. -/
def stepping : Situation Numbered :=
  ⟨{ entryClass := "Main", step := some ⟨0, 1, .intoCalls⟩ }, ⟨{ steps := {0} }, {0}⟩, ["n"],
    .command⟩

/-- The situation in which the completion is turned to if the breakpoint comes first.  The step
has been deleted by then, since it has been replaced. -/
def stepReplaced : Situation Numbered :=
  (dispatch counter false (.breakpointHit 4 1 crossing) stepping).state

/-- What becomes of the batch. -/
def crossed (breakpointFirst : Bool) :
    Progress (Situation Numbered) (Moment Numbered) Unit (Option SessionEnd) :=
  dispatchBatch counter (crossingBatch breakpointFirst) stepping

/-- The first step is gone, and the second one is there. -/
structure Succeeded (situation : Situation Numbered) : Prop where
  gone : 0 ∉ situation.target.ledger.steps ∧ situation.stepRequest ≠ some 0
  stands : Stands Numbered.ledger ⟨1, 1, .overCalls⟩ situation

/-- The operator has registered the second step, and the batch does not report its completion. -/
theorem succeeded_of_turnedOver {breakpointFirst : Bool}
    (turned : TurnedOver Numbered.ledger (fun request => request ∈ stepping.target.issued)
      (crossingBatch breakpointFirst) (crossed breakpointFirst).log
      (crossed breakpointFirst).state) :
    Succeeded (crossed breakpointFirst).state := by
  have completed : .stepCompleted 0 1 crossing ∈ (crossingBatch breakpointFirst).events := by
    cases breakpointFirst <;> decide
  have unreported (event : TargetEvent) (member : event ∈ (crossingBatch breakpointFirst).events)
      (completes : event.completed? = some 1) : (1 : Int32) ∈ stepping.target.issued := by
    cases breakpointFirst with
    | _ => rcases List.mem_pair.mp member with rfl | rfl <;> cases completes
  have created : exists moment, moment ∈ (crossed breakpointFirst).log ∧
      moment.CreatesStep 1 .overCalls 1 := by
    cases breakpointFirst with
    | _ => exact ⟨_, List.mem_of_getElem? (i := 7) rfl, _, _, rfl⟩
  obtain ⟨moment, member, creates⟩ := created
  exact ⟨turned.retired 0 1 crossing completed (Finset.mem_singleton_self 0),
    turned.registered moment member 1 .overCalls 1 creates unreported⟩

/-- In either order the first step is gone in the end, and the second one is there. -/
theorem successor_stands :
    (exists printed stopped,
        Retirement counter true 0 1 crossing stepReplaced printed stopped) ∧
      retireStep counter 0 stepReplaced =
        ⟨.ok (), [.asking counter (.deleteStep 0) stepReplaced],
          stepReplaced.retired counter 0⟩ ∧
      Succeeded (crossed true).state ∧ Succeeded (crossed false).state := by
  obtain ⟨retires, counts, turnsOver⟩ := completed_steps_are_retired counter
  refine ⟨retires true 0 1 crossing stepReplaced (.goOn true) rfl,
    counts 0 stepReplaced "no such step" rfl, succeeded_of_turnedOver ?_,
    succeeded_of_turnedOver ?_⟩
  · have handled : HandledWell counter false (crossingBatch true).events stepping _ _ :=
      .of_outcome rfl (.of_outcome rfl .done)
    have finished : crossed true = ⟨.ok none, (crossed true).log, (crossed true).state⟩ := rfl
    exact turnsOver _ _ _ _ _ _ _ _ counter_keeps counter_afresh handled finished
  · have handled : HandledWell counter false (crossingBatch false).events stepping _ _ :=
      .of_outcome rfl (.of_outcome rfl .done)
    have finished : crossed false = ⟨.ok none, (crossed false).log, (crossed false).state⟩ := rfl
    exact turnsOver _ _ _ _ _ _ _ _ counter_keeps counter_afresh handled finished

end Session
end LineDebugger
