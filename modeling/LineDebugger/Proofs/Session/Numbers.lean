import LineDebugger.Proofs.Session.LiveRequests
import LineDebugger.Proofs.Session.Retirement

namespace LineDebugger
namespace Session

open Debuggee

/-!
# Numbers that are used up

The records tell steps apart by their numbers.  A target may give out the number of a step again
once the step is gone, but if it never does, a number that has been used stays out of the way of
every step to come.  Whatever is done in a session then, by the operator or by the events, a step
that has been retired is not brought back: it does not come alive, and it is not put on record.

The regime says this of one number, before its step has been retired and after.  The one thing
that leads from the one to the other is the event that reports the completion of the step.
-/

variable {σ ε α : Type} {target : Target σ}

/-- A target that never gives out the number of a step twice. -/
structure NumbersAfresh (target : Target σ) (used : σ -> Int32 -> Prop) : Prop where
  remembers : forall query state request, used state request ->
    used (target.respond query state).state request
  fresh : forall thread scope filter state request,
    (target.respond (.createStep thread scope filter) state).outcome = .ok request ->
    ¬ used state request ∧
      used (target.respond (.createStep thread scope filter) state).state request

/-- What is true of a step whose number is used up: the number has not been given out again, and
once the step has been `retired`, it is neither alive nor on record. -/
structure Spent (used : σ -> Int32 -> Prop) (live : σ -> Ledger) (request : Int32)
    (retired : Prop) (log : List (Moment σ)) (present : Situation σ) : Prop where
  used : used present.target request
  unissued : forall moment, moment ∈ log -> forall thread scope,
    ¬ moment.CreatesStep thread scope request
  gone : retired ->
    request ∉ (live present.target).steps ∧ present.stepRequest ≠ some request

/-- The regime of a step whose number is used up. -/
def spending (used : σ -> Int32 -> Prop) (live : σ -> Ledger) (request : Int32)
    (retired : Prop) : Regime σ where
  holds := Spent used live request retired
  lost _ _ := True
  left _ _ := True
  waiting _ := True

theorem granted_of_createsStep {query : Request} {present : Situation σ} {thread : UInt64}
    {scope : StepScope} {request : Int32}
    (creates : (Moment.asking target query present).CreatesStep thread scope request) :
    exists filter, query = .createStep thread scope filter ∧
      (target.respond (.createStep thread scope filter) present.target).outcome = .ok request := by
  obtain ⟨filter, exchanges, asked⟩ := creates
  obtain ⟨rfl, granted, _⟩ := Mark.asked.inj asked
  exact ⟨filter, rfl, eq_of_heq granted⟩

namespace Spent

open Regime

variable {used : σ -> Int32 -> Prop} {live : σ -> Ledger} {request : Int32} {retired : Prop}
  {past log : List (Moment σ)} {present after : Situation σ}

/-- A further moment at which the target is not asked for a step. -/
theorem snoc {moment : Moment σ} (spent : Spent used live request retired log present)
    (stepless : moment.mark.Stepless) (sameTarget : after.target = present.target)
    (sameStep : after.records.step = present.records.step) :
    Spent used live request retired (log ++ [moment]) after where
  used := sameTarget ▸ spent.used
  unissued := List.forall_mem_append.mpr ⟨spent.unissued, List.forall_mem_singleton.mpr
    fun _ _ => Moment.not_createsStep stepless⟩
  gone ended := by
    rw [sameTarget, Situation.stepRequest, sameStep]
    exact spent.gone ended

/-- The step on record changes, but it does not become the one that has been retired. -/
theorem change {records : Records} (spent : Spent used live request retired log present)
    (other : retired -> records.step.map ActiveStep.request ≠ some request) :
    Spent used live request retired log { present with records } :=
  ⟨spent.used, spent.unissued, fun ended => ⟨(spent.gone ended).1, other ended⟩⟩

variable (afresh : NumbersAfresh target used) (clean : FailsCleanly target live)
include afresh clean

/-- Whatever the target is asked, it does not give out the number again. -/
theorem asked {query : Request} {outcome : Outcome TargetError query.Answer}
    (spent : Spent used live request retired log present)
    (responded : (target.respond query present.target).outcome = outcome)
    (finished : outcome ≠ .unfinished) (stays : query ≠ .detach) :
    Spent used live request retired (log ++ [.asking target query present])
      (present.answered target query) where
  used := afresh.remembers query present.target request spent.used
  unissued := by
    refine List.forall_mem_append.mpr ⟨spent.unissued, List.forall_mem_singleton.mpr ?_⟩
    intro thread scope creates
    obtain ⟨filter, rfl, granted⟩ := granted_of_createsStep creates
    exact (afresh.fresh thread scope filter _ request granted).1 spent.used
  gone ended := by
    refine ⟨fun alive => ?_, (spent.gone ended).2⟩
    cases outcome with
    | unfinished => exact finished rfl
    | failed error =>
        rw [clean.of_failed responded stays] at alive
        exact (spent.gone ended).1 alive
    | ok answer =>
        by_cases creates : query.kind = .createStep
        · cases query with
          | createStep thread scope filter =>
              have entered : (live (present.answered target
                  (.createStep thread scope filter)).target).steps
                    ⊆ insert (answer : Int32) (live present.target).steps :=
                clean.answered responded
              rcases Finset.mem_insert.mp (entered alive) with same | member
              · subst same
                exact (afresh.fresh thread scope filter _ _ responded).1 spent.used
              · exact (spent.gone ended).1 member
          | _ => cases creates
        · exact (spent.gone ended).1 (clean.of_ok responded creates stays alive)

/-! ### Computations under which it stays so -/

omit afresh clean in
theorem keeps {isLoss : ε -> Bool} {act : Dialogue σ ε α}
    (reaches : forall past present, Spent used live request retired past present ->
      act.Reaches ⟨fun _ => Spent used live request retired, fun _ => True⟩
        (fun _ => Spent used live request retired) past present) :
    (spending used live request retired).Keeps isLoss act :=
  fun past present spent => (reaches past present spent).imp
    (fun _ _ _ spent => failed_of_both trivial spent) (fun _ _ => trivial) fun _ _ _ spent => spent

theorem listing {isLoss : ε -> Bool} {act : Dialogue σ ε α}
    (listing : Lineless.Listing target act) :
    (spending used live request retired).Keeps isLoss act := by
  refine keeps (Lineless.reaches listing ?_ ?_ ?_)
  · exact fun line log situation spent => spent.snoc trivial rfl rfl
  · intro query unstepping log situation spent finished
    refine spent.asked afresh clean rfl finished ?_
    rintro rfl
    cases unstepping.1
  · intro f relists log situation spent
    obtain ⟨breakpoints, same⟩ := relists situation.records
    refine spent.change fun ended => ?_
    rw [same]
    exact (spent.gone ended).2

/-- A step that could not be given up is put back on record, and it is still another one. -/
theorem dropStep :
    (spending used live request retired).Keeps TargetError.isDisconnect (dropStep target) := by
  refine keeps fun past present spent => ?_
  unfold Session.dropStep
  rw [Act.reaches_bind, reaches_records]
  cases active : present.records.step with
  | none => exact Act.reaches_pure.mpr spent
  | some previous =>
      have dropped : Spent used live request retired past
          { present with records := { present.records with step := none } } :=
        spent.change fun _ => nofun
      rw [Act.reaches_bind, reaches_change, Act.reaches_bind, Act.reaches_attempt]
      refine Accurate.deleteRequest_reaches ?_ ?_ trivial
      · intro outcome responded deleted
        exact Act.reaches_pure.mpr (dropped.asked afresh clean responded deleted.finished nofun)
      · intro error responded kept
        dsimp only
        rw [Act.reaches_bind, reaches_change, Act.reaches_fail]
        refine (dropped.asked afresh clean responded nofun nofun).change fun ended => ?_
        have other := (spent.gone ended).2
        rw [Situation.stepRequest, active] at other
        exact other

theorem requestStep (thread : UInt64) (scope : StepScope) :
    (spending used live request retired).Keeps TargetError.isDisconnect
      (requestStep target thread scope) := by
  refine (dropStep afresh clean).bind fun _ => keeps fun past present spent => ?_
  rw [Act.reaches_bind, reaches_records]
  refine Act.reaches_bind.mpr (Reaches.ask ?_ ?_ fun _ => trivial)
  · intro (answer : Int32) responded
    refine reaches_change.mpr ((spent.asked afresh clean responded nofun nofun).change ?_)
    rintro ended same
    cases same
    exact (afresh.fresh thread scope _ _ _ responded).1 spent.used
  · exact fun error responded => spent.asked afresh clean responded nofun nofun

/-- Whatever step is retired, it is not put on record. -/
theorem retireStep (completed : Int32) :
    (spending used live request retired).Keeps TargetError.isDisconnect
      (retireStep target completed) := by
  refine keeps fun past present spent => ?_
  refine Act.reaches_bind.mpr (Accurate.deleteRequest_reaches ?_ ?_ trivial)
  · intro outcome responded deleted
    have asked := spent.asked afresh clean responded deleted.finished nofun
    refine reaches_change.mpr (asked.change fun ended => ?_)
    split
    · exact nofun
    · exact (spent.gone ended).2
  · exact fun error responded _ => spent.asked afresh clean responded nofun nofun

theorem attends : (spending used live request retired).Attends target where
  say _ spent := spent.snoc trivial rfl rfl
  inspect query inspects :=
    listing afresh clean (.ask (Lineless.unstepping_of_inspects query inspects))
  expect spent := ⟨spent.used, spent.unissued, spent.gone⟩
  read _ spent := spent.snoc trivial rfl rfl
  leave _ _ _ := trivial
  inputEnds _ := trivial
  setBreakpoint classId line := listing afresh clean (.setBreakpoint classId line)
  deleteBreakpoint line := listing afresh clean (.deleteBreakpoint line)
  requestStep := requestStep afresh clean
  haltAt spent := spent.change fun ended => (spent.gone ended).2
  turnTo _ spent := spent.snoc trivial rfl rfl
  consult spent := spent.snoc trivial rfl rfl
  retireStep := retireStep afresh clean

/-! ### The step is retired -/

theorem retires (spent : Spent used live request False past present) :
    (Session.retireStep target request).Reaches (.anyway fun _ => True)
      (fun _ => Spent used live request True) past present := by
  refine Act.reaches_bind.mpr (Accurate.deleteRequest_reaches ?_ (fun _ _ _ => trivial) trivial)
  intro outcome responded deleted
  have asked := spent.asked afresh clean responded deleted.finished nofun
  have other : (present.retired target request).stepRequest ≠ some request :=
    retired_stepRequest_ne
  refine reaches_change.mpr ⟨asked.used, asked.unissued, fun _ => ⟨fun alive => ?_, other⟩⟩
  exact Finset.notMem_erase _ _ ((clean.of_deleted responded deleted).2 alive)

theorem dispatch_retires (consulted : Bool) (thread : UInt64) (location : Location)
    (spent : Spent used live request False past present) :
    (dispatch target consulted (.stepCompleted request thread location)).Reaches
      (.anyway fun _ => True) (spending used live request True).afterEvent past present := by
  have attends : (spending used live request False).Attends target := attends afresh clean
  let halted := present.haltedAt ⟨thread, location.classId⟩
  have told : Spent used live request False (past ++ [⟨halted, .said (stepLine location)⟩])
      halted := (attends.haltAt spent).snoc trivial rfl rfl
  refine Act.reaches_bind.mpr (reaches_change.mpr (Act.reaches_bind.mpr (reaches_say.mpr ?_)))
  have shown := attends.shows.sayHaltVariables (attends.frameVariables thread) _ _ told
  refine Act.Reaches.bind (shown.imp (fun _ _ _ _ => trivial) (fun _ _ => trivial)
    fun _ _ _ spent => spent) fun _ log between spent => ?_
  refine (retires afresh clean spent).bind fun _ log between spent => ?_
  have receives : (spending used live request True).Receives target ⟨thread, location.classId⟩ :=
    (Spent.attends afresh clean).receives _
  exact (receives.consult_reaches consulted log between spent).imp (fun _ _ _ _ => trivial)
    (fun _ _ => trivial) fun _ _ _ after => after

end Spent

end Session
end LineDebugger
