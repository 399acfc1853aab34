import LineDebugger.Proofs.Session.Regime
import LineDebugger.Session.Run

namespace LineDebugger

/-- The events that halt a thread. -/
def Debuggee.TargetEvent.halts : Debuggee.TargetEvent -> Bool
  | .classPrepared .. | .breakpointHit .. | .stepCompleted .. => true
  | .disconnected | .other => false

namespace Session

open Debuggee

/-!
# How a halt is announced

An event that halts a thread is announced before the operator is consulted about it.  The
announcement asks the target for variables and, if a step is complete, to delete its
request.  Variables that cannot be read are reported and passed over.  A request that
cannot be deleted is not passed over: the failure breaks the announcement off.

What hinders an announcement can be read off its last mark, and this is all that can be
said of it in advance.  The rule at the end says so for every event that halts a thread.
-/

variable {σ : Type}

/-! ## Announcements -/

/-- A mark made while an event is announced.  The only event request that is deleted is that
of a completed step. -/
def Mark.Announces (event : TargetEvent) : Mark -> Prop
  | .said _ => True
  | .asked request _ _ => request.kind.inspects = true ∨
      exists completed thread location, event = .stepCompleted completed thread location ∧
        request = .deleteStep completed
  | _ => False

/-- What keeps an announcement from being finished. -/
inductive Hindrance where
  /-- The target owes an answer. -/
  | waiting
  /-- The target is gone. -/
  | lost
  /-- The request of a completed step could not be deleted. -/
  | kept (error : TargetError)
  deriving DecidableEq, Repr

def Hindrance.ofError (error : TargetError) : Hindrance :=
  if error.isDisconnect then .lost else .kept error

theorem Hindrance.ofError_lost {error : TargetError} (gone : error.isDisconnect = true) :
    Hindrance.ofError error = .lost := if_pos gone

theorem Hindrance.ofError_kept {error : TargetError} (harmless : error.isDisconnect = false) :
    Hindrance.ofError error = .kept error :=
  if_neg (by rw [harmless]; exact Bool.false_ne_true)

/-- The hindrance that a mark shows. -/
def Mark.hindrance? : Mark -> Option Hindrance
  | .asked _ .unfinished _ => some .waiting
  | .asked _ (.failed (.notAvailable _)) _ => some .lost
  | .asked (.deleteStep _) (.failed (.other reason)) _ => some (.kept (.other reason))
  | _ => none

/-- A request that only looks at the debuggee is no hindrance if it fails, unless the target
is gone. -/
theorem hindrance?_asking {target : Target σ} {request : Request} {situation : Situation σ}
    {outcome : Outcome TargetError request.Answer} (looks : request.kind.inspects = true)
    (responded : (target.respond request situation.target).outcome = outcome) :
    (Moment.asking target request situation).mark.hindrance? =
      match outcome with
      | .unfinished => some .waiting
      | .failed (.notAvailable _) => some .lost
      | _ => none := by
  rw [Moment.asking_eq responded]
  cases outcome with
  | ok answer => cases request <;> rfl
  | failed error => cases error <;> cases request <;> first | rfl | cases looks
  | unfinished => cases request <;> rfl

/-- An announcement that nothing has hindered. -/
def Smooth (event : TargetEvent) (log : List (Moment σ)) : Prop :=
  forall moment, moment ∈ log -> moment.mark.Announces event ∧ moment.mark.hindrance? = none

/-- An announcement that has been broken off. -/
def HinderedBy (event : TargetEvent) (hindrance : Hindrance) (log : List (Moment σ)) : Prop :=
  exists smooth last, log = smooth ++ [last] ∧ Smooth event smooth ∧ last.mark.Announces event ∧
    last.mark.hindrance? = some hindrance

theorem smooth_nil (event : TargetEvent) : Smooth event ([] : List (Moment σ)) :=
  List.forall_mem_nil _

theorem Smooth.snoc {event : TargetEvent} {log : List (Moment σ)} {moment : Moment σ}
    (smooth : Smooth event log) (announces : moment.mark.Announces event)
    (unhindered : moment.mark.hindrance? = none) : Smooth event (log ++ [moment]) :=
  List.forall_mem_append.mpr ⟨smooth, List.forall_mem_singleton.mpr ⟨announces, unhindered⟩⟩

/-- The regime of an announcement that began after the marks `earlier`. -/
def announcing (event : TargetEvent) (earlier : List (Moment σ)) : Regime σ where
  holds log _ := exists own, log = earlier ++ own ∧ Smooth event own
  lost log _ := exists own, log = earlier ++ own ∧ HinderedBy event .lost own
  left _ _ := False
  waiting log := exists own, log = earlier ++ own ∧ HinderedBy event .waiting own

/-- What an announcement owes when it is broken off. -/
def broken (event : TargetEvent) (earlier : List (Moment σ)) :
    Exits (Situation σ) (Moment σ) TargetError :=
  Exits.after ⟨fun error log _ => HinderedBy event (.ofError error) log,
    HinderedBy event .waiting⟩ earlier

/-- The debts of a computation that fails only when the target is gone. -/
def firm : Exits (Situation σ) (Moment σ) TargetError where
  failed error _ _ := error.isDisconnect = true
  unfinished _ := True

namespace Announcing

open Regime

variable {event : TargetEvent} {earlier past : List (Moment σ)} {target : Target σ}
  {situation : Situation σ}

theorem snoc {moment : Moment σ} {after : Situation σ}
    (holds : (announcing event earlier).holds past situation)
    (announces : moment.mark.Announces event)
    (unhindered : moment.mark.hindrance? = none) :
    (announcing event earlier).holds (past ++ [moment]) after := by
  obtain ⟨own, rfl, smooth⟩ := holds
  exact ⟨own ++ [moment], List.append_assoc _ _ _, smooth.snoc announces unhindered⟩

theorem hinder {moment : Moment σ} {hindrance : Hindrance}
    (holds : (announcing event earlier).holds past situation)
    (announces : moment.mark.Announces event)
    (hindered : moment.mark.hindrance? = some hindrance) :
    exists own, past ++ [moment] = earlier ++ own ∧ HinderedBy event hindrance own := by
  obtain ⟨own, rfl, smooth⟩ := holds
  exact ⟨own ++ [moment], List.append_assoc _ _ _, own, moment, rfl, smooth, announces, hindered⟩

/-- Looking at the halted thread is hindered only by the loss of the target. -/
theorem keepsAsk (request : Request) (looks : request.kind.inspects = true) :
    (announcing event earlier).Keeps TargetError.isDisconnect (Dialogue.ask target request) := by
  intro past situation holds
  have announces : (Moment.asking target request situation).mark.Announces event :=
    Or.inl looks
  refine Reaches.ask ?_ ?_ ?_
  · exact fun answer responded => snoc holds announces (hindrance?_asking looks responded)
  · intro error responded
    have hindrance := hindrance?_asking looks responded
    cases error with
    | notAvailable reason =>
        exact exits_failed.mpr (Or.inl ⟨rfl, hinder holds announces hindrance⟩)
    | noSuchElement reason =>
        exact exits_failed.mpr (Or.inr ⟨rfl, snoc holds announces hindrance⟩)
    | other reason => exact exits_failed.mpr (Or.inr ⟨rfl, snoc holds announces hindrance⟩)
  · exact fun responded => hinder holds announces (hindrance?_asking looks responded)

theorem looks : (announcing event earlier).Looks target where
  say _ holds := snoc holds trivial rfl
  inspect := keepsAsk

/-! ### The variables at a halt -/

theorem renderValue_firm (value : Value) :
    (renderValue target value).Reaches firm
      (fun _ _ after => after.input = situation.input) past situation := by
  cases value with
  | array array =>
      refine Reaches.tryAsk (fun _ _ => Act.reaches_pure.mpr rfl) ?_ fun _ => trivial
      intro error responded
      dsimp only
      split
      · rename_i gone
        exact Act.reaches_fail.mpr gone
      · exact Act.reaches_pure.mpr rfl
  | _ => exact Act.reaches_pure.mpr rfl

theorem sayVariables_firm (shown : List LocalVariable) :
    (sayVariables target shown).Reaches firm
      (fun _ _ after => after.input = situation.input) past situation := by
  induction shown generalizing past situation with
  | nil => exact Act.reaches_pure.mpr rfl
  | cons first others inductionHypothesis =>
      refine (renderValue_firm first.value).bind fun value log after same => ?_
      rw [Act.reaches_bind, reaches_say]
      exact inductionHypothesis.widen fun _ _ _ later => later.trans same

theorem sayHaltVariables_firm (thread : UInt64) :
    (sayHaltVariables target thread).Reaches firm (fun _ _ _ => True) past situation := by
  unfold sayHaltVariables
  rw [Act.reaches_bind, Act.reaches_attempt]
  refine Act.reaches_somehow.imp ?_ (fun _ _ => trivial) fun _ _ _ _ =>
    (sayVariables_firm _).widen fun _ _ _ _ => trivial
  intro error log after _
  dsimp only
  split
  · rename_i gone
    exact Act.reaches_fail.mpr gone
  · exact reaches_say.mpr trivial

theorem sayHaltVariables_reaches (thread : UInt64)
    (holds : (announcing event earlier).holds past situation) :
    (sayHaltVariables target thread).Reaches (broken event earlier)
      (fun _ => (announcing event earlier).holds) past situation := by
  have laws : (announcing event earlier).Looks target := looks
  have reaches := laws.shows.sayHaltVariables (laws.frameVariables thread) past situation holds
  refine (reaches.both (sayHaltVariables_firm thread)).imp ?_ (fun _ owed => owed.1)
    fun _ _ _ held => held.1
  rintro error log after ⟨owed, gone⟩
  rcases exits_failed.mp owed with ⟨isLoss, own, rfl, hindered⟩ | ⟨harmless, _⟩
  · refine ⟨own, rfl, ?_⟩
    change HinderedBy event (.ofError error) own
    rw [Hindrance.ofError_lost isLoss]
    exact hindered
  · exact absurd (gone.symm.trans harmless) (by decide)

/-! ### The completed step -/

theorem retireStep_reaches {completed : Int32} {thread : UInt64} {location : Location}
    (holds : (announcing (.stepCompleted completed thread location) earlier).holds
      past situation) :
    (retireStep target completed).Reaches
      (broken (.stepCompleted completed thread location) earlier)
      (fun _ => (announcing (.stepCompleted completed thread location) earlier).holds)
      past situation := by
  have announces : (Moment.asking target (.deleteStep completed) situation).mark.Announces
      (.stepCompleted completed thread location) := Or.inr ⟨completed, thread, location, rfl, rfl⟩
  unfold retireStep deleteRequest
  refine Act.reaches_bind.mpr (Reaches.tryAsk ?_ ?_ ?_)
  · intro answer responded
    rw [Act.reaches_pure, reaches_change]
    exact snoc holds announces (by rw [Moment.asking_eq responded]; rfl)
  · intro error responded
    cases error with
    | notAvailable reason =>
        rw [Act.reaches_fail]
        exact hinder holds announces (by rw [Moment.asking_eq responded]; rfl)
    | noSuchElement reason =>
        rw [Act.reaches_pure, reaches_change]
        exact snoc holds announces (by rw [Moment.asking_eq responded]; rfl)
    | other reason =>
        rw [Act.reaches_fail]
        exact hinder holds announces (by rw [Moment.asking_eq responded]; rfl)
  · intro responded
    exact hinder holds announces (by rw [Moment.asking_eq responded]; rfl)

end Announcing

/-- An event that halts a thread is announced, and then the operator is consulted. -/
theorem Reaches.halt {target : Target σ} {event : TargetEvent} (halts : event.halts = true)
    {consulted : Bool} {exits : Exits (Situation σ) (Moment σ) TargetError}
    {goal : Course -> List (Moment σ) -> Situation σ -> Prop} {past : List (Moment σ)}
    {situation : Situation σ}
    (onward : forall announcement after, Smooth event announcement ->
      (consult target consulted).Reaches exits goal (past ++ announcement) after)
    (onFailure : forall error announcement after, HinderedBy event (.ofError error) announcement ->
      exits.failed error (past ++ announcement) after)
    (onWait : forall announcement, HinderedBy event .waiting announcement ->
      exits.unfinished (past ++ announcement)) :
    (dispatch target consulted event).Reaches exits goal past situation := by
  have fails : forall error log after, (broken event past).failed error log after ->
      exits.failed error log after := by
    rintro error _ after ⟨announcement, rfl, hindered⟩
    exact onFailure error announcement after hindered
  have waits : forall log, (broken event past).unfinished log -> exits.unfinished log := by
    rintro _ ⟨announcement, rfl, hindered⟩
    exact onWait announcement hindered
  have announced {line : String} (present after : Situation σ) :
      (announcing event past).holds (past ++ [⟨present, .said line⟩]) after :=
    ⟨_, rfl, (smooth_nil event).snoc trivial rfl⟩
  unfold dispatch
  cases event with
  | classPrepared thread classId className =>
      rw [Act.reaches_bind, haltAt, reaches_change, Act.reaches_bind, reaches_say]
      exact onward _ _ ((smooth_nil _).snoc trivial rfl)
  | breakpointHit request thread location =>
      dsimp only
      rw [Act.reaches_bind, haltAt, reaches_change, Act.reaches_bind, reaches_say]
      refine Act.reaches_bind.mpr
        ((Announcing.sayHaltVariables_reaches thread (announced _ _)).imp fails waits ?_)
      rintro _ _ after ⟨announcement, rfl, smooth⟩
      exact onward announcement after smooth
  | stepCompleted request thread location =>
      dsimp only
      rw [Act.reaches_bind, haltAt, reaches_change, Act.reaches_bind, reaches_say]
      refine Act.reaches_bind.mpr
        ((Announcing.sayHaltVariables_reaches thread (announced _ _)).imp fails waits ?_)
      intro _ _ _ holds
      refine Act.reaches_bind.mpr
        ((Announcing.retireStep_reaches holds).imp fails waits ?_)
      rintro _ _ after ⟨announcement, rfl, smooth⟩
      exact onward announcement after smooth
  | disconnected => cases halts
  | other => cases halts

end Session
end LineDebugger
