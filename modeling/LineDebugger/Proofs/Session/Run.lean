import LineDebugger.Proofs.Session.Interpreter

namespace LineDebugger

/-- The halt that an event brings about. -/
def Debuggee.TargetEvent.halt? : Debuggee.TargetEvent -> Option Session.HaltContext
  | .classPrepared thread classId _ => some ⟨thread, classId⟩
  | .breakpointHit _ thread location => some ⟨thread, location.classId⟩
  | .stepCompleted _ thread location => some ⟨thread, location.classId⟩
  | .disconnected | .other => none

namespace Session

open Debuggee

/-!
# A run keeps every regime until it ends

Events are handled under the laws of a conversation and a few more, and a run drains batches
of events under the laws for the requests that no conversation makes.  A regime that obeys
them holds until the session ends, and the three ways to end are told apart by what is true
when they come about.

A regime may be another one for each event.  A run asks for no more than that every event
leads from what holds before it to what holds after it.
-/

variable {σ ε : Type} {regime : Regime σ} {target : Target σ}

/-- Give up what was asked of a target that is gone. -/
def Situation.abandon (situation : Situation σ) : Situation σ :=
  { situation with records := situation.records.abandon }

theorem reaches_connectionLost {exits : Exits (Situation σ) (Moment σ) ε}
    {goal : SessionEnd -> List (Moment σ) -> Situation σ -> Prop} {past : List (Moment σ)}
    {situation : Situation σ} :
    (connectionLost : Dialogue σ ε SessionEnd).Reaches exits goal past situation ↔
      goal .connectionLost (past ++ [⟨situation, .said lossNotice⟩]) situation.abandon := by
  unfold connectionLost
  rw [Act.reaches_bind, reaches_say, Act.reaches_bind, reaches_change, Act.reaches_pure]
  exact Iff.rfl

/-- Commands apply to a halt from now on. -/
def Situation.haltedAt (context : HaltContext) (situation : Situation σ) : Situation σ :=
  { situation with records := { situation.records with context := some context } }

/-- Whether a session has failed because the target is gone. -/
def SessionError.isLoss (error : SessionError) : Bool := error = .targetDisconnected

namespace Regime

/-- The laws of a regime under which events can be handled. -/
structure Attends (regime : Regime σ) (target : Target σ) : Prop
    extends regime.Converses target where
  haltAt : forall {context log situation}, regime.holds log situation ->
    regime.holds log
      { situation with records := { situation.records with context := some context } }
  turnTo : forall {event log situation}, event ≠ .disconnected ->
    regime.holds log situation -> regime.holds (log ++ [⟨situation, .turnedTo event⟩]) situation
  consult : forall {log situation}, regime.holds log situation ->
    regime.holds (log ++ [⟨situation, .consulted⟩]) situation
  retireStep : forall request,
    regime.Keeps TargetError.isDisconnect (retireStep target request)

/-- The laws of a regime for the time between batches. -/
structure Awaits (regime : Regime σ) (target : Target σ) : Prop where
  nextEvents : regime.Keeps TargetError.isDisconnect (Dialogue.ask target .nextEvents)
  resume : regime.Keeps TargetError.isDisconnect (Dialogue.ask target .resume)
  watch : forall pattern,
    regime.Keeps TargetError.isDisconnect (Dialogue.ask target (.watchClassPrepare pattern))
  pause : forall {log situation}, regime.holds log situation -> regime.waiting log

/-- The laws of a regime under which batches can be drained. -/
structure Governs (regime : Regime σ) (target : Target σ) : Prop
    extends regime.Attends target, regime.Awaits target

/-- What is true after an event: the regime goes on, or the operator has left. -/
def afterEvent (regime : Regime σ) : Course -> List (Moment σ) -> Situation σ -> Prop
  | .goOn _ => regime.holds
  | .finish reason => fun log situation => reason = .operatorExit ∧ regime.left log situation

/-- The laws of a regime under which a halt can be announced and the operator consulted. -/
structure Receives (regime : Regime σ) (target : Target σ) (context : HaltContext) : Prop
    extends regime.Shows target where
  locals : regime.Keeps TargetError.isDisconnect (frameVariables target context.thread)
  retireStep : forall request,
    regime.Keeps TargetError.isDisconnect (retireStep target request)
  consult : forall {log situation}, regime.holds log situation ->
    (consult target false).Reaches (regime.exits TargetError.isDisconnect) regime.afterEvent
      log situation

/-- The law of a regime that events lead back to, whatever else holds while one is handled. -/
structure Handles (regime : Regime σ) (target : Target σ) : Prop extends regime.Speaks where
  handle : forall consulted {event log situation}, event ≠ .disconnected ->
    regime.holds log situation ->
    (dispatch target consulted event).Reaches (regime.exits TargetError.isDisconnect)
      regime.afterEvent (log ++ [⟨situation, .turnedTo event⟩]) situation

/-- The laws of a regime that batches lead back to. -/
structure Drains (regime : Regime σ) (target : Target σ) : Prop
    extends regime.Handles target, regime.Awaits target

/-- The end of a session, by what was true when it came about. -/
inductive Ended (regime : Regime σ) : SessionEnd -> List (Moment σ) -> Situation σ -> Prop where
  | reported {log : List (Moment σ)} {situation : Situation σ} :
      regime.holds log situation ->
      Ended regime .disconnected
        (log ++ [⟨situation, .turnedTo .disconnected⟩, ⟨situation, .said endNotice⟩])
        situation.abandon
  | lost {log : List (Moment σ)} {situation : Situation σ} :
      regime.lost log situation ->
      Ended regime .connectionLost (log ++ [⟨situation, .said lossNotice⟩]) situation.abandon
  | left {log : List (Moment σ)} {situation : Situation σ} :
      regime.left log situation -> Ended regime .operatorExit log situation

/-- The end of a whole session.  A target that is still there is released after the
operator has left. -/
inductive Released (regime : Regime σ) (target : Target σ) :
    SessionEnd -> List (Moment σ) -> Situation σ -> Prop where
  | released {log : List (Moment σ)} {situation : Situation σ} :
      regime.left log situation ->
      Released regime target .operatorExit (log ++ [.asking target .detach situation])
        (situation.answered target .detach)
  | gone {reason : SessionEnd} {log : List (Moment σ)} {situation : Situation σ} :
      reason ≠ .operatorExit -> regime.Ended reason log situation ->
      Released regime target reason log situation

/-- What is true of a whole session that fails at its opening, or that is left waiting. -/
def opening (regime : Regime σ) (target : Target σ) :
    Exits (Situation σ) (Moment σ) SessionError where
  failed := (regime.exits SessionError.isLoss).failed
  unfinished log := regime.waiting log ∨
    exists before situation, regime.left before situation ∧
      log = before ++ [.asking target .detach situation]

theorem opening_failed {error : SessionError} {log : List (Moment σ)} {situation : Situation σ} :
    (regime.opening target).failed error log situation ↔
      (error = .targetDisconnected ∧ regime.lost log situation) ∨
        (error ≠ .targetDisconnected ∧ regime.holds log situation) := by
  change (regime.exits SessionError.isLoss).failed error log situation ↔ _
  rw [exits_failed, SessionError.isLoss, decide_eq_true_iff, decide_eq_false_iff_not]

/-- A computation that cannot fail. -/
def unfailing (regime : Regime σ) : Exits (Situation σ) (Moment σ) ε where
  failed _ _ _ := False
  unfinished := regime.waiting

/-- What is true after events: the regime goes on, or the session has ended. -/
def afterEvents (regime : Regime σ) : Option SessionEnd -> List (Moment σ) -> Situation σ -> Prop
  | none => regime.holds
  | some reason => regime.Ended reason

theorem connectionLost_reaches {past : List (Moment σ)} {situation : Situation σ}
    (lost : regime.lost past situation) :
    (connectionLost : Dialogue σ ε SessionEnd).Reaches regime.unfailing regime.Ended
      past situation :=
  reaches_connectionLost.mpr (.lost lost)

theorem someConnectionLost_reaches {past : List (Moment σ)} {situation : Situation σ}
    (lost : regime.lost past situation) :
    (do return some (← connectionLost) : Dialogue σ ε (Option SessionEnd)).Reaches
      regime.unfailing regime.afterEvents past situation :=
  (connectionLost_reaches lost).bind fun _ _ _ ended => Act.reaches_pure.mpr ended

theorem Serves.consult_reaches {concern : HaltContext -> Prop}
    (laws : regime.Serves target concern) {past : List (Moment σ)} {situation : Situation σ}
    (holds : regime.holds (past ++ [⟨situation, .consulted⟩]) situation) :
    (Session.consult target false).Reaches (regime.exits TargetError.isDisconnect)
      regime.afterEvent past situation := by
  unfold Session.consult
  rw [if_neg Bool.false_ne_true, Act.reaches_bind, reaches_note]
  refine (laws.interpret _ situation holds).bind ?_
  intro handover log situation after
  cases handover with
  | exited => exact Act.reaches_pure.mpr ⟨rfl, after.2⟩
  | resumed => exact Act.reaches_pure.mpr after.2
  | stepped => exact Act.reaches_pure.mpr after.2

namespace Receives

variable {context : HaltContext} (laws : regime.Receives target context)
include laws

theorem consult_reaches (consulted : Bool) (past : List (Moment σ)) (situation : Situation σ)
    (holds : regime.holds past situation) :
    (Session.consult target consulted).Reaches (regime.exits TargetError.isDisconnect)
      regime.afterEvent past situation := by
  cases consulted with
  | true => exact Act.reaches_pure.mpr holds
  | false => exact laws.consult holds

/-- Handling a halt keeps a regime that holds once commands apply to this halt. -/
theorem dispatch_reaches (consulted : Bool) {event : TargetEvent}
    (halts : event.halt? = some context) (past : List (Moment σ)) (situation : Situation σ)
    (holds : regime.holds past (situation.haltedAt context)) :
    (dispatch target consulted event).Reaches (regime.exits TargetError.isDisconnect)
      regime.afterEvent past situation := by
  have locals := laws.sayHaltVariables laws.locals
  cases event with
  | classPrepared thread classId className =>
      cases halts
      refine Act.reaches_bind.mpr (reaches_change.mpr ?_)
      have plain : Plain (className ++ " loaded") :=
        plain_of_last 'd' (by simp) (by decide)
      refine (laws.keepsSay plain _ _ holds).bind fun _ log situation holds => ?_
      exact laws.consult_reaches consulted log situation holds
  | breakpointHit request thread location =>
      cases halts
      refine Act.reaches_bind.mpr (reaches_change.mpr ?_)
      have plain : Plain (breakpointLine location) := by
        unfold breakpointLine
        simp only [String.append_assoc]
        exact plain_append 'b' _ (by decide) (by decide)
      refine (laws.keepsSay plain _ _ holds).bind fun _ log situation holds => ?_
      refine (locals _ _ holds).bind fun _ log situation holds => ?_
      exact laws.consult_reaches consulted log situation holds
  | stepCompleted request thread location =>
      cases halts
      refine Act.reaches_bind.mpr (reaches_change.mpr ?_)
      have plain : Plain (stepLine location) := by
        unfold stepLine
        simp only [String.append_assoc]
        exact plain_append 's' _ (by decide) (by decide)
      refine (laws.keepsSay plain _ _ holds).bind fun _ log situation holds => ?_
      refine (locals _ _ holds).bind fun _ log situation holds => ?_
      refine (laws.retireStep request _ _ holds).bind fun _ log situation holds => ?_
      exact laws.consult_reaches consulted log situation holds
  | disconnected => cases halts
  | other => cases halts

end Receives

namespace Handles

variable (laws : regime.Handles target)
include laws

/-- The induction is on the events; one that ends the session hides those after it. -/
theorem dispatchAll_reaches (events : List TargetEvent) (consulted : Bool) :
    forall past situation, regime.holds past situation ->
      (dispatchAll target consulted events : Dialogue σ ε (Option SessionEnd)).Reaches
        regime.unfailing regime.afterEvents past situation := by
  induction events generalizing consulted with
  | nil => exact fun past situation holds => Act.reaches_pure.mpr holds
  | cons event others inductionHypothesis =>
      intro past situation holds
      unfold dispatchAll
      rw [Act.reaches_bind, reaches_note, Act.reaches_bind, Act.reaches_attempt]
      by_cases ends : event = .disconnected
      · subst ends
        unfold dispatch
        rw [Act.reaches_bind, reaches_say, Act.reaches_bind, reaches_change, Act.reaches_pure,
          Act.reaches_pure, List.append_assoc]
        exact Ended.reported holds
      · refine (laws.handle consulted ends holds).imp ?_ (fun _ owed => owed) ?_
        · intro error log situation owed
          rcases exits_failed.mp owed with ⟨gone, lost⟩ | ⟨harmless, holds⟩
          · simp only [gone, if_true]
            exact someConnectionLost_reaches lost
          · simp only [harmless, Bool.false_eq_true, if_false]
            have plain : Plain ("error while handling event: " ++ error.message) :=
              plain_append 'e' _ (by decide) (by decide)
            rw [Act.reaches_bind, reaches_say]
            exact inductionHypothesis consulted _ situation (laws.say plain holds)
        · intro course log situation after
          cases course with
          | goOn consulted => exact inductionHypothesis consulted log situation after
          | finish reason =>
              obtain ⟨rfl, left⟩ := after
              exact Act.reaches_pure.mpr (Ended.left left)

end Handles

namespace Drains

variable (laws : regime.Drains target)
include laws

theorem resumeTarget_reaches {past : List (Moment σ)} {situation : Situation σ}
    (holds : regime.holds past situation) :
    (resumeTarget target : Dialogue σ ε (Option SessionEnd)).Reaches regime.unfailing
      regime.afterEvents past situation := by
  unfold resumeTarget
  rw [Act.reaches_bind, Act.reaches_attempt]
  refine (laws.resume _ situation holds).imp ?_ (fun _ owed => owed)
    (fun _ _ _ holds => Act.reaches_pure.mpr holds)
  intro error log situation owed
  rcases exits_failed.mp owed with ⟨gone, lost⟩ | ⟨harmless, holds⟩
  · simp only [gone, if_true]
    exact someConnectionLost_reaches lost
  · simp only [harmless, Bool.false_eq_true, if_false]
    have plain : Plain ("error while resuming: " ++ error.message) :=
      plain_append 'e' _ (by decide) (by decide)
    rw [Act.reaches_bind, reaches_say, Act.reaches_pure]
    exact laws.say plain holds

theorem dispatchBatch_reaches (batch : EventBatch) {past : List (Moment σ)}
    {situation : Situation σ} (holds : regime.holds past situation) :
    (dispatchBatch target batch : Dialogue σ ε (Option SessionEnd)).Reaches regime.unfailing
      regime.afterEvents past situation := by
  refine (laws.dispatchAll_reaches batch.events false past situation holds).bind ?_
  intro result log situation after
  cases result with
  | some reason => exact Act.reaches_pure.mpr after
  | none =>
      cases batch.suspended with
      | true => exact laws.resumeTarget_reaches after
      | false => exact Act.reaches_pure.mpr after

/-- The induction is on the rounds; the regime at the end of one round is the regime at the
beginning of the next. -/
theorem run_reaches (rounds : Nat) : forall past situation, regime.holds past situation ->
    (run target rounds : Dialogue σ ε SessionEnd).Reaches regime.unfailing regime.Ended
      past situation := by
  induction rounds with
  | zero => exact fun past situation holds => Act.reaches_wait.mpr (laws.pause holds)
  | succ rounds inductionHypothesis =>
      intro past situation holds
      unfold run
      rw [Act.reaches_bind, Act.reaches_attempt]
      refine (laws.nextEvents _ situation holds).imp ?_ (fun _ owed => owed) ?_
      · intro error log situation owed
        rcases exits_failed.mp owed with ⟨gone, lost⟩ | ⟨harmless, holds⟩
        · simp only [gone, if_true]
          exact connectionLost_reaches lost
        · simp only [harmless, Bool.false_eq_true, if_false]
          have plain : Plain ("error while waiting for events: " ++ error.message) :=
            plain_append 'e' _ (by decide) (by decide)
          rw [Act.reaches_bind, reaches_say]
          exact inductionHypothesis _ situation (laws.say plain holds)
      · intro batch log situation holds
        refine (laws.dispatchBatch_reaches batch holds).bind ?_
        intro result log situation after
        cases result with
        | some reason => exact Act.reaches_pure.mpr after
        | none => exact inductionHypothesis log situation after

/-! ## Whole sessions -/

omit laws in
theorem detach_reaches {past : List (Moment σ)} {situation : Situation σ}
    (left : regime.left past situation) :
    (Dialogue.ask target .detach).attempt.Reaches (regime.opening target)
      (fun (_ : Except TargetError Unit) => regime.Released target .operatorExit)
      past situation := by
  refine Act.reaches_attempt.mpr (Reaches.ask ?_ ?_ ?_)
  · exact fun _ _ => .released left
  · exact fun _ _ => .released left
  · exact fun _ => Or.inr ⟨past, situation, left, rfl⟩

theorem start_reaches (rounds : Nat) (past : List (Moment σ)) (situation : Situation σ)
    (holds : regime.holds past situation) :
    (start target rounds).Reaches (regime.opening target) (regime.Released target)
      past situation := by
  have greets : regime.Keeps SessionError.isLoss
      (Dialogue.sayAll greeting : Dialogue σ SessionError Unit) := laws.keepsSayAll (by decide)
  have greeted : (Dialogue.sayAll greeting : Dialogue σ SessionError Unit).Reaches
      (regime.opening target) (fun _ => regime.holds) past situation :=
    (greets past situation holds).imp (fun _ _ _ owed => owed) (fun _ owed => Or.inl owed)
      (fun _ _ _ holds => holds)
  unfold start
  refine greeted.bind fun _ log situation holds => ?_
  rw [Act.reaches_bind, reaches_records]
  refine Act.reaches_bind.mpr (Act.reaches_attempt.mpr ((laws.watch _ _ _ holds).imp
    (fun error log situation owed => ?_) (fun _ owed => Or.inl owed)
    (fun request log situation holds => ?_)))
  · rcases exits_failed.mp owed with ⟨gone, lost⟩ | ⟨harmless, holds⟩
    · simp only [gone, if_true]
      exact Act.reaches_fail.mpr (opening_failed.mpr (Or.inl ⟨rfl, lost⟩))
    · simp only [harmless, Bool.false_eq_true, if_false]
      exact Act.reaches_fail.mpr (opening_failed.mpr (Or.inr ⟨nofun, holds⟩))
  · refine ((laws.run_reaches rounds log situation holds).imp (fun _ _ _ owed => owed.elim)
      (fun _ owed => Or.inl owed) (fun _ _ _ ended => ended)).bind
      fun reason log situation ended => ?_
    dsimp only
    by_cases operator : reason = .operatorExit
    · rw [if_pos operator]
      subst operator
      cases ended with
      | left left =>
          exact (detach_reaches left).bind fun _ _ _ released => Act.reaches_pure.mpr released
    · rw [if_neg operator]
      exact Act.reaches_pure.mpr (.gone operator ended)

end Drains

/-! ## One regime for every event -/

namespace Attends

variable (laws : regime.Attends target)
include laws

theorem receives (context : HaltContext) : regime.Receives target context where
  toShows := laws.shows
  locals := laws.frameVariables context.thread
  retireStep := laws.retireStep
  consult holds := laws.serves.consult_reaches (laws.consult holds)

/-- Handling an event keeps the regime, unless the event is the end of the debuggee. -/
theorem handles : regime.Handles target where
  toSpeaks := laws.toSpeaks
  handle consulted event log situation goesOn holds := by
    have turned := laws.turnTo goesOn holds
    cases halts : event.halt? with
    | some context =>
        exact (laws.receives context).dispatch_reaches consulted halts _ situation
          (laws.haltAt turned)
    | none =>
        cases event with
        | disconnected => exact absurd rfl goesOn
        | other => exact Act.reaches_pure.mpr turned
        | _ => cases halts

theorem dispatchAll_reaches (events : List TargetEvent) (consulted : Bool)
    (past : List (Moment σ)) (situation : Situation σ) (holds : regime.holds past situation) :
    (dispatchAll target consulted events : Dialogue σ ε (Option SessionEnd)).Reaches
      regime.unfailing regime.afterEvents past situation :=
  laws.handles.dispatchAll_reaches events consulted past situation holds

end Attends

namespace Governs

variable (laws : regime.Governs target)
include laws

theorem drains : regime.Drains target where
  toHandles := laws.handles
  toAwaits := laws.toAwaits

theorem run_reaches (rounds : Nat) (past : List (Moment σ)) (situation : Situation σ)
    (holds : regime.holds past situation) :
    (run target rounds : Dialogue σ ε SessionEnd).Reaches regime.unfailing regime.Ended
      past situation :=
  laws.drains.run_reaches rounds past situation holds

theorem start_reaches (rounds : Nat) (past : List (Moment σ)) (situation : Situation σ)
    (holds : regime.holds past situation) :
    (start target rounds).Reaches (regime.opening target) (regime.Released target)
      past situation :=
  laws.drains.start_reaches rounds past situation holds

end Governs
end Regime
end Session
end LineDebugger
