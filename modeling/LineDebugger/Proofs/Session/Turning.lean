import LineDebugger.Proofs.Session.Ending

namespace LineDebugger
namespace Session

open Debuggee

/-!
# The events of a batch, one after the other

The marks tell which events a session has turned to.  Nothing but the handling of a batch makes such
a mark, and it makes one for each event before it does anything else for it.  So when a batch has
been handled, all of its events have been turned to, in order.  When the session ends in the midst
of it, or when the target leaves a request without an answer, they have been turned to as far as the
event that is being handled, and no further.
-/

variable {σ ε : Type}

/-- The target is asked and responds with this outcome. -/
def Moment.Asks (moment : Moment σ) (request : Request)
    (outcome : Outcome TargetError request.Answer) : Prop :=
  exists exchanges, moment.mark = .asked request outcome exchanges

theorem asking_asks {target : Target σ} {request : Request} {situation : Situation σ}
    {outcome : Outcome TargetError request.Answer}
    (responded : (target.respond request situation.target).outcome = outcome) :
    (Moment.asking target request situation).Asks request outcome :=
  ⟨_, by rw [Moment.asking_eq responded]⟩

/-- The target owes an answer, and nothing has happened since it was asked. -/
def Unanswered (log : List (Moment σ)) : Prop :=
  exists front asked request, log = front ++ [asked] ∧ asked.Asks request .unfinished

theorem Unanswered.append {log : List (Moment σ)} (unanswered : Unanswered log)
    (earlier : List (Moment σ)) : Unanswered (earlier ++ log) := by
  obtain ⟨front, asked, request, rfl, asks⟩ := unanswered
  exact ⟨earlier ++ front, asked, request, (List.append_assoc ..).symm, asks⟩

/-! ## Events in a log -/

/-- The event that a mark is about, if the session turns to one. -/
def Mark.event? : Mark -> Option TargetEvent
  | .turnedTo event => some event
  | _ => none

/-- The events that the session has turned to, in order. -/
def turnedTo (log : List (Moment σ)) : List TargetEvent :=
  log.filterMap fun moment => moment.mark.event?

theorem turnedTo_append (log later : List (Moment σ)) :
    turnedTo (log ++ later) = turnedTo log ++ turnedTo later :=
  List.filterMap_append

theorem turnedTo_snoc {moment : Moment σ} (silent : moment.mark.event? = none)
    (log : List (Moment σ)) : turnedTo (log ++ [moment]) = turnedTo log := by
  simp [turnedTo, silent]

/-- The session has turned to some of the events in order, and the last of them is being
handled. -/
def StoppedIn (events : List TargetEvent) (log : List (Moment σ)) : Prop :=
  exists handled event ahead,
    events = handled ++ event :: ahead ∧ turnedTo log = handled ++ [event]

theorem StoppedIn.cons {event : TargetEvent} {events : List TargetEvent}
    {log later : List (Moment σ)} (turned : turnedTo log = [event])
    (stopped : StoppedIn events later) : StoppedIn (event :: events) (log ++ later) := by
  obtain ⟨handled, present, ahead, rfl, same⟩ := stopped
  refine ⟨event :: handled, present, ahead, rfl, ?_⟩
  rw [turnedTo_append, turned, same]
  rfl

theorem stoppedIn_snoc {moment : Moment σ} (silent : moment.mark.event? = none)
    {events : List TargetEvent} {log : List (Moment σ)} :
    StoppedIn events (log ++ [moment]) ↔ StoppedIn events log := by
  simp only [StoppedIn, turnedTo_snoc silent]

/-! ## One event -/

/-- The session has turned to these events, and not to another one.  If it is left waiting, then for
an answer. -/
def turning (turned : List TargetEvent) : Regime σ where
  holds log _ := turnedTo log = turned
  lost log _ := turnedTo log = turned
  left log _ := turnedTo log = turned
  waiting log := turnedTo log = turned ∧ Unanswered log

namespace Turning

open Regime

variable {turned : List TargetEvent} {target : Target σ}

theorem keepsAsk (request : Request) :
    (turning turned).Keeps TargetError.isDisconnect (Dialogue.ask target request) := by
  intro past situation holds
  have still : turnedTo (past ++ [.asking target request situation]) = turned :=
    (turnedTo_snoc rfl past).trans holds
  refine Reaches.ask (fun _ _ => still) (fun _ _ => failed_of_both still still) fun responded => ?_
  exact ⟨still, past, _, request, rfl, asking_asks responded⟩

theorem overlooks : (turning turned).Overlooks target fun _ => True where
  ask _ := keepsAsk _
  change _ holds := holds
  changeLost _ lost := lost

theorem converses : (turning turned).Converses target where
  say _ holds := (turnedTo_snoc rfl _).trans holds
  expect holds := holds
  read _ holds := (turnedTo_snoc rfl _).trans holds
  leave _ _ holds := (turnedTo_snoc rfl _).trans holds
  inputEnds holds := (turnedTo_snoc rfl _).trans holds
  inspect request _ := keepsAsk request
  setBreakpoint classId line := overlooks.setBreakpoint ⟨0, classId⟩ trivial line
  deleteBreakpoint := overlooks.deleteBreakpoint
  requestStep thread := overlooks.requestStep ⟨thread, 0⟩ trivial

theorem receives (context : HaltContext) : (turning turned).Receives target context where
  toShows := converses.shows
  locals := converses.frameVariables context.thread
  retireStep := overlooks.retireStep
  consult holds := converses.serves.consult_reaches ((turnedTo_snoc rfl _).trans holds)

/-- While an event is handled, the session turns to no other. -/
theorem dispatch_reaches (consulted : Bool) (event : TargetEvent) {past : List (Moment σ)}
    (holds : turnedTo past = turned) (situation : Situation σ) :
    (dispatch target consulted event).Reaches ((turning turned).exits TargetError.isDisconnect)
      (fun _ log _ => turnedTo log = turned) past situation := by
  cases halts : event.halt? with
  | some context =>
      refine ((receives context).dispatch_reaches consulted halts past situation holds).widen ?_
      intro course log after settled
      cases course with
      | goOn consulted => exact settled
      | finish reason => exact settled.2
  | none =>
      cases event with
      | disconnected =>
          unfold dispatch
          rw [Act.reaches_bind, reaches_say, Act.reaches_bind, reaches_change, Act.reaches_pure]
          exact (turnedTo_snoc rfl past).trans holds
      | other => exact Act.reaches_pure.mpr holds
      | _ => cases halts

end Turning

/-! ## All events -/

/-- Either all of the events have been turned to, or the session has ended in the midst of them. -/
def TurnsThrough (events : List TargetEvent) (result : Option SessionEnd) (log : List (Moment σ)) :
    Prop :=
  match result with
  | none => turnedTo log = events
  | some _ => StoppedIn events log

theorem TurnsThrough.cons {event : TargetEvent} {events : List TargetEvent}
    {result : Option SessionEnd} {log later : List (Moment σ)} (turned : turnedTo log = [event])
    (through : TurnsThrough events result later) :
    TurnsThrough (event :: events) result (log ++ later) := by
  cases result with
  | some reason => exact StoppedIn.cons turned through
  | none =>
      have others : turnedTo later = events := through
      rw [TurnsThrough, turnedTo_append, turned, others]
      rfl

/-- The induction is on the events.  What is done for one of them comes after all that was done for
those before it. -/
theorem dispatchAll_turns (target : Target σ) (events : List TargetEvent) :
    forall consulted situation,
      (dispatchAll target consulted events : Dialogue σ ε (Option SessionEnd)).Reaches
        ⟨fun _ _ _ => False, fun log => StoppedIn events log ∧ Unanswered log⟩
        (fun result log _ => TurnsThrough events result log) [] situation := by
  induction events with
  | nil => exact fun consulted situation => Act.reaches_pure.mpr rfl
  | cons event others inductionHypothesis =>
      intro consulted situation
      have stopped {log : List (Moment σ)} (turned : turnedTo log = [event]) :
          StoppedIn (event :: others) log := ⟨[], event, others, rfl, turned⟩
      have onward {log : List (Moment σ)} (turned : turnedTo log = [event]) (consulted : Bool)
          (after : Situation σ) :
          (dispatchAll target consulted others : Dialogue σ ε (Option SessionEnd)).Reaches
            ⟨fun _ _ _ => False, fun log => StoppedIn (event :: others) log ∧ Unanswered log⟩
            (fun result log _ => TurnsThrough (event :: others) result log) log after := by
        refine ((inductionHypothesis consulted after).after log).imp ?_ ?_ ?_
        · rintro _ _ _ ⟨_, _, impossible⟩
          exact impossible
        · rintro _ ⟨own, rfl, stopped, unanswered⟩
          exact ⟨stopped.cons turned, unanswered.append log⟩
        · rintro result _ _ ⟨own, rfl, through⟩
          exact through.cons turned
      unfold dispatchAll
      rw [Act.reaches_bind, reaches_note, Act.reaches_bind, Act.reaches_attempt]
      refine (Turning.dispatch_reaches consulted event rfl situation).imp ?_ ?_ ?_
      · intro error log after owed
        have turned : turnedTo log = [event] := by
          rcases Regime.exits_failed.mp owed with ⟨_, turned⟩ | ⟨_, turned⟩ <;> exact turned
        cases gone : error.isDisconnect with
        | true =>
            simp only [gone, if_true]
            rw [Act.reaches_bind, reaches_connectionLost, Act.reaches_pure]
            exact stopped ((turnedTo_snoc rfl log).trans turned)
        | false =>
            simp only [gone, Bool.false_eq_true, if_false]
            rw [Act.reaches_bind, reaches_say]
            exact onward ((turnedTo_snoc rfl log).trans turned) consulted after
      · rintro log ⟨turned, unanswered⟩
        exact ⟨stopped turned, unanswered⟩
      · intro course log after turned
        cases course with
        | goOn consulted => exact onward turned consulted after
        | finish reason => exact Act.reaches_pure.mpr (stopped turned)

end Session
end LineDebugger
