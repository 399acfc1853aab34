import LineDebugger.Proofs.Session.Bookkeeping
import LineDebugger.Proofs.Session.Run

namespace LineDebugger

namespace Session

open Debuggee

/-!
# Moments that end a session

Some moments end the session in which they occur: turning to the report that the debuggee
has ended, an answer that the target is gone, the operator's command to leave, and the end
of the operator's input.  Whether a moment does so can be told from the moment alone.

A calm regime tells nothing but this: no such moment so far, or one and it is the last.
It comes with a choice of marks that may occur at all, so that one set of laws serves
statements about any part of a run.
-/

variable {σ ε α : Type}

/-- The end that a moment brings about, if it brings one about.  A line is the command to
leave only where a command is expected. -/
def Moment.ending? (moment : Moment σ) : Option SessionEnd :=
  match moment.mark with
  | .turnedTo .disconnected => some .disconnected
  | .asked _ (.failed error) _ => if error.isDisconnect then some .connectionLost else none
  | .read none => some .operatorExit
  | .read (some line) =>
      if moment.before.mode = .command ∧ Command.ofLine? line = some .exit
      then some .operatorExit else none
  | _ => none

/-- Nothing has ended the session, and every mark is an allowed one. -/
def Uneventful (allowed : Mark -> Prop) (log : List (Moment σ)) : Prop :=
  forall moment, moment ∈ log -> allowed moment.mark ∧ moment.ending? = none

/-- The last moment, and no earlier one, has ended the session. -/
def EndsIn (allowed : Mark -> Prop) (reason : SessionEnd) (log : List (Moment σ)) : Prop :=
  exists quiet cause, log = quiet ++ [cause] ∧ Uneventful allowed quiet ∧
    allowed cause.mark ∧ cause.ending? = some reason

theorem uneventful_nil (allowed : Mark -> Prop) : Uneventful allowed ([] : List (Moment σ)) :=
  List.forall_mem_nil _

theorem Uneventful.append {allowed : Mark -> Prop} {log later : List (Moment σ)}
    (first : Uneventful allowed log) (second : Uneventful allowed later) :
    Uneventful allowed (log ++ later) :=
  List.forall_mem_append.mpr ⟨first, second⟩

theorem Uneventful.snoc {allowed : Mark -> Prop} {log : List (Moment σ)} {moment : Moment σ}
    (uneventful : Uneventful allowed log) (permitted : allowed moment.mark)
    (quiet : moment.ending? = none) : Uneventful allowed (log ++ [moment]) :=
  uneventful.append (List.forall_mem_singleton.mpr ⟨permitted, quiet⟩)

theorem Uneventful.permits {allowed : Mark -> Prop} {log : List (Moment σ)}
    (uneventful : Uneventful allowed log) :
    forall moment, moment ∈ log -> allowed moment.mark :=
  fun moment member => (uneventful moment member).1

theorem EndsIn.permits {allowed : Mark -> Prop} {reason : SessionEnd} {log : List (Moment σ)}
    (ends : EndsIn allowed reason log) : forall moment, moment ∈ log -> allowed moment.mark := by
  obtain ⟨quiet, cause, rfl, uneventful, permitted, _⟩ := ends
  refine List.forall_mem_append.mpr ⟨uneventful.permits, ?_⟩
  exact List.forall_mem_singleton.mpr permitted

/-- Nothing but what is allowed has happened, and nothing that ends a session before its
last moment. -/
def calm (allowed : Mark -> Prop) : Regime σ where
  holds log _ := Uneventful allowed log
  lost log _ := EndsIn allowed .connectionLost log
  left log _ := EndsIn allowed .operatorExit log
  waiting log := Uneventful allowed log

/-- Allowed are at least the marks of a conversation with the operator. -/
structure AllowsTalk (allowed : Mark -> Prop) : Prop where
  say : forall {line}, Plain line -> allowed (.said line)
  read : forall line, allowed (.read line)
  ask : forall request outcome exchanges, request.kind.drives = false ->
    allowed (.asked request outcome exchanges)

/-- Allowed are at least the marks of handling events. -/
structure AllowsEvents (allowed : Mark -> Prop) : Prop extends AllowsTalk allowed where
  turnTo : forall event, allowed (.turnedTo event)
  consult : allowed .consulted

namespace Calm

open Regime

variable {allowed : Mark -> Prop} {target : Target σ} {isLoss : ε -> Bool}

/-- A request keeps the calm if its mark is allowed.  An answer that the target is gone is
the last moment, and it ends the session. -/
theorem keepsAsk {request : Request}
    (permitted : forall outcome exchanges, allowed (.asked request outcome exchanges)) :
    (calm allowed).Keeps TargetError.isDisconnect (Dialogue.ask target request) := by
  intro past situation holds
  refine Reaches.ask ?_ ?_ ?_
  · intro answer responded
    exact Uneventful.snoc holds (permitted _ _) (by rw [Moment.asking_eq responded]; rfl)
  · intro error responded
    have ending : (Moment.asking target request situation).ending? =
        if error.isDisconnect then some .connectionLost else none := by
      rw [Moment.asking_eq responded]
      rfl
    cases gone : error.isDisconnect with
    | true =>
        rw [gone] at ending
        exact exits_failed.mpr (Or.inl ⟨gone, past, _, rfl, holds, permitted _ _, ending⟩)
    | false =>
        rw [gone] at ending
        exact exits_failed.mpr (Or.inr ⟨gone, Uneventful.snoc holds (permitted _ _) ending⟩)
  · intro responded
    exact Uneventful.snoc holds (permitted _ _) (by rw [Moment.asking_eq responded]; rfl)

variable (talk : AllowsTalk allowed)
include talk

theorem keepsRequest (request : Request) (halted : request.kind.drives = false) :
    (calm allowed).Keeps TargetError.isDisconnect (Dialogue.ask target request) :=
  keepsAsk fun outcome exchanges => talk.ask request outcome exchanges halted

/-! ## The laws -/

/-- The bookkeeping is of no interest. -/
theorem overlooks : (calm allowed).Overlooks target fun _ => True where
  ask arranges := keepsRequest talk _ arranges.halted
  change _ holds := holds
  changeLost _ lost := lost

theorem converses : (calm allowed).Converses target where
  say plain holds := Uneventful.snoc holds (talk.say plain) rfl
  expect holds := holds
  read stays holds := Uneventful.snoc holds (talk.read _) (if_neg stays)
  leave mode exit holds := ⟨_, _, rfl, holds, talk.read _, if_pos ⟨mode, exit⟩⟩
  inputEnds holds := ⟨_, _, rfl, holds, talk.read _, rfl⟩
  inspect request looks := keepsRequest talk request (RequestKind.halted_of_inspects looks)
  setBreakpoint classId line := (overlooks talk).setBreakpoint ⟨0, classId⟩ trivial line
  deleteBreakpoint := (overlooks talk).deleteBreakpoint
  requestStep thread := (overlooks talk).requestStep ⟨thread, 0⟩ trivial

/-- A consultation makes only marks that are allowed. -/
theorem interpret_permits (target : Target σ) (situation : Situation σ) :
    forall moment, moment ∈ (interpret target situation).log -> allowed moment.mark := by
  have permits : (interpret target).Reaches
      (.anyway fun log => forall moment, moment ∈ log -> allowed moment.mark)
      (fun _ log _ => forall moment, moment ∈ log -> allowed moment.mark) [] situation := by
    have laws : (calm allowed).Converses target := converses talk
    refine (laws.interpret [] situation (uneventful_nil _)).imp ?_ ?_ ?_
    · intro error log after owed
      rcases exits_failed.mp owed with ⟨_, ends⟩ | ⟨_, quiet⟩
      · exact EndsIn.permits ends
      · exact Uneventful.permits quiet
    · exact fun log quiet => Uneventful.permits quiet
    · intro handover log after handedOver
      cases handover with
      | exited => exact EndsIn.permits handedOver
      | resumed => exact Uneventful.permits handedOver
      | stepped => exact Uneventful.permits handedOver
  exact Act.reaches_anyway.mp permits

omit talk in
theorem attends (events : AllowsEvents allowed) : (calm allowed).Attends target where
  toConverses := converses events.toAllowsTalk
  haltAt holds := holds
  turnTo goesOn holds := by
    refine Uneventful.snoc holds (events.turnTo _) ?_
    cases ‹TargetEvent› with
    | disconnected => exact absurd rfl goesOn
    | _ => rfl
  consult holds := Uneventful.snoc holds events.consult rfl
  retireStep := (overlooks events.toAllowsTalk).retireStep

omit talk in
theorem governs (events : AllowsEvents allowed)
    (asks : forall request outcome exchanges, allowed (.asked request outcome exchanges)) :
    (calm allowed).Governs target where
  toAttends := attends events
  nextEvents := keepsAsk (asks .nextEvents)
  resume := keepsAsk (asks .resume)
  watch pattern := keepsAsk (asks (.watchClassPrepare pattern))
  pause holds := holds

end Calm
end Session
end LineDebugger
