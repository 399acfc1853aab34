import LineDebugger.Proofs.Session.Interpreter

namespace LineDebugger

/-- The requests that drive the debuggee or wait for it.  All others are made while it is
halted. -/
def Debuggee.RequestKind.drives : Debuggee.RequestKind -> Bool
  | .nextEvents | .watchClassPrepare | .resume | .detach => true
  | _ => false

theorem Debuggee.RequestKind.halted_of_inspects {kind : Debuggee.RequestKind}
    (inspects : kind.inspects = true) : kind.drives = false := by
  cases kind <;> first | rfl | cases inspects

/-- A request by which a session arranges for further halts.  The lines of classes and the
steps of threads are those of halts of concern. -/
def Debuggee.Request.Arranges (concern : Session.HaltContext -> Prop) :
    Debuggee.Request -> Prop
  | .locationsOfLine classId _ => exists context, concern context ∧ classId = context.classId
  | .createStep thread _ _ => exists context, concern context ∧ thread = context.thread
  | .enableBreakpoint _ | .deleteBreakpoint _ | .deleteStep _ => True
  | _ => False

theorem Debuggee.Request.Arranges.halted {concern : Session.HaltContext -> Prop}
    {request : Debuggee.Request} (arranges : request.Arranges concern) :
    request.kind.drives = false := by
  cases request <;> first | rfl | exact arranges.elim

namespace Session

open Debuggee

/-!
# Regimes that do not look into the books

Breakpoints and steps are on record while the target knows them.  Most regimes are not about
this: all they look for in the records is the halt that commands apply to and the class that
the session is about, and neither is changed by a command.  Such a regime is kept by the
functions that arrange for halts as soon as it is kept by the requests they make.
-/

variable {σ : Type} {regime : Regime σ} {target : Target σ} {concern : HaltContext -> Prop}

/-- A change of the records that is one of breakpoints and steps alone. -/
def Records.Rearranges (f : Records -> Records) : Prop :=
  forall records, (f records).context = records.context ∧
    (f records).entryClass = records.entryClass

namespace Regime

/-! ## Requests with which a session arranges for halts -/

theorem Keeps.deleteRequest {request : Request}
    (asks : regime.Keeps TargetError.isDisconnect (Dialogue.ask target request)) :
    regime.Keeps TargetError.isDisconnect (deleteRequest target request) := by
  refine asks.handleAbsence ?_ ?_ ?_ ?_
  · exact fun answer => Keeps.pure ()
  · exact fun absence => Keeps.pure ()
  · exact fun reason => Keeps.fail rfl
  · exact fun reason => HandsOn.fail rfl

theorem Keeps.findLocation {classId : UInt64} {line : UInt32}
    (asks : regime.Keeps TargetError.isDisconnect
      (Dialogue.ask target (.locationsOfLine classId line))) :
    regime.Keeps CommandError.isLoss (findLocation target classId line) := by
  refine asks.handleAbsence ?_ ?_ ?_ ?_
  · intro locations
    cases locations with
    | nil => exact Keeps.fail rfl
    | cons location others => exact Keeps.pure location
  · exact fun absence => Keeps.fail rfl
  · exact fun reason => Keeps.fail rfl
  · exact fun reason => HandsOn.fail rfl

/-! ## The breakpoints on record -/

/-- The laws of a regime that does not look into the table of breakpoints. -/
structure OverlooksBreakpoints (regime : Regime σ) (target : Target σ)
    (concern : HaltContext -> Prop) : Prop where
  find : forall {context line}, concern context ->
    regime.Keeps TargetError.isDisconnect
      (Dialogue.ask target (.locationsOfLine context.classId line))
  enable : forall location,
    regime.Keeps TargetError.isDisconnect (Dialogue.ask target (.enableBreakpoint location))
  delete : forall request,
    regime.Keeps TargetError.isDisconnect (Dialogue.ask target (.deleteBreakpoint request))
  enter : forall {breakpoints log situation}, regime.holds log situation ->
    regime.holds log
      { situation with records := { situation.records with breakpoints := breakpoints } }

namespace OverlooksBreakpoints

variable (laws : regime.OverlooksBreakpoints target concern)
include laws

theorem setBreakpoint (context : HaltContext) (concerned : concern context) (line : UInt32) :
    regime.Keeps CommandError.isLoss (setBreakpoint target context.classId line) := by
  refine Keeps.records.bind fun records => ?_
  cases (records.breakpoints.get? line).isSome with
  | true => exact Keeps.fail rfl
  | false =>
      refine (Keeps.findLocation (laws.find concerned)).bind fun location => ?_
      refine (laws.enable location).asCommand.bind fun request => ?_
      exact Keeps.bind (fun _ _ holds => reaches_change.mpr (laws.enter holds)) fun _ =>
        Keeps.pure _

theorem deleteBreakpoint (line : UInt32) :
    regime.Keeps TargetError.isDisconnect (deleteBreakpoint target line) := by
  refine Keeps.records.bind fun records => ?_
  cases records.breakpoints.get? line with
  | none => exact Keeps.pure false
  | some breakpoint =>
      refine (Keeps.deleteRequest (laws.delete breakpoint.request)).bind fun _ => ?_
      exact Keeps.bind (fun _ _ holds => reaches_change.mpr (laws.enter holds)) fun _ =>
        Keeps.pure true

end OverlooksBreakpoints

/-! ## Breakpoints and steps on record -/

/-- The laws of a regime that does not look into the books. -/
structure Overlooks (regime : Regime σ) (target : Target σ) (concern : HaltContext -> Prop) :
    Prop where
  ask : forall {request : Request}, request.Arranges concern ->
    regime.Keeps TargetError.isDisconnect (Dialogue.ask target request)
  change : forall {f log situation}, Records.Rearranges f -> regime.holds log situation ->
    regime.holds log { situation with records := f situation.records }
  changeLost : forall {f log situation}, Records.Rearranges f -> regime.lost log situation ->
    regime.lost log { situation with records := f situation.records }

namespace Overlooks

variable (laws : regime.Overlooks target concern)
include laws

theorem overlooksBreakpoints : regime.OverlooksBreakpoints target concern where
  find concerned := laws.ask ⟨_, concerned, rfl⟩
  enable location := by
    have arranges : (Request.enableBreakpoint location).Arranges concern := trivial
    exact laws.ask arranges
  delete request := by
    have arranges : (Request.deleteBreakpoint request).Arranges concern := trivial
    exact laws.ask arranges
  enter {breakpoints _ _} holds := by
    have rearranges : Records.Rearranges fun records => { records with breakpoints } :=
      fun records => ⟨rfl, rfl⟩
    exact laws.change rearranges holds

theorem keepsChange {ε : Type} {isLoss : ε -> Bool} {f : Records -> Records}
    (rearranges : Records.Rearranges f) :
    regime.Keeps isLoss (Dialogue.change f : Dialogue σ ε Unit) :=
  fun _ _ holds => reaches_change.mpr (laws.change rearranges holds)

theorem deleteStep (request : Int32) :
    regime.Keeps TargetError.isDisconnect (deleteRequest target (.deleteStep request)) := by
  have arranges : (Request.deleteStep request).Arranges concern := trivial
  exact Keeps.deleteRequest (laws.ask arranges)

theorem setBreakpoint (context : HaltContext) (concerned : concern context) (line : UInt32) :
    regime.Keeps CommandError.isLoss (setBreakpoint target context.classId line) :=
  laws.overlooksBreakpoints.setBreakpoint context concerned line

theorem deleteBreakpoint (line : UInt32) :
    regime.Keeps TargetError.isDisconnect (deleteBreakpoint target line) :=
  laws.overlooksBreakpoints.deleteBreakpoint line

/-! ### Steps -/

/-- The record is put back also when the target is gone. -/
theorem dropStep : regime.Keeps TargetError.isDisconnect (dropStep target) := by
  refine Keeps.records.bind fun records => ?_
  cases records.step with
  | none => exact Keeps.pure ()
  | some previous =>
      have restored : Records.Rearranges fun records => { records with step := some previous } :=
        fun records => ⟨rfl, rfl⟩
      refine Keeps.bind (laws.keepsChange fun records => ⟨rfl, rfl⟩) fun _ => ?_
      refine (laws.deleteStep previous.request).handle (fun _ => Keeps.pure ()) ?_ ?_
      · intro error harmless
        exact (laws.keepsChange restored).bind fun _ => Keeps.fail harmless
      · intro error gone past situation lost
        rw [Act.reaches_bind, reaches_change]
        exact HandsOn.fail gone past _ (laws.changeLost restored lost)

theorem requestStep (context : HaltContext) (concerned : concern context) (scope : StepScope) :
    regime.Keeps TargetError.isDisconnect (requestStep target context.thread scope) := by
  refine laws.dropStep.bind fun _ => ?_
  refine Keeps.records.bind fun records => ?_
  have arranges : (Request.createStep context.thread scope records.entryClass).Arranges concern :=
    ⟨context, concerned, rfl⟩
  refine (laws.ask arranges).bind fun request => ?_
  exact laws.keepsChange fun _ => ⟨rfl, rfl⟩

theorem retireStep (request : Int32) :
    regime.Keeps TargetError.isDisconnect (retireStep target request) := by
  refine (laws.deleteStep request).bind fun _ => laws.keepsChange fun records => ?_
  split
  · exact ⟨rfl, rfl⟩
  · exact ⟨rfl, rfl⟩

end Overlooks
end Regime
end Session
end LineDebugger
