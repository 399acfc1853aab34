import LineDebugger.Proofs.Session.Announcement
import LineDebugger.Proofs.Session.Bookkeeping
import LineDebugger.Proofs.Session.LiveRequests

namespace LineDebugger
namespace Session

open Debuggee

/-!
# What a line that fails leaves behind

A command may ask the target several times before it fails, and each of these requests may
have had its effect by then.  Nothing is undone afterwards.  That a failed line leaves
everything as it was is owed to the order of its steps: all that can fail comes before the
first change.  Where something is said before the end, only the loss of the target can still
come in between.

The order is read off in two kinds of computation.  One only looks, so that whatever comes of
it, nothing has changed.  The other takes looks and then one request that may change
something, and it leaves everything as it was if it fails.
-/

variable {σ ε α β : Type}

/-! ## Marks of a line that has changed nothing -/

/-- The step on record has been given up by this mark: its request is deleted, or was gone
already. -/
def Mark.GivesUpStep : Mark -> Prop
  | .asked (.deleteStep _) outcome _ => Deleted outcome
  | _ => False

/-- Whether the mark is one of the talk with the operator. -/
def Mark.talks : Mark -> Bool
  | .said _ | .read _ => true
  | _ => false

/-- The target has been asked for something, but not with success to give up a step. -/
def Mark.Harmless : Mark -> Prop
  | .asked request outcome exchanges => ¬ (Mark.asked request outcome exchanges).GivesUpStep
  | _ => False

theorem Mark.Harmless.not_givesUpStep {mark : Mark} (harmless : mark.Harmless) :
    ¬ mark.GivesUpStep := by
  cases mark with
  | asked request outcome exchanges => exact harmless
  | _ => exact id

theorem Mark.Harmless.talks {mark : Mark} (harmless : mark.Harmless) : mark.talks = false := by
  cases mark with
  | asked request outcome exchanges => rfl
  | _ => exact harmless.elim

/-- Since the situation `present` nothing has been said and no line has been taken, and records
and live requests are what they were. -/
structure Unspoilt (live : σ -> Ledger) (past : List (Moment σ)) (present : Situation σ)
    (log : List (Moment σ)) (after : Situation σ) : Prop where
  quiet : exists own, log = past ++ own ∧ forall moment, moment ∈ own -> moment.mark.Harmless
  records : after.records = present.records
  input : after.input = present.input
  live : live after.target = live present.target

namespace Unspoilt

variable {live : σ -> Ledger} {past log : List (Moment σ)} {present after : Situation σ}

theorem refl (live : σ -> Ledger) (past : List (Moment σ)) (present : Situation σ) :
    Unspoilt live past present past present :=
  ⟨⟨[], (List.append_nil past).symm, List.forall_mem_nil _⟩, rfl, rfl, rfl⟩

theorem trans {further : List (Moment σ)} {last : Situation σ}
    (first : Unspoilt live past present log after) (next : Unspoilt live log after further last) :
    Unspoilt live past present further last := by
  obtain ⟨early, rfl, harmless⟩ := first.quiet
  obtain ⟨late, rfl, still⟩ := next.quiet
  exact ⟨⟨early ++ late, List.append_assoc _ _ _, List.forall_mem_append.mpr ⟨harmless, still⟩⟩,
    next.records.trans first.records, next.input.trans first.input, next.live.trans first.live⟩

/-- A request that has left the live requests as they were. -/
theorem asking {target : Target σ} {request : Request}
    (unspoilt : Unspoilt live past present log after)
    (harmless : (Moment.asking target request after).mark.Harmless)
    (same : live (after.answered target request).target = live after.target) :
    Unspoilt live past present (log ++ [.asking target request after])
      (after.answered target request) :=
  unspoilt.trans ⟨⟨_, rfl, List.forall_mem_singleton.mpr harmless⟩, rfl, rfl, same⟩

end Unspoilt

/-- The regime of everything being as it was. -/
def sparing (live : σ -> Ledger) (past : List (Moment σ)) (present : Situation σ) :
    Regime σ where
  holds := Unspoilt live past present
  lost _ _ := True
  left _ _ := True
  waiting _ := True

/-- A computation that only looks. -/
def OnlyLooks (live : σ -> Ledger) (isLoss : ε -> Bool) (act : Dialogue σ ε α) : Prop :=
  forall past present, (sparing live past present).Keeps isLoss act

/-- The debts of a computation that leaves everything as it was when it fails, unless the
target is gone. -/
def spared (live : σ -> Ledger) (isLoss : ε -> Bool) (past : List (Moment σ))
    (present : Situation σ) : Exits (Situation σ) (Moment σ) ε where
  failed error log after := isLoss error = false -> Unspoilt live past present log after
  unfinished _ := True

/-- A computation that takes no line, and leaves everything as it was when it fails. -/
def Spares (live : σ -> Ledger) (isLoss : ε -> Bool) (act : Dialogue σ ε α) : Prop :=
  forall past present, act.Reaches (spared live isLoss past present)
    (fun _ _ after => after.input = present.input) past present

/-! ## Computations that only look -/

section Rules

open Regime

variable {live : σ -> Ledger} {isLoss : ε -> Bool} {target : Target σ}
  {past : List (Moment σ)} {present : Situation σ}

theorem asking_harmless {request : Request} (other : request.kind ≠ .deleteStep)
    (present : Situation σ) : (Moment.asking target request present).mark.Harmless := by
  cases request with
  | deleteStep request => exact absurd rfl other
  | _ => exact id

theorem OnlyLooks.ask (clean : FailsCleanly target live) {request : Request}
    (looks : request.kind.looks = true) :
    OnlyLooks live TargetError.isDisconnect (Dialogue.ask target request) := by
  intro past present log after unspoilt
  have other : request.kind ≠ .deleteStep := by
    intro same
    rw [same] at looks
    cases looks
  have asked {outcome : Outcome TargetError request.Answer}
      (responded : (target.respond request after.target).outcome = outcome)
      (finished : outcome ≠ .unfinished) :
      Unspoilt live past present (log ++ [.asking target request after])
        (after.answered target request) :=
    unspoilt.asking (asking_harmless other after) (clean.of_looks looks responded finished)
  refine Reaches.ask ?_ ?_ fun _ => trivial
  · exact fun answer responded => asked responded (by intro impossible; cases impossible)
  · exact fun error responded =>
      failed_of_both trivial (asked responded (by intro impossible; cases impossible))

theorem OnlyLooks.frameVariables (clean : FailsCleanly target live) (thread : UInt64) :
    OnlyLooks live TargetError.isDisconnect (frameVariables target thread) :=
  fun past present => Keeps.frameVariables
    (fun _ inspects => OnlyLooks.ask clean (RequestKind.looks_of_inspects inspects) past present)
    thread

theorem OnlyLooks.findLocation (clean : FailsCleanly target live) (classId : UInt64)
    (line : UInt32) : OnlyLooks live CommandError.isLoss (findLocation target classId line) :=
  fun past present => Keeps.findLocation (OnlyLooks.ask clean rfl past present)

theorem OnlyLooks.haltContext :
    OnlyLooks live CommandError.isLoss (haltContext : Dialogue σ CommandError HaltContext) := by
  intro past present
  refine Keeps.records.bind fun records => ?_
  cases records.context with
  | none => exact Keeps.fail rfl
  | some context => exact Keeps.pure context

theorem OnlyLooks.lineNumber (answer : String) :
    OnlyLooks live CommandError.isLoss (lineNumber answer : Dialogue σ CommandError UInt32) :=
  fun _ _ => Serves.lineNumber answer

theorem OnlyLooks.asCommand {act : Dialogue σ TargetError α}
    (looks : OnlyLooks live TargetError.isDisconnect act) :
    OnlyLooks live CommandError.isLoss (act.mapError CommandError.target) :=
  fun past present => (looks past present).asCommand

/-! ## Computations that leave everything as it was when they fail -/

/-- What is owed after a look is owed from before it. -/
theorem spared_of_unspoilt {log : List (Moment σ)} {after : Situation σ}
    (unspoilt : Unspoilt live past present log after) {error : ε} {later : List (Moment σ)}
    {last : Situation σ} (owed : (spared live isLoss log after).failed error later last) :
    (spared live isLoss past present).failed error later last :=
  fun harmless => unspoilt.trans (owed harmless)

theorem OnlyLooks.reaches {act : Dialogue σ ε α} (looks : OnlyLooks live isLoss act) :
    act.Reaches (spared live isLoss past present)
      (fun _ log after => Unspoilt live past present log after) past present := by
  refine (looks past present past present (.refl live past present)).imp ?_
    (fun _ _ => trivial) fun _ _ _ unspoilt => unspoilt
  intro error log after owed harmless
  rcases exits_failed.mp owed with ⟨gone, _⟩ | ⟨_, unspoilt⟩
  · exact absurd (gone.symm.trans harmless) (by decide)
  · exact unspoilt

theorem OnlyLooks.bind {first : Dialogue σ ε α} {next : α -> Dialogue σ ε β}
    (looks : OnlyLooks live isLoss first) (onward : forall value, Spares live isLoss (next value)) :
    Spares live isLoss (first >>= next) := by
  intro past present
  refine looks.reaches.bind fun value log after unspoilt => ?_
  refine (onward value log after).imp ?_ (fun _ _ => trivial) ?_
  · exact fun _ _ _ owed => spared_of_unspoilt unspoilt owed
  · exact fun _ _ _ same => same.trans unspoilt.input

theorem Spares.pure (value : α) : Spares live isLoss (pure value : Dialogue σ ε α) :=
  fun _ _ => Act.reaches_pure.mpr rfl

theorem Spares.say (line : String) :
    Spares live isLoss (Dialogue.say line : Dialogue σ ε Unit) :=
  fun _ _ => reaches_say.mpr rfl

theorem Spares.sayAll (lines : List String) :
    Spares live isLoss (Dialogue.sayAll lines : Dialogue σ ε Unit) :=
  fun _ _ => reaches_sayAll.mpr rfl

theorem Spares.fail (error : ε) : Spares live isLoss (Act.fail error : Dialogue σ ε α) :=
  fun past present => Act.reaches_fail.mpr fun _ => .refl live past present

theorem Spares.asCommand {act : Dialogue σ TargetError α}
    (spares : Spares live TargetError.isDisconnect act) :
    Spares live CommandError.isLoss (act.mapError CommandError.target) := by
  intro past present
  rw [Act.reaches_mapError]
  refine (spares past present).imp ?_ (fun _ _ => trivial) fun _ _ _ same => same
  exact fun error log after owed harmless =>
    owed ((CommandError.isLoss_target error).symm.trans harmless)

/-- After what may fail comes what cannot. -/
theorem Spares.andThen {first : Dialogue σ ε α} {next : α -> Dialogue σ ε β}
    (spares : Spares live isLoss first)
    (sure : forall value log after, (next value).Reaches ⟨fun _ _ _ => False, fun _ => True⟩
      (fun _ _ (last : Situation σ) => last.input = after.input) log after) :
    Spares live isLoss (first >>= next) := by
  intro past present
  refine (spares past present).bind fun value log after same => ?_
  refine (sure value log after).imp ?_ (fun _ _ => trivial) ?_
  · exact fun _ _ _ impossible => impossible.elim
  · exact fun _ _ _ later => later.trans same

/-- A computation that fails only when the target is gone. -/
theorem Spares.of_firm {act : Dialogue σ TargetError α}
    (firmly : forall past present, act.Reaches firm
      (fun _ _ (after : Situation σ) => after.input = present.input) past present) :
    Spares live TargetError.isDisconnect act := by
  intro past present
  refine (firmly past present).imp ?_ (fun _ _ => trivial) fun _ _ _ same => same
  exact fun error _ _ gone harmless => absurd (gone.symm.trans harmless) (by decide)

theorem Spares.ask (clean : FailsCleanly target live) {request : Request}
    (other : request.kind ≠ .deleteStep) (stays : request ≠ .detach) :
    Spares live TargetError.isDisconnect (Dialogue.ask target request) := by
  intro past present
  refine Reaches.ask (fun _ _ => rfl) ?_ fun _ => trivial
  exact fun error responded _ =>
    (Unspoilt.refl live past present).asking (asking_harmless other present)
      (clean.of_failed responded stays)

/-- A look whose failures are handled. -/
theorem Spares.tryLook (clean : FailsCleanly target live) {request : Request}
    (looks : request.kind.looks = true) {handler : Except TargetError request.Answer ->
      Dialogue σ ε β} (onward : forall result, Spares live isLoss (handler result)) :
    Spares live isLoss ((Dialogue.ask target request).attempt >>= handler) := by
  have other : request.kind ≠ .deleteStep := by
    intro same
    rw [same] at looks
    cases looks
  intro past present
  have handled {outcome : Outcome TargetError request.Answer}
      (responded : (target.respond request present.target).outcome = outcome)
      (finished : outcome ≠ .unfinished) (result : Except TargetError request.Answer) :
      (handler result).Reaches (spared live isLoss past present)
        (fun _ _ after => after.input = present.input)
        (past ++ [.asking target request present]) (present.answered target request) := by
    have unspoilt := (Unspoilt.refl live past present).asking (asking_harmless other present)
      (clean.of_looks looks responded finished)
    refine (onward result _ _).imp ?_ (fun _ _ => trivial) fun _ _ _ same => same
    exact fun _ _ _ owed => spared_of_unspoilt unspoilt owed
  refine Reaches.tryAsk ?_ ?_ fun _ => trivial
  · exact fun answer responded => handled responded (by intro impossible; cases impossible) _
  · exact fun error responded => handled responded (by intro impossible; cases impossible) _

end Rules

/-! ## Showing -/

section Walk

variable {live : σ -> Ledger} {target : Target σ} (clean : FailsCleanly target live)
include clean

omit clean in
theorem Spares.renderValue (value : Value) :
    Spares live TargetError.isDisconnect (renderValue target value) :=
  Spares.of_firm fun _ _ => Announcing.renderValue_firm value

theorem Spares.showFrame (thread : UInt64) :
    Spares live TargetError.isDisconnect (showFrame target thread) := by
  refine (OnlyLooks.frameVariables clean thread).bind fun visible => Spares.of_firm ?_
  intro past present
  rw [Act.reaches_bind, reaches_say]
  refine (Announcing.sayVariables_firm visible).bind fun _ log after same => ?_
  exact reaches_say.mpr same

theorem Spares.showStack (thread : UInt64) :
    Spares live TargetError.isDisconnect (showStack target thread) := by
  refine (OnlyLooks.ask clean rfl).bind fun frames => Spares.of_firm ?_
  intro past present
  rw [Act.reaches_bind, reaches_say, Act.reaches_bind, reaches_sayAll]
  exact reaches_say.mpr rfl

omit clean in
theorem Spares.showBreakpoints :
    Spares live CommandError.isLoss (showBreakpoints : Dialogue σ CommandError Unit) := by
  refine OnlyLooks.bind (fun _ _ => Regime.Keeps.records) fun records => ?_
  cases records.breakpoints.entries with
  | nil => exact Spares.say _
  | cons first others => exact Spares.sayAll _

/-! ## Breakpoints -/

theorem Spares.setBreakpoint (classId : UInt64) (line : UInt32) :
    Spares live CommandError.isLoss (setBreakpoint target classId line) := by
  refine OnlyLooks.bind (fun _ _ => Regime.Keeps.records) fun records => ?_
  cases (records.breakpoints.get? line).isSome with
  | true => exact Spares.fail _
  | false =>
      refine (OnlyLooks.findLocation clean classId line).bind fun location => ?_
      have enables : Spares live TargetError.isDisconnect
          (Dialogue.ask target (.enableBreakpoint location)) :=
        Spares.ask clean (by intro impossible; cases impossible)
          (by intro impossible; cases impossible)
      refine enables.asCommand.andThen fun request log after => ?_
      rw [Act.reaches_bind, reaches_change, Act.reaches_pure]

theorem Spares.deleteBreakpoint (line : UInt32) :
    Spares live TargetError.isDisconnect (deleteBreakpoint target line) := by
  refine OnlyLooks.bind (fun _ _ => Regime.Keeps.records) fun records => ?_
  cases records.breakpoints.get? line with
  | none => exact Spares.pure false
  | some breakpoint =>
      refine Spares.andThen ?_ fun _ log after => ?_
      · intro past present
        refine Accurate.deleteRequest_reaches (fun _ _ _ => rfl) ?_ trivial
        intro error responded _ _
        have other : (Request.deleteBreakpoint breakpoint.request).kind ≠ .deleteStep := by
          intro impossible
          cases impossible
        exact (Unspoilt.refl live past present).asking (asking_harmless other present)
          (clean.of_failed responded (by intro impossible; cases impossible))
      · rw [Act.reaches_bind, reaches_change, Act.reaches_pure]

/-! ## Answers -/

theorem Spares.breakAt (context : HaltContext) (answer : String) :
    Spares live CommandError.isLoss (breakAt target context answer) := by
  refine (OnlyLooks.lineNumber answer).bind fun line => ?_
  exact (Spares.setBreakpoint clean context.classId line).andThen fun _ _ _ =>
    reaches_say.mpr rfl

theorem Spares.clearAt (answer : String) :
    Spares live CommandError.isLoss (clearAt target answer) := by
  refine (OnlyLooks.lineNumber answer).bind fun line => ?_
  exact (Spares.deleteBreakpoint clean line).asCommand.andThen fun _ _ _ =>
    reaches_say.mpr rfl

theorem Spares.printElement (name : String) (array : ArrayRef) (answer : String) :
    Spares live CommandError.isLoss (printElement target name array answer) := by
  unfold Session.printElement
  cases Text.Numeral.signed64? answer with
  | none => exact Spares.fail _
  | some index =>
      dsimp only
      split
      · have looks : OnlyLooks live TargetError.isDisconnect
            (Dialogue.ask target (.arrayElement array index.toInt.toNat)) :=
          OnlyLooks.ask clean rfl
        exact looks.asCommand.bind fun element => Spares.say _
      · exact Spares.fail _

theorem Spares.printField (name : String) (object : ObjectRef) (field : String) :
    Spares live CommandError.isLoss (printField target name object field) := by
  refine Spares.tryLook clean rfl fun result => ?_
  cases result with
  | ok value =>
      exact (Spares.renderValue value).asCommand.andThen fun _ _ _ => reaches_say.mpr rfl
  | error error => cases error <;> exact Spares.fail _

end Walk

end Session
end LineDebugger
