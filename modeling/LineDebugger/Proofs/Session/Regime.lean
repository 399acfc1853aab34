import LineDebugger.Proofs.Session.Notice
import LineDebugger.Proofs.Session.Steps

namespace LineDebugger

/-- The requests that only look at the halted debuggee. -/
def Debuggee.RequestKind.inspects : Debuggee.RequestKind -> Bool
  | .frames | .visibleVariables | .fieldValue | .arrayElement | .arrayValues => true
  | _ => false

/-- The requests that look at parts of a value.  They concern no thread. -/
def Debuggee.RequestKind.details : Debuggee.RequestKind -> Bool
  | .fieldValue | .arrayElement | .arrayValues => true
  | _ => false

theorem Debuggee.RequestKind.inspects_of_details {kind : Debuggee.RequestKind}
    (details : kind.details = true) : kind.inspects = true := by
  cases kind <;> first | rfl | cases details

namespace Session

open Debuggee

/-!
# Regimes

A regime says what is true of a session at every point of a run: of everything that has
happened so far and of the situation it led to.  What is true changes at two points only,
when the target answers that it is gone and when the operator leaves; a regime has a
statement for each of them.

Whether a regime is kept is decided by the single steps.  The laws collected below say so
for the steps of a conversation with the operator, and from them it follows once and for
all that the whole interpreter keeps the regime, for every script and every target.  The
functions that change the bookkeeping enter as laws and not as theorems, since regimes
differ most in what they demand of these.
-/

variable {σ ε δ α β : Type}

/-- Whether a command failed because the target is gone. -/
def CommandError.isLoss (error : CommandError) : Bool := error.lost?.isSome

theorem CommandError.isLoss_target (error : TargetError) :
    (CommandError.target error).isLoss = error.isDisconnect := by
  cases error <;> rfl

/-- What is handed on as the loss of the target is one. -/
theorem CommandError.isDisconnect_of_lost? (error : CommandError) {loss : TargetError}
    (gone : error.lost? = some loss) : loss.isDisconnect = true := by
  cases error with
  | target cause =>
      cases cause with
      | notAvailable reason =>
          cases gone
          rfl
      | noSuchElement reason => cases gone
      | other reason => cases gone
  | _ => cases gone

/-- What is true during a run. -/
structure Regime (σ : Type) where
  /-- While the session goes on. -/
  holds : List (Moment σ) -> Situation σ -> Prop
  /-- Right after the target has answered that it is gone. -/
  lost : List (Moment σ) -> Situation σ -> Prop
  /-- Right after the operator has left. -/
  left : List (Moment σ) -> Situation σ -> Prop
  /-- While the target owes an answer. -/
  waiting : List (Moment σ) -> Prop

namespace Regime

variable (regime : Regime σ)

/-- What is true after a failure, given which failures mean that the target is gone. -/
def exits (isLoss : ε -> Bool) : Exits (Situation σ) (Moment σ) ε where
  failed error := if isLoss error = true then regime.lost else regime.holds
  unfinished := regime.waiting

/-- A computation that leaves the regime in force unless the target is gone. -/
def Keeps (isLoss : ε -> Bool) (act : Dialogue σ ε α) : Prop :=
  forall past situation, regime.holds past situation ->
    act.Reaches (regime.exits isLoss) (fun _ => regime.holds) past situation

/-- A computation that hands on the loss of the target. -/
def HandsOn (isLoss : ε -> Bool) (act : Dialogue σ ε α) : Prop :=
  forall past situation, regime.lost past situation ->
    act.Reaches (regime.exits isLoss) (fun _ => regime.holds) past situation

/-! ## Computations that keep a regime -/

section Keeps

variable {regime} {isLoss : ε -> Bool} {isFirstLoss : δ -> Bool}

theorem Keeps.pure (value : α) : regime.Keeps isLoss (pure value : Dialogue σ ε α) :=
  fun _ _ holds => Act.reaches_pure.mpr holds

theorem Keeps.bind {first : Dialogue σ ε α} {next : α -> Dialogue σ ε β}
    (keeps : regime.Keeps isLoss first) (onward : forall value, regime.Keeps isLoss (next value)) :
    regime.Keeps isLoss (first >>= next) :=
  fun past situation holds =>
    (keeps past situation holds).bind fun value log situation => onward value log situation

theorem exits_failed {error : ε} {log : List (Moment σ)} {situation : Situation σ} :
    (regime.exits isLoss).failed error log situation ↔
      (isLoss error = true ∧ regime.lost log situation) ∨
      (isLoss error = false ∧ regime.holds log situation) := by
  cases gone : isLoss error <;> simp [exits, gone]

/-- A failure after which both are true may be a loss or not. -/
theorem failed_of_both {error : ε} {log : List (Moment σ)} {situation : Situation σ}
    (lost : regime.lost log situation) (holds : regime.holds log situation) :
    (regime.exits isLoss).failed error log situation := by
  rw [exits_failed]
  cases isLoss error with
  | true => exact Or.inl ⟨rfl, lost⟩
  | false => exact Or.inr ⟨rfl, holds⟩

/-- What a failure owes to one regime it owes to another that demands no more. -/
theorem failed_imp {weaker : Regime σ} {error : ε} {log : List (Moment σ)}
    {situation : Situation σ} (onLoss : regime.lost log situation -> weaker.lost log situation)
    (onFailure : regime.holds log situation -> weaker.holds log situation)
    (owed : (regime.exits isLoss).failed error log situation) :
    (weaker.exits isLoss).failed error log situation := by
  rw [exits_failed] at owed ⊢
  rcases owed with ⟨gone, lost⟩ | ⟨harmless, holds⟩
  · exact Or.inl ⟨gone, onLoss lost⟩
  · exact Or.inr ⟨harmless, onFailure holds⟩

theorem Keeps.fail {error : ε} (harmless : isLoss error = false) :
    regime.Keeps isLoss (Act.fail error : Dialogue σ ε α) :=
  fun _ _ holds => Act.reaches_fail.mpr (exits_failed.mpr (Or.inr ⟨harmless, holds⟩))

theorem HandsOn.fail {error : ε} (gone : isLoss error = true) :
    regime.HandsOn isLoss (Act.fail error : Dialogue σ ε α) :=
  fun _ _ lost => Act.reaches_fail.mpr (exits_failed.mpr (Or.inl ⟨gone, lost⟩))

theorem Keeps.records : regime.Keeps isLoss (Dialogue.records : Dialogue σ ε Records) :=
  fun _ _ holds => reaches_records.mpr holds

theorem Keeps.mapError {act : Dialogue σ δ α} {restate : δ -> ε}
    (keeps : regime.Keeps isFirstLoss act)
    (faithful : forall error, isLoss (restate error) = isFirstLoss error) :
    regime.Keeps isLoss (act.mapError restate) := by
  intro past situation holds
  rw [Act.reaches_mapError]
  refine (keeps past situation holds).imp ?_ (fun _ owed => owed) (fun _ _ _ owed => owed)
  intro error log situation owed
  simpa only [exits, faithful] using owed

/-- Failures are handled, but the loss of the target is handed on. -/
theorem Keeps.handle {act : Dialogue σ δ α} {handler : Except δ α -> Dialogue σ ε β}
    (keeps : regime.Keeps isFirstLoss act)
    (onAnswer : forall value, regime.Keeps isLoss (handler (.ok value)))
    (onFailure : forall error, isFirstLoss error = false ->
      regime.Keeps isLoss (handler (.error error)))
    (onLoss : forall error, isFirstLoss error = true ->
      regime.HandsOn isLoss (handler (.error error))) :
    regime.Keeps isLoss (act.attempt >>= handler) := by
  intro past situation holds
  rw [Act.reaches_bind, Act.reaches_attempt]
  refine (keeps past situation holds).imp ?_ (fun _ owed => owed)
    (fun value log situation holds => onAnswer value log situation holds)
  intro error log situation owed
  rcases exits_failed.mp owed with ⟨gone, lost⟩ | ⟨harmless, holds⟩
  · exact onLoss error gone log situation lost
  · exact onFailure error harmless log situation holds

/-- A request that may come to nothing.  What the handler has to settle is the absence of
what was asked about and failures of unknown kind. -/
theorem Keeps.handleAbsence {act : Dialogue σ TargetError α}
    {handler : Except TargetError α -> Dialogue σ ε β}
    (keeps : regime.Keeps TargetError.isDisconnect act)
    (onAnswer : forall value, regime.Keeps isLoss (handler (.ok value)))
    (onAbsence : forall reason, regime.Keeps isLoss (handler (.error (.noSuchElement reason))))
    (onOther : forall reason, regime.Keeps isLoss (handler (.error (.other reason))))
    (onLoss : forall reason, regime.HandsOn isLoss (handler (.error (.notAvailable reason)))) :
    regime.Keeps isLoss (act.attempt >>= handler) := by
  refine keeps.handle onAnswer ?_ ?_
  · intro error harmless
    cases error with
    | notAvailable reason => cases harmless
    | noSuchElement reason => exact onAbsence reason
    | other reason => exact onOther reason
  · intro error gone
    cases error with
    | notAvailable reason => exact onLoss reason
    | noSuchElement reason => cases gone
    | other reason => cases gone

/-- A request whose failures are the failures of a command. -/
theorem Keeps.asCommand {act : Dialogue σ TargetError α}
    (keeps : regime.Keeps TargetError.isDisconnect act) :
    regime.Keeps CommandError.isLoss (act.mapError CommandError.target) :=
  keeps.mapError CommandError.isLoss_target

end Keeps

/-! ## Conversations -/

/-- The law of a regime under which the operator can be spoken to. -/
structure Speaks : Prop where
  say : forall {line log situation}, Plain line -> regime.holds log situation ->
    regime.holds (log ++ [⟨situation, .said line⟩]) situation

/-- The laws of a regime under which values can be shown. -/
structure Shows (target : Target σ) : Prop extends regime.Speaks where
  detail : forall request, request.kind.details = true ->
    regime.Keeps TargetError.isDisconnect (Dialogue.ask target request)

/-- The laws of a regime under which the operator can be consulted.  Threads and classes are
looked at and acted upon only if the halt is one of those that are of concern, and the halt on
record always is. -/
structure Serves (target : Target σ) (concern : HaltContext -> Prop) : Prop
    extends regime.Shows target where
  concerned : forall {context log situation}, regime.holds log situation ->
    situation.records.context = some context -> concern context
  expect : forall {mode log situation}, regime.holds log situation ->
    regime.holds log { situation with mode }
  /-- A line that does not make the operator leave. -/
  read : forall {line others log situation},
    ¬ (situation.mode = .command ∧ Command.ofLine? line = some .exit) ->
    regime.holds log situation ->
    regime.holds (log ++ [⟨situation, .read (some line)⟩]) { situation with input := others }
  leave : forall {line others log situation},
    situation.mode = .command -> Command.ofLine? line = some .exit ->
    regime.holds log situation ->
    regime.left (log ++ [⟨situation, .read (some line)⟩]) { situation with input := others }
  inputEnds : forall {log situation}, regime.holds log situation ->
    regime.left (log ++ [⟨situation, .read none⟩]) situation
  locals : forall {context}, concern context ->
    regime.Keeps TargetError.isDisconnect (frameVariables target context.thread)
  stack : forall {context}, concern context ->
    regime.Keeps TargetError.isDisconnect (Dialogue.ask target (.frames context.thread none))
  setBreakpoint : forall {context} line, concern context ->
    regime.Keeps CommandError.isLoss (setBreakpoint target context.classId line)
  deleteBreakpoint : forall line,
    regime.Keeps TargetError.isDisconnect (deleteBreakpoint target line)
  requestStep : forall {context} scope, concern context ->
    regime.Keeps TargetError.isDisconnect (requestStep target context.thread scope)

namespace Speaks

variable {regime} (law : regime.Speaks)
include law

theorem keepsSay {isLoss : ε -> Bool} {line : String} (plain : Plain line) :
    regime.Keeps isLoss (Dialogue.say line : Dialogue σ ε Unit) :=
  fun _ _ holds => reaches_say.mpr (law.say plain holds)

theorem keepsSayAll {isLoss : ε -> Bool} {lines : List String}
    (plain : forall line, line ∈ lines -> Plain line) :
    regime.Keeps isLoss (Dialogue.sayAll lines : Dialogue σ ε Unit) := by
  induction lines with
  | nil => exact Keeps.pure ()
  | cons line others inductionHypothesis =>
      refine (law.keepsSay (plain line (List.mem_cons.mpr (Or.inl rfl)))).bind fun _ => ?_
      exact inductionHypothesis fun other member =>
        plain other (List.mem_cons.mpr (Or.inr member))

/-- The breakpoints are the session's own knowledge. -/
theorem showBreakpoints {isLoss : ε -> Bool} :
    regime.Keeps isLoss (showBreakpoints : Dialogue σ ε Unit) := by
  refine Keeps.records.bind fun records => ?_
  cases records.breakpoints.entries with
  | nil => exact law.keepsSay (by decide)
  | cons first others =>
      refine law.keepsSayAll fun line member => ?_
      obtain ⟨breakpoint, _, rfl⟩ := List.mem_map.mp member
      exact breakpoint_describe_plain breakpoint

end Speaks

namespace Shows

variable {regime} {target : Target σ} (laws : regime.Shows target)
include laws

/-! ### Looking at the halted thread -/

theorem renderValue (value : Value) :
    regime.Keeps TargetError.isDisconnect (renderValue target value) := by
  cases value with
  | array array =>
      refine (laws.detail (.arrayValues array) rfl).handle (fun elements => Keeps.pure _) ?_ ?_
      · intro error harmless
        simp only [harmless, Bool.false_eq_true, if_false]
        exact Keeps.pure _
      · intro error gone
        simp only [gone, if_true]
        exact HandsOn.fail gone
  | _ => exact Keeps.pure _

theorem sayVariables (shown : List LocalVariable) :
    regime.Keeps TargetError.isDisconnect (sayVariables target shown) := by
  induction shown with
  | nil => exact Keeps.pure ()
  | cons first others inductionHypothesis =>
      refine (laws.renderValue first.value).bind fun value => ?_
      refine (laws.keepsSay (variable_describe_plain first value)).bind fun _ => ?_
      exact inductionHypothesis

theorem showFrame {thread : UInt64}
    (locals : regime.Keeps TargetError.isDisconnect (frameVariables target thread)) :
    regime.Keeps TargetError.isDisconnect (showFrame target thread) := by
  refine locals.bind fun visible => ?_
  refine (laws.keepsSay (by decide)).bind fun _ => ?_
  exact (laws.sayVariables visible).bind fun _ => laws.keepsSay (by decide)

theorem showStack {thread : UInt64}
    (stack : regime.Keeps TargetError.isDisconnect
      (Dialogue.ask target (.frames thread none))) :
    regime.Keeps TargetError.isDisconnect (showStack target thread) := by
  refine stack.bind fun frames => ?_
  refine (laws.keepsSay (by decide)).bind fun _ => ?_
  refine (laws.keepsSayAll ?_).bind fun _ => laws.keepsSay (by decide)
  intro line member
  obtain ⟨frame, _, rfl⟩ := List.mem_map.mp member
  exact plain_colon _ _

theorem sayHaltVariables {thread : UInt64}
    (locals : regime.Keeps TargetError.isDisconnect (frameVariables target thread)) :
    regime.Keeps TargetError.isDisconnect (sayHaltVariables target thread) := by
  refine locals.handle (fun visible => laws.sayVariables visible) ?_ ?_
  · intro error harmless
    simp only [harmless, Bool.false_eq_true, if_false]
    exact laws.keepsSay (plain_append 'c' error.message (by decide) (by decide))
  · intro error gone
    simp only [gone, if_true]
    exact HandsOn.fail gone

end Shows

/-! ## Conversations about any thread

Many regimes do not care which thread is looked at or acted upon.  For these it is enough to
know what they make of a request of each kind.
-/

/-- The laws of a regime under which a halted thread can be shown. -/
structure Looks (target : Target σ) : Prop extends regime.Speaks where
  inspect : forall request, request.kind.inspects = true ->
    regime.Keeps TargetError.isDisconnect (Dialogue.ask target request)

/-- The laws of a regime under which the operator can be consulted. -/
structure Converses (target : Target σ) : Prop extends regime.Looks target where
  expect : forall {mode log situation}, regime.holds log situation ->
    regime.holds log { situation with mode }
  /-- A line that does not make the operator leave. -/
  read : forall {line others log situation},
    ¬ (situation.mode = .command ∧ Command.ofLine? line = some .exit) ->
    regime.holds log situation ->
    regime.holds (log ++ [⟨situation, .read (some line)⟩]) { situation with input := others }
  leave : forall {line others log situation},
    situation.mode = .command -> Command.ofLine? line = some .exit ->
    regime.holds log situation ->
    regime.left (log ++ [⟨situation, .read (some line)⟩]) { situation with input := others }
  inputEnds : forall {log situation}, regime.holds log situation ->
    regime.left (log ++ [⟨situation, .read none⟩]) situation
  setBreakpoint : forall classId line,
    regime.Keeps CommandError.isLoss (setBreakpoint target classId line)
  deleteBreakpoint : forall line,
    regime.Keeps TargetError.isDisconnect (deleteBreakpoint target line)
  requestStep : forall thread scope,
    regime.Keeps TargetError.isDisconnect (requestStep target thread scope)

/-- Looking at the variables of a thread takes nothing but looking. -/
theorem Keeps.frameVariables {regime : Regime σ} {target : Target σ}
    (inspect : forall request, request.kind.inspects = true ->
      regime.Keeps TargetError.isDisconnect (Dialogue.ask target request)) (thread : UInt64) :
    regime.Keeps TargetError.isDisconnect (frameVariables target thread) := by
  refine Keeps.bind ?_ fun frame => inspect (.visibleVariables thread frame) rfl
  refine (inspect (.frames thread (some 1)) rfl).bind fun frames => ?_
  cases frames with
  | nil => exact Keeps.fail rfl
  | cons frame others => exact Keeps.pure frame

namespace Looks

variable {regime} {target : Target σ} (laws : regime.Looks target)
include laws

theorem shows : regime.Shows target where
  toSpeaks := laws.toSpeaks
  detail request details := laws.inspect request (RequestKind.inspects_of_details details)

theorem frameVariables (thread : UInt64) :
    regime.Keeps TargetError.isDisconnect (frameVariables target thread) :=
  Keeps.frameVariables laws.inspect thread

end Looks

theorem Converses.serves {target : Target σ} (laws : regime.Converses target) :
    regime.Serves target fun _ => True where
  toShows := laws.shows
  concerned _ _ := trivial
  expect := laws.expect
  read := laws.read
  leave := laws.leave
  inputEnds := laws.inputEnds
  locals _ := laws.frameVariables _
  stack _ := laws.inspect (.frames _ none) rfl
  setBreakpoint line _ := laws.setBreakpoint _ line
  deleteBreakpoint := laws.deleteBreakpoint
  requestStep scope _ := laws.requestStep _ scope

end Regime
end Session
end LineDebugger
