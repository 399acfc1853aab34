import LineDebugger.Proofs.Session.Bookkeeping

namespace LineDebugger

/-- The requests about steps. -/
def Debuggee.RequestKind.steps : Debuggee.RequestKind -> Bool
  | .createStep | .deleteStep => true
  | _ => false

theorem Debuggee.RequestKind.unstepping_of_inspects {kind : Debuggee.RequestKind}
    (inspects : kind.inspects = true) : kind.steps = false := by
  cases kind <;> first | rfl | cases inspects

namespace Session

open Debuggee

/-!
# Computations that take no line

Only the interpreter takes lines.  Whatever it does between two lines is put together from a
few steps: something is said, the target is asked, the records are looked at or changed.
`Lineless` says this of a computation, and it is established here once, for everything that a
line can lead to.

Two things are kept open: which requests are made, and which changes of the records.  What
follows is the frame of such a computation: no request is made but those that are allowed, no
line is taken, and what the changes spare stays as it is.  And since no step looks at the lines
that are left, two runs that differ in these alone do the same.
-/

variable {σ : Type}

/-- A change of the records that is one of breakpoints alone. -/
def Records.Relists (f : Records -> Records) : Prop :=
  forall records, exists breakpoints, f records = { records with breakpoints }

/-- The computations that consist of steps that take no line. -/
inductive Lineless (target : Target σ) (asks : Request -> Prop)
    (changes : (Records -> Records) -> Prop) : {ε α : Type} -> Dialogue σ ε α -> Prop where
  | done {ε α : Type} (value : α) : Lineless target asks changes (pure value : Dialogue σ ε α)
  | fail {ε α : Type} (error : ε) :
      Lineless target asks changes (Act.fail error : Dialogue σ ε α)
  | say {ε : Type} (line : String) :
      Lineless target asks changes (Dialogue.say line : Dialogue σ ε Unit)
  | records {ε : Type} : Lineless target asks changes (Dialogue.records : Dialogue σ ε Records)
  | change {ε : Type} {f : Records -> Records} (allowed : changes f) :
      Lineless target asks changes (Dialogue.change f : Dialogue σ ε Unit)
  | ask {request : Request} (allowed : asks request) :
      Lineless target asks changes (Dialogue.ask target request)
  | andThen {ε α β : Type} {first : Dialogue σ ε α} {next : α -> Dialogue σ ε β}
      (early : Lineless target asks changes first)
      (late : forall value, Lineless target asks changes (next value)) :
      Lineless target asks changes (first >>= next)
  | attempt {ε δ α : Type} {act : Dialogue σ ε α} (lineless : Lineless target asks changes act) :
      Lineless target asks changes (act.attempt : Dialogue σ δ (Except ε α))
  | mapError {ε δ α : Type} {act : Dialogue σ ε α} (restate : ε -> δ)
      (lineless : Lineless target asks changes act) :
      Lineless target asks changes (act.mapError restate)

/-! ## The frame of a computation -/

/-- A stretch of a session in which only such marks are made, and in which what is seen of the
situation stays the same from its beginning to its end. -/
structure Steady {κ : Type} (allowed : Mark -> Prop) (view : Situation σ -> κ)
    (present : Situation σ) (log : List (Moment σ)) (after : Situation σ) : Prop where
  moments : forall moment, moment ∈ log ->
    allowed moment.mark ∧ view moment.before = view present
  state : view after = view present

namespace Steady

variable {κ : Type} {allowed : Mark -> Prop} {view : Situation σ -> κ}
  {present middle after : Situation σ} {own more : List (Moment σ)}

/-- Nothing has been done. -/
theorem idle : Steady allowed view present [] present := ⟨List.forall_mem_nil _, rfl⟩

theorem append (early : Steady allowed view present own middle)
    (late : Steady allowed view middle more after) :
    Steady allowed view present (own ++ more) after where
  moments := List.forall_mem_append.mpr ⟨early.moments, fun moment member =>
    ⟨(late.moments moment member).1, (late.moments moment member).2.trans early.state⟩⟩
  state := late.state.trans early.state

end Steady

/-! ## Two runs -/

/-- Two situations that differ at most in the lines that are left and in what they mean. -/
structure Situation.Alike (situation other : Situation σ) : Prop where
  records : situation.records = other.records
  target : situation.target = other.target

/-- Two computations have done the same and have come out the same. -/
structure SameCourse {ε α : Type} (first second : Progress (Situation σ) (Moment σ) ε α) :
    Prop where
  outcome : first.outcome = second.outcome
  marks : first.log.map Moment.mark = second.log.map Moment.mark
  state : first.state.Alike second.state

namespace SameCourse

variable {ε δ α β : Type} {present other : Situation σ}

theorem after {own others : List (Moment σ)}
    (marks : own.map Moment.mark = others.map Moment.mark)
    {first second : Progress (Situation σ) (Moment σ) ε α} (same : SameCourse first second) :
    SameCourse (first.after own) (second.after others) := by
  refine ⟨same.outcome, ?_, same.state⟩
  rw [Progress.after, Progress.after, List.map_append, List.map_append, marks, same.marks]

theorem bind {first : Dialogue σ ε α} {next : α -> Dialogue σ ε β}
    (early : SameCourse (first present) (first other))
    (late : forall value situation second, Situation.Alike situation second ->
      SameCourse (next value situation) (next value second)) :
    SameCourse ((first >>= next) present) ((first >>= next) other) := by
  obtain ⟨outcome, marks, state⟩ := early
  cases came : first present with
  | mk result own left =>
      cases cameToo : first other with
      | mk second others right =>
          rw [came, cameToo] at outcome marks state
          cases outcome
          cases result with
          | ok value =>
              rw [Act.bind_ok came, Act.bind_ok cameToo]
              exact (late value left right state).after marks
          | failed error =>
              rw [Act.bind_failed came, Act.bind_failed cameToo]
              exact ⟨rfl, marks, state⟩
          | unfinished =>
              rw [Act.bind_unfinished came, Act.bind_unfinished cameToo]
              exact ⟨rfl, marks, state⟩

theorem attempt {act : Dialogue σ ε α} (same : SameCourse (act present) (act other)) :
    SameCourse ((act.attempt : Dialogue σ δ (Except ε α)) present)
      ((act.attempt : Dialogue σ δ (Except ε α)) other) := by
  obtain ⟨outcome, marks, state⟩ := same
  cases came : act present with
  | mk result own left =>
      cases cameToo : act other with
      | mk second others right =>
          rw [came, cameToo] at outcome marks state
          cases outcome
          cases result with
          | ok value =>
              rw [Act.attempt_ok came, Act.attempt_ok cameToo]
              exact ⟨rfl, marks, state⟩
          | failed error =>
              rw [Act.attempt_failed came, Act.attempt_failed cameToo]
              exact ⟨rfl, marks, state⟩
          | unfinished =>
              rw [Act.attempt_unfinished came, Act.attempt_unfinished cameToo]
              exact ⟨rfl, marks, state⟩

end SameCourse

/-! ## What is true of every computation without lines -/

namespace Lineless

variable {target : Target σ} {asks : Request -> Prop} {changes : (Records -> Records) -> Prop}
  {ε α κ : Type} {act : Dialogue σ ε α}

/-- A computation without lines is steady in the eyes of anyone who overlooks the target and the
changes of the records. -/
theorem steady {allowed : Mark -> Prop} {view : Situation σ -> κ}
    (lineless : Lineless target asks changes act) (speaks : forall line, allowed (.said line))
    (asked : forall request outcome exchanges, asks request ->
      allowed (.asked request outcome exchanges))
    (changed : forall f, changes f -> forall situation : Situation σ,
      view { situation with records := f situation.records } = view situation)
    (moved : forall (situation : Situation σ) state,
      view { situation with target := state } = view situation) :
    forall present, Steady allowed view present (act present).log (act present).state := by
  induction lineless with
  | done value => exact fun present => .idle
  | fail error => exact fun present => .idle
  | say line => exact fun present => ⟨List.forall_mem_singleton.mpr ⟨speaks line, rfl⟩, rfl⟩
  | records => exact fun present => .idle
  | change permitted =>
      exact fun present => ⟨List.forall_mem_nil _, changed _ permitted present⟩
  | ask permitted =>
      exact fun present =>
        ⟨List.forall_mem_singleton.mpr ⟨asked _ _ _ permitted, rfl⟩, moved present _⟩
  | andThen early late before after =>
      exact fun present => Act.bind_stretch (Steady allowed view) .append (before present)
        fun value _ next _ => after value next
  | attempt lineless kept =>
      intro present
      rw [Act.attempt_log, Act.attempt_state]
      exact kept present
  | mapError restate lineless kept => exact kept

/-- Whatever is kept by the requests and the changes that are allowed is kept by the whole. -/
theorem keeps {holds : Situation σ -> Prop} (lineless : Lineless target asks changes act)
    (asked : forall request, asks request -> forall situation, holds situation ->
      holds (situation.answered target request))
    (changed : forall f, changes f -> forall situation : Situation σ, holds situation ->
      holds { situation with records := f situation.records }) :
    forall present, holds present -> holds (act present).state := by
  induction lineless with
  | done value => exact fun present held => held
  | fail error => exact fun present held => held
  | say line => exact fun present held => held
  | records => exact fun present held => held
  | change permitted => exact changed _ permitted
  | ask permitted => exact asked _ permitted
  | andThen early late before after =>
      exact fun present => Act.bind_stretch (fun state _ next => holds state -> holds next)
        (fun first second held => second (first held)) (before present)
        fun value _ next _ => after value next
  | attempt lineless kept =>
      intro present
      rw [Act.attempt_state]
      exact kept present
  | mapError restate lineless kept => exact kept

/-- What is done does not depend on the lines that are left. -/
theorem same (lineless : Lineless target asks changes act) :
    forall present other, Situation.Alike present other ->
      SameCourse (act present) (act other) := by
  induction lineless with
  | done value => exact fun present other alike => ⟨rfl, rfl, alike⟩
  | fail error => exact fun present other alike => ⟨rfl, rfl, alike⟩
  | say line => exact fun present other alike => ⟨rfl, rfl, alike⟩
  | records =>
      exact fun present other alike => ⟨congrArg Outcome.ok alike.records, rfl, alike⟩
  | @change _ f allowed =>
      exact fun present other alike => ⟨rfl, rfl, congrArg f alike.records, alike.target⟩
  | @ask request allowed =>
      intro present other alike
      have responded : target.respond request present.target
          = target.respond request other.target := congrArg _ alike.target
      unfold Dialogue.ask
      rw [responded]
      exact ⟨rfl, rfl, alike.records, rfl⟩
  | andThen early late before after =>
      exact fun present other alike => (before present other alike).bind after
  | attempt lineless same => exact fun present other alike => (same present other alike).attempt
  | mapError restate lineless same =>
      intro present other alike
      obtain ⟨outcome, marks, state⟩ := same present other alike
      exact ⟨congrArg (Outcome.mapError restate) outcome, marks, state⟩

/-- More requests and more changes may be allowed. -/
theorem mono {wider : Request -> Prop} {looser : (Records -> Records) -> Prop}
    (lineless : Lineless target asks changes act)
    (stillAsks : forall request, asks request -> wider request)
    (stillChanges : forall f, changes f -> looser f) : Lineless target wider looser act := by
  induction lineless with
  | done value => exact .done value
  | fail error => exact .fail error
  | say line => exact .say line
  | records => exact .records
  | change permitted => exact .change (stillChanges _ permitted)
  | ask permitted => exact .ask (stillAsks _ permitted)
  | andThen early late before after => exact .andThen before after
  | attempt lineless kept => exact .attempt kept
  | mapError restate lineless kept => exact .mapError restate kept

/-- What is true of a log and of the situation that it led to stays true as long as the target
answers, if it survives each of the steps. -/
theorem reaches {holds : List (Moment σ) -> Situation σ -> Prop}
    (lineless : Lineless target asks changes act)
    (said : forall line log situation, holds log situation ->
      holds (log ++ [⟨situation, .said line⟩]) situation)
    (asked : forall request, asks request -> forall log situation, holds log situation ->
      (target.respond request situation.target).outcome ≠ .unfinished ->
      holds (log ++ [.asking target request situation]) (situation.answered target request))
    (changed : forall f, changes f -> forall log (situation : Situation σ), holds log situation ->
      holds log { situation with records := f situation.records }) :
    forall past present, holds past present ->
      act.Reaches ⟨fun _ => holds, fun _ => True⟩ (fun _ => holds) past present := by
  induction lineless with
  | done value => exact fun past present held => Act.reaches_pure.mpr held
  | fail error => exact fun past present held => Act.reaches_fail.mpr held
  | say line => exact fun past present held => reaches_say.mpr (said line past present held)
  | records => exact fun past present held => reaches_records.mpr held
  | change permitted =>
      exact fun past present held => reaches_change.mpr (changed _ permitted past present held)
  | ask permitted =>
      intro past present held
      refine Reaches.ask ?_ ?_ fun _ => trivial
      · intro answer responded
        refine asked _ permitted past present held ?_
        rw [responded]
        intro impossible
        cases impossible
      · intro error responded
        refine asked _ permitted past present held ?_
        rw [responded]
        intro impossible
        cases impossible
  | andThen early late before after =>
      exact fun past present held => (before past present held).bind fun value log between now =>
        after value log between now
  | attempt lineless kept =>
      exact fun past present held => Act.reaches_attempt.mpr (kept past present held)
  | mapError restate lineless kept =>
      exact fun past present held => Act.reaches_mapError.mpr (kept past present held)

/-! ## Speaking -/

theorem sayAll (lines : List String) :
    Lineless target asks changes (Dialogue.sayAll lines : Dialogue σ ε Unit) := by
  induction lines with
  | nil => exact .done ()
  | cons line others inductionHypothesis => exact .andThen (.say line) fun _ => inductionHypothesis

theorem plainly {act : Dialogue σ CommandError Unit} (lineless : Lineless target asks changes act) :
    Lineless target asks changes (plainly act) :=
  .andThen lineless fun _ => .done _

theorem question (text : String) (mode : Mode) :
    Lineless target asks changes (question text mode : Dialogue σ CommandError Turn) :=
  .andThen (.say text) fun _ => .done _

theorem haltContext :
    Lineless target asks changes (haltContext : Dialogue σ CommandError HaltContext) := by
  refine .andThen .records fun records => ?_
  cases records.context with
  | none => exact .fail _
  | some context => exact .done context

theorem lineNumber (answer : String) :
    Lineless target asks changes (lineNumber answer : Dialogue σ CommandError UInt32) := by
  unfold Session.lineNumber
  cases Text.Numeral.word32? answer with
  | none => exact .fail _
  | some line => exact .done line

theorem showBreakpoints :
    Lineless target asks changes (showBreakpoints : Dialogue σ ε Unit) := by
  refine .andThen .records fun records => ?_
  cases records.breakpoints.entries with
  | nil => exact .say _
  | cons first others => exact sayAll _

/-! ## Looking at the halted thread -/

section Looking

variable (looks : forall request : Request, request.kind.inspects = true -> asks request)
include looks

theorem frameVariables (thread : UInt64) :
    Lineless target asks changes (frameVariables target thread) := by
  refine .andThen (.andThen (.ask (looks _ rfl)) fun frames => ?_) fun frame =>
    .ask (looks _ rfl)
  cases frames with
  | nil => exact .fail _
  | cons frame others => exact .done frame

theorem renderValue (value : Value) : Lineless target asks changes (renderValue target value) := by
  cases value with
  | array array =>
      refine .andThen (.attempt (.ask (looks _ rfl))) fun result => ?_
      cases result with
      | ok elements => exact .done _
      | error error =>
          cases gone : error.isDisconnect with
          | true =>
              simp only [gone, if_true]
              exact .fail error
          | false =>
              simp only [gone, Bool.false_eq_true, if_false]
              exact .done _
  | _ => exact .done _

theorem sayVariables (shown : List LocalVariable) :
    Lineless target asks changes (sayVariables target shown) := by
  induction shown with
  | nil => exact .done ()
  | cons first others inductionHypothesis =>
      refine .andThen (renderValue looks first.value) fun value => ?_
      exact .andThen (.say _) fun _ => inductionHypothesis

theorem sayHaltVariables (thread : UInt64) :
    Lineless target asks changes (sayHaltVariables target thread) := by
  refine .andThen (.attempt (frameVariables looks thread)) fun result => ?_
  cases result with
  | ok visible => exact sayVariables looks visible
  | error error =>
      cases gone : error.isDisconnect with
      | true =>
          simp only [gone, if_true]
          exact .fail error
      | false =>
          simp only [gone, Bool.false_eq_true, if_false]
          exact .say _

theorem showFrame (thread : UInt64) : Lineless target asks changes (showFrame target thread) :=
  .andThen (frameVariables looks thread) fun visible => .andThen (.say _) fun _ =>
    .andThen (sayVariables looks visible) fun _ => .say _

theorem showStack (thread : UInt64) : Lineless target asks changes (showStack target thread) :=
  .andThen (.ask (looks _ rfl)) fun _ => .andThen (.say _) fun _ =>
    .andThen (sayAll _) fun _ => .say _

/-! ### Answers about a value -/

theorem printVariable (context : HaltContext) (name : String) :
    Lineless target asks changes (printVariable target context name) := by
  refine .andThen (.mapError _ (frameVariables looks context.thread)) fun visible => ?_
  cases visible.find? fun shown => shown.name == name with
  | none => exact .fail _
  | some shown =>
      obtain ⟨shownName, declaredType, value⟩ := shown
      cases value with
      | array array => exact question _ _
      | object object => exact question _ _
      | _ => exact plainly (.say _)

theorem printElement (name : String) (array : ArrayRef) (answer : String) :
    Lineless target asks changes (printElement target name array answer) := by
  unfold Session.printElement
  cases Text.Numeral.signed64? answer with
  | none => exact .fail _
  | some index =>
      dsimp only
      split
      · exact .andThen (.mapError _ (.ask (looks _ rfl))) fun element => .say _
      · exact .fail _

theorem printField (name : String) (object : ObjectRef) (field : String) :
    Lineless target asks changes (printField target name object field) := by
  refine .andThen (.attempt (.ask (looks _ rfl))) fun result => ?_
  cases result with
  | ok value => exact .andThen (.mapError _ (renderValue looks value)) fun text => .say _
  | error error => cases error <;> exact .fail _

end Looking

/-! ## Arranging for further halts -/

/-- The requests that can be made while the debuggee is halted. -/
def Halted (request : Request) : Prop := request.kind.drives = false

/-- The requests that can be made while the debuggee is halted, but for those about steps. -/
def Unstepping (request : Request) : Prop :=
  request.kind.drives = false ∧ request.kind.steps = false

theorem halted_of_inspects (request : Request) (inspects : request.kind.inspects = true) :
    Halted request :=
  RequestKind.halted_of_inspects inspects

theorem unstepping_of_inspects (request : Request) (inspects : request.kind.inspects = true) :
    Unstepping request :=
  ⟨RequestKind.halted_of_inspects inspects, RequestKind.unstepping_of_inspects inspects⟩

/-- A computation that a line may lead to. -/
abbrev Arranging (target : Target σ) {ε α : Type} (act : Dialogue σ ε α) : Prop :=
  Lineless target Halted Records.Rearranges act

/-- A computation that a line may lead to if it is not about steps. -/
abbrev Listing (target : Target σ) {ε α : Type} (act : Dialogue σ ε α) : Prop :=
  Lineless target Unstepping Records.Relists act

theorem Listing.arranging (listing : Listing target act) : Arranging target act := by
  refine listing.mono (fun _ unstepping => unstepping.1) fun f relists records => ?_
  obtain ⟨breakpoints, same⟩ := relists records
  rw [same]
  exact ⟨rfl, rfl⟩

theorem deleteRequest {request : Request} (allowed : asks request) :
    Lineless target asks changes (deleteRequest target request) := by
  refine .andThen (.attempt (.ask allowed)) fun result => ?_
  cases result with
  | ok answer => exact .done ()
  | error error =>
      cases error with
      | noSuchElement reason => exact .done ()
      | _ => exact .fail _

/-! ### Breakpoints -/

namespace Listing

theorem findLocation (classId : UInt64) (line : UInt32) :
    Listing target (findLocation target classId line) := by
  refine .andThen (.attempt (.ask ⟨rfl, rfl⟩)) fun result => ?_
  cases result with
  | ok locations =>
      cases locations with
      | nil => exact .fail _
      | cons location others => exact .done location
  | error error => cases error <;> exact .fail _

theorem setBreakpoint (classId : UInt64) (line : UInt32) :
    Listing target (setBreakpoint target classId line) := by
  refine .andThen .records fun records => ?_
  cases (records.breakpoints.get? line).isSome with
  | true => exact .fail _
  | false =>
      refine .andThen (findLocation classId line) fun location => ?_
      refine .andThen (.mapError _ (.ask ⟨rfl, rfl⟩)) fun request => ?_
      exact .andThen (.change fun records => ⟨_, rfl⟩) fun _ => .done _

theorem deleteBreakpoint (line : UInt32) :
    Listing target (deleteBreakpoint target line) := by
  refine .andThen .records fun records => ?_
  cases records.breakpoints.get? line with
  | none => exact .done false
  | some breakpoint =>
      refine .andThen (deleteRequest ⟨rfl, rfl⟩) fun _ => ?_
      exact .andThen (.change fun records => ⟨_, rfl⟩) fun _ => .done true

/-- What a line with a command leads to, unless it asks for a step. -/
theorem execute {wanted : Command} (notOver : wanted ≠ .stepOver) (notInto : wanted ≠ .stepInto) :
    Listing target (execute target wanted) := by
  cases wanted with
  | resume => exact .done _
  | exit => exact .done _
  | stepOver => exact absurd rfl notOver
  | stepInto => exact absurd rfl notInto
  | setBreakpoint => exact .andThen haltContext fun context => question _ _
  | deleteBreakpoint => exact question _ _
  | showBreakpoints => exact plainly Lineless.showBreakpoints
  | showFrame =>
      exact plainly <| .andThen haltContext fun context =>
        .mapError _ (showFrame unstepping_of_inspects context.thread)
  | showStack =>
      exact plainly <| .andThen haltContext fun context =>
        .mapError _ (showStack unstepping_of_inspects context.thread)
  | print => exact .andThen haltContext fun context => question _ _
  | help => exact plainly (sayAll _)

theorem breakAt (context : HaltContext) (answer : String) :
    Listing target (breakAt target context answer) :=
  .andThen (lineNumber answer) fun line =>
    .andThen (setBreakpoint context.classId line) fun _ => .say _

theorem clearAt (answer : String) : Listing target (clearAt target answer) :=
  .andThen (lineNumber answer) fun line =>
    .andThen (.mapError _ (deleteBreakpoint line)) fun _ => .say _

/-- What an answer leads to. -/
theorem take {mode : Mode} (line : String) (answers : mode ≠ .command) :
    Listing target (mode.take target line) := by
  unfold Mode.take
  cases mode with
  | command => exact absurd rfl answers
  | lineToBreakAt context => exact plainly (breakAt context _)
  | lineToClear => exact plainly (clearAt _)
  | variableToPrint context => exact printVariable unstepping_of_inspects context _
  | indexToPrint name array => exact plainly (printElement unstepping_of_inspects name array _)
  | fieldToPrint name object => exact plainly (printField unstepping_of_inspects name object _)

end Listing

/-! ### Steps -/

theorem dropStep : Arranging target (dropStep target) := by
  refine .andThen .records fun records => ?_
  cases records.step with
  | none => exact .done ()
  | some previous =>
      refine .andThen (.change fun records => ⟨rfl, rfl⟩) fun _ => ?_
      refine .andThen (.attempt (deleteRequest rfl)) fun result => ?_
      cases result with
      | ok answer => exact .done ()
      | error error => exact .andThen (.change fun records => ⟨rfl, rfl⟩) fun _ => .fail error

theorem requestStep (thread : UInt64) (scope : StepScope) :
    Arranging target (requestStep target thread scope) :=
  .andThen dropStep fun _ => .andThen .records fun _ => .andThen (.ask rfl) fun _ =>
    .change fun _ => ⟨rfl, rfl⟩

theorem retireStep (request : Int32) : Arranging target (retireStep target request) := by
  refine .andThen (deleteRequest rfl) fun _ => .change fun records => ?_
  split <;> exact ⟨rfl, rfl⟩

theorem step (scope : StepScope) : Arranging target (execute.step target scope) :=
  .andThen haltContext fun context =>
    .andThen (.mapError _ (requestStep context.thread scope)) fun _ => .done _

/-! ## Lines -/

/-- What a line with a command leads to. -/
theorem execute (wanted : Command) : Arranging target (execute target wanted) := by
  cases wanted with
  | stepOver => exact step .overCalls
  | stepInto => exact step .intoCalls
  | _ =>
      refine Listing.arranging (Listing.execute ?_ ?_) <;>
        (intro impossible; cases impossible)

/-- Taking a line for what it means takes no further line. -/
theorem take (mode : Mode) (line : String) : Arranging target (mode.take target line) := by
  by_cases commanded : mode = .command
  · subst commanded
    unfold Mode.take
    dsimp only
    cases Command.ofLine? line with
    | none => exact .done _
    | some wanted => exact execute wanted
  · exact (Listing.take line commanded).arranging

end Lineless

/-! ## Between two lines -/

/-- Whether a line is taken, or the end of the input noticed. -/
def Mark.reads : Mark -> Bool
  | .read _ => true
  | _ => false

/-- Between two lines no line is taken, and neither the halt nor the input changes. -/
abbrev Between {ε α : Type} (present : Situation σ)
    (progress : Progress (Situation σ) (Moment σ) ε α) : Prop :=
  Steady (fun mark => mark.reads = false)
    (fun situation => (situation.records.context, situation.input))
    present progress.log progress.state

theorem Lineless.Arranging.between {target : Target σ} {ε α : Type} {act : Dialogue σ ε α}
    (arranging : Lineless.Arranging target act) (present : Situation σ) :
    Between present (act present) := by
  refine Lineless.steady arranging (fun _ => rfl) (fun _ _ _ _ => rfl) ?_ (fun _ _ => rfl) present
  intro f rearranges situation
  exact congrArg (·, situation.input) (rearranges situation.records).1

theorem take_between (target : Target σ) (mode : Mode) (line : String) (present : Situation σ) :
    Between present (mode.take target line present) :=
  Lineless.Arranging.between (.take mode line) present

end Session
end LineDebugger
