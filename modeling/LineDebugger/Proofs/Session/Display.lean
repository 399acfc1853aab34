import LineDebugger.Debuggee.Scripted
import LineDebugger.Proofs.Session.LineByLine
import LineDebugger.Proofs.Session.Run

namespace LineDebugger

/-- The requests that show frames, variables and whole arrays. -/
def Debuggee.RequestKind.displays : Debuggee.RequestKind -> Bool
  | .frames | .visibleVariables | .arrayValues => true
  | _ => false

theorem Debuggee.RequestKind.halted_of_displays {kind : Debuggee.RequestKind}
    (displays : kind.displays = true) : kind.drives = false := by
  cases kind <;> first | rfl | cases displays

namespace Session

open Debuggee

/-!
# What a halt shows, and what `sf` shows

The variables are shown when the debuggee halts, and again whenever the operator asks for the
frame.  The two are written down twice and handle failures differently: at a halt a failure is
reported and the session goes on with the event, while `sf` fails.  Still they show the same
lines, as long as the debuggee stands still in between, and a value that cannot be read never
costs a variable its line.
-/

variable {σ : Type} {ε δ α β : Type} {target : Target σ}

/-! ## A debuggee that stands still -/

/-- What a halted debuggee shows is a matter of fact: the answers stay the same until it is driven
on, and the debuggee is there. -/
structure Still (target : Target σ)
    (facts : (request : Request) -> Except TargetError request.Answer) (halted : σ -> Prop) :
    Prop where
  answers : forall request state, request.kind.displays = true -> halted state ->
    (target.respond request state).outcome = .ofExcept (facts request)
  stays : forall request state, request.kind.drives = false -> halted state ->
    halted (target.respond request state).state
  available : forall request error, request.kind.displays = true ->
    facts request = .error error -> error.isDisconnect = false

variable {facts : (request : Request) -> Except TargetError request.Answer} {halted : σ -> Prop}

/-- The variables in sight of a thread, as a matter of fact. -/
def locals (facts : (request : Request) -> Except TargetError request.Answer) (thread : UInt64) :
    Except TargetError (List LocalVariable) :=
  match facts (.frames thread (some 1)) with
  | .ok (frame :: _) => facts (.visibleVariables thread frame)
  | .ok [] => .error (.noSuchElement "thread has no frames")
  | .error error => .error error

/-- The text of a value: the elements of an array that can be read, and the compact text of
anything else. -/
def shownText (facts : (request : Request) -> Except TargetError request.Answer) (value : Value) :
    String :=
  match value with
  | .array array =>
      match facts (.arrayValues array) with
      | .ok elements => Value.renderElements elements
      | .error _ => value.render
  | _ => value.render

/-- The line of a variable. -/
def variableLine (facts : (request : Request) -> Except TargetError request.Answer)
    (shown : LocalVariable) : String :=
  shown.describe (shownText facts shown.value)

/-- The lines of a halt. -/
def haltLines (facts : (request : Request) -> Except TargetError request.Answer)
    (thread : UInt64) : List String :=
  match locals facts thread with
  | .ok visible => visible.map (variableLine facts)
  | .error error => ["cannot read variables: " ++ error.message]

/-- The lines of a frame. -/
def frameLines (facts : (request : Request) -> Except TargetError request.Answer)
    (thread : UInt64) : List String :=
  match locals facts thread with
  | .ok visible =>
      "====current stack frame====" :: (visible.map (variableLine facts) ++ [rule])
  | .error error => [error.message]

/-! ## Lines that are told -/

/-- The lines that have been said, in order. -/
def spoken (log : List (Moment σ)) : List String :=
  log.filterMap fun moment =>
    match moment.mark with
    | .said line => some line
    | _ => none

theorem spoken_append (log later : List (Moment σ)) :
    spoken (log ++ later) = spoken log ++ spoken later :=
  List.filterMap_append ..

/-- While the debuggee is halted, the computation says these lines, takes none, and comes out like
this.  Nothing but the target has moved on then, and it is still halted. -/
def Tells (halted : σ -> Prop) (act : Dialogue σ ε α) (lines : List String) (result : Except ε α) :
    Prop :=
  forall situation : Situation σ, halted situation.target -> exists own state, halted state ∧
    act situation = ⟨.ofExcept result, own, { situation with target := state }⟩ ∧
    spoken own = lines ∧ forall moment, moment ∈ own -> moment.mark.reads = false

namespace Tells

theorem pure (value : α) : Tells halted (pure value : Dialogue σ ε α) [] (.ok value) :=
  fun situation rests => ⟨[], situation.target, rests, rfl, rfl, List.forall_mem_nil _⟩

theorem fail (error : ε) : Tells halted (Act.fail error : Dialogue σ ε α) [] (.error error) :=
  fun situation rests => ⟨[], situation.target, rests, rfl, rfl, List.forall_mem_nil _⟩

theorem say (line : String) :
    Tells halted (Dialogue.say line : Dialogue σ ε Unit) [line] (.ok ()) :=
  fun situation rests =>
    ⟨_, situation.target, rests, rfl, rfl, List.forall_mem_singleton.mpr rfl⟩

theorem bind {first : Dialogue σ ε α} {next : α -> Dialogue σ ε β} {lines more : List String}
    {value : α} {result : Except ε β} (early : Tells halted first lines (.ok value))
    (late : Tells halted (next value) more result) :
    Tells halted (first >>= next) (lines ++ more) result := by
  intro situation rests
  obtain ⟨own, state, still, ran, rfl, quiet⟩ := early situation rests
  obtain ⟨further, last, stillThen, went, rfl, silent⟩ :=
    late { situation with target := state } still
  refine ⟨own ++ further, last, stillThen, ?_, spoken_append own further,
    List.forall_mem_append.mpr ⟨quiet, silent⟩⟩
  rw [Act.bind_ok ran, went]
  rfl

theorem mapError {act : Dialogue σ ε α} {lines : List String} {result : Except ε α}
    (tells : Tells halted act lines result) (restate : ε -> δ) :
    Tells halted (act.mapError restate) lines (result.mapError restate) := by
  intro situation rests
  obtain ⟨own, state, still, ran, spoke, quiet⟩ := tells situation rests
  refine ⟨own, state, still, ?_, spoke, quiet⟩
  unfold Act.mapError
  rw [ran]
  cases result <;> rfl

theorem bind_error {first : Dialogue σ ε α} {next : α -> Dialogue σ ε β} {lines : List String}
    {error : ε} (early : Tells halted first lines (.error error)) :
    Tells halted (first >>= next) lines (.error error) := by
  intro situation rests
  obtain ⟨own, state, still, ran, spoke, quiet⟩ := early situation rests
  exact ⟨own, state, still, Act.bind_failed ran _, spoke, quiet⟩

theorem attempt {act : Dialogue σ ε α} {lines : List String} {result : Except ε α}
    (tells : Tells halted act lines result) :
    Tells halted (act.attempt : Dialogue σ δ (Except ε α)) lines (.ok result) := by
  intro situation rests
  obtain ⟨own, state, still, ran, spoke, quiet⟩ := tells situation rests
  cases result with
  | ok value => exact ⟨own, state, still, Act.attempt_ok ran, spoke, quiet⟩
  | error error => exact ⟨own, state, still, Act.attempt_failed ran, spoke, quiet⟩

theorem ask (still : Still target facts halted) (request : Request)
    (displays : request.kind.displays = true) :
    Tells halted (Dialogue.ask target request) [] (facts request) := by
  intro situation rests
  have answered := still.answers request situation.target displays rests
  refine ⟨[.asking target request situation], _,
    still.stays request _ (RequestKind.halted_of_displays displays) rests, ?_, rfl,
    List.forall_mem_singleton.mpr rfl⟩
  rw [← answered]
  rfl

end Tells

namespace Still

variable (still : Still target facts halted)
include still

theorem frameVariables (thread : UInt64) :
    Tells halted (frameVariables target thread) [] (locals facts thread) := by
  have frames := Tells.ask still (.frames thread (some 1)) rfl
  unfold locals
  cases found : facts (.frames thread (some 1)) with
  | error error =>
      rw [found] at frames
      exact frames.bind_error.bind_error
  | ok stack =>
      rw [found] at frames
      cases stack with
      | nil => exact (frames.bind (.fail _)).bind_error
      | cons frame others =>
          have top : Tells halted (topFrame target thread) [] (.ok frame) :=
            frames.bind (.pure frame)
          exact top.bind (Tells.ask still (.visibleVariables thread frame) rfl)

theorem locals_available {thread : UInt64} {error : TargetError}
    (found : locals facts thread = .error error) : error.isDisconnect = false := by
  unfold locals at found
  cases frames : facts (.frames thread (some 1)) with
  | error cause =>
      rw [frames] at found
      cases found
      exact still.available _ error rfl frames
  | ok stack =>
      rw [frames] at found
      cases stack with
      | nil => cases found; rfl
      | cons frame others => exact still.available (.visibleVariables thread frame) error rfl found

theorem renderValue (value : Value) :
    Tells halted (renderValue target value) [] (.ok (shownText facts value)) := by
  cases value with
  | array array =>
      have elements := Tells.ask still (.arrayValues array) rfl
      refine elements.attempt.bind ?_
      cases found : facts (.arrayValues array) with
      | ok values =>
          have text : shownText facts (.array array) = Value.renderElements values := by
            simp only [shownText, found]
          exact text ▸ .pure _
      | error error =>
          have text : shownText facts (.array array) = (Value.array array).render := by
            simp only [shownText, found]
          simp only [still.available (.arrayValues array) error rfl found, Bool.false_eq_true,
            if_false]
          exact text ▸ .pure _
  | _ => exact .pure _

/-- The induction is on the variables. -/
theorem sayVariables (visible : List LocalVariable) :
    Tells halted (sayVariables target visible) (visible.map (variableLine facts)) (.ok ()) := by
  induction visible with
  | nil => exact .pure ()
  | cons shown others inductionHypothesis =>
      exact (still.renderValue shown.value).bind ((Tells.say _).bind inductionHypothesis)

/-- At a halt that the variables cannot be read is one line among others. -/
theorem sayHaltVariables (thread : UInt64) :
    Tells halted (sayHaltVariables target thread) (haltLines facts thread) (.ok ()) := by
  unfold haltLines
  refine (still.frameVariables thread).attempt.bind ?_
  cases found : locals facts thread with
  | ok visible => exact still.sayVariables visible
  | error error =>
      simp only [still.locals_available found, Bool.false_eq_true, if_false]
      exact .say _

theorem showFrame_ok {thread : UInt64} {visible : List LocalVariable}
    (found : locals facts thread = .ok visible) :
    Tells halted (showFrame target thread)
      ("====current stack frame====" :: (visible.map (variableLine facts) ++ [rule])) (.ok ()) := by
  have read := still.frameVariables thread
  rw [found] at read
  exact read.bind ((Tells.say _).bind ((still.sayVariables visible).bind (.say rule)))

theorem showFrame_error {thread : UInt64} {error : TargetError}
    (found : locals facts thread = .error error) :
    Tells halted (showFrame target thread) [] (.error error) := by
  have read := still.frameVariables thread
  rw [found] at read
  exact read.bind_error

end Still

/-! ## Frames in a log -/

/-- These lines are said, and then the next line is taken for a command. -/
def FrameShown (lines : List String) (rest : List (Moment σ)) : Prop :=
  exists shown next answer further, rest = shown ++ ⟨next, .read answer⟩ :: further ∧
    next.mode = .command ∧ spoken shown = lines ∧
    forall moment, moment ∈ shown -> moment.mark.reads = false

/-- Wherever the operator asks for the frame, these lines are said. -/
def ShowsFrames (lines : List String) (log : List (Moment σ)) : Prop :=
  forall before line rest, ⟨before, .read (some line)⟩ :: rest <:+ log ->
    before.mode = .command -> Command.ofLine? line = some .showFrame -> FrameShown lines rest

namespace ShowsFrames

variable {lines : List String} {log later : List (Moment σ)}

theorem nil : ShowsFrames lines ([] : List (Moment σ)) := by
  intro before line rest part
  cases List.suffix_nil.mp part

theorem cons {moment : Moment σ}
    (shown : forall line, moment.mark = .read (some line) -> moment.before.mode = .command ->
      Command.ofLine? line = some .showFrame -> FrameShown lines log)
    (shows : ShowsFrames lines log) : ShowsFrames lines (moment :: log) := by
  intro before line rest part commanded asks
  rcases List.suffix_cons_iff.mp part with same | part
  · cases same
    exact shown line rfl commanded asks
  · exact shows before line rest part commanded asks

/-- A frame that has been shown does not depend on what follows. -/
theorem append (shows : ShowsFrames lines log) (alsoShows : ShowsFrames lines later) :
    ShowsFrames lines (log ++ later) := by
  induction log with
  | nil => exact alsoShows
  | cons moment others inductionHypothesis =>
      refine cons ?_ (inductionHypothesis fun before line rest part =>
        shows before line rest (part.trans (List.suffix_cons _ _)))
      intro line reads commanded asks
      obtain ⟨before, mark⟩ := moment
      cases reads
      obtain ⟨shown, next, answer, further, rfl, expected, said, quiet⟩ :=
        shows before line others List.suffix_rfl commanded asks
      exact ⟨shown, next, answer, further ++ later, List.append_assoc _ _ _, expected, said, quiet⟩

theorem of_unread (unread : forall moment, moment ∈ log -> moment.mark.reads = false) :
    ShowsFrames lines log := by
  intro before line rest part
  cases unread _ (part.subset List.mem_cons_self)

end ShowsFrames

/-! ## Frames in a consultation -/

/-- The debuggee is halted, and commands apply to this halt. -/
def Resting (halted : σ -> Prop) (context : HaltContext) (situation : Situation σ) : Prop :=
  halted situation.target ∧ situation.records.context = some context

namespace Still

variable (still : Still target facts halted) {context : HaltContext}
include still

theorem keeps {act : Dialogue σ ε α} (arranging : Lineless.Arranging target act)
    {present : Situation σ} (rests : Resting halted context present) :
    Resting halted context (act present).state := by
  refine Lineless.keeps arranging ?_ ?_ present rests
  · exact fun request halts situation rests => ⟨still.stays request _ halts rests.1, rests.2⟩
  · exact fun f rearranges situation rests =>
      ⟨rests.1, (rearranges situation.records).1.trans rests.2⟩

/-- What comes of the line that asks for the frame. -/
theorem interpretLines_frame {situation : Situation σ} (rests : Resting halted context situation)
    {line : String} (asks : Command.ofLine? line = some .showFrame) (others : List String) :
    exists shown after, Resting halted context after ∧
      interpretLines target (line :: others) .command situation
        = (interpretLines target others .command after).after
            (.reading situation .command (some line) :: shown) ∧
      spoken shown = frameLines facts context.thread ∧
      forall moment, moment ∈ shown -> moment.mark.reads = false := by
  have taken : Mode.command.take target line
      = plainly (haltContext >>= fun context =>
          (showFrame target context.thread).mapError CommandError.target) := by
    unfold Mode.take
    rw [asks]
    rfl
  have halts : ({ situation with mode := .command, input := others } : Situation σ).records.context
      = some context := rests.2
  have looks : (haltContext >>= fun context =>
        (showFrame target context.thread).mapError CommandError.target)
        { situation with mode := .command, input := others }
      = (showFrame target context.thread).mapError CommandError.target
          { situation with mode := .command, input := others } :=
    Act.bind_ok (haltContext_halted halts) _
  cases found : locals facts context.thread with
  | ok visible =>
      obtain ⟨own, state, stays, ran, spoke, quiet⟩ :=
        (still.showFrame_ok found).mapError CommandError.target
          { situation with mode := .command, input := others } rests.1
      refine ⟨own ++ [], { situation with mode := .command, input := others, target := state },
        ⟨stays, rests.2⟩, interpretLines_expects ?_, ?_, ?_⟩
      · rw [taken, plainly, Act.bind_ok (looks.trans ran)]
        rfl
      · rw [List.append_nil, spoke]
        simp only [frameLines, found]
      · rw [List.append_nil]
        exact quiet
  | error error =>
      obtain ⟨own, state, stays, ran, spoke, quiet⟩ :=
        (still.showFrame_error found).mapError CommandError.target
          { situation with mode := .command, input := others } rests.1
      have kept : (CommandError.target error).lost? = none := by
        rw [CommandError.lost?, still.locals_available found]
        rfl
      let after := { situation with mode := .command, input := others, target := state }
      refine ⟨own ++ [⟨after, .said error.message⟩], after, ⟨stays, rests.2⟩,
        interpretLines_fails kept ?_, ?_, ?_⟩
      · rw [taken, plainly, Act.bind_failed (looks.trans ran)]
      · rw [spoken_append, spoke]
        simp only [frameLines, found]
        rfl
      · exact List.forall_mem_append.mpr ⟨quiet, List.forall_mem_singleton.mpr rfl⟩

omit still in
/-- Where lines are taken, the first thing is to take one, or to notice that there is none. -/
theorem interpretLines_begins (target : Target σ) (lines : List String) (mode : Mode)
    (situation : Situation σ) :
    exists answer further,
      (interpretLines target lines mode situation).log
        = .reading situation mode answer :: further := by
  cases lines with
  | nil => exact ⟨none, [], rfl⟩
  | cons line others =>
      rw [interpretLines_line]
      exact ⟨some line, _, rfl⟩

/-- The induction is on the lines.  Whatever else is done with them, the debuggee stays halted until
control is handed back. -/
theorem interpretLines_showsFrames (lines : List String) :
    forall (mode : Mode) (situation : Situation σ), Resting halted context situation ->
      ShowsFrames (frameLines facts context.thread)
        (interpretLines target lines mode situation).log := by
  induction lines with
  | nil =>
      intro mode situation rests
      exact .cons (fun line impossible => nomatch impossible) .nil
  | cons line others inductionHypothesis =>
      intro mode situation rests
      by_cases frame : mode = .command ∧ Command.ofLine? line = some .showFrame
      · obtain ⟨rfl, asks⟩ := frame
        obtain ⟨shown, after, restsThen, same, spoke, quiet⟩ :=
          still.interpretLines_frame rests asks others
        obtain ⟨answer, further, begins⟩ :=
          interpretLines_begins target others .command after
        rw [same]
        refine .cons ?_ ((ShowsFrames.of_unread quiet).append
          (inductionHypothesis .command after restsThen))
        exact fun _ _ _ _ => ⟨shown, _, answer, further, congrArg (shown ++ ·) begins, rfl, spoke,
          quiet⟩
      · have restsThen : Resting halted context
            (mode.take target line { situation with mode, input := others }).state :=
          still.keeps (.take mode line) rests
        have silent {log : List (Moment σ)}
            (shows : ShowsFrames (frameLines facts context.thread) log) :
            ShowsFrames (frameLines facts context.thread)
              (.reading situation mode (some line) :: log) := by
          refine .cons (fun other reads commanded asks => ?_) shows
          cases reads
          exact absurd ⟨commanded, asks⟩ frame
        obtain ⟨own, unread, ended | ⟨next, goesOn⟩⟩ :=
          interpretLines_log target line others mode situation
        · rw [ended]
          exact silent (.of_unread unread)
        · rw [goesOn]
          exact silent ((ShowsFrames.of_unread unread).append
            (inductionHypothesis next _ restsThen))

theorem consult_showsFrames (consulted : Bool) {situation : Situation σ}
    (rests : Resting halted context situation) :
    ShowsFrames (frameLines facts context.thread) (consult target consulted situation).log := by
  cases consulted with
  | true => exact .nil
  | false =>
      rw [consult_eq]
      exact .cons (fun line impossible => nomatch impossible)
        (still.interpretLines_showsFrames situation.input .command situation rests)

end Still

/-! ## Halts -/

/-- What is left to do for a halt when its variables have been shown. -/
def closeHalt (target : Target σ) (consulted : Bool) :
    TargetEvent -> Dialogue σ TargetError Course
  | .stepCompleted request _ _ => do
      retireStep target request
      consult target consulted
  | _ => consult target consulted

theorem Still.closeHalt_showsFrames (still : Still target facts halted) {context : HaltContext}
    (consulted : Bool) (event : TargetEvent) {situation : Situation σ}
    (rests : Resting halted context situation) :
    ShowsFrames (frameLines facts context.thread)
      (closeHalt target consulted event situation).log := by
  cases event with
  | stepCompleted request thread location =>
      have retired : Between situation (retireStep target request situation) :=
        Lineless.Arranging.between (.retireStep request) situation
      have restsThen := still.keeps (.retireStep request) rests
      change ShowsFrames _ ((retireStep target request >>= fun _ => consult target consulted)
        situation).log
      cases came : retireStep target request situation with
      | mk outcome own after =>
          rw [came] at retired restsThen
          have quiet : ShowsFrames (frameLines facts context.thread) own :=
            .of_unread fun moment member => (retired.moments moment member).1
          cases outcome with
          | ok value =>
              rw [Act.bind_ok came]
              exact quiet.append (still.consult_showsFrames consulted restsThen)
          | failed error =>
              rw [Act.bind_failed came]
              exact quiet
          | unfinished =>
              rw [Act.bind_unfinished came]
              exact quiet
  | _ => exact still.consult_showsFrames consulted rests

/-- An event that shows variables, and the line that comes before them. -/
inductive ShowsVariables (thread : UInt64) (location : Location) :
    TargetEvent -> String -> Prop where
  | breakpoint (request : Int32) :
      ShowsVariables thread location (.breakpointHit request thread location)
        (breakpointLine location)
  | step (request : Int32) :
      ShowsVariables thread location (.stepCompleted request thread location) (stepLine location)

/-- How such an event is handled. -/
theorem dispatch_eq {thread : UInt64} {location : Location} {event : TargetEvent}
    {headline : String} (shows : ShowsVariables thread location event headline) (consulted : Bool)
    (situation : Situation σ) :
    dispatch target consulted event situation
      = ((sayHaltVariables target thread >>= fun _ => closeHalt target consulted event)
          (situation.haltedAt ⟨thread, location.classId⟩)).after
            [⟨situation.haltedAt ⟨thread, location.classId⟩, .said headline⟩] := by
  cases shows <;> rfl

/-- A halt and the command `sf` show the same, and neither loses a variable.  If the variables can
be read, a halt shows one line for each of them, in order, and `sf` shows these very lines between
its two own; what is to be read of one variable has no effect on the line of another.  If they
cannot be read, the halt says so in one line, `sf` says so in one line, and the interpreter goes
on to the next command.  Either way, the rest of the event is handled from the situation in which
it has found the session, but for the state of the target. -/
theorem halt_and_frame_agree (still : Still target facts halted) {situation : Situation σ}
    (rests : halted situation.target) {thread : UInt64} {location : Location} {event : TargetEvent}
    {headline : String} (shows : ShowsVariables thread location event headline)
    (consulted : Bool) :
    exists own later, halted later.target ∧
      later = { situation.haltedAt ⟨thread, location.classId⟩ with target := later.target } ∧
      dispatch target consulted event situation
        = (closeHalt target consulted event later).after
            (⟨situation.haltedAt ⟨thread, location.classId⟩, .said headline⟩ :: own) ∧
      (forall visible, locals facts thread = .ok visible ->
        spoken own = visible.map (variableLine facts) ∧
          ShowsFrames ("====current stack frame====" :: (spoken own ++ [rule]))
            (dispatch target consulted event situation).log) ∧
      forall error, locals facts thread = .error error ->
        spoken own = ["cannot read variables: " ++ error.message] ∧
          ShowsFrames [error.message] (dispatch target consulted event situation).log := by
  obtain ⟨own, state, stays, ran, spoke, quiet⟩ :=
    still.sayHaltVariables thread (situation.haltedAt ⟨thread, location.classId⟩) rests
  have handled : dispatch target consulted event situation
      = (closeHalt target consulted event
          { situation.haltedAt ⟨thread, location.classId⟩ with target := state }).after
            (⟨situation.haltedAt ⟨thread, location.classId⟩, .said headline⟩ :: own) := by
    rw [dispatch_eq shows, Act.bind_ok ran, ← Progress.after_append]
    rfl
  have frames : ShowsFrames (frameLines facts thread)
      (dispatch target consulted event situation).log := by
    rw [handled]
    refine ShowsFrames.append (.of_unread (List.forall_mem_cons.mpr ⟨rfl, quiet⟩)) ?_
    have resting : Resting halted ⟨thread, location.classId⟩
        { situation.haltedAt ⟨thread, location.classId⟩ with target := state } := ⟨stays, rfl⟩
    exact still.closeHalt_showsFrames consulted event resting
  refine ⟨own, _, stays, rfl, handled, fun visible found => ?_, fun error found => ?_⟩
  · have lines : spoken own = visible.map (variableLine facts) := by
      rw [spoke]
      simp only [haltLines, found]
    simp only [frameLines, found] at frames
    exact ⟨lines, lines ▸ frames⟩
  · simp only [frameLines, found] at frames
    refine ⟨?_, frames⟩
    rw [spoke]
    simp only [haltLines, found]

/-! ## Scripted targets -/

/-- What a scripted target shows when nothing is prepared. -/
def scriptedFacts (facts : Facts) (request : Request) : Except TargetError request.Answer :=
  (Scripted.answer { facts, prepared := fun _ => [] } request).1.map (Scripted.withinLimit request)

theorem scripted_respond {request : Request} {state : Scripted}
    (none : state.prepared request.kind = []) :
    Scripted.target.respond request state
      = ⟨.ofExcept ((state.answer request).1.map (Scripted.withinLimit request)), [],
        (state.answer request).2⟩ := by
  simp only [Scripted.target, Scripted.respond, none]

theorem found_available {fact : Option α} {reason : String} {f : α -> β} {error : TargetError}
    (failed : (Scripted.found fact reason).map f = .error error) : error.isDisconnect = false := by
  cases fact with
  | none =>
      cases failed
      rfl
  | some value => cases failed

/-- A scripted target with nothing prepared stands still. -/
theorem scripted_still (facts : Facts) :
    Still Scripted.target (scriptedFacts facts)
      (fun state => state.facts = facts ∧ forall kind, state.prepared kind = []) where
  answers request state displays rests := by
    obtain ⟨rfl, none⟩ := rests
    rw [scripted_respond (none request.kind)]
    cases request with
    | frames thread limit => rfl
    | visibleVariables thread frame => rfl
    | arrayValues array => rfl
    | _ => cases displays
  stays request state halts rests := by
    rw [scripted_respond (rests.2 request.kind)]
    cases request with
    | nextEvents => cases halts
    | _ => exact rests
  available request error displays failed := by
    cases request with
    | frames thread limit => cases failed
    | visibleVariables thread frame => cases failed
    | arrayValues array => exact found_available failed
    | _ => cases displays

/-- A debuggee with two arrays and a number, of which one array cannot be read. -/
def halfReadable : Scripted where
  facts :=
    { lines := fun _ => []
      frames := [⟨1, ⟨1, "Main", 1, "main", some 3, 0⟩⟩]
      locals := [⟨"xs", "int[]", .array ⟨7, "int", 2⟩⟩, ⟨"ys", "int[]", .array ⟨8, "int", 2⟩⟩,
        ⟨"n", "int", .int 3⟩]
      fields := fun _ _ => none
      arrays := fun id => if id = 7 then some [.int 4, .int 5] else none }
  prepared _ := []

/-- The frame is asked for twice, and a breakpoint is set in between. -/
theorem an_unreadable_array_keeps_its_line :
    let location : Location := ⟨1, "Main", 1, "main", some 3, 0⟩
    let situation : Situation Scripted :=
      .initial halfReadable ["sf", "b", "3", " sf ", "r"] "Main"
    let log := (dispatch Scripted.target false (.stepCompleted 5 1 location) situation).log
    let lines := ["xs: int[] = [4, 5]", "ys: int[] = int[2] @8", "n: int = 3"]
    (exists announced own rest, log = announced :: (own ++ rest) ∧ spoken own = lines) ∧
      ShowsFrames ("====current stack frame====" :: (lines ++ [rule])) log ∧
      (log.filter fun moment => moment.mark.reads).length = 5 := by
  intro location situation log lines
  have rests : situation.target.facts = halfReadable.facts ∧
      forall kind, situation.target.prepared kind = [] := ⟨rfl, fun _ => rfl⟩
  have shows : ShowsVariables 1 location (.stepCompleted 5 1 location) (stepLine location) :=
    .step 5
  obtain ⟨own, later, _, _, handled, readable, _⟩ :=
    halt_and_frame_agree (scripted_still halfReadable.facts) rests shows false
  obtain ⟨spoke, frames⟩ := readable halfReadable.facts.locals rfl
  have shown : halfReadable.facts.locals.map (variableLine (scriptedFacts halfReadable.facts))
      = lines := by decide +kernel
  refine ⟨⟨_, own, _, congrArg Progress.log handled, spoke.trans shown⟩, ?_, by decide +kernel⟩
  rw [spoke, shown] at frames
  exact frames

end Session
end LineDebugger
