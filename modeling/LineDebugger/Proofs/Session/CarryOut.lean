import LineDebugger.Proofs.Session.LiveSteps
import LineDebugger.Proofs.Session.Questions

namespace LineDebugger

namespace Session

open Debuggee

/-!
# A command with its answers

The interpreter takes line after line, and a command that raises a question is left in the
middle until the answer has come.  Here a command is carried out as a whole: it takes the
answers that it asks for from the lines that follow, and comes out once, with success or with
an error.

`interpret_command` says that this is what the interpreter does with a command.  Where the
lines end before a question has been answered, the operator leaves, as anywhere else.
-/

variable {σ : Type} (target : Target σ)

/-- Take the answers that a turn asks for.  What comes of it is how control is handed back, or
nothing if the next line is a command again. -/
def settle : List String -> Turn -> Dialogue σ CommandError (Option Handover)
  | _, .handOver handover => pure (some handover)
  | _, .expect .command => pure none
  | [], .expect mode => do
      Dialogue.expect mode
      Dialogue.note (.read none)
      return some .exited
  | line :: others, .expect mode => do
      Dialogue.expect mode
      Dialogue.read line others
      let turn ← mode.take target line
      settle others turn

/-- Carry out a command, with the answers to all the questions that it raises. -/
def carryOut (wanted : Command) : Dialogue σ CommandError (Option Handover) := fun situation =>
  (execute target wanted >>= settle target situation.input) situation

/-- What the interpreter makes of a command that has been carried out. -/
def conclude : Except CommandError (Option Handover) -> Dialogue σ TargetError Handover
  | .ok (some handover) => pure handover
  | .ok none => interpret target
  | .error error =>
      match error.lost? with
      | some lost => Act.fail lost
      | none => do
          Dialogue.say error.message
          interpret target

/-- Go on after a turn with the lines that are left. -/
def follow (lines : List String) : Turn -> Dialogue σ TargetError Handover
  | .expect mode => interpretLines target lines mode
  | .handOver handover => pure handover

/-- Go on after a line. -/
def proceed (others : List String) : Except CommandError Turn -> Dialogue σ TargetError Handover
  | .ok turn => follow target others turn
  | .error error =>
      match error.lost? with
      | some lost => Act.fail lost
      | none => do
          Dialogue.say error.message
          interpretLines target others .command

variable {target}

/-- A line that takes no further line, unless the target is gone. -/
def LeavesInput (act : Dialogue σ CommandError Turn) : Prop :=
  forall situation, act.Reaches
    ⟨fun error _ after => error.isLoss = false -> after.input = situation.input, fun _ => True⟩
    (fun _ _ after => after.input = situation.input) [] situation

theorem LeavesInput.answer {mode : Mode} (asked : mode ≠ .command) (line : String) :
    LeavesInput (mode.take target line) := by
  intro situation
  refine (Proceeds.answer (failsCleanly_unknown target) asked line [] situation).imp ?_
    (fun _ _ => trivial) fun _ _ _ asked => asked.1
  exact fun _ _ _ owed harmless => (owed harmless).input

theorem LeavesInput.step (scope : StepScope) : LeavesInput (execute.step target scope) := by
  intro situation
  have halts : OnlyLooks (fun _ => {}) CommandError.isLoss
      (haltContext : Dialogue σ CommandError HaltContext) := OnlyLooks.haltContext
  refine Act.reaches_bind.mpr (halts.reaches.imp ?_ (fun _ _ => trivial) ?_)
  · exact fun _ _ _ owed harmless => (owed harmless).input
  · intro context log after looked
    refine Act.reaches_bind.mpr (Act.reaches_mapError.mpr ?_)
    refine (requestStep_clean (failsCleanly_unknown target) context.thread scope).imp ?_
      (fun _ _ => trivial) ?_
    · rintro error own last (unspoilt | lost) -
      · exact unspoilt.input.trans looked.input
      · exact lost.input.trans looked.input
    · exact fun _ _ _ replaced => Act.reaches_pure.mpr (replaced.input.trans looked.input)

theorem LeavesInput.execute (wanted : Command) : LeavesInput (execute target wanted) := by
  intro situation
  cases other : wanted.scope? with
  | none =>
      refine (Proceeds.execute (failsCleanly_unknown target) other [] situation).imp ?_
        (fun _ _ => trivial) fun _ _ _ asked => asked.1
      exact fun _ _ _ owed harmless => (owed harmless).input
  | some scope =>
      cases wanted with
      | stepOver => exact LeavesInput.step .overCalls situation
      | stepInto => exact LeavesInput.step .intoCalls situation
      | _ => cases other

/-- To try a line and go on is to try it with all the answers it asks for and conclude. -/
theorem attempt_proceed {act : Dialogue σ CommandError Turn} (leaves : LeavesInput act)
    {situation : Situation σ} {others : List String} (left : situation.input = others)
    (onward : forall turn after, after.input = others -> follow target others turn after
      = ((settle target others turn).attempt >>= conclude target) after) :
    (act.attempt >>= proceed target others) situation
      = ((act >>= settle target others).attempt >>= conclude target) situation := by
  have kept := leaves situation
  unfold Act.Reaches at kept
  cases came : act situation with
  | mk outcome own after =>
      rw [came] at kept
      cases outcome with
      | ok turn =>
          rw [Act.bind_ok (Act.attempt_ok came), Act.tried_after (Act.bind_ok came _)]
          exact congrArg (Progress.after own) (onward turn after (kept.trans left))
      | failed error =>
          rw [Act.bind_ok (Act.attempt_failed came),
            Act.bind_ok (Act.attempt_failed (Act.bind_failed came _))]
          refine congrArg (Progress.after own) ?_
          cases lost : error.lost? with
          | some loss => simp only [proceed, conclude, lost]
          | none =>
              have same : after.input = others :=
                (kept (by rw [CommandError.isLoss, lost]; rfl)).trans left
              subst same
              simp only [proceed, conclude, lost]
              rfl
      | unfinished =>
          rw [Act.bind_unfinished (Act.attempt_unfinished came),
            Act.bind_unfinished (Act.attempt_unfinished (Act.bind_unfinished came _))]

/-- Taking a line, step by step. -/
theorem interpretLines_cons (line : String) (others : List String) (mode : Mode) :
    interpretLines target (line :: others) mode = (do
      Dialogue.expect mode
      Dialogue.read line others
      (mode.take target line).attempt >>= proceed target others) := by
  rw [interpretLines]
  refine congrArg _ (funext fun _ => congrArg _ (funext fun _ =>
    congrArg _ (funext fun result => ?_)))
  cases result with
  | ok turn => cases turn <;> rfl
  | error error => rfl

/-- Taking a line leaves a mark and moves on to the lines after it. -/
theorem heard {ε α : Type} (mode : Mode) (line : String) (others : List String)
    (act : Dialogue σ ε α) (situation : Situation σ) :
    (do
        Dialogue.expect mode
        Dialogue.read line others
        act : Dialogue σ ε α) situation
      = (act { situation with mode, input := others }).after
          [⟨{ situation with mode }, .read (some line)⟩] :=
  rfl

theorem settle_cons {mode : Mode} (asked : mode ≠ .command) (line : String)
    (others : List String) (situation : Situation σ) :
    settle target (line :: others) (.expect mode) situation
      = ((mode.take target line >>= settle target others)
          { situation with mode, input := others }).after
            [⟨{ situation with mode }, .read (some line)⟩] := by
  rw [settle]
  · exact heard mode line others (_ >>= settle target others) situation
  · exact asked

/-- The induction is on the lines that are left. -/
theorem follow_eq (lines : List String) : forall (turn : Turn) (situation : Situation σ),
    situation.input = lines -> follow target lines turn situation
      = ((settle target lines turn).attempt >>= conclude target) situation := by
  induction lines with
  | nil =>
      intro turn situation left
      cases turn with
      | handOver handover => rfl
      | expect mode =>
          cases mode with
          | command =>
              change interpretLines target [] .command situation
                = interpretLines target situation.input .command situation
              rw [left]
          | _ => rfl
  | cons line others inductionHypothesis =>
      intro turn situation left
      cases turn with
      | handOver handover => rfl
      | expect mode =>
          by_cases asked : mode = .command
          · subst asked
            change interpretLines target (line :: others) .command situation
              = interpretLines target situation.input .command situation
            rw [left]
          · have leaves : LeavesInput (mode.take target line) := .answer asked line
            rw [follow, interpretLines_cons, heard,
              Act.tried_after (settle_cons asked line others situation)]
            exact congrArg (Progress.after _) (attempt_proceed leaves rfl inductionHypothesis)

/-- What the interpreter does with a command is to carry it out, with its answers, and to
conclude from what has come of it. -/
theorem interpret_command {line : String} {wanted : Command}
    (commanded : Command.ofLine? line = some wanted) {situation : Situation σ}
    {others : List String} (next : situation.input = line :: others) :
    interpret target situation
      = (((carryOut target wanted).attempt >>= conclude target)
          { situation with mode := .command, input := others }).after
            [⟨{ situation with mode := .command }, .read (some line)⟩] := by
  have taken : Mode.command.take target line = execute target wanted := by
    unfold Mode.take
    rw [commanded]
  have left : ({ situation with mode := .command, input := others } : Situation σ).input
      = others := rfl
  have lines : interpret target situation
      = interpretLines target (line :: others) .command situation := by
    rw [← next]
    rfl
  rw [lines, interpretLines_cons, heard, taken]
  exact congrArg (Progress.after _)
    (attempt_proceed (LeavesInput.execute wanted) left (follow_eq others))

/-! ## Commands that fail -/

/-- What has been said to the operator and what lines have been taken. -/
def talk (log : List (Moment σ)) : List Mark := (log.map Moment.mark).filter Mark.talks

/-- The talk that consists of these questions, each with its answer, and of nothing else. -/
def prompted (prompts : List (String × String)) : List Mark :=
  prompts.flatMap fun prompt => [.said prompt.1, .read (some prompt.2)]

theorem talk_append (log later : List (Moment σ)) :
    talk (log ++ later) = talk log ++ talk later := by
  rw [talk, List.map_append, List.filter_append]
  rfl

theorem talk_harmless {log : List (Moment σ)}
    (harmless : forall moment, moment ∈ log -> moment.mark.Harmless) : talk log = [] := by
  refine List.filter_eq_nil_iff.mpr (List.forall_mem_map.mpr fun moment member => ?_)
  rw [(harmless moment member).talks]
  exact Bool.false_ne_true

/-- What has been done since then is harmless, but for some talk with the operator. -/
structure Undisturbed (live : σ -> Ledger) (past : List (Moment σ)) (present : Situation σ)
    (words : List Mark) (log : List (Moment σ)) (after : Situation σ) : Prop where
  own : exists own, log = past ++ own ∧ talk own = words ∧
    forall moment, moment ∈ own -> ¬ moment.mark.GivesUpStep
  records : after.records = present.records
  live : live after.target = live present.target

namespace Undisturbed

variable {live : σ -> Ledger} {past log later : List (Moment σ)}
  {present after last : Situation σ} {words more : List Mark}

theorem of_unspoilt (unspoilt : Unspoilt live past present log after) :
    Undisturbed live past present [] log after := by
  obtain ⟨own, rfl, harmless⟩ := unspoilt.quiet
  exact ⟨⟨own, rfl, talk_harmless harmless, fun moment member =>
    (harmless moment member).not_givesUpStep⟩, unspoilt.records, unspoilt.live⟩

theorem trans (first : Undisturbed live past present words log after)
    (next : Undisturbed live log after more later last) :
    Undisturbed live past present (words ++ more) later last := by
  obtain ⟨early, rfl, said, kept⟩ := first.own
  obtain ⟨late, rfl, alsoSaid, stillKept⟩ := next.own
  refine ⟨⟨early ++ late, List.append_assoc _ _ _, ?_, List.forall_mem_append.mpr
    ⟨kept, stillKept⟩⟩, next.records.trans first.records, next.live.trans first.live⟩
  rw [talk_append, said, alsoSaid]

/-- A mark of the talk itself. -/
theorem mark {before : Situation σ} {mark : Mark} (talks : mark.talks = true)
    (records : after.records = present.records) (target : after.target = present.target) :
    Undisturbed live past present [mark] (past ++ [⟨before, mark⟩]) after := by
  refine ⟨⟨[⟨before, mark⟩], rfl, List.filter_cons_of_pos talks,
    List.forall_mem_singleton.mpr ?_⟩, records, congrArg live target⟩
  cases mark with
  | asked request outcome exchanges => cases talks
  | _ => exact id

end Undisturbed

/-- A command has failed at the answer to a question.  The question had been raised before. -/
def FailedAnswering (live : σ -> Ledger) (mode : Mode) (question : String) (lines : List String)
    (past : List (Moment σ)) (present : Situation σ) (log : List (Moment σ))
    (after : Situation σ) : Prop :=
  exists answer prompts script,
    Undisturbed live past present (.read (some answer) :: prompted prompts) log after ∧
      script ∈ mode.scripts ∧ question :: prompts.map Prod.fst <+: script ∧
      lines = answer :: prompts.map Prod.snd ++ after.input

theorem settle_handOver (lines : List String) (handover : Handover) :
    settle target lines (.handOver handover) = pure (some handover) := by
  cases lines <;> rfl

theorem settle_command (lines : List String) :
    settle target lines (.expect .command) = pure none := by
  cases lines <;> rfl

theorem Mode.ne_command {mode : Mode} {question : String} (asks : mode.question? = some question) :
    mode ≠ .command := by
  rintro rfl
  cases asks

theorem Mode.eq_command {mode : Mode} (silent : mode.question? = none) : mode = .command := by
  cases mode with
  | command => rfl
  | _ => cases silent

/-- The question of a mode is the first one of its scripts. -/
theorem Mode.exists_script {mode : Mode} {question : String}
    (asks : mode.question? = some question) :
    exists script, script ∈ mode.scripts ∧ [question] <+: script := by
  cases mode with
  | command => cases asks
  | _ =>
      cases asks
      exact ⟨_, List.mem_cons_self, List.cons_prefix_cons.mpr ⟨rfl, List.nil_prefix⟩⟩

section Failing

variable {live : σ -> Ledger} (clean : FailsCleanly target live)
include clean

/-- The induction is on the lines.  Each of them answers the question before it, and is followed
by at most one more question. -/
theorem settle_fails (lines : List String) : forall (mode : Mode) (question : String),
    mode.question? = some question -> forall past (present : Situation σ), present.input = lines ->
      (settle target lines (.expect mode)).Reaches
        ⟨fun error log after => error.isLoss = false ->
          FailedAnswering live mode question lines past present log after, fun _ => True⟩
        (fun _ _ _ => True) past present := by
  induction lines with
  | nil =>
      intro mode question asks past present _
      rw [settle]
      · rw [Act.reaches_bind, reaches_expect, Act.reaches_bind, reaches_note, Act.reaches_pure]
        trivial
      · exact Mode.ne_command asks
  | cons line others inductionHypothesis =>
      intro mode question asks past present _
      have asked := Mode.ne_command asks
      have taken : Undisturbed live past present [.read (some line)]
          (past ++ [⟨{ present with mode }, .read (some line)⟩])
          { present with mode, input := others } := .mark rfl rfl rfl
      rw [settle]
      · rw [Act.reaches_bind, reaches_expect, Act.reaches_bind, reaches_read]
        refine Act.reaches_bind.mpr ((Proceeds.answer clean asked line _ _).imp ?_
          (fun _ _ => trivial) ?_)
        · intro error log after owed harmless
          have unspoilt := owed harmless
          obtain ⟨script, member, first⟩ := Mode.exists_script asks
          refine ⟨line, [], script, taken.trans (.of_unspoilt unspoilt), member, ?_, ?_⟩
          · exact first
          · exact congrArg (line :: ·) unspoilt.input.symm
        · rintro turn log after ⟨left, follows⟩
          cases turn with
          | handOver handover =>
              rw [settle_handOver, Act.reaches_pure]
              trivial
          | expect next =>
              cases more : next.question? with
              | none =>
                  rw [Mode.eq_command more, settle_command, Act.reaches_pure]
                  trivial
              | some further =>
                  obtain ⟨leads, before, unspoilt, rfl⟩ := follows next further rfl more
                  refine (inductionHypothesis next further more _ after left).imp ?_
                    (fun _ _ => trivial) fun _ _ _ _ => trivial
                  intro error own last owed harmless
                  obtain ⟨answer, prompts, script, answering, member, early, lines⟩ :=
                    owed harmless
                  have raised : Undisturbed live before after [.said further]
                      (before ++ [⟨after, .said further⟩]) after := .mark rfl rfl rfl
                  refine ⟨line, (further, answer) :: prompts, question :: script,
                    (taken.trans (.of_unspoilt unspoilt)).trans (raised.trans answering),
                    leads question script asks member, ?_, ?_⟩
                  · exact List.cons_prefix_cons.mpr ⟨rfl, early⟩
                  · rw [lines]
                    rfl
      · exact asked

end Failing

/-- What a command that has failed leaves behind: everything is as it was, or a step was to take
the place of the one on record and has been refused, and then there is no step any more. -/
inductive Undone (live : σ -> Ledger) (wanted : Command) (present : Situation σ)
    (own : List (Moment σ)) (after : Situation σ) : Prop where
  | untouched : (forall moment, moment ∈ own -> ¬ moment.mark.GivesUpStep) ->
      after.records = present.records -> live after.target = live present.target ->
      Undone live wanted present own after
  | stepLost {context : HaltContext} {scope : StepScope} {previous : ActiveStep}
      {deleted created : Moment σ} {outcome : Outcome TargetError Unit} {cause : TargetError} :
      wanted.scope? = some scope -> present.records.context = some context ->
      present.records.step = some previous -> own = [deleted, created] ->
      deleted.Asks (.deleteStep previous.request) outcome -> Deleted outcome ->
      created.Asks (.createStep context.thread scope present.records.entryClass)
        (.failed cause) ->
      after.records = { present.records with step := none } ->
      live after.target = { live present.target with steps := ∅ } ->
      Undone live wanted present own after

/-- A command has failed: nothing has been said but its questions, each of them answered by the
next line, and it has left behind what a command that fails may leave behind. -/
structure FailedCommand (live : σ -> Ledger) (wanted : Command) (present : Situation σ)
    (own : List (Moment σ)) (after : Situation σ) : Prop where
  prompted : exists prompts script, script ∈ wanted.scripts ∧ prompts.map Prod.fst <+: script ∧
    talk own = prompted prompts ∧ present.input = prompts.map Prod.snd ++ after.input
  undone : Undone live wanted present own after

section Commands

variable {live : σ -> Ledger} {present : Situation σ}

theorem Command.scripts_ne_nil (wanted : Command) : exists script, script ∈ wanted.scripts := by
  cases wanted <;> exact ⟨_, List.mem_cons_self⟩

/-- A command that has failed at once. -/
theorem FailedCommand.of_unspoilt {wanted : Command} {own : List (Moment σ)}
    {after : Situation σ} (unspoilt : Unspoilt live [] present own after) :
    FailedCommand live wanted present own after := by
  obtain ⟨_, rfl, harmless⟩ := unspoilt.quiet
  obtain ⟨script, member⟩ := wanted.scripts_ne_nil
  refine ⟨⟨[], script, member, List.nil_prefix, ?_, unspoilt.input.symm⟩, .untouched ?_
    unspoilt.records unspoilt.live⟩
  · exact talk_harmless harmless
  · exact fun moment member => (harmless moment member).not_givesUpStep

/-- A step that has been refused. -/
theorem FailedCommand.of_stepLost {wanted : Command} {scope : StepScope} {context : HaltContext}
    (asks : wanted.scope? = some scope) (halted : present.records.context = some context)
    (covers : present.Covers live) {own : List (Moment σ)} {after : Situation σ}
    {cause : TargetError}
    (lost : StepLost live context.thread scope [] present cause own after) :
    FailedCommand live wanted present own after := by
  obtain ⟨previous, _, created, active, givenUp, rfl, asked⟩ := lost
  obtain ⟨deleted, outcome, rfl, asksToo, gone⟩ := givenUp.deleted
  obtain ⟨script, member⟩ := wanted.scripts_ne_nil
  refine ⟨⟨[], script, member, List.nil_prefix, ?_, givenUp.input.symm⟩,
    .stepLost asks halted active rfl asksToo gone asked givenUp.records ?_⟩
  · obtain ⟨exchanges, deleting⟩ := asksToo
    obtain ⟨others, creating⟩ := asked
    simp [talk, deleting, creating, Mark.talks, Session.prompted]
  · have none := covers.givenUp active givenUp
    change (⟨(live after.target).breakpoints, (live after.target).steps⟩ : Ledger) = _
    rw [givenUp.breakpoints, none]

/-- A command that has failed at the answer to a question. -/
theorem FailedCommand.of_answering {wanted : Command} {mode : Mode} {text : String}
    (scripts : mode.scripts = wanted.scripts) {before own : List (Moment σ)}
    {after last : Situation σ} (unspoilt : Unspoilt live [] present before after)
    (failed : FailedAnswering live mode text present.input
      (before ++ [⟨after, .said text⟩]) after own last) :
    FailedCommand live wanted present own last := by
  obtain ⟨answer, prompts, script, answering, member, early, lines⟩ := failed
  have raised : Undisturbed live before after [.said text]
      (before ++ [⟨after, .said text⟩]) after := .mark rfl rfl rfl
  have undisturbed := (Undisturbed.of_unspoilt unspoilt).trans (raised.trans answering)
  obtain ⟨_, rfl, said, kept⟩ := undisturbed.own
  exact ⟨⟨(text, answer) :: prompts, script, scripts ▸ member, early, said, lines⟩,
    .untouched kept undisturbed.records undisturbed.live⟩

theorem reaches_carryOut {wanted : Command} {exits : Exits (Situation σ) (Moment σ) CommandError}
    {goal : Option Handover -> List (Moment σ) -> Situation σ -> Prop} {past : List (Moment σ)} :
    (carryOut target wanted).Reaches exits goal past present ↔
      (execute target wanted >>= settle target present.input).Reaches exits goal past present :=
  Iff.rfl

variable (clean : FailsCleanly target live)
include clean

/-- A command that asks for a step fails before it has begun, or at one of two requests. -/
theorem step_fails (covers : present.Covers live) {wanted : Command} {scope : StepScope}
    (asks : wanted.scope? = some scope) :
    (execute.step target scope).Reaches
      ⟨fun error own after => error.isLoss = false -> FailedCommand live wanted present own after,
        fun _ => True⟩
      (fun turn _ _ => turn = .handOver .stepped) [] present := by
  unfold execute.step
  cases halted : present.records.context with
  | none =>
      unfold haltContext
      rw [Act.reaches_bind, Act.reaches_bind, reaches_records, halted]
      exact Act.reaches_fail.mpr fun _ => .of_unspoilt (.refl live [] present)
  | some context =>
      rw [Act.reaches_bind, reaches_haltContext halted, Act.reaches_bind, Act.reaches_mapError]
      refine (requestStep_clean clean context.thread scope).imp ?_ (fun _ _ => trivial) ?_
      · rintro error own after (unspoilt | lost) -
        · exact .of_unspoilt unspoilt
        · exact .of_stepLost asks halted covers lost
      · exact fun _ _ _ _ => Act.reaches_pure.mpr rfl

theorem carryOut_fails (covers : present.Covers live) (wanted : Command) :
    (carryOut target wanted).Reaches
      ⟨fun error own after => error.isLoss = false -> FailedCommand live wanted present own after,
        fun _ => True⟩
      (fun _ _ _ => True) [] present := by
  rw [reaches_carryOut, Act.reaches_bind]
  cases asks : wanted.scope? with
  | none =>
      refine (Proceeds.execute clean asks [] present).imp ?_ (fun _ _ => trivial) ?_
      · exact fun error own after owed harmless => .of_unspoilt (owed harmless)
      · rintro turn log after ⟨left, follows⟩
        cases turn with
        | handOver handover =>
            rw [settle_handOver, Act.reaches_pure]
            trivial
        | expect mode =>
            cases question : mode.question? with
            | none =>
                rw [Mode.eq_command question, settle_command, Act.reaches_pure]
                trivial
            | some text =>
                obtain ⟨scripts, before, unspoilt, rfl⟩ := follows mode text rfl question
                refine (settle_fails clean present.input mode text question _ after left).imp ?_
                  (fun _ _ => trivial) fun _ _ _ _ => trivial
                intro error own last owed harmless
                exact .of_answering scripts unspoilt (owed harmless)
  | some scope =>
      have steps : execute target wanted = execute.step target scope := by
        cases wanted with
        | stepOver => cases asks; rfl
        | stepInto => cases asks; rfl
        | _ => cases asks
      rw [steps]
      refine (step_fails clean covers asks).widen ?_
      rintro _ log after rfl
      rw [settle_handOver, Act.reaches_pure]
      trivial

end Commands

theorem CommandError.lost?_of_not_isFatal (error : CommandError)
    (recoverable : error.isFatal = false) : error.lost? = none := by
  cases error with
  | target cause =>
      cases lost : (CommandError.target cause).lost? with
      | none => rfl
      | some loss =>
          have fatal : (CommandError.target cause).isFatal
              = (CommandError.target cause).lost?.isSome := rfl
          rw [fatal, lost] at recoverable
          cases recoverable
  | _ => rfl

/-- A command that ends in an error changes nothing that it should not.  Wherever a session is
asked for a command, whatever command is given and whatever the answers to its questions are,
an error that is not fatal is reported in one line after these questions, and the interpreter
goes on with the next command.  The halt, the breakpoints and the live breakpoints are what
they were, and so is the step, unless it was to be replaced and the new one has been refused:
then there is no step, neither on record nor alive. -/
theorem failed_command_changes_nothing_else {ε : Type} {target : Target σ} {live : σ -> Ledger}
    (clean : FailsCleanly target live) {state : σ} (fresh : live state = {})
    {input : List String} {entryClass : String} {rounds : Nat} {moment : Moment σ}
    (reached : moment ∈ ((run target rounds : Dialogue σ ε SessionEnd)
        (.initial state input entryClass)).log ∨
      moment ∈ (start target rounds (.initial state input entryClass)).log)
    {answer : Option String} (reads : moment.mark = .read answer)
    (commanded : moment.before.mode = .command) {line : String} {wanted : Command}
    (names : Command.ofLine? line = some wanted) {others : List String} {error : CommandError}
    {own : List (Moment σ)} {after : Situation σ}
    (ran : carryOut target wanted { moment.before with input := others }
      = ⟨.failed error, own, after⟩)
    (recoverable : error.isFatal = false) :
    FailedCommand live wanted { moment.before with input := others } own after ∧
      interpret target { moment.before with input := line :: others }
        = (interpret target after).after
          (⟨{ moment.before with input := line :: others }, .read (some line)⟩ :: own
            ++ [⟨after, .said error.message⟩]) := by
  have covers : moment.before.Covers live := by
    have sessions : Covered live ((run target rounds : Dialogue σ ε SessionEnd)
          (.initial state input entryClass)).log ∧
        Covered live (start target rounds (.initial state input entryClass)).log :=
      session_covers clean fresh input entryClass rounds
    rcases reached with member | member
    · exact sessions.1 moment answer member reads
    · exact sessions.2 moment answer member reads
  have kept : error.lost? = none := error.lost?_of_not_isFatal recoverable
  constructor
  · have asked : ({ moment.before with input := others } : Situation σ).Covers live := covers
    exact (carryOut_fails clean asked wanted).of_failed ran (by rw [CommandError.isLoss, kept]; rfl)
  · have present : ({ moment.before with mode := .command, input := others } : Situation σ)
        = { moment.before with input := others } := by rw [← commanded]
    have asked : ({ moment.before with mode := .command, input := line :: others } : Situation σ)
        = { moment.before with input := line :: others } := by rw [← commanded]
    have next : ({ moment.before with input := line :: others } : Situation σ).input
        = line :: others := rfl
    rw [interpret_command names next]
    change Progress.after [⟨{ moment.before with mode := .command, input := line :: others }, _⟩]
      (((carryOut target wanted).attempt >>= conclude target)
        { moment.before with mode := .command, input := others }) = _
    rw [present, asked, Act.bind_ok (Act.attempt_failed ran)]
    have concluded : conclude target (.error error) after
        = (interpret target after).after [⟨after, .said error.message⟩] := by
      simp only [conclude, kept]
      rfl
    rw [concluded, ← Progress.after_append, ← Progress.after_append]
    rfl

/-! ## A step that cannot be replaced -/

/-- A target that has one step to give.  It tells of the same breakpoint over and over, and a
step comes to its end without a word when the debuggee is resumed. -/
def stingy : Target (Ledger × Bool) where
  respond
    | .nextEvents => Act.done ⟨true, [.breakpointHit 0 1 ⟨1, "Main", 1, "main", some 3, 0⟩]⟩
    | .resume => fun (ledger, given) => ⟨.ok (), [], ({ ledger with steps := ∅ }, given)⟩
    | .createStep _ _ _ => fun (ledger, given) =>
        if given then ⟨.failed (.other "no step left"), [], (ledger, given)⟩
        else ⟨.ok (0 : Int32), [], ({ ledger with steps := insert 0 ledger.steps }, true)⟩
    | .deleteStep request => fun (ledger, given) =>
        if request ∈ ledger.steps then
          ⟨.ok (), [], ({ ledger with steps := ledger.steps.erase request }, given)⟩
        else ⟨.failed (.noSuchElement "no such step"), [], (ledger, given)⟩
    | _ => Act.fail (.other "not to be had")

theorem stingy_failsCleanly : FailsCleanly stingy Prod.fst := by
  rintro request ⟨ledger, given⟩
  unfold stingy
  cases request with
  | createStep thread scope filter =>
      cases given with
      | true => rfl
      | false => exact Finset.Subset.refl _
  | deleteStep request =>
      by_cases known : request ∈ ledger.steps
      · simp only [if_pos known]
        exact ⟨rfl, Finset.Subset.refl _⟩
      · simp only [if_neg known]
        exact ⟨known, rfl⟩
  | resume => exact Finset.empty_subset _
  | nextEvents => exact Finset.Subset.refl _
  | detach => trivial
  | _ => rfl

/-- The operator asks for a second step.  The first one has ended without a word, and there is
none left. -/
theorem a_refused_step_leaves_none :
    let session := (run stingy 2 : Dialogue (Ledger × Bool) Unit SessionEnd)
      (.initial ({}, false) ["n"] "Main")
    exists moment, moment ∈ session.log ∧
      moment.before.records.step = some ⟨0, 1, .overCalls⟩ ∧
      let present := { moment.before with input := ["h"] }
      let result := carryOut stingy .stepOver present
      result.outcome = .failed (.target (.other "no step left")) ∧
        FailedCommand Prod.fst .stepOver present result.log result.state ∧
        result.state.records.step = none := by
  intro session
  have place : 15 < session.log.length := by decide
  let moment := session.log.get ⟨15, place⟩
  let result := carryOut stingy .stepOver { moment.before with input := ["h"] }
  have member : moment ∈ session.log := List.get_mem _ _
  have reads : moment.mark = .read none := rfl
  have commanded : moment.before.mode = .command := rfl
  have names : Command.ofLine? "n" = some .stepOver := by decide
  have ran : carryOut stingy .stepOver { moment.before with input := ["h"] }
      = ⟨.failed (.target (.other "no step left")), result.log, result.state⟩ := rfl
  have failed := failed_command_changes_nothing_else stingy_failsCleanly rfl (.inl member) reads
    commanded names ran rfl
  exact ⟨moment, member, rfl, rfl, failed.1, rfl⟩

end Session
end LineDebugger
