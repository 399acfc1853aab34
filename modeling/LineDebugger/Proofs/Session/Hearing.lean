import LineDebugger.Proofs.Session.Answers
import LineDebugger.Proofs.Session.ReadOnly

namespace LineDebugger
namespace Session

open Debuggee

/-!
# What becomes of the operator's lines

A consultation takes the lines from the front of the input, one after the other.  A line is a
command or it answers a question, and which of the two it is depends on the lines before it.
Here the whole of what is taken in a consultation is parsed: command by command, each with the
answers that belong to it.
-/

variable {σ : Type} {target : Target σ}

/-! ## Consultations -/

/-- What a consultation comes to after a command, unless it goes on. -/
def verdict : Outcome CommandError (Option Handover) -> Option (Outcome TargetError Handover)
  | .ok (some handover) => some (.ok handover)
  | .ok none => none
  | .failed error => error.lost?.map .failed
  | .unfinished => some .unfinished

section Verdicts

variable {wanted : Command} {present after : Situation σ} {own : List (Moment σ)} {result}
  (ran : carryOut target wanted present = ⟨result, own, after⟩)
include ran

theorem conclude_of_verdict {outcome : Outcome TargetError Handover}
    (settled : verdict result = some outcome) :
    ((carryOut target wanted).attempt >>= conclude target) present = ⟨outcome, own, after⟩ := by
  have ended {progress : Progress (Situation σ) (Moment σ) TargetError Handover}
      (same : progress = ⟨outcome, [], after⟩) : progress.after own = ⟨outcome, own, after⟩ := by
    rw [same, Progress.after, List.append_nil]
  cases result with
  | ok handover =>
      cases handover with
      | none => cases settled
      | some handover =>
          cases settled
          rw [Act.bind_ok (Act.attempt_ok ran)]
          exact ended rfl
  | failed error =>
      rw [Act.bind_ok (Act.attempt_failed ran)]
      refine ended ?_
      cases lost : error.lost? with
      | none =>
          rw [verdict, lost] at settled
          cases settled
      | some loss =>
          rw [verdict, lost] at settled
          cases settled
          simp only [conclude, lost]
          rfl
  | unfinished =>
      cases settled
      exact Act.bind_unfinished (Act.attempt_unfinished ran) _

theorem conclude_goesOn (goesOn : verdict result = none) :
    exists told, (forall moment, moment ∈ told -> moment.mark.reads = false) ∧
      ((carryOut target wanted).attempt >>= conclude target) present
        = (interpret target after).after (own ++ told) := by
  cases result with
  | ok handover =>
      cases handover with
      | some handover => cases goesOn
      | none =>
          refine ⟨[], List.forall_mem_nil _, ?_⟩
          rw [Act.bind_ok (Act.attempt_ok ran), List.append_nil]
          rfl
  | failed error =>
      cases lost : error.lost? with
      | some loss =>
          rw [verdict, lost] at goesOn
          cases goesOn
      | none =>
          refine ⟨[⟨after, .said error.message⟩], List.forall_mem_singleton.mpr rfl, ?_⟩
          have proceeds : conclude target (.error error) after
              = (interpret target after).after [⟨after, .said error.message⟩] := by
            simp only [conclude, lost]
            rfl
          rw [Act.bind_ok (Act.attempt_failed ran), proceeds, ← Progress.after_append]
  | unfinished => cases goesOn

end Verdicts

/-- The lines of a consultation, command by command. -/
inductive Conversation (target : Target σ) (context : HaltContext) :
    List (Moment σ) -> Outcome TargetError Handover -> Prop where
  | inputEnded {before : Situation σ} : before.mode = .command -> before.input = [] ->
      Conversation target context [⟨before, .read none⟩] (.ok .exited)
  | passedOver {before : Situation σ} {line : String} {heard : List (Moment σ)} {outcome} :
      before.mode = .command -> Command.ofLine? line = none ->
      Conversation target context heard outcome ->
      Conversation target context (⟨before, .read (some line)⟩ :: heard) outcome
  | carriedOut {before after : Situation σ} {line : String} {others : List String}
      {wanted : Command} {own heard : List (Moment σ)} {result outcome} :
      before.mode = .command -> before.input = line :: others ->
      Command.ofLine? line = some wanted ->
      carryOut target wanted { before with input := others } = ⟨result, own, after⟩ ->
      Answers target context wanted (readings own) -> Concludes wanted (readings own) result ->
      verdict result = none -> Conversation target context heard outcome ->
      Conversation target context (⟨before, .read (some line)⟩ :: (readings own ++ heard)) outcome
  | last {before after : Situation σ} {line : String} {others : List String} {wanted : Command}
      {own : List (Moment σ)} {result outcome} :
      before.mode = .command -> before.input = line :: others ->
      Command.ofLine? line = some wanted ->
      carryOut target wanted { before with input := others } = ⟨result, own, after⟩ ->
      Answers target context wanted (readings own) -> Concludes wanted (readings own) result ->
      verdict result = some outcome ->
      Conversation target context (⟨before, .read (some line)⟩ :: readings own) outcome

/-- The induction is on the number of lines that are left, since a command may take several. -/
theorem interpret_converses (target : Target σ) {context : HaltContext} (situation : Situation σ)
    (halted : situation.records.context = some context) :
    Conversation target context (readings (interpret target situation).log)
        (interpret target situation).outcome ∧
      Draws situation (interpret target situation).log (interpret target situation).state := by
  induction left : situation.input.length using Nat.strongRecOn generalizing situation with
  | ind count inductionHypothesis =>
      cases lines : situation.input with
      | nil =>
          have ended : interpret target situation
              = ⟨.ok .exited, [.reading situation .command none],
                { situation with mode := .command }⟩ :=
            (congrArg (interpretLines target · .command situation) lines).trans interpretLines_nil
          rw [ended]
          exact ⟨.inputEnded rfl lines, .inputEnded lines .command⟩
      | cons line others =>
          have reading : Draws situation [.reading situation .command (some line)]
              { situation with mode := .command, input := others } := .reading lines .command
          have shorter : others.length < count := by
            rw [← left, lines]
            exact Nat.lt_succ_self _
          cases known : Command.ofLine? line with
          | none =>
              obtain ⟨heard, drawn⟩ := inductionHypothesis _ shorter
                { situation with mode := .command, input := others } halted rfl
              rw [interpret_unknown known lines]
              exact ⟨.passedOver rfl known heard, reading.append drawn⟩
          | some wanted =>
              have carried := carryOut_carried target wanted
                { situation with mode := .command, input := others } halted
              have drawn := Draws.carryOut target wanted
                { situation with mode := .command, input := others }
              rw [interpret_command known lines]
              cases ran : carryOut target wanted
                  { situation with mode := .command, input := others } with
              | mk result own after =>
                  rw [ran] at carried drawn
                  cases settled : verdict result with
                  | some outcome =>
                      rw [conclude_of_verdict ran settled]
                      exact ⟨.last rfl lines known ran carried.answers carried.concludes settled,
                        reading.append drawn⟩
                  | none =>
                      obtain ⟨told, unread, same⟩ := conclude_goesOn ran settled
                      have fewer : after.input.length ≤ others.length := by
                        have kept : others = linesTaken own ++ after.input := drawn.lines
                        rw [kept, List.length_append]
                        exact Nat.le_add_left _ _
                      obtain ⟨heard, further⟩ := inductionHypothesis _
                        (Nat.lt_of_le_of_lt fewer shorter) after (drawn.halt.trans halted) rfl
                      have silent : Draws after told after := .of_unread unread rfl rfl
                      rw [same]
                      refine ⟨?_, reading.append ((drawn.append silent).append further)⟩
                      have parts : readings (.reading situation .command (some line) ::
                          (own ++ told ++ (interpret target after).log))
                          = .reading situation .command (some line) ::
                            (readings own ++ readings (interpret target after).log) := by
                        rw [readings_reading, readings_append, readings_append,
                          readings_eq_nil unread, List.append_nil]
                      exact parts ▸ .carriedOut rfl lines known ran carried.answers
                        carried.concludes settled heard

/-! ## Everything that becomes of the lines -/

/-- A command is one of the words, alone on its line but for blanks. -/
theorem ofLine?_eq_some_iff {line : String} {wanted : Command} :
    Command.ofLine? line = some wanted ↔ (Text.trim line, wanted) ∈ Command.words := by
  have distinct : forall entry, entry ∈ Command.words ->
      Command.words.lookup entry.1 = some entry.2 := by decide
  rw [Command.ofLine?]
  constructor
  · intro known
    obtain ⟨front, back, split, _⟩ := List.lookup_eq_some_iff.mp known
    rw [split]
    exact List.mem_append_right front List.mem_cons_self
  · exact distinct (Text.trim line, wanted)

/-- A consultation waits only for the target. -/
theorem interpret_unanswered {situation : Situation σ} {context : HaltContext}
    (halted : situation.records.context = some context)
    (waits : (interpret target situation).outcome = .unfinished) :
    Unanswered (interpret target situation).log := by
  have converses : (halting context situation.records.entryClass).Converses target :=
    Halting.converses
  have owed := converses.serves.interpret [] situation ⟨halted, rfl⟩
  unfold Act.Reaches at owed
  rw [waits] at owed
  exact owed

/-- The lines that are taken where a command is expected. -/
def commandLines (log : List (Moment σ)) : List String :=
  linesTaken (log.filter fun moment => moment.before.mode = .command)

/-- Whatever the operator enters and whatever the target does, the lines are taken in order and
each of them once, a command with its answers after the other.  How many answers there are is
settled by the command, and for `p` by what is visible.  Control comes back at the first command
that hands it over, or at the end of the input, and the lines after it are left.  A consultation
takes no more commands than there are lines, and waits for nothing but the target. -/
theorem lines_are_taken_in_order (target : Target σ) (situation : Situation σ)
    {context : HaltContext} (halted : situation.records.context = some context) :
    (forall line wanted, Command.ofLine? line = some wanted ↔
      (Text.trim line, wanted) ∈ Command.words) ∧
    Conversation target context (readings (interpret target situation).log)
      (interpret target situation).outcome ∧
    situation.input
      = linesTaken (interpret target situation).log ++ (interpret target situation).state.input ∧
    (forall moment, moment ∈ (interpret target situation).log -> moment.TakesFirst) ∧
    (commandLines (interpret target situation).log).length ≤ situation.input.length ∧
    ((interpret target situation).outcome = .unfinished ->
      Unanswered (interpret target situation).log) := by
  obtain ⟨heard, drawn⟩ := interpret_converses target situation halted
  refine ⟨fun _ _ => ofLine?_eq_some_iff, heard, drawn.lines, drawn.first, ?_,
    interpret_unanswered halted⟩
  have taken : (commandLines (interpret target situation).log).length
      ≤ (linesTaken (interpret target situation).log).length :=
    (List.filter_sublist.filterMap Moment.line?).length_le
  rw [drawn.lines, List.length_append]
  exact Nat.le_add_right_of_le taken

/-- Two answers read like commands that would hand control back.  The operator is asked for an
index and for a line, and resumes with the seventh line. -/
theorem answers_are_no_commands :
    let situation : Situation Scripted :=
      ⟨{ entryClass := "Main", context := some ⟨1, 1⟩ }, exhibit,
        ["p", " xs ", "r", "b", "e", "xs", "r", "h"], .command⟩
    Conversation Scripted.target ⟨1, 1⟩ (readings (interpret Scripted.target situation).log)
        (.ok .resumed) ∧
      hearings (interpret Scripted.target situation).log =
        [(.command, some "p"), (.variableToPrint ⟨1, 1⟩, some " xs "),
          (.indexToPrint "xs" ⟨7, "int", 2⟩, some "r"), (.command, some "b"),
          (.lineToBreakAt ⟨1, 1⟩, some "e"), (.command, some "xs"), (.command, some "r")] ∧
      (interpret Scripted.target situation).state.input = ["h"] := by
  intro situation
  have outcome : (interpret Scripted.target situation).outcome = .ok .resumed := by rfl
  exact ⟨outcome ▸ (lines_are_taken_in_order Scripted.target situation rfl).2.1,
    by decide +kernel, by decide +kernel⟩

end Session
end LineDebugger
