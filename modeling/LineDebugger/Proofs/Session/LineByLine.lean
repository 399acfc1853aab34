import LineDebugger.Proofs.Session.CarryOut
import LineDebugger.Proofs.Session.Lineless

namespace LineDebugger
namespace Session

open Debuggee

/-!
# Line by line

A consultation takes one line after the other, and only between two lines is there a choice of
how it goes on.  The rules here say what comes of one line, in the five ways in which taking it
can come out.  Whatever is said of a whole consultation is said along these rules.
-/

variable {σ : Type} {ε α β : Type} {target : Target σ}

/-- What comes of a line does not depend on the lines after it. -/
theorem take_same (target : Target σ) (mode : Mode) (line : String) {situation other : Situation σ}
    (alike : situation.Alike other) :
    SameCourse (mode.take target line situation) (mode.take target line other) :=
  (Lineless.take mode line).same situation other alike

theorem execute_between (target : Target σ) (wanted : Command) (present : Situation σ) :
    Between present (execute target wanted present) :=
  Lineless.Arranging.between (.execute wanted) present

theorem haltContext_halted {situation : Situation σ} {context : HaltContext}
    (halted : situation.records.context = some context) :
    (haltContext : Dialogue σ CommandError HaltContext) situation
      = ⟨.ok context, [], situation⟩ := by
  have recorded : (Dialogue.records : Dialogue σ CommandError Records) situation
      = ⟨.ok situation.records, [], situation⟩ := rfl
  rw [haltContext, Act.bind_ok recorded, halted]
  rfl

theorem haltContext_running {situation : Situation σ}
    (running : situation.records.context = none) :
    (haltContext : Dialogue σ CommandError HaltContext) situation
      = ⟨.failed .noContext, [], situation⟩ := by
  have recorded : (Dialogue.records : Dialogue σ CommandError Records) situation
      = ⟨.ok situation.records, [], situation⟩ := rfl
  rw [haltContext, Act.bind_ok recorded, running]
  rfl

/-- Something that raises no question is settled when it is done. -/
theorem settle_after_plainly (act : Dialogue σ CommandError Unit) (others : List String)
    (present : Situation σ) :
    (plainly act >>= settle target others) present
      = ⟨(act present).outcome.map fun _ => none, (act present).log, (act present).state⟩ := by
  rw [plainly, Act.bind_assoc]
  cases came : act present with
  | mk outcome own after =>
      cases outcome with
      | ok value =>
          have settled : (pure (.expect .command) >>= settle target others :
              Dialogue σ CommandError (Option Handover)) after = ⟨.ok none, [], after⟩ := by
            cases others <;> rfl
          rw [Act.bind_ok came, settled, Progress.after, List.append_nil]
          rfl
      | failed error =>
          rw [Act.bind_failed came]
          rfl
      | unfinished =>
          rw [Act.bind_unfinished came]
          rfl

/-! ## What comes of a line -/

section Line

variable {line : String} {others : List String} {mode : Mode} {situation after : Situation σ}
  {own : List (Moment σ)}

/-- The moment at which a line is taken. -/
def Moment.reading (situation : Situation σ) (mode : Mode) (answer : Option String) : Moment σ :=
  ⟨{ situation with mode }, .read answer⟩

theorem interpretLines_nil :
    interpretLines target [] mode situation
      = ⟨.ok .exited, [.reading situation mode none], { situation with mode }⟩ :=
  rfl

theorem interpretLines_line (line : String) (others : List String) (mode : Mode)
    (situation : Situation σ) :
    interpretLines target (line :: others) mode situation
      = (((mode.take target line).attempt >>= proceed target others)
          { situation with mode, input := others }).after
            [.reading situation mode (some line)] := by
  rw [interpretLines_cons, heard]
  rfl

theorem interpretLines_handsOver {handover : Handover}
    (took : mode.take target line { situation with mode, input := others }
      = ⟨.ok (.handOver handover), own, after⟩) :
    interpretLines target (line :: others) mode situation
      = ⟨.ok handover, .reading situation mode (some line) :: own, after⟩ := by
  rw [interpretLines_line, Act.bind_ok (Act.attempt_ok took)]
  change Progress.after _ (Progress.after own ⟨.ok handover, [], after⟩) = _
  simp only [Progress.after, List.append_nil, List.singleton_append]

theorem interpretLines_expects {next : Mode}
    (took : mode.take target line { situation with mode, input := others }
      = ⟨.ok (.expect next), own, after⟩) :
    interpretLines target (line :: others) mode situation
      = (interpretLines target others next after).after
          (.reading situation mode (some line) :: own) := by
  rw [interpretLines_line, Act.bind_ok (Act.attempt_ok took), ← Progress.after_append]
  rfl

theorem interpretLines_fails {error : CommandError} (recoverable : error.lost? = none)
    (took : mode.take target line { situation with mode, input := others }
      = ⟨.failed error, own, after⟩) :
    interpretLines target (line :: others) mode situation
      = (interpretLines target others .command after).after
          (.reading situation mode (some line) :: own ++ [⟨after, .said error.message⟩]) := by
  have proceeds : proceed target others (.error error) after
      = (interpretLines target others .command after).after [⟨after, .said error.message⟩] := by
    simp only [proceed, recoverable]
    rfl
  rw [interpretLines_line, Act.bind_ok (Act.attempt_failed took), proceeds,
    ← Progress.after_append, ← Progress.after_append]
  rfl

theorem interpretLines_loses {error : CommandError} {loss : TargetError}
    (lost : error.lost? = some loss)
    (took : mode.take target line { situation with mode, input := others }
      = ⟨.failed error, own, after⟩) :
    interpretLines target (line :: others) mode situation
      = ⟨.failed loss, .reading situation mode (some line) :: own, after⟩ := by
  have proceeds : proceed target others (.error error) after = ⟨.failed loss, [], after⟩ := by
    simp only [proceed, lost]
    rfl
  rw [interpretLines_line, Act.bind_ok (Act.attempt_failed took), proceeds,
    ← Progress.after_append]
  simp only [Progress.after, List.append_nil, List.singleton_append]

theorem interpretLines_waits
    (took : mode.take target line { situation with mode, input := others }
      = ⟨.unfinished, own, after⟩) :
    interpretLines target (line :: others) mode situation
      = ⟨.unfinished, .reading situation mode (some line) :: own, after⟩ := by
  rw [interpretLines_line, Act.bind_unfinished (Act.attempt_unfinished took)]
  rfl

/-- A line that is no command is passed over. -/
theorem interpret_unknown (unknown : Command.ofLine? line = none)
    (lines : situation.input = line :: others) :
    interpret target situation
      = (interpret target { situation with mode := .command, input := others }).after
          [.reading situation .command (some line)] := by
  have took : Mode.command.take target line { situation with mode := .command, input := others }
      = ⟨.ok (.expect .command), [], { situation with mode := .command, input := others }⟩ := by
    unfold Mode.take
    dsimp only
    rw [unknown]
    rfl
  exact (congrArg (interpretLines target · .command situation) lines).trans
    (interpretLines_expects took)

/-- A line is taken, then something is done about it, and then the consultation is over or goes on
with the lines that are left. -/
theorem interpretLines_log (target : Target σ) (line : String) (others : List String) (mode : Mode)
    (situation : Situation σ) :
    exists own : List (Moment σ), (forall moment, moment ∈ own -> moment.mark.reads = false) ∧
      ((interpretLines target (line :: others) mode situation).log
          = .reading situation mode (some line) :: own ∨
        exists next, (interpretLines target (line :: others) mode situation).log
          = .reading situation mode (some line) ::
            (own ++ (interpretLines target others next
              (mode.take target line { situation with mode, input := others }).state).log)) := by
  have taken := take_between target mode line { situation with mode, input := others }
  cases took : mode.take target line { situation with mode, input := others } with
  | mk outcome own after =>
      rw [took] at taken
      have unread : forall moment, moment ∈ own -> moment.mark.reads = false :=
        fun moment member => (taken.moments moment member).1
      cases outcome with
      | ok turn =>
          cases turn with
          | handOver handover => exact ⟨own, unread, .inl (by rw [interpretLines_handsOver took])⟩
          | expect next =>
              refine ⟨own, unread, .inr ⟨next, ?_⟩⟩
              rw [interpretLines_expects took]
              rfl
      | failed error =>
          cases lost : error.lost? with
          | some loss => exact ⟨own, unread, .inl (by rw [interpretLines_loses lost took])⟩
          | none =>
              refine ⟨own ++ [⟨after, .said error.message⟩], List.forall_mem_append.mpr
                ⟨unread, List.forall_mem_singleton.mpr rfl⟩, .inr ⟨.command, ?_⟩⟩
              rw [interpretLines_fails lost took]
              rfl
      | unfinished => exact ⟨own, unread, .inl (by rw [interpretLines_waits took])⟩

end Line

/-! ## Consulting the operator -/

/-- How a session goes on once the operator has handed control back. -/
def Handover.course : Handover -> Course
  | .exited => .finish .operatorExit
  | .resumed | .stepped => .goOn true

/-- Consulting the operator is taking commands. -/
theorem consult_eq (target : Target σ) (situation : Situation σ) :
    consult target false situation
      = ⟨(interpret target situation).outcome.map Handover.course,
        ⟨situation, .consulted⟩ :: (interpret target situation).log,
        (interpret target situation).state⟩ := by
  have noted : (Dialogue.note .consulted : Dialogue σ TargetError Unit) situation
      = ⟨.ok (), [⟨situation, .consulted⟩], situation⟩ := rfl
  simp only [consult, Bool.false_eq_true, if_false]
  rw [Act.bind_ok noted]
  cases came : interpret target situation with
  | mk outcome own after =>
      cases outcome with
      | ok handover =>
          rw [Act.bind_ok came]
          cases handover <;>
            exact congrArg (Progress.mk _ · after) (congrArg (_ :: ·) (List.append_nil own))
      | failed error =>
          rw [Act.bind_failed came]
          rfl
      | unfinished =>
          rw [Act.bind_unfinished came]
          rfl

end Session
end LineDebugger
