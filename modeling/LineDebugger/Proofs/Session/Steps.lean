import LineDebugger.Proofs.Contract
import LineDebugger.Session.Dialogue

namespace LineDebugger
namespace Session

open Debuggee

/-!
# The single steps of a dialogue

Everything a session does is put together from a few steps: it leaves a mark, it asks the
target, it takes a line, or it looks at its bookkeeping and changes it.  The rules here
say what each step owes.  Asking is the only step whose outcome is not the session's own
affair, so its rule has one premise for each way in which the target can respond.
-/

variable {σ ε : Type} {exits : Exits (Situation σ) (Moment σ) ε}
  {past : List (Moment σ)} {situation : Situation σ}

/-! ## Asking -/

/-- The moment at which the target is asked. -/
def Moment.asking (target : Target σ) (request : Request) (situation : Situation σ) :
    Moment σ :=
  let response := target.respond request situation.target
  ⟨situation, .asked request response.outcome response.log⟩

/-- The situation once the target has responded.  Only the target has moved on. -/
def Situation.answered (target : Target σ) (request : Request) (situation : Situation σ) :
    Situation σ :=
  { situation with target := (target.respond request situation.target).state }

theorem Moment.asking_eq {target : Target σ} {request : Request} {situation : Situation σ}
    {outcome : Outcome TargetError request.Answer}
    (responded : (target.respond request situation.target).outcome = outcome) :
    Moment.asking target request situation =
      ⟨situation, .asked request outcome (target.respond request situation.target).log⟩ := by
  subst responded
  rfl

theorem Reaches.ask {target : Target σ} {request : Request}
    {exits : Exits (Situation σ) (Moment σ) TargetError}
    {goal : request.Answer -> List (Moment σ) -> Situation σ -> Prop}
    (onAnswer : forall answer,
      (target.respond request situation.target).outcome = .ok answer ->
      goal answer (past ++ [.asking target request situation])
        (situation.answered target request))
    (onFailure : forall error,
      (target.respond request situation.target).outcome = .failed error ->
      exits.failed error (past ++ [.asking target request situation])
        (situation.answered target request))
    (onWait : (target.respond request situation.target).outcome = .unfinished ->
      exits.unfinished (past ++ [.asking target request situation])) :
    (Dialogue.ask target request).Reaches exits goal past situation := by
  unfold Act.Reaches Dialogue.ask
  cases outcome : (target.respond request situation.target).outcome with
  | ok answer =>
      simp only [outcome]
      simpa only [Moment.asking, Situation.answered, outcome] using onAnswer answer outcome
  | failed error =>
      simp only [outcome]
      simpa only [Moment.asking, Situation.answered, outcome] using onFailure error outcome
  | unfinished =>
      simp only [outcome]
      simpa only [Moment.asking, Situation.answered, outcome] using onWait outcome

/-- The target is asked, and failures are handled like answers. -/
theorem Reaches.tryAsk {target : Target σ} {request : Request} {β : Type}
    {handler : Except TargetError request.Answer -> Dialogue σ ε β}
    {goal : β -> List (Moment σ) -> Situation σ -> Prop}
    (onAnswer : forall answer,
      (target.respond request situation.target).outcome = .ok answer ->
      (handler (.ok answer)).Reaches exits goal (past ++ [.asking target request situation])
        (situation.answered target request))
    (onFailure : forall error,
      (target.respond request situation.target).outcome = .failed error ->
      (handler (.error error)).Reaches exits goal (past ++ [.asking target request situation])
        (situation.answered target request))
    (onWait : (target.respond request situation.target).outcome = .unfinished ->
      exits.unfinished (past ++ [.asking target request situation])) :
    ((Dialogue.ask target request).attempt >>= handler).Reaches exits goal past situation :=
  Act.reaches_bind.mpr (Act.reaches_attempt.mpr (Reaches.ask onAnswer onFailure onWait))

theorem ask_of {target : Target σ} {request : Request}
    {outcome : Outcome TargetError request.Answer}
    (came : (target.respond request situation.target).outcome = outcome) :
    Dialogue.ask target request situation =
      ⟨outcome, [.asking target request situation], situation.answered target request⟩ := by
  subst came
  rfl

/-! ## The session's own steps -/

theorem records_of (situation : Situation σ) :
    (Dialogue.records : Dialogue σ ε Records) situation
      = ⟨.ok situation.records, [], situation⟩ := rfl

theorem reaches_note {mark : Mark} {goal : Unit -> List (Moment σ) -> Situation σ -> Prop} :
    (Dialogue.note mark).Reaches exits goal past situation ↔
      goal () (past ++ [⟨situation, mark⟩]) situation := Iff.rfl

theorem reaches_say {line : String} {goal : Unit -> List (Moment σ) -> Situation σ -> Prop} :
    (Dialogue.say line).Reaches exits goal past situation ↔
      goal () (past ++ [⟨situation, .said line⟩]) situation := Iff.rfl

theorem reaches_sayAll {lines : List String}
    {goal : Unit -> List (Moment σ) -> Situation σ -> Prop} :
    (Dialogue.sayAll lines).Reaches exits goal past situation ↔
      goal () (past ++ lines.map fun line => ⟨situation, .said line⟩) situation := by
  induction lines generalizing past with
  | nil =>
      unfold Dialogue.sayAll
      rw [Act.reaches_pure, List.map_nil, List.append_nil]
  | cons line others inductionHypothesis =>
      unfold Dialogue.sayAll
      rw [Act.reaches_bind, reaches_say, inductionHypothesis, List.map_cons, List.append_assoc,
        List.singleton_append]

theorem reaches_read {line : String} {others : List String}
    {goal : Unit -> List (Moment σ) -> Situation σ -> Prop} :
    (Dialogue.read line others).Reaches exits goal past situation ↔
      goal () (past ++ [⟨situation, .read (some line)⟩])
        { situation with input := others } := by
  unfold Dialogue.read
  rw [Act.reaches_bind, reaches_note, Act.reaches_update]

theorem reaches_expect {mode : Mode} {goal : Unit -> List (Moment σ) -> Situation σ -> Prop} :
    (Dialogue.expect mode).Reaches exits goal past situation ↔
      goal () past { situation with mode } := Act.reaches_update

theorem reaches_records {goal : Records -> List (Moment σ) -> Situation σ -> Prop} :
    (Dialogue.records).Reaches exits goal past situation ↔
      goal situation.records past situation := by
  unfold Dialogue.records
  rw [Act.reaches_bind, Act.reaches_current, Act.reaches_pure]

theorem reaches_change {f : Records -> Records}
    {goal : Unit -> List (Moment σ) -> Situation σ -> Prop} :
    (Dialogue.change f).Reaches exits goal past situation ↔
      goal () past { situation with records := f situation.records } := Act.reaches_update

end Session
end LineDebugger
