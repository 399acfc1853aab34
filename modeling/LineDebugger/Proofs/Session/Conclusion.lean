import LineDebugger.Proofs.Session.Ending

namespace LineDebugger
namespace Session

open Debuggee

/-!
# How a session ends

A session ends for one of three reasons, and every reason has its cause in the log: the
report that the debuggee has ended, an answer that it is gone, or a line that makes the
operator leave.  The first cause is the end.  What follows it is the notice for the
operator, if the operator does not know already, and neither a request nor an event.

No other failure ends a session, however deep in a command or in the handling of an event
it comes about.  This is not shown for one place after the other: it is the calm of every
step, which the run has kept.
-/

variable {σ ε : Type}

/-- What a session still has to do once its end has a cause. -/
def SessionEnd.closing : SessionEnd -> List Mark
  | .disconnected => [.said endNotice]
  | .connectionLost => [.said lossNotice]
  | .operatorExit => []

/-- A mark that does not announce an end. -/
def Mark.Unannounced : Mark -> Prop
  | .said line => Plain line
  | _ => True

/-- No breakpoint, no step and no halted thread is on record. -/
structure Records.Blank (records : Records) : Prop where
  breakpoints : records.breakpoints.entries = []
  step : records.step = none
  context : records.context = none

theorem Records.abandon_blank (records : Records) : records.abandon.Blank :=
  ⟨rfl, rfl, rfl⟩

/-- A session has ended.  Its log tells what brought the end about; nothing before it ends a
session or announces an end.  The records are kept only if the operator has left. -/
structure Concluded (reason : SessionEnd) (log : List (Moment σ)) (situation : Situation σ) :
    Prop where
  account : exists quiet cause closing, log = quiet ++ cause :: closing ∧
    Uneventful Mark.Unannounced quiet ∧ cause.ending? = some reason ∧
    closing.map Moment.mark = reason.closing
  blank : reason = .operatorExit ∨ situation.records.Blank

/-! ## The calm before the end -/

theorem unannounced_allows : AllowsEvents Mark.Unannounced where
  say plain := plain
  read _ := trivial
  ask _ _ _ _ := trivial
  turnTo _ := trivial
  consult := trivial

theorem calm_governs (target : Target σ) : (calm Mark.Unannounced).Governs target :=
  Calm.governs unannounced_allows fun _ _ _ => trivial

theorem Concluded.of_ended {reason : SessionEnd} {log : List (Moment σ)}
    {situation : Situation σ} (ended : (calm Mark.Unannounced).Ended reason log situation) :
    Concluded reason log situation := by
  cases ended with
  | reported holds =>
      exact ⟨⟨_, _, _, rfl, holds, rfl, rfl⟩, Or.inr (Records.abandon_blank _)⟩
  | lost lost =>
      obtain ⟨quiet, cause, rfl, uneventful, _, ends⟩ := lost
      refine ⟨⟨quiet, cause, _, List.append_assoc quiet [cause] _, uneventful, ends, rfl⟩, ?_⟩
      exact Or.inr (Records.abandon_blank _)
  | left left =>
      obtain ⟨quiet, cause, rfl, uneventful, _, ends⟩ := left
      exact ⟨⟨quiet, cause, [], rfl, uneventful, ends, rfl⟩, Or.inl rfl⟩

/-- A run never fails.  It ends for a reason that its log accounts for, and as long as it
has not ended nothing has happened that would end it.  A whole session ends in the same
way, except that a debuggee which the operator leaves behind is released; and it fails at its
opening, with the loss of the target if and only if this is what has happened last. -/
theorem session_ends_for_its_cause (target : Target σ) (rounds : Nat)
    (situation : Situation σ) :
    (run target rounds : Dialogue σ ε SessionEnd).Reaches
        ⟨fun _ _ _ => False, Uneventful Mark.Unannounced⟩ Concluded [] situation ∧
      (start target rounds).Reaches
        ⟨fun error log _ =>
          if error = .targetDisconnected then EndsIn Mark.Unannounced .connectionLost log
          else Uneventful Mark.Unannounced log,
          fun log => Uneventful Mark.Unannounced log ∨
            exists earlier present, log = earlier ++ [.asking target .detach present] ∧
              EndsIn Mark.Unannounced .operatorExit earlier⟩
        (fun reason log after =>
          if reason = .operatorExit then
            exists earlier present, log = earlier ++ [.asking target .detach present] ∧
              EndsIn Mark.Unannounced .operatorExit earlier
          else Concluded reason log after)
        [] situation := by
  have calmly : Uneventful Mark.Unannounced ([] : List (Moment σ)) := uneventful_nil _
  constructor
  · refine ((calm_governs target).run_reaches rounds [] situation calmly).imp ?_ ?_ ?_
    · exact fun _ _ _ impossible => impossible
    · exact fun _ uneventful => uneventful
    · exact fun _ _ _ ended => Concluded.of_ended ended
  · refine ((calm_governs target).start_reaches rounds [] situation calmly).imp ?_ ?_ ?_
    · intro error log after owed
      rcases Regime.opening_failed.mp owed with ⟨gone, lost⟩ | ⟨harmless, quiet⟩
      · dsimp only
        rw [if_pos gone]
        exact lost
      · dsimp only
        rw [if_neg harmless]
        exact quiet
    · rintro log (quiet | ⟨earlier, present, left, rfl⟩)
      · exact Or.inl quiet
      · exact Or.inr ⟨earlier, present, rfl, left⟩
    · intro reason log after released
      cases released with
      | released left => exact ⟨_, _, rfl, left⟩
      | gone notLeft ended =>
          rw [if_neg notLeft]
          exact Concluded.of_ended ended

/-! ## The number of rounds

The bound on the rounds only cuts a run short.  It has no influence on a run that ends.
-/

theorem bind_eq_of_finished {α β : Type} {first : Dialogue σ ε α}
    {next later : α -> Dialogue σ ε β} {situation : Situation σ}
    (agree : forall value situation, (next value situation).outcome ≠ .unfinished ->
      later value situation = next value situation)
    (finished : ((first >>= next) situation).outcome ≠ .unfinished) :
    (first >>= later) situation = (first >>= next) situation := by
  change (Act.andThen first next situation).outcome ≠ _ at finished
  change Act.andThen first later situation = Act.andThen first next situation
  unfold Act.andThen at finished ⊢
  cases outcome : (first situation).outcome with
  | ok value =>
      simp only [outcome] at finished ⊢
      rw [agree value _ finished]
  | failed error => simp only [outcome]
  | unfinished => simp only [outcome]

/-- The induction is on the rounds that were enough. -/
theorem run_eq_of_le (target : Target σ) {enough rounds : Nat} (le : enough ≤ rounds)
    (situation : Situation σ)
    (finished : (run target enough situation : Progress _ _ ε _).outcome ≠ .unfinished) :
    (run target rounds situation : Progress _ _ ε _) = run target enough situation := by
  induction enough generalizing rounds situation with
  | zero => exact absurd rfl finished
  | succ enough inductionHypothesis =>
      cases rounds with
      | zero => exact absurd le (Nat.not_succ_le_zero enough)
      | succ rounds =>
          have shorter := Nat.le_of_succ_le_succ le
          unfold run at finished ⊢
          refine bind_eq_of_finished (fun response after finished => ?_) finished
          cases response with
          | ok batch =>
              refine bind_eq_of_finished (fun result after finished => ?_) finished
              cases result with
              | some reason => rfl
              | none => exact inductionHypothesis shorter after finished
          | error error =>
              dsimp only at finished ⊢
              split
              · rfl
              · rename_i harmless
                rw [if_neg harmless] at finished
                refine bind_eq_of_finished (fun _ after finished => ?_) finished
                exact inductionHypothesis shorter after finished

end Session
end LineDebugger
