import LineDebugger.Proofs.Session.Turning

namespace LineDebugger
namespace Session

open Debuggee

/-!
# When the debuggee is resumed

A debuggee that is resumed too early runs away from the operator, and one that is not
resumed hangs.  The log of a run is therefore described as a whole.  It consists of rounds,
each of which begins with a wait for events, and a round that follows a suspended batch
closes with the only resumption in it.  Between the two the session turns to every event of the
batch, in order, and the target is only asked for what can be asked of a halted debuggee.  After
the resumption the operator is told about it if it failed, but not consulted.

A round is broken off only by what ends the session and by a request that is never answered.  In
either case the log tells at which of the events this was.

The grammar leaves no other place for a resumption, and none at all for letting the
debuggee go, which is left to the session around the run.
-/

variable {σ ε : Type}

/-- Lines for the operator, and nothing else. -/
def Spoken (log : List (Moment σ)) : Prop :=
  forall moment, moment ∈ log -> exists line, moment.mark = .said line

/-- A mark that can be made while the debuggee is halted: if it is a request, then none that
waits for the debuggee or sets it running. -/
def Mark.Halted : Mark -> Prop
  | .asked request _ _ => request.kind.drives = false
  | _ => True

/-- The session has turned to all of the events, and none of them has ended it. -/
structure Handled (events : List TargetEvent) (log : List (Moment σ)) : Prop where
  turned : turnedTo log = events
  quiet : Uneventful Mark.Halted log

/-- A round after which the run goes on. -/
inductive Round : List (Moment σ) -> Prop where
  /-- The wait for events has failed. -/
  | fruitless {waited : Moment σ} {error : TargetError} {said : List (Moment σ)} :
      waited.Asks .nextEvents (.failed error) -> error.isDisconnect = false -> Spoken said ->
      Round (waited :: said)
  /-- The batch has been handled while the debuggee kept running. -/
  | running {waited : Moment σ} {batch : EventBatch} {handling : List (Moment σ)} :
      waited.Asks .nextEvents (.ok batch) -> batch.suspended = false ->
      Handled batch.events handling ->
      Round (waited :: handling)
  /-- The batch has been handled while the debuggee was halted.  Whether the resumption
  succeeds does not matter, as long as the debuggee is not gone. -/
  | suspended {waited : Moment σ} {batch : EventBatch} {handling : List (Moment σ)}
      {resumed : Moment σ} {outcome : Outcome TargetError Unit} {said : List (Moment σ)} :
      waited.Asks .nextEvents (.ok batch) -> batch.suspended = true ->
      Handled batch.events handling ->
      resumed.Asks .resume outcome -> outcome ≠ .unfinished -> resumed.ending? = none ->
      Spoken said ->
      Round (waited :: handling ++ resumed :: said)

/-- A round after which the run has ended, or in which it is left waiting for an answer. -/
inductive LastRound : Option SessionEnd -> List (Moment σ) -> Prop where
  | waiting {waited : Moment σ} :
      waited.Asks .nextEvents .unfinished -> LastRound none [waited]
  | lostWaiting {waited : Moment σ} {error : TargetError} {said : List (Moment σ)} :
      waited.Asks .nextEvents (.failed error) -> error.isDisconnect = true -> Spoken said ->
      LastRound (some .connectionLost) (waited :: said)
  /-- A request that was made for one of the events is not answered. -/
  | handling {waited : Moment σ} {batch : EventBatch} {handling : List (Moment σ)} :
      waited.Asks .nextEvents (.ok batch) -> StoppedIn batch.events handling ->
      Uneventful Mark.Halted handling -> Unanswered handling ->
      LastRound none (waited :: handling)
  /-- One of the events has ended the session.  The debuggee is not resumed, suspended or not. -/
  | ended {waited : Moment σ} {batch : EventBatch} {reason : SessionEnd}
      {handling said : List (Moment σ)} :
      waited.Asks .nextEvents (.ok batch) -> StoppedIn batch.events handling ->
      EndsIn Mark.Halted reason handling -> Spoken said ->
      LastRound (some reason) (waited :: handling ++ said)
  | resuming {waited : Moment σ} {batch : EventBatch} {handling : List (Moment σ)}
      {resumed : Moment σ} :
      waited.Asks .nextEvents (.ok batch) -> batch.suspended = true ->
      Handled batch.events handling -> resumed.Asks .resume .unfinished ->
      LastRound none (waited :: handling ++ [resumed])
  | lostResuming {waited : Moment σ} {batch : EventBatch} {handling : List (Moment σ)}
      {resumed : Moment σ} {error : TargetError} {said : List (Moment σ)} :
      waited.Asks .nextEvents (.ok batch) -> batch.suspended = true ->
      Handled batch.events handling ->
      resumed.Asks .resume (.failed error) -> error.isDisconnect = true -> Spoken said ->
      LastRound (some .connectionLost) (waited :: handling ++ resumed :: said)

/-- The log of a run of so many rounds that has ended for a reason, or that is left waiting.  It
is cut off only when all of its rounds are over. -/
inductive Disciplined : Nat -> Option SessionEnd -> List (Moment σ) -> Prop where
  | cut : Disciplined 0 none []
  | last {rounds : Nat} {result : Option SessionEnd} {log : List (Moment σ)} :
      LastRound result log -> Disciplined (rounds + 1) result log
  | onward {rounds : Nat} {result : Option SessionEnd} {log later : List (Moment σ)} :
      Round log -> Disciplined rounds result later -> Disciplined (rounds + 1) result (log ++ later)

/-- The log of a whole session.  The run comes after the greeting and the request to watch
for the entry class.  If and only if it has ended because the operator has left, the
debuggee is let go, once and last of all. -/
inductive Framed (rounds : Nat) : Outcome SessionError SessionEnd -> List (Moment σ) -> Prop where
  | refused {error : SessionError} {greeting : List (Moment σ)} {watched : Moment σ}
      {entryClass : String} {cause : TargetError} :
      Spoken greeting -> watched.Asks (.watchClassPrepare entryClass) (.failed cause) ->
      Framed rounds (.failed error) (greeting ++ [watched])
  | opening {greeting : List (Moment σ)} {watched : Moment σ} {entryClass : String} :
      Spoken greeting -> watched.Asks (.watchClassPrepare entryClass) .unfinished ->
      Framed rounds .unfinished (greeting ++ [watched])
  | running {greeting run : List (Moment σ)} {watched : Moment σ} {entryClass : String}
      {request : Int32} :
      Spoken greeting -> watched.Asks (.watchClassPrepare entryClass) (.ok request) ->
      Disciplined rounds none run ->
      Framed rounds .unfinished (greeting ++ watched :: run)
  | gone {greeting run : List (Moment σ)} {watched : Moment σ} {entryClass : String}
      {request : Int32} {reason : SessionEnd} :
      Spoken greeting -> watched.Asks (.watchClassPrepare entryClass) (.ok request) ->
      Disciplined rounds (some reason) run -> reason ≠ .operatorExit ->
      Framed rounds (.ok reason) (greeting ++ watched :: run)
  | detaching {greeting run : List (Moment σ)} {watched detached : Moment σ}
      {entryClass : String} {request : Int32} :
      Spoken greeting -> watched.Asks (.watchClassPrepare entryClass) (.ok request) ->
      Disciplined rounds (some .operatorExit) run -> detached.Asks .detach .unfinished ->
      Framed rounds .unfinished (greeting ++ watched :: run ++ [detached])
  | detached {greeting run : List (Moment σ)} {watched detached : Moment σ}
      {entryClass : String} {request : Int32} {outcome : Outcome TargetError Unit} :
      Spoken greeting -> watched.Asks (.watchClassPrepare entryClass) (.ok request) ->
      Disciplined rounds (some .operatorExit) run -> detached.Asks .detach outcome ->
      outcome ≠ .unfinished ->
      Framed rounds (.ok .operatorExit) (greeting ++ watched :: run ++ [detached])

/-! ## Pieces of a round -/

theorem spoken_nil : Spoken ([] : List (Moment σ)) := List.forall_mem_nil _

theorem spoken_said (situation : Situation σ) (line : String) :
    Spoken [⟨situation, .said line⟩] :=
  List.forall_mem_singleton.mpr ⟨line, rfl⟩

theorem halted_allows : AllowsEvents Mark.Halted where
  say _ := trivial
  read _ := trivial
  ask _ _ _ halted := halted
  turnTo _ := trivial
  consult := trivial

theorem LastRound.of_ended {waited : Moment σ} {batch : EventBatch} {reason : SessionEnd}
    {log : List (Moment σ)} {situation : Situation σ}
    (asked : waited.Asks .nextEvents (.ok batch)) (stopped : StoppedIn batch.events log)
    (ended : (calm Mark.Halted).Ended reason log situation) :
    LastRound (some reason) (waited :: log) := by
  cases ended with
  | @reported log situation holds =>
      have report : EndsIn Mark.Halted .disconnected
          (log ++ [⟨situation, .turnedTo .disconnected⟩]) :=
        ⟨log, _, rfl, holds, trivial, rfl⟩
      rw [List.append_cons] at stopped ⊢
      exact .ended asked ((stoppedIn_snoc rfl).mp stopped) report (spoken_said situation endNotice)
  | lost lost => exact .ended asked ((stoppedIn_snoc rfl).mp stopped) lost (spoken_said _ _)
  | left left =>
      have round := LastRound.ended asked stopped left spoken_nil
      rwa [List.append_nil] at round

/-! ## Batches -/

/-- What handling a batch adds to the wait for it. -/
def closes (batch : EventBatch) (result : Option SessionEnd) (log : List (Moment σ)) : Prop :=
  forall waited : Moment σ, waited.Asks .nextEvents (.ok batch) ->
    match result with
    | none => Round (waited :: log)
    | some reason => LastRound (some reason) (waited :: log)

theorem resumeTarget_closes (target : Target σ) {batch : EventBatch}
    (suspended : batch.suspended = true) {log : List (Moment σ)}
    (handled : Handled batch.events log) (situation : Situation σ) :
    (resumeTarget target : Dialogue σ ε (Option SessionEnd)).Reaches
      ⟨fun _ _ _ => False, fun log => forall waited : Moment σ,
        waited.Asks .nextEvents (.ok batch) -> LastRound none (waited :: log)⟩
      (fun result log _ => closes batch result log) log situation := by
  unfold resumeTarget
  refine Reaches.tryAsk ?_ ?_ ?_
  · intro answer responded
    rw [Act.reaches_pure]
    intro waited asked
    refine .suspended asked suspended handled (asking_asks responded) ?_ ?_ spoken_nil
    · intro impossible
      cases impossible
    · rw [Moment.asking_eq responded]
      rfl
  · intro error responded
    have resumed := asking_asks responded
    cases gone : error.isDisconnect with
    | true =>
        simp only [gone, if_true]
        rw [Act.reaches_bind, reaches_connectionLost, Act.reaches_pure]
        intro waited asked
        have round := LastRound.lostResuming asked suspended handled resumed gone
          (spoken_said (situation.answered target .resume) lossNotice)
        rwa [List.cons_append, List.append_cons] at round
    | false =>
        simp only [gone, Bool.false_eq_true, if_false]
        rw [Act.reaches_bind, reaches_say, Act.reaches_pure]
        intro waited asked
        have survives : (Moment.asking target .resume situation).ending? = none := by
          rw [Moment.asking_eq responded]
          exact if_neg (by rw [gone]; exact Bool.false_ne_true)
        have round := Round.suspended asked suspended handled resumed
          (by intro impossible; cases impossible) survives
          (spoken_said (situation.answered target .resume)
            ("error while resuming: " ++ error.message))
        rwa [List.cons_append, List.append_cons] at round
  · intro responded waited asked
    exact .resuming asked suspended handled (asking_asks responded)

theorem dispatchBatch_closes (target : Target σ) (batch : EventBatch)
    (situation : Situation σ) :
    (dispatchBatch target batch : Dialogue σ ε (Option SessionEnd)).Reaches
      ⟨fun _ _ _ => False, fun log => forall waited : Moment σ,
        waited.Asks .nextEvents (.ok batch) -> LastRound none (waited :: log)⟩
      (fun result log _ => closes batch result log) [] situation := by
  have attends : (calm Mark.Halted).Attends target := Calm.attends halted_allows
  have calmly := attends.dispatchAll_reaches (ε := ε) batch.events false [] situation
    (uneventful_nil _)
  unfold dispatchBatch
  rw [Act.reaches_bind]
  refine (calmly.both (dispatchAll_turns target batch.events false situation)).imp
    (fun _ _ _ impossible => impossible.1) ?_ ?_
  · exact fun log ⟨quiet, stopped, unanswered⟩ waited asked =>
      .handling asked stopped quiet unanswered
  · rintro result log after ⟨calm, turned⟩
    cases result with
    | some reason =>
        rw [Act.reaches_pure]
        exact fun waited asked => .of_ended asked turned calm
    | none =>
        have handled : Handled batch.events log := ⟨turned, calm⟩
        cases suspended : batch.suspended with
        | true => exact resumeTarget_closes target suspended handled after
        | false =>
            rw [if_neg Bool.false_ne_true, Act.reaches_pure]
            exact fun waited asked => .running asked suspended handled

/-! ## Runs -/

/-- The induction is on the rounds.  What a round adds does not depend on those before it. -/
theorem run_disciplined (target : Target σ) (rounds : Nat) : forall situation,
    (run target rounds : Dialogue σ ε SessionEnd).Reaches
      ⟨fun _ _ _ => False, Disciplined rounds none⟩
      (fun reason log _ => Disciplined rounds (some reason) log) [] situation := by
  induction rounds with
  | zero => exact fun situation => Act.reaches_wait.mpr .cut
  | succ rounds inductionHypothesis =>
      intro situation
      have goesOn {log : List (Moment σ)} (round : Round log) (after : Situation σ) :
          (run target rounds : Dialogue σ ε SessionEnd).Reaches
            ⟨fun _ _ _ => False, Disciplined (rounds + 1) none⟩
            (fun reason log _ => Disciplined (rounds + 1) (some reason) log) log after := by
        refine ((inductionHypothesis after).after log).imp ?_ ?_ ?_
        · rintro _ _ _ ⟨_, _, impossible⟩
          exact impossible
        · rintro _ ⟨later, rfl, disciplined⟩
          exact .onward round disciplined
        · rintro reason _ _ ⟨later, rfl, disciplined⟩
          exact .onward round disciplined
      unfold run
      refine Reaches.tryAsk ?_ ?_ ?_
      · intro batch responded
        have asked := asking_asks responded
        rw [Act.reaches_bind]
        refine ((dispatchBatch_closes target batch _).after _).imp ?_ ?_ ?_
        · rintro _ _ _ ⟨_, _, impossible⟩
          exact impossible
        · rintro _ ⟨handling, rfl, closed⟩
          exact .last (closed _ asked)
        · rintro result _ after ⟨handling, rfl, closed⟩
          cases result with
          | some reason =>
              rw [Act.reaches_pure]
              exact .last (closed _ asked)
          | none => exact goesOn (closed _ asked) after
      · intro error responded
        have asked := asking_asks responded
        cases gone : error.isDisconnect with
        | true =>
            simp only [gone, if_true]
            rw [reaches_connectionLost]
            exact .last (.lostWaiting asked gone (spoken_said _ _))
        | false =>
            simp only [gone, Bool.false_eq_true, if_false]
            rw [Act.reaches_bind, reaches_say]
            exact goesOn (.fruitless asked gone (spoken_said _ _)) _
      · intro responded
        exact .last (.waiting (asking_asks responded))

/-! ## Whole sessions -/

/-- Whether letting the debuggee go succeeds makes no difference. -/
theorem detach_asks (target : Target σ) (past : List (Moment σ)) (situation : Situation σ) :
    (Dialogue.ask target .detach).attempt.Reaches
      (⟨fun _ _ _ => False, fun log => exists detached : Moment σ,
        log = past ++ [detached] ∧ detached.Asks .detach .unfinished⟩ : Exits _ _ ε)
      (fun (_ : Except TargetError Unit) log _ => exists (detached : Moment σ) (outcome : _),
        log = past ++ [detached] ∧ detached.Asks .detach outcome ∧ outcome ≠ .unfinished)
      past situation := by
  refine Act.reaches_attempt.mpr (Reaches.ask ?_ ?_ ?_)
  · exact fun answer responded =>
      ⟨_, .ok answer, rfl, asking_asks responded, by intro impossible; cases impossible⟩
  · exact fun error responded =>
      ⟨_, .failed error, rfl, asking_asks responded, by intro impossible; cases impossible⟩
  · exact fun responded => ⟨_, rfl, asking_asks responded⟩

theorem start_framed (target : Target σ) (rounds : Nat) (situation : Situation σ) :
    (start target rounds).Reaches
      ⟨fun error log _ => Framed rounds (.failed error) log, Framed rounds .unfinished⟩
      (fun reason log _ => Framed rounds (.ok reason) log) [] situation := by
  unfold start
  rw [Act.reaches_bind, reaches_sayAll, List.nil_append, Act.reaches_bind, reaches_records]
  have greets : Spoken (greeting.map fun line => (⟨situation, .said line⟩ : Moment σ)) :=
    List.forall_mem_map.mpr fun line _ => ⟨line, rfl⟩
  refine Reaches.tryAsk ?_ ?_ ?_
  · intro request responded
    have watched := asking_asks responded
    rw [Act.reaches_bind]
    refine ((run_disciplined target rounds _).after _).imp ?_ ?_ ?_
    · rintro _ _ _ ⟨_, _, impossible⟩
      exact impossible.elim
    · rintro _ ⟨run, rfl, disciplined⟩
      rw [List.append_assoc, List.singleton_append]
      exact .running greets watched disciplined
    · rintro reason _ after ⟨run, rfl, disciplined⟩
      rw [List.append_assoc, List.singleton_append]
      by_cases left : reason = .operatorExit
      · subst left
        rw [if_pos rfl]
        refine Act.reaches_bind.mpr ((detach_asks target _ after).imp ?_ ?_ ?_)
        · exact fun _ _ _ impossible => impossible.elim
        · rintro _ ⟨detached, rfl, asked⟩
          exact .detaching greets watched disciplined asked
        · rintro _ _ _ ⟨detached, outcome, rfl, asked, finished⟩
          exact Act.reaches_pure.mpr (.detached greets watched disciplined asked finished)
      · rw [if_neg left, Act.reaches_pure]
        exact .gone greets watched disciplined left
  · intro error responded
    have watched := asking_asks responded
    cases gone : error.isDisconnect with
    | true =>
        simp only [gone, if_true]
        exact Act.reaches_fail.mpr (.refused greets watched)
    | false =>
        simp only [gone, Bool.false_eq_true, if_false]
        exact Act.reaches_fail.mpr (.refused greets watched)
  · intro responded
    exact .opening greets (asking_asks responded)

/-- The debuggee is resumed once after every suspended batch, when all of its events have been
handled and none of them has ended the session, and at no other point of a run or of a whole
session.  It is let go if and only if the operator has left, and nothing is asked of it
afterwards.  A run that has not ended has taken all of its rounds, or the target owes it an
answer. -/
theorem session_resumes_after_handling (target : Target σ) (rounds : Nat)
    (situation : Situation σ) :
    (run target rounds : Dialogue σ ε SessionEnd).Reaches
        ⟨fun _ _ _ => False, Disciplined rounds none⟩
        (fun reason log _ => Disciplined rounds (some reason) log) [] situation ∧
      (start target rounds).Reaches
        ⟨fun error log _ => Framed rounds (.failed error) log, Framed rounds .unfinished⟩
        (fun reason log _ => Framed rounds (.ok reason) log) [] situation :=
  ⟨run_disciplined target rounds situation, start_framed target rounds situation⟩

end Session
end LineDebugger
