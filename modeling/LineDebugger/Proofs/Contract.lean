import LineDebugger.Act

namespace LineDebugger

/-!
# Contracts of logged computations

A contract says what a computation owes to whoever observes it: its marks, together with
those made before it started, and the state it leaves.  Marks are judged as a whole, the
past included, so that a contract of a long run is put together from contracts of its
parts without cutting the log into pieces again.

A computation that fails, or that waits without end, owes something too.  These debts are
kept apart from the goal of the computation, since most computations hand the failures of
their parts on unchanged.  Nothing is said about the state of a computation that waits:
whoever keeps it waiting may be in the middle of a change.
-/

/-- What a computation owes when it does not succeed. -/
structure Exits (σ ω ε : Type) where
  failed : ε -> List ω -> σ -> Prop
  unfinished : List ω -> Prop

/-- Two debts at once. -/
def Exits.both {σ ω ε : Type} (exits others : Exits σ ω ε) : Exits σ ω ε where
  failed error log state := exits.failed error log state ∧ others.failed error log state
  unfinished log := exits.unfinished log ∧ others.unfinished log

/-- A debt that is the same for every way not to succeed. -/
def Exits.anyway {σ ω ε : Type} (owed : List ω -> Prop) : Exits σ ω ε where
  failed _ log _ := owed log
  unfinished := owed

/-- The debts of a computation that was told about its own marks only, where others have
been made before. -/
def Exits.after {σ ω ε : Type} (exits : Exits σ ω ε) (earlier : List ω) : Exits σ ω ε where
  failed error log state := exists own, log = earlier ++ own ∧ exits.failed error own state
  unfinished log := exists own, log = earlier ++ own ∧ exits.unfinished own

namespace Act

variable {σ ω ε δ α β : Type}

/-- Started in `state` after the marks `past`, the computation meets its goal when it
succeeds, and its exits otherwise. -/
def Reaches (act : Act σ ω ε α) (exits : Exits σ ω ε) (goal : α -> List ω -> σ -> Prop)
    (past : List ω) (state : σ) : Prop :=
  match (act state).outcome with
  | .ok value => goal value (past ++ (act state).log) (act state).state
  | .failed error => exits.failed error (past ++ (act state).log) (act state).state
  | .unfinished => exits.unfinished (past ++ (act state).log)

section Rules

variable {exits : Exits σ ω ε} {past : List ω} {state : σ}

theorem reaches_pure {value : α} {goal : α -> List ω -> σ -> Prop} :
    (pure value : Act σ ω ε α).Reaches exits goal past state ↔ goal value past state := by
  change goal value (past ++ []) state ↔ goal value past state
  rw [List.append_nil]

/-- What follows a success starts with the marks made so far. -/
theorem reaches_bind {first : Act σ ω ε α} {next : α -> Act σ ω ε β}
    {goal : β -> List ω -> σ -> Prop} :
    (first >>= next).Reaches exits goal past state ↔
      first.Reaches exits (fun value => (next value).Reaches exits goal) past state := by
  change (andThen first next).Reaches exits goal past state ↔ _
  unfold Reaches andThen
  cases outcome : (first state).outcome <;> simp only [outcome, List.append_assoc]

theorem reaches_fail {error : ε} {goal : α -> List ω -> σ -> Prop} :
    (fail error : Act σ ω ε α).Reaches exits goal past state ↔
      exits.failed error past state := by
  change exits.failed error (past ++ []) state ↔ exits.failed error past state
  rw [List.append_nil]

theorem reaches_wait {goal : α -> List ω -> σ -> Prop} :
    (wait : Act σ ω ε α).Reaches exits goal past state ↔ exits.unfinished past := by
  change exits.unfinished (past ++ []) ↔ exits.unfinished past
  rw [List.append_nil]

theorem reaches_current {goal : σ -> List ω -> σ -> Prop} :
    (current : Act σ ω ε σ).Reaches exits goal past state ↔ goal state past state := by
  change goal state (past ++ []) state ↔ goal state past state
  rw [List.append_nil]

theorem reaches_update {f : σ -> σ} {goal : Unit -> List ω -> σ -> Prop} :
    (update f : Act σ ω ε Unit).Reaches exits goal past state ↔ goal () past (f state) := by
  change goal () (past ++ []) (f state) ↔ goal () past (f state)
  rw [List.append_nil]

/-- A failure that is turned into a value has to meet the goal itself. -/
theorem reaches_attempt {act : Act σ ω δ α} {goal : Except δ α -> List ω -> σ -> Prop} :
    (act.attempt : Act σ ω ε (Except δ α)).Reaches exits goal past state ↔
      act.Reaches ⟨fun error => goal (.error error), exits.unfinished⟩
        (fun value => goal (.ok value)) past state := by
  unfold Reaches attempt
  cases outcome : (act state).outcome <;> simp only [outcome]

/-- A failure that is restated owes what its new statement owes. -/
theorem reaches_mapError {act : Act σ ω δ α} {restate : δ -> ε}
    {goal : α -> List ω -> σ -> Prop} :
    (act.mapError restate).Reaches exits goal past state ↔
      act.Reaches ⟨fun error => exits.failed (restate error), exits.unfinished⟩ goal
        past state := by
  unfold Reaches mapError
  cases outcome : (act state).outcome <;> simp only [outcome, Outcome.mapError]

/-- A contract may be traded for one that demands no more. -/
theorem Reaches.imp {act : Act σ ω ε α} {weaker : Exits σ ω ε}
    {goal wider : α -> List ω -> σ -> Prop} (reaches : act.Reaches exits goal past state)
    (onFailure : forall error log state, exits.failed error log state ->
      weaker.failed error log state)
    (onWait : forall log, exits.unfinished log -> weaker.unfinished log)
    (onSuccess : forall value log state, goal value log state -> wider value log state) :
    act.Reaches weaker wider past state := by
  unfold Reaches at reaches ⊢
  cases outcome : (act state).outcome with
  | ok value => exact onSuccess value _ _ (by simpa only [outcome] using reaches)
  | failed error => exact onFailure error _ _ (by simpa only [outcome] using reaches)
  | unfinished => exact onWait _ (by simpa only [outcome] using reaches)

/-- Only the goal is widened. -/
theorem Reaches.widen {act : Act σ ω ε α} {goal wider : α -> List ω -> σ -> Prop}
    (reaches : act.Reaches exits goal past state)
    (onSuccess : forall value log state, goal value log state -> wider value log state) :
    act.Reaches exits wider past state :=
  reaches.imp (fun _ _ _ owed => owed) (fun _ owed => owed) onSuccess

theorem Reaches.both {act : Act σ ω ε α} {others : Exits σ ω ε}
    {goal other : α -> List ω -> σ -> Prop} (first : act.Reaches exits goal past state)
    (second : act.Reaches others other past state) :
    act.Reaches (exits.both others)
      (fun value log state => goal value log state ∧ other value log state) past state := by
  unfold Reaches at first second ⊢
  cases outcome : (act state).outcome with
  | ok value => exact ⟨by simpa only [outcome] using first, by simpa only [outcome] using second⟩
  | failed error =>
      exact ⟨by simpa only [outcome] using first, by simpa only [outcome] using second⟩
  | unfinished =>
      exact ⟨by simpa only [outcome] using first, by simpa only [outcome] using second⟩

/-- A contract about the marks alone is a statement about the log. -/
theorem reaches_anyway {act : Act σ ω ε α} {owed : List ω -> Prop} :
    act.Reaches (.anyway owed) (fun _ log _ => owed log) past state ↔
      owed (past ++ (act state).log) := by
  unfold Reaches
  cases outcome : (act state).outcome <;> exact Iff.rfl

/-- A computation about which nothing needs to be known. -/
theorem reaches_somehow {act : Act σ ω ε α} :
    act.Reaches (.anyway fun _ => True) (fun _ _ _ => True) past state :=
  reaches_anyway.mpr trivial

/-- What a contract says of one success. -/
theorem Reaches.of_ok {act : Act σ ω ε α} {goal : α -> List ω -> σ -> Prop} {value : α}
    {own : List ω} {after : σ} (reaches : act.Reaches exits goal past state)
    (ran : act state = ⟨.ok value, own, after⟩) : goal value (past ++ own) after := by
  unfold Reaches at reaches
  rw [ran] at reaches
  exact reaches

/-- What a contract says of one failure. -/
theorem Reaches.of_failed {act : Act σ ω ε α} {goal : α -> List ω -> σ -> Prop} {error : ε}
    {own : List ω} {after : σ} (reaches : act.Reaches exits goal past state)
    (ran : act state = ⟨.failed error, own, after⟩) :
    exits.failed error (past ++ own) after := by
  unfold Reaches at reaches
  rw [ran] at reaches
  exact reaches

/-- What a computation has done does not depend on the marks made before it started. -/
theorem Reaches.after {act : Act σ ω ε α} {goal : α -> List ω -> σ -> Prop}
    (reaches : act.Reaches exits goal [] state) (earlier : List ω) :
    act.Reaches (exits.after earlier)
      (fun value log state => exists own, log = earlier ++ own ∧ goal value own state)
      earlier state := by
  unfold Reaches at reaches ⊢
  rw [List.nil_append] at reaches
  cases outcome : (act state).outcome with
  | ok value => exact ⟨_, rfl, by simpa only [outcome] using reaches⟩
  | failed error => exact ⟨_, rfl, by simpa only [outcome] using reaches⟩
  | unfinished => exact ⟨_, rfl, by simpa only [outcome] using reaches⟩

/-- Whatever a computation does, it does this: its own marks come after those made before. -/
theorem reaches_own {act : Act σ ω ε α} :
    act.Reaches
      ⟨fun error log after => exists own, log = past ++ own ∧
          act state = ⟨.failed error, own, after⟩,
        fun log => exists own after, log = past ++ own ∧ act state = ⟨.unfinished, own, after⟩⟩
      (fun value log after => exists own, log = past ++ own ∧ act state = ⟨.ok value, own, after⟩)
      past state := by
  unfold Reaches
  cases came : act state with
  | mk outcome own after =>
      cases outcome with
      | ok value => exact ⟨own, rfl, rfl⟩
      | failed error => exact ⟨own, rfl, rfl⟩
      | unfinished => exact ⟨own, after, rfl, rfl⟩

/-- What is true of the state that is left may be added to the goal. -/
theorem Reaches.leaving {act : Act σ ω ε α} {goal : α -> List ω -> σ -> Prop}
    (reaches : act.Reaches exits goal past state) (left : σ -> Prop)
    (leaves : left (act state).state) :
    act.Reaches exits (fun value log after => goal value log after ∧ left after) past state := by
  unfold Reaches at reaches ⊢
  cases outcome : (act state).outcome with
  | ok value => exact ⟨by simpa only [outcome] using reaches, leaves⟩
  | failed error => simpa only [outcome] using reaches
  | unfinished => simpa only [outcome] using reaches

/-- A computation followed by another, each with a contract of its own. -/
theorem Reaches.bind {first : Act σ ω ε α} {next : α -> Act σ ω ε β}
    {middle : α -> List ω -> σ -> Prop} {goal : β -> List ω -> σ -> Prop}
    (reaches : first.Reaches exits middle past state)
    (onward : forall value log state, middle value log state ->
      (next value).Reaches exits goal log state) :
    (first >>= next).Reaches exits goal past state :=
  reaches_bind.mpr (reaches.widen onward)

end Rules
end Act

/-! ## What comes of the parts of a computation -/

namespace Progress

variable {σ ω ε α : Type}

/-- The same stretch after some marks that were made before it. -/
def after (own : List ω) (progress : Progress σ ω ε α) : Progress σ ω ε α :=
  { progress with log := own ++ progress.log }

theorem after_append (earlier own : List ω) (progress : Progress σ ω ε α) :
    progress.after (earlier ++ own) = (progress.after own).after earlier := by
  simp only [after, List.append_assoc]

end Progress

namespace Outcome

variable {ε δ α β : Type}

theorem map_eq_ok_iff {f : α -> β} {outcome : Outcome ε α} {value : β} :
    outcome.map f = .ok value ↔ exists source, outcome = .ok source ∧ f source = value := by
  cases outcome <;> simp [Outcome.map]

/-- To restate failures has no effect on successes. -/
theorem mapError_eq_ok_iff {f : ε -> δ} {outcome : Outcome ε α} {value : α} :
    outcome.mapError f = .ok value ↔ outcome = .ok value := by
  cases outcome <;> simp [Outcome.mapError]

end Outcome

namespace Act

variable {σ ω ε δ α β : Type} {first : Act σ ω ε α} {state : σ}

section Outcomes

variable {next : α -> Act σ ω ε β}

theorem bind_of_ok {value : α} (came : (first state).outcome = .ok value) :
    (first >>= next) state
      = ⟨(next value (first state).state).outcome,
          (first state).log ++ (next value (first state).state).log,
          (next value (first state).state).state⟩ := by
  change andThen first next state = _
  simp only [andThen, came]

theorem bind_of_failed {error : ε} (came : (first state).outcome = .failed error) :
    (first >>= next) state = ⟨.failed error, (first state).log, (first state).state⟩ := by
  change andThen first next state = _
  simp only [andThen, came]

theorem bind_of_unfinished (came : (first state).outcome = .unfinished) :
    (first >>= next) state = ⟨.unfinished, (first state).log, (first state).state⟩ := by
  change andThen first next state = _
  simp only [andThen, came]

end Outcomes

section Stretches

variable {own : List ω} {next : σ}

theorem bind_ok {value : α} (ran : first state = ⟨.ok value, own, next⟩)
    (onward : α -> Act σ ω ε β) :
    (first >>= onward) state = (onward value next).after own := by
  rw [bind_of_ok (congrArg Progress.outcome ran), ran]
  rfl

theorem bind_failed {error : ε} (ran : first state = ⟨.failed error, own, next⟩)
    (onward : α -> Act σ ω ε β) : (first >>= onward) state = ⟨.failed error, own, next⟩ := by
  rw [bind_of_failed (congrArg Progress.outcome ran), ran]

theorem bind_unfinished (ran : first state = ⟨.unfinished, own, next⟩)
    (onward : α -> Act σ ω ε β) : (first >>= onward) state = ⟨.unfinished, own, next⟩ := by
  rw [bind_of_unfinished (congrArg Progress.outcome ran), ran]

/-- A stretch that is known by its outcome. -/
theorem eq_of_outcome {outcome : Outcome ε α} (came : (first state).outcome = outcome) :
    first state = ⟨outcome, (first state).log, (first state).state⟩ := by
  rw [← came]

/-- If the whole comes out well, so does its first part, and the rest goes on from there. -/
theorem ok_of_bind {onward : α -> Act σ ω ε β} {value : β}
    (came : ((first >>= onward) state).outcome = .ok value) :
    exists middle own next, first state = ⟨.ok middle, own, next⟩ ∧
      (first >>= onward) state = (onward middle next).after own := by
  cases ran : first state with
  | mk outcome own next =>
      cases outcome with
      | ok middle => exact ⟨middle, own, next, rfl, bind_ok ran onward⟩
      | failed error =>
          rw [bind_failed ran] at came
          cases came
      | unfinished =>
          rw [bind_unfinished ran] at came
          cases came

theorem bind_assoc {γ : Type} (first : Act σ ω ε α) (next : α -> Act σ ω ε β)
    (last : β -> Act σ ω ε γ) :
    first >>= next >>= last = first >>= fun value => next value >>= last := by
  funext state
  cases came : first state with
  | mk outcome own after =>
      cases outcome with
      | ok value =>
          rw [bind_ok came]
          cases continued : next value after with
          | mk outcome more final =>
              have both : (first >>= next) state = ⟨outcome, own ++ more, final⟩ := by
                rw [bind_ok came, continued]
                rfl
              cases outcome with
              | ok second => rw [bind_ok both, bind_ok continued, Progress.after_append]
              | failed error => rw [bind_failed both, bind_failed continued]; rfl
              | unfinished => rw [bind_unfinished both, bind_unfinished continued]; rfl
      | failed error => rw [bind_failed (bind_failed came _), bind_failed came]
      | unfinished => rw [bind_unfinished (bind_unfinished came _), bind_unfinished came]

theorem attempt_ok {value : α} (ran : first state = ⟨.ok value, own, next⟩) :
    (first.attempt : Act σ ω δ _) state = ⟨.ok (.ok value), own, next⟩ := by
  rw [attempt, ran]

theorem attempt_failed {error : ε} (ran : first state = ⟨.failed error, own, next⟩) :
    (first.attempt : Act σ ω δ _) state = ⟨.ok (.error error), own, next⟩ := by
  rw [attempt, ran]

theorem attempt_unfinished (ran : first state = ⟨.unfinished, own, next⟩) :
    (first.attempt : Act σ ω δ _) state = ⟨.unfinished, own, next⟩ := by
  rw [attempt, ran]

theorem mapError_of (restate : ε -> δ) {outcome : Outcome ε α}
    (ran : first state = ⟨outcome, own, next⟩) :
    first.mapError restate state = ⟨outcome.mapError restate, own, next⟩ := by
  rw [mapError, ran]

theorem attempt_log (act : Act σ ω ε α) (state : σ) :
    ((act.attempt : Act σ ω δ _) state).log = (act state).log := by
  unfold attempt
  cases came : (act state).outcome <;> simp only [came]

theorem attempt_state (act : Act σ ω ε α) (state : σ) :
    ((act.attempt : Act σ ω δ _) state).state = (act state).state := by
  unfold attempt
  cases came : (act state).outcome <;> simp only [came]

/-- What is true of each part of a computation, of its marks and of the states before and after
them, is true of the whole if two stretches can be joined, however the parts come out. -/
theorem bind_stretch {onward : α -> Act σ ω ε β} (stretch : σ -> List ω -> σ -> Prop)
    (join : forall {state own middle more last}, stretch state own middle ->
      stretch middle more last -> stretch state (own ++ more) last)
    (early : stretch state (first state).log (first state).state)
    (late : forall value own next, first state = ⟨.ok value, own, next⟩ ->
      stretch next (onward value next).log (onward value next).state) :
    stretch state ((first >>= onward) state).log ((first >>= onward) state).state := by
  cases came : first state with
  | mk outcome own next =>
      rw [came] at early
      cases outcome with
      | ok value =>
          rw [bind_ok came]
          exact join early (late value own next came)
      | failed error =>
          rw [bind_failed came]
          exact early
      | unfinished =>
          rw [bind_unfinished came]
          exact early

/-- What is tried is what is left of it after its first part. -/
theorem tried_after {later : Act σ ω ε β} {whole : Act σ ω ε β} {γ : Type}
    (ran : whole state = (later next).after own) (handler : Except ε β -> Act σ ω δ γ) :
    (whole.attempt >>= handler) state = ((later.attempt >>= handler) next).after own := by
  cases came : later next with
  | mk outcome rest last =>
      rw [came] at ran
      cases outcome with
      | ok value =>
          rw [bind_ok (attempt_ok ran), bind_ok (attempt_ok came)]
          exact Progress.after_append own rest _
      | failed error =>
          rw [bind_ok (attempt_failed ran), bind_ok (attempt_failed came)]
          exact Progress.after_append own rest _
      | unfinished =>
          rw [bind_unfinished (attempt_unfinished ran), bind_unfinished (attempt_unfinished came)]
          rfl

end Stretches
end Act

/-! ## Places in a log -/

/-- Of two places in a log, one is the other or comes after it. -/
theorem places {ω : Type} {front talk back rest : List ω} {earlier later : ω}
    (same : front ++ earlier :: back = talk ++ later :: rest) :
    (earlier = later ∧ back = rest) ∨ earlier ∈ rest ∨ later ∈ back := by
  rcases List.append_eq_append_iff.mp same with ⟨between, _, split⟩ | ⟨between, _, split⟩
  · cases between with
    | nil =>
        obtain ⟨rfl, rfl⟩ := List.cons.inj split
        exact Or.inl ⟨rfl, rfl⟩
    | cons first others =>
        obtain ⟨_, rfl⟩ := List.cons.inj split
        exact Or.inr (Or.inr (List.mem_append_right others (List.mem_cons_self)))
  · cases between with
    | nil =>
        obtain ⟨rfl, rfl⟩ := List.cons.inj split
        exact Or.inl ⟨rfl, rfl⟩
    | cons first others =>
        obtain ⟨_, rfl⟩ := List.cons.inj split
        exact Or.inr (Or.inl (List.mem_append_right others (List.mem_cons_self)))

/-- A place in a log is the last one, or the last one comes after it. -/
theorem last_place {ω : Type} {log front rest : List ω} {last moment : ω}
    (split : log ++ [last] = front ++ moment :: rest) :
    (front = log ∧ moment = last ∧ rest = []) ∨
      exists between, rest = between ++ [last] ∧ log = front ++ moment :: between := by
  rcases List.eq_nil_or_concat rest with rfl | ⟨between, final, rfl⟩
  · obtain ⟨rfl, same⟩ := List.append_inj' split rfl
    cases same
    exact Or.inl ⟨rfl, rfl, rfl⟩
  · rw [List.concat_eq_append, ← List.cons_append, ← List.append_assoc] at split
    obtain ⟨rfl, same⟩ := List.append_inj' split rfl
    cases same
    exact Or.inr ⟨between, List.concat_eq_append, rfl⟩

end LineDebugger
