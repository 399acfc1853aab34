namespace LineDebugger

/-!
# Logged computations that may be left waiting

Every part of the debugger that talks to something else is written as an `Act`: a
function from a state to the next state, a list of marks saying what was done, and
an outcome.  An outcome is a value, a failure, or `unfinished`: the computation is
still waiting for somebody who has nothing more to say.  Nothing after an unfinished
step takes place, but the marks and the state up to that point are kept, since both
can be observed.
-/

/-- How a computation comes out.  `unfinished` is neither success nor failure: the
computation has not returned. -/
inductive Outcome (ε α : Type) where
  | ok (value : α)
  | failed (error : ε)
  | unfinished
  deriving DecidableEq, Repr

namespace Outcome

/-- Read a finished result as an outcome. -/
def ofExcept {ε α : Type} : Except ε α -> Outcome ε α
  | .ok value => .ok value
  | .error error => .failed error

/-- Change the value of a successful outcome. -/
def map {ε α β : Type} (f : α -> β) : Outcome ε α -> Outcome ε β
  | .ok value => .ok (f value)
  | .failed error => .failed error
  | .unfinished => .unfinished

/-- Change the error of a failed outcome. -/
def mapError {ε δ α : Type} (f : ε -> δ) : Outcome ε α -> Outcome δ α
  | .ok value => .ok value
  | .failed error => .failed (f error)
  | .unfinished => .unfinished

end Outcome

/-- One stretch of a computation: how it came out, the marks it left in order, and
the state it left behind. -/
structure Progress (σ ω ε α : Type) where
  outcome : Outcome ε α
  log : List ω
  state : σ

/-- A computation over a state `σ` that leaves marks `ω` and fails with `ε`. -/
def Act (σ ω ε α : Type) : Type := σ -> Progress σ ω ε α

namespace Act

variable {σ ω ε δ α β : Type}

/-- Finish at once, with no mark and no change. -/
def done (value : α) : Act σ ω ε α := fun state => ⟨.ok value, [], state⟩

/-- Go on with `next` after success.  A failure, or a wait without end, is final;
the marks of both parts are kept in order. -/
def andThen (first : Act σ ω ε α) (next : α -> Act σ ω ε β) : Act σ ω ε β := fun state =>
  let early := first state
  match early.outcome with
  | .ok value =>
      let late := next value early.state
      ⟨late.outcome, early.log ++ late.log, late.state⟩
  | .failed error => ⟨.failed error, early.log, early.state⟩
  | .unfinished => ⟨.unfinished, early.log, early.state⟩

instance : Monad (Act σ ω ε) where
  pure := done
  bind := andThen

/-- Fail, with no mark and no change. -/
def fail (error : ε) : Act σ ω ε α := fun state => ⟨.failed error, [], state⟩

/-- Wait without end. -/
def wait : Act σ ω ε α := fun state => ⟨.unfinished, [], state⟩

/-- Take a result that is already there. -/
def ofExcept : Except ε α -> Act σ ω ε α
  | .ok value => done value
  | .error error => fail error

/-- The present state. -/
def current : Act σ ω ε σ := fun state => ⟨.ok state, [], state⟩

/-- Change the state. -/
def update (f : σ -> σ) : Act σ ω ε Unit := fun state => ⟨.ok (), [], f state⟩

/-- Turn failure into a value, so that the caller decides what it means.  State and
marks are those of the attempted computation, failed or not. -/
def attempt (act : Act σ ω ε α) : Act σ ω δ (Except ε α) := fun state =>
  let result := act state
  match result.outcome with
  | .ok value => ⟨.ok (.ok value), result.log, result.state⟩
  | .failed error => ⟨.ok (.error error), result.log, result.state⟩
  | .unfinished => ⟨.unfinished, result.log, result.state⟩

/-- Restate a failure in the terms of the caller. -/
def mapError (f : ε -> δ) (act : Act σ ω ε α) : Act σ ω δ α := fun state =>
  let result := act state
  ⟨result.outcome.mapError f, result.log, result.state⟩

/-- Treat every element in turn, and keep the results in order. -/
def each (f : α -> Act σ ω ε β) : List α -> Act σ ω ε (List β)
  | [] => done []
  | first :: others => do
      let result ← f first
      let results ← each f others
      return result :: results

end Act
end LineDebugger
