import LineDebugger.Proofs.Session.Ledger

namespace LineDebugger

/-- The requests that only look at the debuggee: at the lines of a class, or at the halted
thread. -/
def Debuggee.RequestKind.looks : Debuggee.RequestKind -> Bool
  | .locationsOfLine => true
  | kind => kind.inspects

theorem Debuggee.RequestKind.looks_of_inspects {kind : Debuggee.RequestKind}
    (inspects : kind.inspects = true) : kind.looks = true := by
  cases kind <;> first | rfl | cases inspects

namespace Session

open Debuggee

/-!
# Targets whose failures change nothing

A target need not keep a ledger to the letter.  Live requests may come to an end of their own
accord while the debuggee runs, so that a step on record may be gone by the time it is to be
deleted, and a request may be known under a number that was another one's before.  All that is
asked here is that a request that fails, or that only looks, changes no live request, and that
nothing but a request for a step brings a step about.
-/

variable {σ : Type}

/-- What the response to a request may do to the live requests.  A request that has not been
answered may have done anything, and so may letting the debuggee go. -/
def Ledger.Admits (before after : Ledger) :
    (request : Request) -> Outcome TargetError request.Answer -> Prop
  | _, .unfinished => True
  | .detach, _ => True
  | .deleteStep request, .failed (.noSuchElement _) =>
      request ∉ before.steps ∧ after = before
  | _, .failed _ => after = before
  | .createStep _ _ _, .ok request => after.steps ⊆ insert request before.steps
  | .deleteStep request, .ok _ =>
      after.breakpoints = before.breakpoints ∧ after.steps ⊆ before.steps.erase request
  | .enableBreakpoint _, .ok _ => after.steps ⊆ before.steps
  | .deleteBreakpoint _, .ok _ => after.steps ⊆ before.steps
  | .nextEvents, .ok _ => after.steps ⊆ before.steps
  | .resume, .ok _ => after.steps ⊆ before.steps
  | .watchClassPrepare _, .ok _ => after.steps ⊆ before.steps
  | _, .ok _ => after = before

/-- A target of which a failed request changes no live request. -/
def FailsCleanly (target : Target σ) (live : σ -> Ledger) : Prop :=
  forall request state, (live state).Admits (live (target.respond request state).state)
    request (target.respond request state).outcome

theorem Ledger.Follows.admits {before after : Ledger} {request : Request}
    {outcome : Outcome TargetError request.Answer}
    (follows : before.Follows after request outcome) : before.Admits after request outcome := by
  cases outcome with
  | unfinished => trivial
  | failed error =>
      cases request <;> cases error <;> first | exact follows | exact follows.2
  | ok answer =>
      cases request with
      | createStep thread scope filter => rw [follows.2]; exact Finset.Subset.refl _
      | deleteStep request => rw [follows]; exact ⟨rfl, Finset.Subset.refl _⟩
      | enableBreakpoint location => rw [follows.2]; exact Finset.Subset.refl _
      | deleteBreakpoint request => rw [follows]; exact Finset.Subset.refl _
      | nextEvents => rw [follows]; exact Finset.Subset.refl _
      | resume => rw [follows]; exact Finset.Subset.refl _
      | watchClassPrepare pattern => rw [follows]; exact Finset.Subset.refl _
      | detach => trivial
      | _ => exact follows

/-- A target that keeps a ledger is one of them. -/
theorem KeepsLedger.failsCleanly {target : Target σ} {ledger : σ -> Ledger}
    (keeps : KeepsLedger target ledger) : FailsCleanly target ledger :=
  fun request state => (keeps request state).admits

/-- Of a target about which nothing is known, nothing is alive as far as one can tell. -/
theorem failsCleanly_unknown (target : Target σ) : FailsCleanly target fun _ => {} := by
  intro request state
  cases (target.respond request state).outcome with
  | unfinished => trivial
  | failed error =>
      cases request with
      | deleteStep request =>
          cases error with
          | noSuchElement reason => exact ⟨Finset.notMem_empty request, rfl⟩
          | _ => rfl
      | detach => trivial
      | _ => rfl
  | ok answer =>
      cases request with
      | deleteStep request => exact ⟨rfl, Finset.empty_subset _⟩
      | detach => trivial
      | _ => first | rfl | exact Finset.empty_subset _

namespace FailsCleanly

variable {target : Target σ} {live : σ -> Ledger} (clean : FailsCleanly target live)
  {request : Request} {situation : Situation σ}
include clean

theorem answered {outcome : Outcome TargetError request.Answer}
    (responded : (target.respond request situation.target).outcome = outcome) :
    (live situation.target).Admits (live (situation.answered target request).target)
      request outcome := by
  subst responded
  exact clean request situation.target

/-- A request that fails changes no live request. -/
theorem of_failed {error : TargetError}
    (responded : (target.respond request situation.target).outcome = .failed error)
    (stays : request ≠ .detach) :
    live (situation.answered target request).target = live situation.target := by
  have admits := clean.answered responded
  cases request with
  | detach => exact absurd rfl stays
  | deleteStep request =>
      cases error with
      | noSuchElement reason => exact admits.2
      | _ => exact admits
  | _ => exact admits

/-- A step that counts as deleted is not alive, and nothing else has come to be. -/
theorem of_deleted {step : Int32} {outcome : Outcome TargetError Unit}
    (responded : (target.respond (.deleteStep step) situation.target).outcome = outcome)
    (deleted : Deleted outcome) :
    (live (situation.answered target (.deleteStep step)).target).breakpoints
        = (live situation.target).breakpoints
      ∧ (live (situation.answered target (.deleteStep step)).target).steps
        ⊆ (live situation.target).steps.erase step := by
  have admits := clean.answered responded
  cases outcome with
  | ok answer => exact admits
  | failed error =>
      cases error with
      | noSuchElement reason =>
          have same : live (situation.answered target (.deleteStep step)).target
              = live situation.target := admits.2
          rw [same, Finset.erase_eq_of_notMem admits.1]
          exact ⟨rfl, Finset.Subset.refl _⟩
      | notAvailable reason => exact deleted.elim
      | other reason => exact deleted.elim
  | unfinished => exact deleted.elim

/-- Neither does a look, whatever comes of it. -/
theorem of_looks (looks : request.kind.looks = true)
    {outcome : Outcome TargetError request.Answer}
    (responded : (target.respond request situation.target).outcome = outcome)
    (finished : outcome ≠ .unfinished) :
    live (situation.answered target request).target = live situation.target := by
  have admits := clean.answered responded
  cases outcome with
  | unfinished => exact absurd rfl finished
  | failed error => cases request <;> first | exact admits | cases looks
  | ok answer => cases request <;> first | exact admits | cases looks

/-- No request but one for a step brings a live step about. -/
theorem of_ok {answer : request.Answer}
    (responded : (target.respond request situation.target).outcome = .ok answer)
    (other : request.kind ≠ .createStep) (stays : request ≠ .detach) :
    (live (situation.answered target request).target).steps
      ⊆ (live situation.target).steps := by
  have admits := clean.answered responded
  cases request with
  | createStep thread scope filter => exact absurd rfl other
  | detach => exact absurd rfl stays
  | deleteStep request => exact admits.2.trans (Finset.erase_subset _ _)
  | enableBreakpoint location => exact admits
  | deleteBreakpoint request => exact admits
  | nextEvents => exact admits
  | resume => exact admits
  | watchClassPrepare pattern => exact admits
  | _ => rw [show live _ = live _ from admits]

end FailsCleanly

end Session
end LineDebugger
