import LineDebugger.Connection.Client
import LineDebugger.Debuggee.Remote

namespace LineDebugger
namespace Debuggee

open Connection

/-!
# Requests, one after the other

Whoever uses a target makes one request, waits for the answer, and then makes the next.  A
request that is never answered is the last one.  The course of the requests is the list of
the turns that are taken in this way, each with the state in which it begins.

What every request keeps is true whenever a turn begins, and a course that is cut at one of
its turns goes on like a course of its own.

Over a connection there is one way not to be answered by a machine that replies to everything: so
many event sets have come that nothing more is read (`Remote.HeldBack`).  Only the last turn of a
course can come to this.
-/

/-- A request and the state in which it is made. -/
structure Turn (σ : Type) where
  before : σ
  request : Request

namespace Target

variable {σ : Type} (target : Target σ)

/-- What comes of a turn. -/
def result (turn : Turn σ) : Progress σ Exchange TargetError turn.request.Answer :=
  target.respond turn.request turn.before

/-- The turns that are taken when these requests are made, beginning in a state. -/
def course : List Request -> σ -> List (Turn σ)
  | [], _ => []
  | request :: others, state =>
      ⟨state, request⟩ :: match (target.respond request state).outcome with
        | .unfinished => []
        | _ => course others (target.respond request state).state

/-- The marks of several turns, in order. -/
def marks (turns : List (Turn σ)) : List Exchange :=
  turns.flatMap fun turn => (target.result turn).log

variable {target}

/-- The first turn begins where the course begins.  What comes after it is a course of its
own, which is empty if the first request is never answered. -/
theorem course_eq_cons {requests : List Request} {state : σ} {turn : Turn σ}
    {future : List (Turn σ)} (whole : target.course requests state = turn :: future) :
    turn.before = state
      ∧ exists others, future = target.course others (target.result turn).state := by
  cases requests with
  | nil => cases whole
  | cons request others =>
      rw [course] at whole
      rcases List.cons.inj whole with ⟨rfl, rest⟩
      refine ⟨rfl, ?_⟩
      cases came : (target.respond request state).outcome with
      | unfinished =>
          simp only [came] at rest
          exact ⟨[], rest.symm⟩
      | _ =>
          simp only [came] at rest
          exact ⟨others, rest.symm⟩

/-- What every turn keeps is true at the beginning of every turn. -/
theorem course_keeps (kept : σ -> Prop)
    (keeps : forall turn, kept turn.before -> kept (target.result turn).state)
    {requests : List Request} {state : σ} (start : kept state) :
    forall turn, turn ∈ target.course requests state -> kept turn.before := by
  intro turn member
  rcases List.append_of_mem member with ⟨past, future, whole⟩
  clear member
  induction past generalizing requests state with
  | nil => exact (course_eq_cons whole).1 ▸ start
  | cons first past ih =>
      rcases course_eq_cons whole with ⟨begins, others, rest⟩
      exact ih (keeps first (begins ▸ start)) rest.symm

end Target
end Debuggee
end LineDebugger
