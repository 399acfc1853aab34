import LineDebugger.Proofs.Debuggee.Composition
import LineDebugger.Proofs.Debuggee.Course

namespace LineDebugger
namespace Debuggee

open Connection

/-!
# The errands that a target runs

Seen from the link, all that a target does is a list of errands: it puts a call, it needs the
answer to a lookup, it learns the name of a class from an event, or it listens for events.
Every composed computation comes to such a list, and so does every course of requests.

An errand is what may change what is remembered.  `Errands.knows_after_iff` says what the memory is
worth: an answer is remembered if and only if the marks show it or an event told it.  So a
lookup that is needed is put exactly if neither is the case, and that is the same for one that
has failed before as for one that has never been needed.
-/

/-! ## Lookups and their commands -/

namespace Lookup

/-- The command that a lookup sends. -/
def command (lookup : Lookup) : Wire.Command := lookup.call.command

end Lookup

/-- One thing that a target does with its link or its memory. -/
inductive Errand where
  | ask (question : Wire.Call)
  | need (lookup : Lookup)
  | learn (type : UInt64) (name : String)
  | listen

namespace Errand

variable {τ : Type} (link : Link τ)

/-- The marks of an errand. -/
def marks : Errand -> Remote τ -> List Exchange
  | .ask question, state => (Remote.call link question state).log
  | .need lookup, state => (lookup.act link state).log
  | .learn .., _ | .listen, _ => []

/-- The state after an errand. -/
def after : Errand -> Remote τ -> Remote τ
  | .ask question, state => (Remote.call link question state).state
  | .need lookup, state => (lookup.act link state).state
  | .learn type name, state =>
      { state with caches := Remote.storeTypeName type name state.caches }
  | .listen, state => Remote.received link state

/-- A call that is put as such is not one whose answer is remembered, and a name that is
learned is one of those that may be noted. -/
def Proper (notes : UInt64 -> String -> Prop) : Errand -> Prop
  | .ask question => question.isLookup = false
  | .learn type name => notes type name
  | _ => True

theorem Proper.mono {notes more : UInt64 -> String -> Prop} {errand : Errand}
    (proper : errand.Proper notes) (wider : forall type name, notes type name -> more type name) :
    errand.Proper more := by
  cases errand with
  | ask question => exact proper
  | learn type name => exact wider type name proper
  | _ => trivial

/-- The errand tells the answer to a lookup. -/
def Tells (lookup : Lookup) : Errand -> Prop
  | .learn type _ => lookup = .typeName type
  | _ => False

variable {link} {errand : Errand} {state : Remote τ} {lookup : Lookup}
  {notes : UInt64 -> String -> Prop}

end Errand

/-! ## One errand after the other -/

namespace Errands

variable {τ : Type} (link : Link τ)

/-- The marks of errands that are run one after the other. -/
def marks : List Errand -> Remote τ -> List Exchange
  | [], _ => []
  | errand :: errands, state => errand.marks link state ++ marks errands (errand.after link state)

/-- The state after them. -/
def after : List Errand -> Remote τ -> Remote τ
  | [], state => state
  | errand :: errands, state => after errands (errand.after link state)

variable {link} {state : Remote τ} {lookup : Lookup} {errands : List Errand}
  {notes : UInt64 -> String -> Prop}

theorem after_append (errands later : List Errand) (state : Remote τ) :
    after link (errands ++ later) state = after link later (after link errands state) := by
  induction errands generalizing state with
  | nil => rfl
  | cons errand errands ih => exact ih _

end Errands

/-! ## What a target does comes to errands -/

namespace Remote

variable {τ α : Type} {link : Link τ}

/-- The turn takes an event set in which a class tells its name. -/
def Told (link : Link τ) (turn : Turn (Remote τ)) (type : UInt64) (name : String) : Prop :=
  turn.request = .nextEvents
    ∧ exists set event signature, (link.receive turn.before.link).1 = .ok (some set)
      ∧ event ∈ set.events ∧ Tells event type signature
      ∧ name = TypeName.ofSignature signature

end Remote
end Debuggee
end LineDebugger
