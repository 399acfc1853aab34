import Mathlib.Logic.Function.Basic
import LineDebugger.Proofs.Session.Ledger
import LineDebugger.Proofs.Wire.Reader
import LineDebugger.Wire.EventRequest

namespace LineDebugger
namespace Debuggee

open Session

/-!
# Tables of event requests

A virtual machine keeps the event requests that it has accepted in a table, by kind and number.
`RequestTable.Follows` is what the answer to a request ought to say about the table: a request
is answered with a number if and only if exactly that request was entered under that number, a
deletion is answered with success only if the entry is gone, and in every other case the table
is what it was.

A session keeps no such table but relies on a ledger, in which there are only the numbers of
breakpoints and steps.  Where the answers are right about the table, they are right about every
ledger that lists it.
-/

/-! ## Tables -/

/-- The event requests that a virtual machine keeps, by kind and number.  Each has its policy
and its modifiers. -/
def RequestTable : Type := UInt8 × Int32 -> Option (Wire.SuspendPolicy × List Wire.Modifier)

namespace RequestTable

/-- The table with a request entered under a number. -/
def entered (table : RequestTable) (request : Wire.EventRequest) (id : Int32) : RequestTable :=
  Function.update table (request.kind, id) (some (request.policy, request.modifiers))

/-- The table without the request of this kind and number. -/
def cleared (table : RequestTable) (kind : UInt8) (id : Int32) : RequestTable :=
  Function.update table (kind, id) none

/-- The request, and nothing else, was entered under a number that was not in use. -/
def Enters (before after : RequestTable) (request : Wire.EventRequest) (id : Int32) : Prop :=
  before (request.kind, id) = none ∧ after = before.entered request id

theorem entered_self (table : RequestTable) (request : Wire.EventRequest) (id : Int32) :
    table.entered request id (request.kind, id) = some (request.policy, request.modifiers) :=
  Function.update_self ..

theorem entered_of_ne {key : UInt8 × Int32} {request : Wire.EventRequest} {id : Int32}
    (different : key ≠ (request.kind, id)) (table : RequestTable) :
    table.entered request id key = table key :=
  Function.update_of_ne different ..

theorem cleared_self (table : RequestTable) (kind : UInt8) (id : Int32) :
    table.cleared kind id (kind, id) = none :=
  Function.update_self ..

theorem cleared_of_ne {key : UInt8 × Int32} {kind : UInt8} {id : Int32}
    (different : key ≠ (kind, id)) (table : RequestTable) : table.cleared kind id key = table key :=
  Function.update_of_ne different ..

variable {before after : RequestTable} {request : Wire.EventRequest}

theorem Enters.present {id : Int32} (enters : before.Enters after request id) :
    after (request.kind, id) ≠ none := by
  rw [enters.2, entered_self]
  exact Option.some_ne_none _

/-- A request is entered under one number only. -/
theorem Enters.unique {id other : Int32} (enters : before.Enters after request id)
    (alsoEnters : before.Enters after request other) : other = id := by
  by_contra different
  have key : (request.kind, other) ≠ (request.kind, id) :=
    fun same => different (Prod.mk.inj same).2
  have present := alsoEnters.present
  rw [enters.2, entered_of_ne key] at present
  exact present alsoEnters.1

/-! ## What the answers to requests say about the table -/

/-- The answer is a number if and only if the request was entered under it.  Without such an
answer nothing has changed. -/
def Registers (before after : RequestTable) (request : Wire.EventRequest)
    (outcome : Outcome TargetError Int32) : Prop :=
  (forall id, outcome = .ok id ↔ before.Enters after request id)
    ∧ ((forall id, outcome ≠ .ok id) -> after = before)

/-- After success the request is gone, and otherwise nothing has changed.  For a request that
was there, to succeed is the same as to remove it. -/
def Withdraws (before after : RequestTable) (kind : UInt8) (id : Int32)
    (outcome : Outcome TargetError Unit) : Prop :=
  (outcome = .ok () -> after = before.cleared kind id)
    ∧ (outcome ≠ .ok () -> after = before)
    ∧ (before (kind, id) ≠ none -> (outcome = .ok () ↔ after (kind, id) = none))

/-- What the answer to a request says about the table.  A breakpoint is for one position, a
step is by lines, goes over or into calls as asked for, and fires once.  If the length of a class
filter cannot be written, the request is entered as it was read instead.  A target that is let
go may do anything. -/
def Follows (before after : RequestTable) :
    (request : Request) -> Outcome TargetError request.Answer -> Prop
  | .detach, _ => True
  | .enableBreakpoint location, outcome =>
      before.Registers after
        ⟨Wire.EventKind.breakpoint, .all, [.locationOnly
          ⟨1, location.classId, location.methodId, location.codeIndex⟩]⟩ outcome
  | .createStep thread scope filter, outcome =>
      exists read : Wire.EventRequest, read.kind = Wire.EventKind.singleStep
        ∧ (Wire.Writable filter -> read = ⟨Wire.EventKind.singleStep, .all,
          [.step thread 1 (match scope with | .overCalls => 1 | .intoCalls => 0),
            .classMatch filter, .count 1]⟩)
        ∧ before.Registers after read outcome
  | .watchClassPrepare pattern, outcome =>
      exists read : Wire.EventRequest, read.kind = Wire.EventKind.classPrepare
        ∧ (Wire.Writable pattern ->
          read = ⟨Wire.EventKind.classPrepare, .all, [.classMatch pattern]⟩)
        ∧ before.Registers after read outcome
  | .deleteBreakpoint id, outcome => before.Withdraws after Wire.EventKind.breakpoint id outcome
  | .deleteStep id, outcome => before.Withdraws after Wire.EventKind.singleStep id outcome
  | _, _ => after = before

end RequestTable

/-! ## Ledgers -/

/-- The ledger lists the breakpoints and the steps of the table. -/
structure RequestTable.ListedBy (table : RequestTable) (ledger : Ledger) : Prop where
  breakpoints : forall id,
    id ∈ ledger.breakpoints ↔ table (Wire.EventKind.breakpoint, id) ≠ none
  steps : forall id, id ∈ ledger.steps ↔ table (Wire.EventKind.singleStep, id) ≠ none

namespace RequestTable

variable {table : RequestTable} {ledger : Ledger}

theorem entered_ne_none {request : Wire.EventRequest} {kind : UInt8} {id number : Int32} :
    table.entered request id (kind, number) ≠ none
      ↔ (kind = request.kind ∧ number = id) ∨ table (kind, number) ≠ none := by
  by_cases same : (kind, number) = (request.kind, id)
  · rw [same, entered_self]
    simp [(Prod.mk.inj same).1, (Prod.mk.inj same).2]
  · rw [entered_of_ne same]
    rw [Prod.mk.injEq] at same
    exact (or_iff_right same).symm

theorem cleared_ne_none {kind other : UInt8} {id number : Int32} :
    table.cleared kind id (other, number) ≠ none
      ↔ ¬ (other = kind ∧ number = id) ∧ table (other, number) ≠ none := by
  by_cases same : (other, number) = (kind, id)
  · rw [same, cleared_self]
    simp [(Prod.mk.inj same).1, (Prod.mk.inj same).2]
  · rw [cleared_of_ne same]
    rw [Prod.mk.injEq] at same
    exact (and_iff_right same).symm

namespace ListedBy

/-- A table is listed in one way only. -/
theorem unique {other : Ledger} (listed : table.ListedBy ledger)
    (alsoListed : table.ListedBy other) : other = ledger := by
  cases ledger
  cases other
  have breakpoints := Finset.ext fun id =>
    (alsoListed.breakpoints id).trans (listed.breakpoints id).symm
  have steps := Finset.ext fun id => (alsoListed.steps id).trans (listed.steps id).symm
  dsimp only at breakpoints steps
  rw [breakpoints, steps]

/-- What is entered is listed if it is a breakpoint or a step. -/
theorem entered (listed : table.ListedBy ledger) (request : Wire.EventRequest) (id : Int32) :
    (table.entered request id).ListedBy
      { breakpoints := if request.kind = Wire.EventKind.breakpoint
          then insert id ledger.breakpoints else ledger.breakpoints
        steps := if request.kind = Wire.EventKind.singleStep
          then insert id ledger.steps else ledger.steps } := by
  constructor
  · intro other
    rw [entered_ne_none, ← listed.breakpoints]
    dsimp only
    split
    case isTrue same => simp [same]
    case isFalse different => simp [Ne.symm different]
  · intro other
    rw [entered_ne_none, ← listed.steps]
    dsimp only
    split
    case isTrue same => simp [same]
    case isFalse different => simp [Ne.symm different]

/-- What is cleared is not listed any more. -/
theorem cleared (listed : table.ListedBy ledger) (kind : UInt8) (id : Int32) :
    (table.cleared kind id).ListedBy
      { breakpoints := if kind = Wire.EventKind.breakpoint
          then ledger.breakpoints.erase id else ledger.breakpoints
        steps := if kind = Wire.EventKind.singleStep
          then ledger.steps.erase id else ledger.steps } := by
  constructor
  · intro other
    rw [cleared_ne_none, ← listed.breakpoints]
    dsimp only
    split
    case isTrue same => simp [same]
    case isFalse different => simp [Ne.symm different]
  · intro other
    rw [cleared_ne_none, ← listed.steps]
    dsimp only
    split
    case isTrue same => simp [same]
    case isFalse different => simp [Ne.symm different]

end ListedBy

end RequestTable

end Debuggee
end LineDebugger
