import LineDebugger.Debuggee.Target

namespace LineDebugger
namespace Debuggee

/-!
# A scripted target

A target for rehearsals.  It shows fixed facts and hands out request numbers in order.
For each kind of request a queue of prepared responses can be given; as long as there
is one, it decides the answer.
-/

/-- The fixed facts that a scripted target shows. -/
structure Facts where
  lines : UInt32 -> List Location
  frames : List StackFrame
  locals : List LocalVariable
  fields : UInt64 -> String -> Option Value
  arrays : UInt64 -> Option (List Value)

/-- A prepared response: an answer, a failure, or `none` to answer from the facts after
all. -/
abbrev Prepared (kind : RequestKind) : Type := Option (Except TargetError kind.Answer)

/-- A scripted target: the facts, the prepared responses and the number of the next
event request. -/
structure Scripted where
  facts : Facts
  prepared : (kind : RequestKind) -> List (Prepared kind)
  nextRequest : Int32 := 1

namespace Scripted

/-- The target after the next prepared response of this kind has been used. -/
def popPrepared (state : Scripted) (kind : RequestKind) : Scripted :=
  { state with
    prepared := fun other =>
      if other = kind then (state.prepared other).tail else state.prepared other }

/-- Hand out the next request number. -/
def allocate (state : Scripted) : Except TargetError Int32 × Scripted :=
  (.ok state.nextRequest, { state with nextRequest := state.nextRequest + 1 })

/-- A fact, or word that there is none. -/
def found {α : Type} (fact : Option α) (reason : String) : Except TargetError α :=
  match fact with
  | some value => .ok value
  | none => .error (.noSuchElement reason)

/-- The answer from the facts. -/
def answer (state : Scripted) :
    (request : Request) -> Except TargetError request.Answer × Scripted
  | .nextEvents => (.error (.notAvailable "script exhausted"), state)
  | .watchClassPrepare _ => state.allocate
  | .locationsOfLine _ line => (.ok (state.facts.lines line), state)
  | .enableBreakpoint _ => state.allocate
  | .deleteBreakpoint _ => (.ok (), state)
  | .createStep .. => state.allocate
  | .deleteStep _ => (.ok (), state)
  | .resume => (.ok (), state)
  | .frames .. => (.ok state.facts.frames, state)
  | .visibleVariables .. => (.ok state.facts.locals, state)
  | .fieldValue object field =>
      (found (state.facts.fields object.id field) ("field " ++ field), state)
  | .arrayElement array index =>
      (found ((state.facts.arrays array.id).bind (·[index]?)) s!"index {index}", state)
  | .arrayValues array =>
      (found (state.facts.arrays array.id) s!"array {array.id.toNat}", state)
  | .detach => (.ok (), state)

/-- Frames beyond the limit of the request are left out, prepared or not. -/
def withinLimit : (request : Request) -> request.Answer -> request.Answer
  | .frames _ (some limit), frames => List.take limit frames
  | _, answer => answer

/-- Answer a request, from the prepared responses first. -/
def respond (request : Request) (state : Scripted) :
    Except TargetError request.Answer × Scripted :=
  let (result, state) :=
    match state.prepared request.kind with
    | some response :: _ => (response, state.popPrepared request.kind)
    | none :: _ => (state.popPrepared request.kind).answer request
    | [] => state.answer request
  (result.map (withinLimit request), state)

/-- The scripted target. -/
def target : Target Scripted where
  respond request state :=
    let (result, state) := respond request state
    ⟨.ofExcept result, [], state⟩

end Scripted
end Debuggee
end LineDebugger
