import LineDebugger.Connection.Link

namespace LineDebugger
namespace Wire
namespace Call

/-!
# What calls are for, and what they come to

Calls fall into kinds.  Some look up what cannot change while the debuggee runs, some ask
about the state it is in, and some change what events it will report.  The kinds matter to
whoever keeps a record of calls: those of the first kind need to be put only once, and those
of the last kind are the only ones that a list of event requests has to take notice of.

A call comes to nothing but what its command comes to.  The error code of a reply is looked at
first, and the data of a reply counts only if there is no error code.  Over a link a call sends
its one command, leaves one mark, and leaves the link as the sending does.
-/

/-! ## Kinds -/

/-- The calls whose answers are worth remembering. -/
def isLookup : Call -> Bool
  | .signature _ | .methods _ | .fields _ | .lineTable .. | .variableTable .. => true
  | _ => false

/-- The calls that change what event requests there are. -/
def registers : Call -> Bool
  | .request _ | .clearRequest .. | .dispose => true
  | _ => false

/-- The calls that ask about the debuggee, each time anew. -/
def inspects : Call -> Bool
  | .staticValues .. | .superclass _ | .objectType _ | .objectValues .. | .stringValue _
  | .frames .. | .arrayLength _ | .arrayValues .. | .frameValues .. => true
  | _ => false

/-- The calls that are put about a value, to make it ready to be shown. -/
def explains : Call -> Bool
  | .objectType _ | .stringValue _ | .arrayLength _ => true
  | _ => false

theorem inspects_of_explains {question : Call} (explains : question.explains = true) :
    question.inspects = true := by
  cases question <;> first | rfl | cases explains

theorem answer_of_refused {reply : Reply} (refused : reply.errorCode ≠ 0) (question : Call) :
    question.answer reply = .error (.ofCode reply.errorCode) := by
  have isError : reply.isError = true := bne_iff_ne.mpr refused
  unfold answer Reply.check
  rw [if_pos isError]
  rfl

theorem answer_of_accepted {reply : Reply} (accepted : reply.errorCode = 0) (question : Call) :
    question.answer reply
      = (question.readAnswer reply.data).result.mapError Fault.malformed := by
  have fine : ¬ reply.isError = true := by
    rw [Reply.isError, accepted]
    decide
  unfold answer Reply.check
  rw [if_neg fine]
  cases (question.readAnswer reply.data).result <;> rfl

/-- What a call comes to, given what came of its command. -/
def verdict (question : Call) : Outcome Fault Reply -> Outcome Fault question.Answer
  | .ok reply => .ofExcept (question.answer reply)
  | .failed fault => .failed fault
  | .unfinished => .unfinished

/-- A call waits only if its command has no reply. -/
theorem unfinished_of_verdict {question : Call} {outcome : Outcome Fault Reply}
    (waits : question.verdict outcome = .unfinished) : outcome = .unfinished := by
  cases outcome with
  | ok reply =>
      rw [verdict] at waits
      cases read : question.answer reply <;> rw [read] at waits <;> cases waits
  | failed fault => cases waits
  | unfinished => rfl

/-- What a call comes to by a reply: a fault with the error code and its name if there is one,
whatever the data, and else what is read from the data. -/
def settled (question : Call) (reply : Reply) : Outcome Fault question.Answer :=
  if reply.errorCode = 0 then
    .ofExcept ((question.readAnswer reply.data).result.mapError .malformed)
  else .failed (.rejected reply.errorCode (ErrorCode.name reply.errorCode))

theorem verdict_ok (question : Call) (reply : Reply) :
    question.verdict (.ok reply) = question.settled reply := by
  rw [verdict, settled]
  by_cases accepted : reply.errorCode = 0
  · rw [if_pos accepted, answer_of_accepted accepted]
  · rw [if_neg accepted, answer_of_refused accepted]
    rfl

end Call
end Wire

/-! ## Calls over a link -/

namespace Connection
namespace Link

variable {τ : Type}

/-- The mark of a command that is sent over a link. -/
def mark (link : Link τ) (command : Wire.Command) (state : τ) : Exchange :=
  ⟨command, (link.send command state).sentAs, (link.send command state).outcome⟩

theorem call_eq (link : Link τ) (question : Wire.Call) (state : τ) :
    link.call question state
      = ⟨question.verdict (link.send question.command state).outcome,
          [link.mark question.command state], (link.send question.command state).link⟩ := by
  unfold call exchange mark
  cases arrived : (link.send question.command state).outcome with
  | ok reply =>
      cases read : question.answer reply <;>
        simp only [bind, Act.andThen, arrived, Act.ofExcept, read, Act.done, Act.fail,
          Wire.Call.verdict, Outcome.ofExcept, List.append_nil]
  | failed fault => simp only [bind, Act.andThen, arrived, Wire.Call.verdict]
  | unfinished => simp only [bind, Act.andThen, arrived, Wire.Call.verdict]

end Link
end Connection
end LineDebugger
