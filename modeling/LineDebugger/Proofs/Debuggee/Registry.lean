import LineDebugger.Proofs.Connection.Client
import LineDebugger.Proofs.Debuggee.Composition
import LineDebugger.Proofs.Debuggee.Course
import LineDebugger.Proofs.Debuggee.RequestTable
import LineDebugger.Proofs.Wire.EventRequest

namespace LineDebugger
namespace Debuggee

open Connection Session

/-!
# A target and the table of its machine

A virtual machine that keeps a table reads every request that it gets and enters it under a
number that is not in use, or it refuses and leaves the table alone.  It deletes what it is told
to delete, or refuses.  No other command concerns the table, but for the one with which the
debugger takes its leave.  What else the machine does, what it answers to questions, which events
it reports and when it hangs up, is up to it.

Against such a machine a target is held to its word.  The five requests that set and delete are
single calls, and what comes of a call can be told from the first reply with its number.  All
else is composed of calls of other kinds, and these keep the table.

The machine may also report so many events that its reply is never read.  Then the target gives
no answer, but there is one on its way, and the table is what that answer says.
-/

/-! ## Machines that keep a table -/

/-- How a virtual machine treats its table.  A command that is neither about event requests nor
the debugger's leave has no effect on it, whatever comes of that command. -/
structure KeepsTable {π : Type} (peer : Peer π) (table : π -> RequestTable) : Prop where
  set : forall packet state, packet.command.set = 15 -> packet.command.code = 1 ->
    exists reply : Wire.Reply, reply.id = packet.id
      ∧ (peer.react packet state).1.Replies reply
      ∧ ((reply.errorCode ≠ 0 ∧ table (peer.react packet state).2 = table state)
        ∨ exists request id,
          (Wire.readEventRequest packet.command.data).result = .ok request
            ∧ reply.errorCode = 0 ∧ reply.data = Wire.signedBytes32 id
            ∧ (table state).Enters (table (peer.react packet state).2) request id)
  clear : forall packet state, packet.command.set = 15 -> packet.command.code = 2 ->
    exists reply : Wire.Reply, reply.id = packet.id
      ∧ (peer.react packet state).1.Replies reply
      ∧ ((reply.errorCode ≠ 0 ∧ table (peer.react packet state).2 = table state)
        ∨ exists kind id,
          (Wire.readClearRequest packet.command.data).result = .ok (kind, id)
            ∧ reply.errorCode = 0
            ∧ table (peer.react packet state).2 = (table state).cleared kind id)
  other : forall packet state,
    packet.command.set ≠ 15 ∨ (packet.command.code ≠ 1 ∧ packet.command.code ≠ 2) ->
      packet.command.set ≠ 1 ∨ packet.command.code ≠ 6 ->
        table (peer.react packet state).2 = table state

namespace KeepsTable

variable {π : Type} {peer : Peer π} {table : π -> RequestTable} {client : Client π}

/-- A call of another kind has no effect on the table. -/
theorem unchanged (keeps : KeepsTable peer table) (sound : client.Sound) {question : Wire.Call}
    (foreign : question.registers = false) :
    table (Client.send peer question.command client).link.peer = table client.peer := by
  rcases Client.send_cases peer sound question.command with ⟨same, -⟩ | ⟨got, -⟩
  · rw [same]
  · rw [got]
    apply keeps.other
    · cases question <;> first | cases foreign; done | simp [Wire.Call.command]
    · cases question <;> first | cases foreign; done | simp [Wire.Call.command]

end KeepsTable

/-! ## Requests, and what they leave of the table -/

namespace Remote

variable {τ π α : Type}

section Following

variable {peer : Peer π} {table : π -> RequestTable} {state : Remote (Client π)}

/-- Nothing that is composed of other calls has any effect on the table. -/
theorem Composed.unchanged (keeps : KeepsTable peer table) {notes : UInt64 -> String -> Prop}
    {act : RemoteAct (Client π) α}
    (composed : Composed (Client.link peer) (fun question => question.registers = false) notes act)
    (sound : state.link.Sound) :
    table (act state).state.link.peer = table state.link.peer ∧ (act state).state.link.Sound := by
  refine composed.keeps
    (fun client => table client.peer = table state.link.peer ∧ client.Sound) ?_ ⟨rfl, sound⟩
  rintro question kind client ⟨same, sound⟩
  have foreign : question.registers = false := by
    rcases kind with foreign | lookup
    · exact foreign
    · cases question <;> first | rfl | cases lookup
  exact ⟨(keeps.unchanged sound foreign).trans same, sound.send question.command⟩

end Following

end Remote
/-- A reply by itself. -/
def answering (id : UInt32) (errorCode : UInt16) (data : List UInt8) : Reaction where
  bytes := ({ id, errorCode, data } : Wire.Reply).bytes

end Debuggee
end LineDebugger
