import LineDebugger.Act
import LineDebugger.Wire.Call

namespace LineDebugger
namespace Connection

open Wire

/-!
# Links

A link is anything that delivers commands and hands over event sets.  What is built on
a link leaves a mark for every command it issued, with the outcome, so that statements
about commands need not look at the link itself.
-/

/-- What became of a command: how it came out, the packet id under which it was written
(none if it never was), and the link afterwards. -/
structure Delivery (τ : Type) where
  outcome : Outcome Fault Reply
  sentAs : Option UInt32
  link : τ

/-- A way to deliver commands and to receive event sets.  Receiving `none` means that
no event set will ever come again. -/
structure Link (τ : Type) where
  send : Command -> τ -> Delivery τ
  receive : τ -> Outcome Empty (Option EventSet) × τ

/-- The mark of one command. -/
structure Exchange where
  command : Command
  sentAs : Option UInt32
  outcome : Outcome Fault Reply

namespace Link

variable {τ ε : Type}

/-- Issue a command and wait for its reply. -/
def exchange (link : Link τ) (command : Command) : Act τ Exchange Fault Reply := fun state =>
  let delivery := link.send command state
  ⟨delivery.outcome, [⟨command, delivery.sentAs, delivery.outcome⟩], delivery.link⟩

/-- Put a call and read its answer. -/
def call (link : Link τ) (call : Call) : Act τ Exchange Fault call.Answer := do
  let reply ← link.exchange call.command
  Act.ofExcept (call.answer reply)

/-- Wait for the next event set. -/
def nextEvents (link : Link τ) : Act τ Exchange ε (Option EventSet) := fun state =>
  match link.receive state with
  | (.ok events, state) => ⟨.ok events, [], state⟩
  | (_, state) => ⟨.unfinished, [], state⟩

end Link
end Connection
end LineDebugger
