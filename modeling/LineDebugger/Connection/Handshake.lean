import LineDebugger.Act
import LineDebugger.Wire.Fault

namespace LineDebugger
namespace Connection

open Wire

/-!
# The handshake

Both sides open by sending the same fourteen bytes.  The debugger judges the answer as
soon as fourteen bytes are there, takes no more than those, and leaves everything after
them to the packet stream.
-/

namespace Handshake

/-- The bytes that both sides send first. -/
def greeting : List UInt8 :=
  "JDWP-Handshake".toList.map fun c => UInt8.ofNat c.toNat

/-- Judge what the other side has sent so far.  The result is what follows the
greeting.  With too few bytes the debugger waits, unless the stream has ended. -/
def judge (received : List UInt8) (ended : Bool) : Outcome Fault (List UInt8) :=
  if received.length < greeting.length then
    if ended then .failed .earlyEnd else .unfinished
  else if received.take greeting.length = greeting then
    .ok (received.drop greeting.length)
  else .failed .badHandshake

end Handshake
end Connection
end LineDebugger
