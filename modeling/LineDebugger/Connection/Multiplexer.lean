import LineDebugger.Wire.EventSet
import LineDebugger.Wire.Packet

namespace LineDebugger
namespace Connection

open Wire

/-!
# Sharing one stream between commands and events

The multiplexer owns both directions of a connection.  It writes commands, gives each
reply to the command with its packet id, and queues event sets for whoever asks next.
It is a state with one function per thing that can happen to it; each returns the next
state together with the commands that finished.  Commands are told apart by tickets,
since packet ids may be reused.

The queue has room for so many event sets.  The one that finds no room holds everything
else back: nothing more is read and no command is looked at until somebody takes an event
set.  Bytes and commands that come in the meantime wait, however many there are.  Afterwards
the commands that have waited are looked at first, in order, and then the reading goes on.

A packet whose length is out of bounds and the end of the stream both stop the reading
side for good.  Every command still pending then fails, every later one fails without
being written, and the queued event sets can still be taken.
-/

/-- A command that was written and not yet answered. -/
structure Pending where
  id : UInt32
  ticket : Nat
  deriving DecidableEq, Repr

/-- A command that was issued and not yet looked at. -/
structure Held where
  ticket : Nat
  packet : CommandPacket
  deriving DecidableEq, Repr

/-- A command that came to its end. -/
structure Finished where
  ticket : Nat
  result : Except Fault Reply

/-- The state of the multiplexer: received bytes that are not yet a whole packet or not yet
looked at, pending commands in the order of writing, event sets nobody has taken, commands
nobody has looked at, whether the stream ends behind the unread bytes, and whether each
direction is still open. -/
structure Multiplexer where
  unread : List UInt8 := []
  pending : List Pending := []
  queued : List EventSet := []
  held : List Held := []
  closing : Bool := false
  reading : Bool := true
  writable : Bool := true
  deriving DecidableEq, Repr

/-- What a step leads to: the next state, the commands it finished, and the packets it
wrote. -/
structure Effect where
  next : Multiplexer
  finished : List Finished := []
  written : List CommandPacket := []

/-- One effect after the other. -/
def Effect.andThen (early : Effect) (onward : Multiplexer -> Effect) : Effect :=
  let late := onward early.next
  { next := late.next
    finished := early.finished ++ late.finished
    written := early.written ++ late.written }

namespace Multiplexer

/-- How many event sets may wait to be taken. -/
def eventRoom : Nat := 256

/-- Whether there is an event set for which there is no room. -/
def holdsBack (state : Multiplexer) : Bool := eventRoom < state.queued.length

/-- Stop reading.  Every pending command fails. -/
def stop (state : Multiplexer) : Effect where
  next := { state with unread := [], pending := [], closing := false, reading := false }
  finished := state.pending.map fun waiting => ⟨waiting.ticket, .error .closed⟩

/-! ## What is read -/

/-- Give a reply to the command that waits for it.  A reply nobody waits for is
dropped. -/
def acceptReply (state : Multiplexer) (packet : Packet) : Effect :=
  match state.pending.find? fun waiting => waiting.id == packet.id with
  | none => { next := state }
  | some waiting => {
      next := { state with
        pending := state.pending.filter fun other => other.id != packet.id }
      finished := [⟨waiting.ticket, (Reply.ofBytes packet.bytes).mapError .malformed⟩] }

/-- Queue the event set in a packet.  One that cannot be read is dropped. -/
def acceptEvents (state : Multiplexer) (packet : Packet) : Effect :=
  match EventSet.ofBytes packet.body with
  | .ok set => { next := { state with queued := state.queued ++ [set] } }
  | .error _ => { next := state }

/-- Take in one packet.  Whatever is no reply is read as an event set. -/
def accept (state : Multiplexer) (packet : Packet) : Effect :=
  if packet.isReply then state.acceptReply packet else state.acceptEvents packet

/-- Read packets off the front of the stream, one by one, until they end or one of them
holds back the rest. -/
def read (state : Multiplexer) (stream : List UInt8) : Effect :=
  if state.holdsBack then { next := { state with unread := stream } }
  else
    match _found : Packet.front stream with
    | .incomplete =>
        if state.closing then state.stop else { next := { state with unread := stream } }
    | .illegal => state.stop
    | .packet packet rest => (state.accept packet).andThen fun next => next.read rest
termination_by stream.length
decreasing_by exact Packet.length_lt_of_front _found

/-- Receive bytes: parts of packets, or any number of packets.  Bytes that arrive after
the reading side has stopped, or after the end of the stream, are not looked at. -/
def feed (state : Multiplexer) (bytes : List UInt8) : Effect :=
  if !state.reading || state.closing then { next := state }
  else state.read (state.unread ++ bytes)

/-- The other side has closed its end of the stream.  The end is noticed when everything
before it has been read. -/
def closeFeed (state : Multiplexer) : Effect :=
  if !state.reading then { next := state }
  else if state.holdsBack then { next := { state with closing := true } }
  else state.stop

/-! ## What is written -/

/-- Nobody reads any more what is written. -/
def closeSink (state : Multiplexer) : Effect :=
  { next := { state with writable := false } }

/-- Look at a command.  A failing write leaves the pending commands alone.  A command that
waits under the same id gives way and fails. -/
def write (state : Multiplexer) (ticket : Nat) (packet : CommandPacket) : Effect :=
  if !state.writable then
    { next := state, finished := [⟨ticket, .error .brokenPipe⟩] }
  else {
    next := { state with
      pending := (state.pending.filter fun other => other.id != packet.id)
        ++ [⟨packet.id, ticket⟩] }
    finished := (state.pending.filter fun other => other.id == packet.id).map
      fun waiting => ⟨waiting.ticket, .error .closed⟩
    written := [packet] }

/-- Send a command.  Once the reading side has stopped, nothing is written.  Whether it is
written or not, a command breaks off the reading of a packet that has arrived in part: the
part that is there is lost.  What is merely held back is not. -/
def send (state : Multiplexer) (ticket : Nat) (packet : CommandPacket) : Effect :=
  if !state.reading then
    { next := state, finished := [⟨ticket, .error .closed⟩] }
  else if state.holdsBack then
    { next := { state with held := state.held ++ [⟨ticket, packet⟩] } }
  else ({ state with unread := [] } : Multiplexer).write ticket packet

/-- Look at commands in order. -/
def writeAll (state : Multiplexer) : List Held -> Effect
  | [] => { next := state }
  | first :: others =>
      (state.write first.ticket first.packet).andThen fun next => next.writeAll others

/-! ## What is taken -/

/-- What there is to receive. -/
inductive Received where
  | events (set : EventSet)
  | nothingYet
  | ended
  deriving DecidableEq, Repr

/-- Go on when there is room again.  Nothing says whether a command or a packet comes
first; here it is the commands. -/
def resume (state : Multiplexer) : Effect :=
  (({ state with held := [] } : Multiplexer).writeAll state.held).andThen
    fun next => next.read next.unread

/-- Take the next event set.  The end is seen only when the queue is empty. -/
def receive (state : Multiplexer) : Received × Effect :=
  match state.queued with
  | set :: others =>
      let taken := { state with queued := others }
      (.events set, if state.holdsBack then taken.resume else { next := taken })
  | [] => (if state.reading then .nothingYet else .ended, { next := state })

end Multiplexer
end Connection
end LineDebugger
