import LineDebugger.Connection.Handshake
import LineDebugger.Connection.Link
import LineDebugger.Connection.Multiplexer

namespace LineDebugger
namespace Connection

open Wire

/-!
# A connection to another side

A client numbers its commands, writes them through the multiplexer, and waits for each
reply before it does anything else.  The other side is a `Peer`: a function that says
which bytes it writes when a command reaches it, and whether it then closes the
connection.  Its bytes are taken in before the wait is judged, so a command stays
unanswered only if the peer will never answer it, or if so many event sets have come that
the multiplexer holds back.  Then the client waits for good, since it is the client
itself who would take them.
-/

/-- What the other side does when a command reaches it. -/
structure Reaction where
  bytes : List UInt8 := []
  closes : Bool := false
  deriving DecidableEq, Repr

/-- The other side of a connection. -/
structure Peer (π : Type) where
  react : CommandPacket -> π -> Reaction × π

/-- A peer whose state is the very function that tells its reactions. -/
def Peer.prepared : Peer (CommandPacket -> Reaction) where
  react packet behaviour := (behaviour packet, behaviour)

/-- A client's end of a connection, together with the peer at the other end. -/
structure Client (π : Type) where
  multiplexer : Multiplexer := {}
  nextId : UInt32 := 1
  peer : π

namespace Client

variable {π : Type}

/-- Take in what the peer wrote, and that it closed the connection if it did. -/
def takeIn (client : Client π) (reaction : Reaction) : List Finished × Client π :=
  let fed := client.multiplexer.feed reaction.bytes
  let last := if reaction.closes then fed.next.closeFeed else { next := fed.next }
  (fed.finished ++ last.finished, { client with multiplexer := last.next })

/-- Draw the next packet id.  Ids count from one and wrap around at 32 bits. -/
def drawId (client : Client π) : UInt32 × Client π :=
  (client.nextId, { client with nextId := client.nextId + 1 })

/-- Send a command and let the peer react to it if it was written.  A command that is held
back stays where it is. -/
def send (peer : Peer π) (command : Command) (client : Client π) :
    Delivery (Client π) :=
  let (id, client) := client.drawId
  let sent := client.multiplexer.send id.toNat ⟨id, command⟩
  let client := { client with multiplexer := sent.next }
  match sent.written with
  | [] => ⟨outcomeOf id sent.finished, none, client⟩
  | packet :: _ =>
      let (reaction, peerState) := peer.react packet client.peer
      let (finished, client) := { client with peer := peerState }.takeIn reaction
      ⟨outcomeOf id finished, some id, client⟩
where
  /-- The result of the command among those that finished. -/
  outcomeOf (id : UInt32) (finished : List Finished) : Outcome Fault Reply :=
    match finished.find? fun done => done.ticket == id.toNat with
    | some done => .ofExcept done.result
    | none => .unfinished

/-- Take the next event set from the multiplexer.  No command is written by it, since none
is held back for a client that does not wait. -/
def receive (client : Client π) : Outcome Empty (Option EventSet) × Client π :=
  let (received, effect) := client.multiplexer.receive
  (match received with
    | .events set => .ok (some set)
    | .nothingYet => .unfinished
    | .ended => .ok none,
    { client with multiplexer := effect.next })

/-- The link that a client provides. -/
def link (peer : Peer π) : Link (Client π) where
  send := send peer
  receive := receive

/-- A client whose handshake has succeeded and that has taken in all that the peer
wrote of its own accord. -/
def opened (peer : π) (reaction : Reaction) : Client π :=
  (({ peer } : Client π).takeIn reaction).2

/-- Perform the handshake and start reading packets after it. -/
def establish (peer : π) (answer : Reaction) : Outcome Fault (Client π) :=
  (Handshake.judge answer.bytes answer.closes).map fun rest =>
    opened peer { answer with bytes := rest }

end Client
end Connection
end LineDebugger
