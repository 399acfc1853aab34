import LineDebugger.Proofs.Connection.Client
import LineDebugger.Proofs.Connection.Opening
import LineDebugger.Proofs.Wire.Call
import LineDebugger.Proofs.Wire.Framing

namespace LineDebugger
namespace Connection

open Wire

/-!
# Conversations

On one connection many calls are made, one after the other.  Between them ids are drawn for
nothing, event sets are taken, and packets arrive that nobody has asked for: event sets, replies
that come too late, and replies that come too early.  If the other side answers every command,
then none of this matters to a call, with one exception.  Its id is told by the count of those
drawn before it, and what it comes to is told by the first reply with this id among what the
other side writes on receipt of the command.

The exception is a matter of room.  Event sets that nobody has taken, together with those that
come before the reply, may be more than there is room for.  Then the reply is never read, and the
call never returns.

`Client.Ready` is what makes this so: between two moves the stream is open, and nothing but whole
packets is left of it.  One move keeps it, and so do all.
-/

/-- Complete packets and nothing else, on a connection that stays open. -/
def Reaction.ofPackets (packets : List Packet) : Reaction where
  bytes := packets.flatMap Packet.bytes

/-- To every command the other side writes complete packets, and one of them is a reply with its
id. -/
def Peer.Answering {π : Type} (peer : Peer π) : Prop :=
  forall packet state, exists packets, (peer.react packet state).1 = .ofPackets packets
    ∧ (forall written, written ∈ packets -> written.Complete)
    ∧ exists written, written ∈ packets ∧ Multiplexer.Answers packet.id written

/-- If any of the packets is a reply with the id, one of them is the first. -/
theorem Reaction.replies_of_mem {packets : List Packet} {id : UInt32}
    (complete : forall written, written ∈ packets -> written.Complete)
    (answered : exists written, written ∈ packets ∧ Multiplexer.Answers id written) :
    exists reply : Reply, reply.id = id ∧ (Reaction.ofPackets packets).Replies reply := by
  have present : (packets.find? (Multiplexer.Answers id ·)).isSome = true := by
    rcases answered with ⟨written, member, answers⟩
    exact List.find?_isSome.mpr ⟨written, member, decide_eq_true answers⟩
  rcases Option.isSome_iff_exists.mp present with ⟨first, found⟩
  have member : first ∈ packets := List.mem_of_find?_eq_some found
  rcases List.find?_eq_some_iff_append.mp found with ⟨answers, before, after, whole, others⟩
  have answering : Multiplexer.Answers id first := of_decide_eq_true answers
  rcases (complete first member).carries_reply answering.1 with ⟨reply, rfl⟩
  have mine : reply.id = id := reply.packet_id.symm.trans answering.2
  refine ⟨reply, mine, before, after, ?_, ?_⟩
  · rw [← whole]
    exact congrArg Packet.Cut.packets (Packet.split_flatMap complete)
  · intro packet early
    rw [mine]
    simpa using others packet early

namespace Client

variable {π : Type} {peer : Peer π} {client : Client π}

/-! ## Between two moves -/

theorem Ready.takeInPackets (ready : client.Ready) {packets : List Packet}
    (complete : forall packet, packet ∈ packets -> packet.Complete) :
    (client.takeIn (.ofPackets packets)).2.Ready :=
  ready.takeIn rfl (congrArg Packet.Cut.remainder (Packet.split_flatMap complete))

/-- A command leaves the client ready, with one id less to draw, and the other side has got the
command unless something holds it back. -/
theorem Ready.send (ready : client.Ready) (answering : peer.Answering) (command : Command) :
    (Client.send peer command client).link.Ready
      ∧ (Client.send peer command client).link.nextId = client.nextId + 1
      ∧ (client.multiplexer.holdsBack = false -> (Client.send peer command client).link.peer
        = (peer.react ⟨client.nextId, command⟩ client.peer).2) := by
  rcases answering ⟨client.nextId, command⟩ client.peer with ⟨packets, reacted, complete, -⟩
  cases holds : client.multiplexer.holdsBack with
  | true =>
      rw [send_of_holdsBack peer ready.whole.reading holds]
      exact ⟨ready.stuck command, rfl, fun impossible => by cases impossible⟩
  | false =>
      rw [send_of_free ready.sound ready.whole.reading holds, reacted]
      exact ⟨(ready.waiting _).takeInPackets complete, rfl, fun _ => rfl⟩

/-! ## One call -/

/-- What the other side does on receipt of the next command. -/
def reaction (peer : Peer π) (client : Client π) (command : Command) : Reaction :=
  (peer.react ⟨client.nextId, command⟩ client.peer).1

/-- The reply is the first one with the id of the call that the other side writes on its receipt.
If there is room for the event sets that come before it, the call comes to what it says, and if
not, the call never returns. -/
structure Settles (peer : Peer π) (client : Client π) (question : Call) (reply : Reply) :
    Prop where
  mine : reply.id = client.nextId
  first : (client.reaction peer question.command).Replies reply
  outcome : ((link peer).call question client).outcome
    = if client.Admits (client.reaction peer question.command) client.nextId then
        question.settled reply
      else .unfinished
  log : ((link peer).call question client).log
    = [⟨question.command,
        if client.multiplexer.holdsBack then none else some client.nextId,
        if client.Admits (client.reaction peer question.command) client.nextId then .ok reply
          else .unfinished⟩]

theorem Ready.settles (ready : client.Ready) (question : Call) {reply : Reply}
    (mine : reply.id = client.nextId)
    (replies : (client.reaction peer question.command).Replies reply) :
    Settles peer client question reply := by
  have came : (Client.send peer question.command client).outcome
      = if client.Admits (client.reaction peer question.command) client.nextId then .ok reply
        else .unfinished := by
    obtain ⟨answered, waits⟩ := send_outcome ready.sound ready.whole.reading mine replies
    split
    · exact answered ‹_›
    · exact (waits ‹_›).1
  have sent : (Client.send peer question.command client).sentAs
      = if client.multiplexer.holdsBack then none else some client.nextId := by
    cases holds : client.multiplexer.holdsBack with
    | true =>
        rw [send_of_holdsBack peer ready.whole.reading holds]
        rfl
    | false =>
        rw [send_of_free ready.sound ready.whole.reading holds]
        rfl
  refine ⟨mine, replies, ?_, ?_⟩
  · rw [Link.call_eq]
    dsimp only [link]
    rw [came]
    split
    · exact question.verdict_ok reply
    · rfl
  · rw [Link.call_eq, Link.mark]
    dsimp only [link]
    rw [came, sent]

/-- A call that returns was not held back. -/
theorem Settles.free {question : Call} {reply : Reply}
    (settles : Settles peer client question reply)
    (returns : ((link peer).call question client).outcome ≠ .unfinished) :
    client.multiplexer.holdsBack = false := by
  rw [settles.outcome] at returns
  split at returns
  · exact Multiplexer.HasRoom.free ‹_›
  · exact absurd rfl returns

/-- Where every command is answered, one reply is the first. -/
theorem exists_reply (answering : peer.Answering) (client : Client π) (command : Command) :
    exists reply : Reply, reply.id = client.nextId
      ∧ (client.reaction peer command).Replies reply := by
  rcases answering ⟨client.nextId, command⟩ client.peer with ⟨packets, reacted, complete, answered⟩
  rcases Reaction.replies_of_mem complete answered with ⟨reply, mine, replies⟩
  rw [← reacted] at replies
  exact ⟨reply, mine, replies⟩

end Client

/-! ## Moves -/

/-- What happens on a connection: a call is made, an id is drawn, the next event set is taken, or
a packet arrives of its own accord. -/
inductive Move where
  | call (question : Call)
  | drawId
  | receive
  | arrive (packet : Packet) (complete : packet.Complete)

namespace Move

/-- The move takes an id. -/
def draws : Move -> Bool
  | .call _ | .drawId => true
  | .receive | .arrive _ _ => false

/-- The packets that are written in the course of some moves, if the first id to be drawn is
given: one for each call. -/
def packets (id : UInt32) : List Move -> List CommandPacket
  | [] => []
  | .call question :: later => ⟨id, question.command⟩ :: packets (id + 1) later
  | .drawId :: later => packets (id + 1) later
  | .receive :: later | .arrive _ _ :: later => packets id later

theorem packets_cons (id : UInt32) (move : Move) (later : List Move) :
    packets id (move :: later)
      = packets id [move] ++ packets (if move.draws then id + 1 else id) later := by
  cases move <;> rfl

/-- What else has happened does not change what is written. -/
theorem packets_filter (id : UInt32) (past : List Move) :
    packets id (past.filter draws) = packets id past := by
  induction past generalizing id with
  | nil => rfl
  | cons first later ih =>
      cases first with
      | call question => exact congrArg (_ :: ·) (ih (id + 1))
      | drawId => exact ih (id + 1)
      | receive => exact ih id
      | arrive packet complete => exact ih id

end Move

/-- What becomes of the other side when it gets a packet. -/
def Peer.got {π : Type} (peer : Peer π) (state : π) (packet : CommandPacket) : π :=
  (peer.react packet state).2

namespace Client

variable {π : Type} {peer : Peer π} {client : Client π}

/-- The client after a move. -/
def move (peer : Peer π) (client : Client π) : Move -> Client π
  | .call question => ((link peer).call question client).state
  | .drawId => client.drawId.2
  | .receive => client.receive.2
  | .arrive packet _ => (client.takeIn (.ofPackets [packet])).2

/-- The client after some moves. -/
def after (peer : Peer π) (client : Client π) (past : List Move) : Client π :=
  past.foldl (move peer) client

/-- The move comes to its end. -/
def Ends (peer : Peer π) (client : Client π) : Move -> Prop
  | .call question => ((link peer).call question client).outcome ≠ .unfinished
  | .drawId | .receive | .arrive _ _ => True

/-- Every one of these moves comes to its end.  A call that does not is the last thing that is ever
done on a connection, since whoever makes it goes on waiting. -/
def Returns (peer : Peer π) : Client π -> List Move -> Prop
  | _, [] => True
  | client, first :: later => client.Ends peer first ∧ Returns peer (client.move peer first) later

theorem move_call (question : Call) :
    client.move peer (.call question) = (Client.send peer question.command client).link := by
  rw [move, Link.call_eq]
  rfl

theorem receive_nextId (client : Client π) : client.receive.2.nextId = client.nextId :=
  rfl

/-- A move that takes an id takes the next one. -/
theorem Ready.move (ready : client.Ready) (answering : peer.Answering) (move : Move) :
    (client.move peer move).Ready
      ∧ (client.move peer move).nextId
        = (if move.draws then client.nextId + 1 else client.nextId) := by
  cases move with
  | call question =>
      rw [move_call]
      obtain ⟨still, nextId, -⟩ := ready.send answering question.command
      exact ⟨still, nextId⟩
  | drawId =>
      exact ⟨⟨⟨ready.sound.numbered, ready.sound.writable, ready.sound.prompt⟩, ready.whole⟩, rfl⟩
  | receive => exact ⟨ready.receive, receive_nextId client⟩
  | arrive packet complete =>
      exact ⟨ready.takeInPackets (List.forall_mem_singleton.mpr complete), rfl⟩

/-- What is written for a move that comes to its end is all that the other side notices. -/
theorem Ready.move_peer (ready : client.Ready) (answering : peer.Answering) {move : Move}
    (ends : client.Ends peer move) :
    (client.move peer move).peer = (Move.packets client.nextId [move]).foldl peer.got client.peer
      := by
  cases move with
  | call question =>
      obtain ⟨reply, mine, replies⟩ := exists_reply answering client question.command
      have free := (ready.settles question mine replies).free ends
      rw [move_call]
      exact (ready.send answering question.command).2.2 free
  | drawId => rfl
  | receive => exact receive_peer client
  | arrive packet complete => exact (takeIn_frame client _).2.2.2

/-- A client that is ready stays so, and what it has drawn is told by the moves. -/
theorem Ready.after (ready : client.Ready) (answering : peer.Answering) (past : List Move) :
    (client.after peer past).Ready
      ∧ (client.after peer past).nextId
        = client.nextId + UInt32.ofNat (past.countP Move.draws) := by
  -- The induction is on the moves that are still to come: the first of them leads to another
  -- client, with another id to be drawn next.
  induction past generalizing client with
  | nil => exact ⟨ready, (UInt32.add_zero _).symm⟩
  | cons first later ih =>
      rcases ready.move answering first with ⟨now, drawn⟩
      rcases ih now with ⟨still, nextId⟩
      refine ⟨still, nextId.trans ?_⟩
      rw [drawn, List.countP_cons]
      cases first.draws with
      | true =>
          simp only [if_true, UInt32.ofNat_add]
          rw [UInt32.add_assoc, UInt32.add_comm 1]
          rfl
      | false => simp

/-- If all moves come to their end, what is written is told by them too. -/
theorem Ready.after_peer (ready : client.Ready) (answering : peer.Answering) {past : List Move}
    (returns : client.Returns peer past) :
    (client.after peer past).peer
      = (Move.packets client.nextId past).foldl peer.got client.peer := by
  induction past generalizing client with
  | nil => rfl
  | cons first later ih =>
      rcases returns with ⟨ends, returns⟩
      rcases ready.move answering first with ⟨now, drawn⟩
      refine (ih now returns).trans ?_
      rw [drawn, ready.move_peer answering ends, Move.packets_cons client.nextId first later,
        List.foldl_append]

/-- The greeting opens the connection, and what follows it is taken in. -/
theorem establish_greeted (start : π) (packets : List Packet) :
    establish start ⟨Handshake.greeting ++ packets.flatMap Packet.bytes, false⟩
      = .ok (opened start (.ofPackets packets)) := by
  rw [establish, Handshake.judge_greeting_append]
  rfl

/-- The id that is drawn next, in numbers. -/
theorem Ready.nextId_toNat (ready : client.Ready) (answering : peer.Answering)
    (first : client.nextId = 1) (past : List Move) :
    (client.after peer past).nextId.toNat = (past.countP Move.draws + 1) % UInt32.size := by
  rw [(ready.after answering past).2, first, UInt32.toNat_add, UInt32.toNat_ofNat']
  change (1 + past.countP Move.draws % 4294967296) % 4294967296
    = (past.countP Move.draws + 1) % 4294967296
  omega

/-- Where the same ids have been drawn and the same calls made, the same reply settles a call,
whatever else has happened. -/
theorem Ready.settles_after (ready : client.Ready) {other : Client π} (otherReady : other.Ready)
    (answering : peer.Answering) (sameId : other.nextId = client.nextId)
    (samePeer : other.peer = client.peer) (past : List Move) (question : Call) :
    exists reply, Settles peer (client.after peer past) question reply
      ∧ (client.Returns peer past -> other.Returns peer (past.filter Move.draws) ->
        Settles peer (other.after peer (past.filter Move.draws)) question reply) := by
  rcases ready.after answering past with ⟨now, nextId⟩
  rcases otherReady.after answering (past.filter Move.draws) with ⟨alsoNow, otherId⟩
  rcases exists_reply answering (client.after peer past) question.command with
    ⟨reply, mine, replies⟩
  refine ⟨reply, now.settles question mine replies, fun returns otherReturns => ?_⟩
  have idAgrees : (other.after peer (past.filter Move.draws)).nextId
      = (client.after peer past).nextId := by
    rw [otherId, nextId, sameId, List.countP_filter]
    simp only [Bool.and_self]
  have peerAgrees : (other.after peer (past.filter Move.draws)).peer
      = (client.after peer past).peer := by
    rw [otherReady.after_peer answering otherReturns, ready.after_peer answering returns, sameId,
      samePeer, Move.packets_filter]
  refine alsoNow.settles question (mine.trans idAgrees.symm) ?_
  rwa [reaction, idAgrees, peerAgrees]

/-- A connection has been opened, on which packets may have arrived early, and the other side
answers every command.  Then ids are drawn in order, and none comes again until all others have
been drawn; as long as calls return, each writes one packet, and nothing else does; and there is
a reply, written on receipt of the call, that settles it.  It is the same one as if nothing had
ever arrived of its own accord and no event set had been taken.  All that those can change is
whether there is room enough for the reply to be read. -/
theorem calls_do_not_influence_each_other (answering : peer.Answering) (start : π)
    {early : List Packet} (complete : forall packet, packet ∈ early -> packet.Complete) :
    exists client,
      establish start ⟨Handshake.greeting ++ early.flatMap Packet.bytes, false⟩ = .ok client
      ∧ (forall past, (client.after peer past).nextId.toNat
        = (past.countP Move.draws + 1) % UInt32.size)
      ∧ (forall past later, 0 < later.countP Move.draws -> later.countP Move.draws < UInt32.size ->
        (client.after peer (past ++ later)).nextId ≠ (client.after peer past).nextId)
      ∧ (forall past, client.Returns peer past -> (client.after peer past).peer
        = (Move.packets 1 past).foldl peer.got start)
      ∧ forall past question, exists reply,
        Settles peer (client.after peer past) question reply
        ∧ (client.Returns peer past ->
          ({ peer := start } : Client π).Returns peer (past.filter Move.draws) ->
          Settles peer (({ peer := start } : Client π).after peer (past.filter Move.draws))
            question reply) := by
  have fresh : ({ peer := start } : Client π).Ready := Ready.fresh start
  have ready : (opened start (.ofPackets early)).Ready := fresh.takeInPackets complete
  have started : (opened start (.ofPackets early)).peer = start := (takeIn_frame _ _).2.2.2
  have first : (opened start (.ofPackets early)).nextId = 1 := rfl
  refine ⟨_, establish_greeted start early, ready.nextId_toNat answering first, ?_, ?_, ?_⟩
  · intro past later some few same
    have here := ready.nextId_toNat answering first past
    have there := ready.nextId_toNat answering first (past ++ later)
    rw [same, here, List.countP_append] at there
    change (_ + 1) % 4294967296 = (_ + 1) % 4294967296 at there
    change later.countP Move.draws < 4294967296 at few
    omega
  · intro past returns
    rw [ready.after_peer answering returns, first, started]
  · exact ready.settles_after fresh answering first.symm started.symm

/-! ## A side that talks too much -/

def farewell : EventSet := ⟨2, [⟨99, 0, .machineDeath⟩]⟩

def lastWords : Packet := Multiplexer.eventPacket farewell.bytes

/-- To every command, first a reply to the next one, then so many event sets, then the reply. -/
def chatter (sets : Nat) (id : UInt32) : List Packet :=
  (Reply.packet ⟨id + 1, 0, signedBytes32 99⟩ :: List.replicate sets lastWords)
    ++ [Reply.packet ⟨id, 0, signedBytes32 17⟩]

def chatterer (sets : Nat) : Peer Unit where
  react packet state := (.ofPackets (chatter sets packet.id), state)

section Chatter

variable {sets : Nat} {id : UInt32}

theorem chatter_complete : forall packet, packet ∈ chatter sets id -> packet.Complete := by
  have small : headerSize + (signedBytes32 99).length ≤ maxPacketSize := by decide
  have alsoSmall : headerSize + (signedBytes32 17).length ≤ maxPacketSize := by decide
  have set : lastWords.Complete := ⟨by decide, by decide, by decide⟩
  refine List.forall_mem_append.mpr ⟨List.forall_mem_cons.mpr ⟨?_, ?_⟩, ?_⟩
  · exact Reply.packet_complete small
  · intro packet member
    rwa [List.eq_of_mem_replicate member]
  · exact List.forall_mem_singleton.mpr (Reply.packet_complete alsoSmall)

theorem chatterer_answering (sets : Nat) : (chatterer sets).Answering := by
  intro packet state
  refine ⟨_, rfl, chatter_complete, Reply.packet ⟨packet.id, 0, signedBytes32 17⟩, ?_⟩
  exact ⟨by simp [chatter], Reply.packet_isReply _, Reply.packet_id _⟩

theorem chatter_split :
    (Packet.split (Reaction.ofPackets (chatter sets id)).bytes).packets = chatter sets id :=
  congrArg Packet.Cut.packets (Packet.split_flatMap chatter_complete)

theorem chatter_others : forall packet,
    packet ∈ Reply.packet ⟨id + 1, 0, signedBytes32 99⟩ :: List.replicate sets lastWords ->
      ¬ Multiplexer.Answers id packet := by
  refine List.forall_mem_cons.mpr ⟨?_, ?_⟩
  · rintro ⟨-, same⟩
    rw [Reply.packet_id] at same
    simp at same
  · intro packet member
    rw [List.eq_of_mem_replicate member]
    exact fun answers => absurd answers.1 (by decide)

theorem chatter_replies :
    (Reaction.ofPackets (chatter sets id)).Replies ⟨id, 0, signedBytes32 17⟩ :=
  ⟨_, [], chatter_split, chatter_others⟩

/-- It can be talked too much even for one call. -/
theorem admits_chatter_iff (client : Client π) :
    client.Admits (.ofPackets (chatter sets id)) id
      ↔ client.multiplexer.queued.length + sets ≤ Multiplexer.eventRoom := by
  have brings : Multiplexer.eventSet? lastWords = some farewell := by decide +kernel
  rw [Admits, Reaction.ahead_eq chatter_split chatter_others
      ⟨Reply.packet_isReply _, Reply.packet_id _⟩,
    Multiplexer.HasRoom, List.filterMap_cons, Multiplexer.eventSet?, Reply.packet_isReply,
    if_pos rfl, List.filterMap_replicate_of_some brings, List.length_replicate]

theorem chatterer_settles (sets : Nat) :
    Settles (chatterer sets) { peer := () } (.arrayLength 5) ⟨1, 0, signedBytes32 17⟩ :=
  (Ready.fresh ()).settles (.arrayLength 5) rfl chatter_replies

end Chatter

/-- The lengths of two arrays are asked for, and between the calls an event set is taken and an id
drawn.  Each of the calls could be answered by a reply that has come too early. -/
theorem chatter_is_of_no_consequence :
    let early := [Reply.packet ⟨1, 0, signedBytes32 99⟩]
    let past : List Move := [.call (.arrayLength 5), .receive, .drawId]
    (chatterer 1).Answering ∧ (forall packet, packet ∈ early -> packet.Complete)
      ∧ (exists client,
        establish () ⟨Handshake.greeting ++ early.flatMap Packet.bytes, false⟩ = .ok client
        ∧ (client.after (chatterer 1) past).nextId.toNat = 3
        ∧ exists reply,
          Settles (chatterer 1) (client.after (chatterer 1) past) (.arrayLength 6) reply)
      ∧ ((link (chatterer 1)).call (.arrayLength 6)
          ((opened () (.ofPackets early)).after (chatterer 1) past)).outcome = .ok 17 := by
  intro early past
  have complete : forall packet, packet ∈ early -> packet.Complete :=
    List.forall_mem_singleton.mpr (Reply.packet_complete (by decide))
  refine ⟨chatterer_answering 1, complete, ?_, by decide +kernel⟩
  rcases calls_do_not_influence_each_other (chatterer_answering 1) () complete with
    ⟨client, established, drawn, -, -, settles⟩
  rcases settles past (.arrayLength 6) with ⟨reply, settled, -⟩
  exact ⟨client, established, drawn past, reply, settled⟩

/-- A side that writes as many event sets before the reply as there is room for is heard out.  One
that writes one more is not, and the call never returns. -/
theorem too_much_chatter_is_not_heard_out :
    (chatterer 256).Answering ∧ (chatterer 257).Answering
      ∧ ((link (chatterer 256)).call (.arrayLength 5) { peer := () }).outcome = .ok 17
      ∧ ((link (chatterer 257)).call (.arrayLength 5) { peer := () }).outcome = .unfinished := by
  refine ⟨chatterer_answering 256, chatterer_answering 257, ?_, ?_⟩
  · have admits : ({ peer := () } : Client Unit).Admits (.ofPackets (chatter 256 1)) 1 :=
      (admits_chatter_iff _).mpr (Nat.le_refl _)
    exact (chatterer_settles 256).outcome.trans (if_pos admits)
  · have overflows : ¬ ({ peer := () } : Client Unit).Admits (.ofPackets (chatter 257 1)) 1 :=
      fun admits => Nat.not_succ_le_self _ ((admits_chatter_iff _).mp admits)
    exact (chatterer_settles 257).outcome.trans (if_neg overflows)

end Client
end Connection
end LineDebugger
