import LineDebugger.Connection.Client
import LineDebugger.Proofs.Connection.Run

namespace LineDebugger
namespace Connection

open Wire

/-!
# One command and its reply

A client sends a command and waits.  Of all the packets that the other side writes in the
meantime, the first reply with the id of the command decides what comes of it.  The others,
event sets and replies to nobody, have no say in that, and neither has what was left from
earlier commands.  But the reply has to be read, and it is not if more event sets come before
it than there is room for.  Then the client waits for good (`send_outcome`).

`Client.Sound` is what makes this so.  Every command waits under a ticket that is its own
number, and the writing side is open.  A client is sound when it is opened, and it stays
sound whatever the other side does.
-/

namespace Multiplexer

/-! ## Packets that arrive while a command waits -/

/-- Commands wait under tickets that are their ids. -/
structure Numbered (state : Multiplexer) : Prop where
  pending : forall waiting, waiting ∈ state.pending -> waiting.ticket = waiting.id.toNat
  held : forall waiting, waiting ∈ state.held -> waiting.ticket = waiting.packet.id.toNat

/-- Some command waits under this id. -/
def Awaits (state : Multiplexer) (id : UInt32) : Prop :=
  exists waiting, waiting ∈ state.pending ∧ waiting.id = id

/-- The packet is a reply to the command with this id. -/
def Answers (id : UInt32) (packet : Packet) : Prop := packet.isReply = true ∧ packet.id = id

instance (id : UInt32) (packet : Packet) : Decidable (Answers id packet) :=
  inferInstanceAs (Decidable (packet.isReply = true ∧ packet.id = id))

variable {state : Multiplexer} {id : UInt32}

namespace Numbered

theorem of_fewer {other : Multiplexer} (numbered : state.Numbered)
    (fewer : other.pending.Sublist state.pending) (same : other.held = state.held) :
    other.Numbered :=
  ⟨fun waiting member => numbered.pending waiting (fewer.subset member), same ▸ numbered.held⟩

theorem accept (numbered : state.Numbered) (packet : Packet) :
    (state.accept packet).next.Numbered :=
  numbered.of_fewer (accept_pending_sublist state packet) (accept_held state packet).1

theorem read (numbered : state.Numbered) (stream : List UInt8) :
    (state.read stream).next.Numbered := by
  obtain ⟨-, -, held, fewer⟩ := read_frame state stream
  exact numbered.of_fewer fewer held

theorem write (numbered : state.Numbered) {ticket : Nat} {packet : CommandPacket}
    (own : ticket = packet.id.toNat) : (state.write ticket packet).next.Numbered := by
  rw [Multiplexer.write]
  split
  · exact numbered
  · refine ⟨List.forall_mem_append.mpr ⟨?_, List.forall_mem_singleton.mpr own⟩, numbered.held⟩
    exact fun other member => numbered.pending other (List.mem_filter.mp member).1

/-- What was held back was numbered too. -/
theorem resume (numbered : state.Numbered) : state.resume.next.Numbered := by
  have begins : ({ state with held := [] } : Multiplexer).Numbered :=
    ⟨numbered.pending, List.forall_mem_nil _⟩
  have written : (({ state with held := [] } : Multiplexer).writeAll state.held).next.Numbered :=
    writeAll_keeps _ (fun _ waiting member now => now.write (numbered.held waiting member)) begins
  exact written.read _

theorem receive (numbered : state.Numbered) : state.receive.2.next.Numbered := by
  rw [Multiplexer.receive]
  cases state.queued with
  | nil => exact numbered
  | cons set others =>
      have taken : ({ state with queued := others } : Multiplexer).Numbered :=
        ⟨numbered.pending, numbered.held⟩
      dsimp only
      split
      · exact taken.resume
      · exact taken

end Numbered

/-- The end of the stream waits for nothing but room. -/
def Prompt (state : Multiplexer) : Prop := state.holdsBack = false -> state.closing = false

namespace Prompt

theorem feed (prompt : state.Prompt) (bytes : List UInt8) : (state.feed bytes).next.Prompt := by
  rw [Multiplexer.feed]
  split
  · exact prompt
  · exact read_closing _ _

theorem closeFeed (prompt : state.Prompt) : state.closeFeed.next.Prompt := by
  rw [Multiplexer.closeFeed]
  split
  · exact prompt
  · split
    · rename_i holds
      exact fun free => absurd (holds.symm.trans free) (by decide)
    · exact fun _ => rfl

theorem receive (prompt : state.Prompt) : state.receive.2.next.Prompt := by
  rw [Multiplexer.receive]
  cases queued : state.queued with
  | nil => exact prompt
  | cons set others =>
      dsimp only
      split
      · exact read_closing _ _
      · rename_i free
        exact fun _ => prompt (Bool.eq_false_iff.mpr free)

end Prompt

theorem receive_writable (state : Multiplexer) :
    state.receive.2.next.writable = state.writable := by
  rw [receive]
  cases state.queued with
  | nil => rfl
  | cons set others =>
      dsimp only
      split
      · obtain ⟨-, -, -, -, -, writable⟩ := writeAll_frame
          ({ state with queued := others, held := [] } : Multiplexer) state.held
        exact (read_frame _ _).2.1.trans writable
      · rfl

theorem Whole.receive (whole : state.Whole) : state.receive.2.next.Whole := by
  rw [Multiplexer.receive]
  cases state.queued with
  | nil => exact whole
  | cons set others =>
      dsimp only
      split
      · obtain ⟨unread, -, -, closing, reading, -⟩ := writeAll_frame
          ({ state with queued := others, held := [] } : Multiplexer) state.held
        apply Whole.read (reading.trans whole.reading) (closing.trans whole.goesOn)
        rw [unread]
        exact whole.packets
      · rename_i free
        exact ⟨whole.reading, whole.goesOn, whole.packets,
          fun _ => whole.between (Bool.eq_false_iff.mpr free)⟩

/-- A packet that is no reply to the command leaves it waiting. -/
theorem accept_other (numbered : state.Numbered) (awaits : state.Awaits id) {packet : Packet}
    (other : ¬ Answers id packet) :
    (state.accept packet).next.Awaits id
      ∧ forall done, done ∈ (state.accept packet).finished -> done.ticket ≠ id.toNat := by
  cases flagged : packet.isReply with
  | false =>
      rw [accept_of_not_isReply flagged]
      exact ⟨awaits, List.forall_mem_nil _⟩
  | true =>
      have different : packet.id ≠ id := fun same => other ⟨flagged, same⟩
      rw [accept, if_pos flagged, acceptReply]
      cases found : state.pending.find? fun waiting => waiting.id == packet.id with
      | none => exact ⟨awaits, List.forall_mem_nil _⟩
      | some waiting =>
          have same : waiting.id = packet.id := by simpa using List.find?_some found
          have ticket := numbered.pending waiting (List.mem_of_find?_eq_some found)
          rcases awaits with ⟨mine, member, own⟩
          refine ⟨⟨mine, ?_, own⟩, ?_⟩
          · refine List.mem_filter.mpr ⟨member, ?_⟩
            rw [own]
            exact bne_iff_ne.mpr different.symm
          · refine List.forall_mem_singleton.mpr ?_
            change waiting.ticket ≠ id.toNat
            rw [ticket, same]
            exact fun equal => different (UInt32.toNat_inj.mp equal)

/-- A reply to the command is what comes of it. -/
theorem accept_answer (numbered : state.Numbered) (awaits : state.Awaits id) {answer : Packet}
    (answers : Answers id answer) :
    (state.accept answer).finished
      = [⟨id.toNat, (Reply.ofBytes answer.bytes).mapError .malformed⟩] := by
  rcases awaits with ⟨mine, member, own⟩
  rw [accept, if_pos answers.1, acceptReply]
  cases found : state.pending.find? fun waiting => waiting.id == answer.id with
  | none =>
      have absent := List.find?_eq_none.mp found mine member
      rw [own, answers.2] at absent
      simp at absent
  | some waiting =>
      have same : waiting.id = answer.id := by simpa using List.find?_some found
      have ticket := numbered.pending waiting (List.mem_of_find?_eq_some found)
      rw [same, answers.2] at ticket
      simp only [ticket]

/-- If there is room for what comes before it, the first reply with the id of the command is what
comes of it.  If there is none, the command goes on waiting behind what holds back. -/
theorem read_answered (numbered : state.Numbered) (awaits : state.Awaits id)
    {stream : List UInt8} {before after : List Packet} {answer : Packet}
    (packets : (Packet.split stream).packets = before ++ answer :: after)
    (others : forall packet, packet ∈ before -> ¬ Answers id packet)
    (answers : Answers id answer) :
    (state.HasRoom before -> (state.read stream).finished.find? (·.ticket == id.toNat)
        = some ⟨id.toNat, (Reply.ofBytes answer.bytes).mapError .malformed⟩)
      ∧ (¬ state.HasRoom before -> (state.read stream).finished.find? (·.ticket == id.toNat) = none
        ∧ (state.read stream).next.holdsBack = true) := by
  induction before generalizing state stream with
  | nil =>
      rw [HasRoom.nil_iff]
      obtain ⟨rest, found, -⟩ := Packet.front_of_split packets
      refine ⟨fun free => ?_, fun held => ?_⟩
      · rw [read_of_packet free found]
        simp only [Effect.andThen, accept_answer numbered awaits answers, List.singleton_append]
        exact List.find?_cons_of_pos (by simp)
      · have holds := Bool.not_eq_false _ ▸ held
        rw [read_of_holdsBack holds]
        exact ⟨rfl, holds⟩
  | cons packet before ih =>
      rcases List.forall_mem_cons.mp others with ⟨first, later⟩
      rcases accept_other numbered awaits first with ⟨waits, spared⟩
      obtain ⟨rest, found, further⟩ := Packet.front_of_split packets
      have passed : ((state.accept packet).finished.find? (·.ticket == id.toNat)) = none := by
        apply List.find?_eq_none.mpr
        intro done member
        simpa using spared done member
      have onward := ih (numbered.accept packet) waits further later
      rw [← HasRoom.cons_iff] at onward
      cases holds : state.holdsBack with
      | true =>
          have full : ¬ state.HasRoom (packet :: before) := fun room =>
            absurd (room.free.symm.trans holds) (by decide)
          refine ⟨fun room => absurd room full, fun _ => ?_⟩
          rw [read_of_holdsBack holds]
          exact ⟨rfl, holds⟩
      | false =>
          rw [read_of_packet holds found]
          simp only [Effect.andThen, List.find?_append, passed, Option.none_or]
          exact onward

/-! ## The bytes in which they arrive -/

/-- Bytes make no command wait and have no say in the writing. -/
theorem feed_frame (state : Multiplexer) (bytes : List UInt8) :
    (state.feed bytes).next.pending.Sublist state.pending
      ∧ (state.feed bytes).next.writable = state.writable
      ∧ (state.feed bytes).next.held = state.held := by
  rw [feed]
  split
  · exact ⟨List.Sublist.refl _, rfl, rfl⟩
  · obtain ⟨-, writable, held, fewer⟩ := read_frame state (state.unread ++ bytes)
    exact ⟨fewer, writable, held⟩

theorem closeFeed_frame (state : Multiplexer) :
    state.closeFeed.next.pending.Sublist state.pending
      ∧ state.closeFeed.next.writable = state.writable
      ∧ state.closeFeed.next.held = state.held := by
  rw [closeFeed]
  split
  · exact ⟨List.Sublist.refl _, rfl, rfl⟩
  · split
    · exact ⟨List.Sublist.refl _, rfl, rfl⟩
    · exact ⟨List.nil_sublist _, rfl, rfl⟩

/-- Where something holds back, the end of the stream finishes nothing. -/
theorem closeFeed_of_holdsBack (holds : state.holdsBack = true) :
    state.closeFeed.finished = [] ∧ state.closeFeed.next.holdsBack = true := by
  rw [closeFeed, if_pos holds]
  split <;> exact ⟨rfl, holds⟩

end Multiplexer

namespace Reaction

/-- Among the packets that the other side writes on receipt of the command, the first reply
with its id. -/
def Replies (reaction : Reaction) (reply : Reply) : Prop :=
  exists before after,
    (Packet.split reaction.bytes).packets = before ++ reply.packet :: after
      ∧ forall packet, packet ∈ before -> ¬ Multiplexer.Answers reply.id packet

/-- A reply by itself, if it is not too long. -/
theorem replies_alone {reply : Reply}
    (small : headerSize + reply.data.length ≤ maxPacketSize) :
    ({ bytes := reply.bytes } : Reaction).Replies reply := by
  refine ⟨[], [], ?_, List.forall_mem_nil _⟩
  exact congrArg Packet.Cut.packets (Packet.split_complete (Reply.packet_complete small))

/-- The packets that come before the first reply with this id. -/
def ahead (reaction : Reaction) (id : UInt32) : List Packet :=
  (Packet.split reaction.bytes).packets.takeWhile fun packet => ¬ Multiplexer.Answers id packet

theorem ahead_eq {reaction : Reaction} {id : UInt32} {before after : List Packet}
    {answer : Packet} (packets : (Packet.split reaction.bytes).packets = before ++ answer :: after)
    (others : forall packet, packet ∈ before -> ¬ Multiplexer.Answers id packet)
    (answers : Multiplexer.Answers id answer) : reaction.ahead id = before := by
  have all : forall packet, packet ∈ before ->
      decide (¬ Multiplexer.Answers id packet) = true :=
    fun packet member => decide_eq_true (others packet member)
  rw [ahead, packets, List.takeWhile_append_of_pos all,
    List.takeWhile_cons_of_neg (by simpa using answers), List.append_nil]

end Reaction

namespace Client

variable {π : Type} {peer : Peer π} {client : Client π}

/-! ## Sound clients -/

/-- Commands wait under tickets of their own, what is sent is written, and nothing is put off
without a reason. -/
structure Sound (client : Client π) : Prop where
  numbered : client.multiplexer.Numbered
  writable : client.multiplexer.writable = true
  prompt : client.multiplexer.Prompt

/-- There is room for what comes before the reply with this id. -/
def Admits (client : Client π) (reaction : Reaction) (id : UInt32) : Prop :=
  client.multiplexer.HasRoom (reaction.ahead id)

instance (client : Client π) (reaction : Reaction) (id : UInt32) :
    Decidable (client.Admits reaction id) :=
  inferInstanceAs (Decidable (_ ≤ _))

theorem takeIn_frame (client : Client π) (reaction : Reaction) :
    (client.takeIn reaction).2.multiplexer.pending.Sublist client.multiplexer.pending
      ∧ (client.takeIn reaction).2.multiplexer.writable = client.multiplexer.writable
      ∧ (client.takeIn reaction).2.multiplexer.held = client.multiplexer.held
      ∧ (client.takeIn reaction).2.peer = client.peer := by
  rcases client.multiplexer.feed_frame reaction.bytes with ⟨fewer, writable, held⟩
  rcases (client.multiplexer.feed reaction.bytes).next.closeFeed_frame with
    ⟨less, alsoWritable, alsoHeld⟩
  cases closes : reaction.closes with
  | true =>
      rw [takeIn, closes, if_pos rfl]
      exact ⟨less.trans fewer, alsoWritable.trans writable, alsoHeld.trans held, rfl⟩
  | false =>
      rw [takeIn, closes, if_neg Bool.false_ne_true]
      exact ⟨fewer, writable, held, rfl⟩

/-- On a connection that stays open, what the other side wrote is all that comes. -/
theorem takeIn_open {reaction : Reaction} (isOpen : reaction.closes = false) :
    (client.takeIn reaction).2.multiplexer = (client.multiplexer.feed reaction.bytes).next := by
  rw [takeIn, isOpen, if_neg Bool.false_ne_true]

/-- What comes of a command is decided by what is fed, unless nothing is decided by it. -/
theorem takeIn_decided {reaction : Reaction} {id : UInt32} {decided : Option Finished}
    (found : (client.multiplexer.feed reaction.bytes).finished.find? (·.ticket == id.toNat)
      = decided)
    (waits : decided = none ->
      (client.multiplexer.feed reaction.bytes).next.holdsBack = true) :
    (client.takeIn reaction).1.find? (·.ticket == id.toNat) = decided
      ∧ (decided = none -> (client.takeIn reaction).2.multiplexer.holdsBack = true) := by
  cases closes : reaction.closes with
  | false =>
      rw [takeIn, closes, if_neg Bool.false_ne_true]
      exact ⟨(congrArg _ (List.append_nil _)).trans found, waits⟩
  | true =>
      rw [takeIn, closes, if_pos rfl]
      dsimp only
      rw [List.find?_append, found]
      cases decided with
      | some done => exact ⟨rfl, fun impossible => by cases impossible⟩
      | none =>
          obtain ⟨nothing, holds⟩ := Multiplexer.closeFeed_of_holdsBack (waits rfl)
          rw [nothing]
          exact ⟨rfl, fun _ => holds⟩

theorem Sound.takeIn (sound : client.Sound) (reaction : Reaction) :
    (client.takeIn reaction).2.Sound := by
  rcases client.takeIn_frame reaction with ⟨fewer, writable, held, -⟩
  refine ⟨sound.numbered.of_fewer fewer held, writable.trans sound.writable, ?_⟩
  have fed := sound.prompt.feed reaction.bytes
  cases closes : reaction.closes with
  | true =>
      rw [Client.takeIn, closes, if_pos rfl]
      exact fed.closeFeed
  | false =>
      rw [takeIn_open closes]
      exact fed

theorem Sound.fresh (peer : π) : ({ peer } : Client π).Sound :=
  ⟨⟨List.forall_mem_nil _, List.forall_mem_nil _⟩, rfl, fun _ => rfl⟩

theorem Sound.opened (peer : π) (reaction : Reaction) : (opened peer reaction).Sound :=
  (Sound.fresh peer).takeIn reaction

theorem Sound.receive (sound : client.Sound) : client.receive.2.Sound :=
  ⟨sound.numbered.receive, client.multiplexer.receive_writable.trans sound.writable,
    sound.prompt.receive⟩

theorem receive_peer (client : Client π) : client.receive.2.peer = client.peer :=
  rfl

theorem receive_of_events {set : EventSet} (came : client.multiplexer.receive.1 = .events set) :
    client.receive.1 = .ok (some set) := by
  rw [receive]
  generalize client.multiplexer.receive = answer at came
  rcases answer with ⟨received, effect⟩
  cases came
  rfl

/-! ## Sending -/

/-- The client that waits for the reply to a command, once the other side has got it. -/
def waiting (client : Client π) (peerState : π) : Client π where
  multiplexer := { client.multiplexer with
    unread := []
    pending := (client.multiplexer.pending.filter fun other => other.id != client.nextId)
      ++ [⟨client.nextId, client.nextId.toNat⟩] }
  nextId := client.nextId + 1
  peer := peerState

/-- The client that waits behind what holds back, without having written the command. -/
def stuck (client : Client π) (command : Command) : Client π where
  multiplexer := { client.multiplexer with
    held := client.multiplexer.held ++ [⟨client.nextId.toNat, ⟨client.nextId, command⟩⟩] }
  nextId := client.nextId + 1
  peer := client.peer

theorem Sound.waiting (sound : client.Sound) (peerState : π) :
    (client.waiting peerState).Sound := by
  refine ⟨⟨List.forall_mem_append.mpr ⟨?_, List.forall_mem_singleton.mpr rfl⟩,
    sound.numbered.held⟩, sound.writable, sound.prompt⟩
  exact fun other member => sound.numbered.pending other (List.mem_filter.mp member).1

theorem Sound.stuck (sound : client.Sound) (command : Command) : (client.stuck command).Sound :=
  ⟨⟨sound.numbered.pending, List.forall_mem_append.mpr
    ⟨sound.numbered.held, List.forall_mem_singleton.mpr rfl⟩⟩, sound.writable, sound.prompt⟩

theorem waiting_awaits (client : Client π) (peerState : π) :
    (client.waiting peerState).multiplexer.Awaits client.nextId :=
  ⟨_, List.mem_append_right _ (List.mem_singleton_self _), rfl⟩

theorem send_of_stopped (peer : Peer π) (stopped : client.multiplexer.reading = false)
    (command : Command) : send peer command client
      = ⟨.failed .closed, none, { client with nextId := client.nextId + 1 }⟩ := by
  simp [send, drawId, Multiplexer.send, stopped, send.outcomeOf, Outcome.ofExcept]

theorem send_of_holdsBack (peer : Peer π) (reading : client.multiplexer.reading = true)
    (holds : client.multiplexer.holdsBack = true) (command : Command) :
    send peer command client = ⟨.unfinished, none, client.stuck command⟩ := by
  simp [send, drawId, Multiplexer.send, reading, holds, send.outcomeOf, stuck]

/-- A command that is written reaches the other side, and then what that side writes is taken
in. -/
theorem send_of_free (sound : client.Sound) (reading : client.multiplexer.reading = true)
    (free : client.multiplexer.holdsBack = false) (command : Command) :
    send peer command client
      = ⟨send.outcomeOf client.nextId
            ((client.waiting (peer.react ⟨client.nextId, command⟩ client.peer).2).takeIn
              (peer.react ⟨client.nextId, command⟩ client.peer).1).1,
          some client.nextId,
          ((client.waiting (peer.react ⟨client.nextId, command⟩ client.peer).2).takeIn
            (peer.react ⟨client.nextId, command⟩ client.peer).1).2⟩ := by
  simp [send, drawId, Multiplexer.send, Multiplexer.write, reading, free, sound.writable, waiting]

theorem Sound.send (sound : client.Sound) (command : Command) :
    (send peer command client).link.Sound := by
  cases reading : client.multiplexer.reading with
  | false =>
      rw [send_of_stopped peer reading]
      exact ⟨sound.numbered, sound.writable, sound.prompt⟩
  | true =>
      cases holds : client.multiplexer.holdsBack with
      | true =>
          rw [send_of_holdsBack peer reading holds]
          exact sound.stuck command
      | false =>
          rw [send_of_free sound reading holds]
          exact (sound.waiting _).takeIn _

/-- If there is room for what comes before it, the first reply with the id of the command is what
comes of the command.  If there is none, the client goes on waiting, and something holds back. -/
theorem send_outcome (sound : client.Sound) (reading : client.multiplexer.reading = true)
    {command : Command} {reply : Reply} (mine : reply.id = client.nextId)
    (replies : (peer.react ⟨client.nextId, command⟩ client.peer).1.Replies reply) :
    (client.Admits (peer.react ⟨client.nextId, command⟩ client.peer).1 client.nextId ->
        (send peer command client).outcome = .ok reply)
      ∧ (¬ client.Admits (peer.react ⟨client.nextId, command⟩ client.peer).1 client.nextId ->
        (send peer command client).outcome = .unfinished
          ∧ (send peer command client).link.multiplexer.holdsBack = true) := by
  rcases replies with ⟨before, after, packets, others⟩
  rw [mine] at others
  have answers : Multiplexer.Answers client.nextId reply.packet :=
    ⟨reply.packet_isReply, reply.packet_id.trans mine⟩
  rw [Admits, Reaction.ahead_eq packets others answers]
  cases holds : client.multiplexer.holdsBack with
  | true =>
      rw [send_of_holdsBack peer reading holds]
      exact ⟨fun room => absurd (room.free.symm.trans holds) (by decide), fun _ => ⟨rfl, holds⟩⟩
  | false =>
      rw [send_of_free sound reading holds]
      -- What was left unread before is dropped by the sending, so the packets are those of the
      -- reaction alone.
      generalize peer.react ⟨client.nextId, command⟩ client.peer = reacted at packets
      have found := Multiplexer.read_answered (sound.waiting reacted.2).numbered
        (waiting_awaits client reacted.2) packets others answers
      rw [show reply.packet.bytes = reply.bytes from rfl, Reply.ofBytes_bytes] at found
      have fed : (client.waiting reacted.2).multiplexer.feed reacted.1.bytes
          = (client.waiting reacted.2).multiplexer.read reacted.1.bytes := by
        have reads : (client.waiting reacted.2).multiplexer.reading = true := reading
        have goesOn : (client.waiting reacted.2).multiplexer.closing = false :=
          sound.prompt holds
        rw [Multiplexer.feed, reads, goesOn, if_neg (by decide)]
        rfl
      rw [← fed] at found
      constructor
      · intro room
        have decided := (takeIn_decided (found.1 room) fun none => by cases none).1
        change send.outcomeOf client.nextId _ = _
        rw [send.outcomeOf, decided]
        rfl
      · intro full
        obtain ⟨nothing, held⟩ := found.2 full
        obtain ⟨decided, stillHeld⟩ := takeIn_decided nothing fun _ => held
        refine ⟨?_, stillHeld rfl⟩
        change send.outcomeOf client.nextId _ = _
        rw [send.outcomeOf, decided]

/-- Either a command never reaches the other side, or it does, and then the first reply with its
id is what comes of it unless something holds back. -/
theorem send_cases (peer : Peer π) (sound : client.Sound) (command : Command) :
    ((send peer command client).link.peer = client.peer
        ∧ forall reply, (send peer command client).outcome ≠ .ok reply)
      ∨ ((send peer command client).link.peer
          = (peer.react ⟨client.nextId, command⟩ client.peer).2
        ∧ forall reply : Reply, reply.id = client.nextId ->
          (peer.react ⟨client.nextId, command⟩ client.peer).1.Replies reply ->
          (send peer command client).outcome = .ok reply
            ∨ ((send peer command client).outcome = .unfinished
              ∧ (send peer command client).link.multiplexer.holdsBack = true)) := by
  cases reading : client.multiplexer.reading with
  | false =>
      rw [send_of_stopped peer reading]
      exact .inl ⟨rfl, by rintro reply ⟨⟩⟩
  | true =>
      cases holds : client.multiplexer.holdsBack with
      | true =>
          rw [send_of_holdsBack peer reading holds]
          exact .inl ⟨rfl, by rintro reply ⟨⟩⟩
      | false =>
          refine .inr ⟨?_, fun reply mine replies => ?_⟩
          · rw [send_of_free sound reading holds]
            exact (takeIn_frame _ _).2.2.2
          · obtain ⟨answered, waits⟩ := send_outcome sound reading mine replies
            exact (Decidable.em _).imp answered waits

/-! ## Streams that stay open -/

/-- A sound client of a stream that is open and of which nothing but whole packets is left. -/
structure Ready (client : Client π) : Prop where
  sound : client.Sound
  whole : client.multiplexer.Whole

namespace Ready

theorem fresh (start : π) : ({ peer := start } : Client π).Ready :=
  ⟨Sound.fresh start, rfl, rfl, congrArg Packet.Cut.remainder Packet.split_nil, fun _ => rfl⟩

theorem takeIn (ready : client.Ready) {reaction : Reaction} (isOpen : reaction.closes = false)
    (packets : (Packet.split reaction.bytes).remainder = some []) :
    (client.takeIn reaction).2.Ready := by
  refine ⟨ready.sound.takeIn reaction, ?_⟩
  rw [takeIn_open isOpen]
  exact ready.whole.feed packets

theorem receive (ready : client.Ready) : client.receive.2.Ready :=
  ⟨ready.sound.receive, ready.whole.receive⟩

theorem waiting (ready : client.Ready) (peerState : π) : (client.waiting peerState).Ready :=
  ⟨ready.sound.waiting peerState, ready.whole.reading, ready.whole.goesOn,
    congrArg Packet.Cut.remainder Packet.split_nil, fun _ => rfl⟩

theorem stuck (ready : client.Ready) (command : Command) : (client.stuck command).Ready :=
  ⟨ready.sound.stuck command, ready.whole.reading, ready.whole.goesOn, ready.whole.packets,
    ready.whole.between⟩

end Ready
end Client
end Connection
end LineDebugger
