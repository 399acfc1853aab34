import LineDebugger.Proofs.Wire.Packet

namespace LineDebugger
namespace Wire

/-!
# Framing

Both sides of a connection write packets one after the other, with nothing between them.
What is written that way is read back as the same packets, provided that none of them is
longer than allowed.  A reader that is handed any other stream still keeps to the rules:
the packets that it cuts off are the front part of the stream, each of them announces its
own size, and it stops at the first boundary at which there is no packet.

`Stuck` says what it is for a stream to have no packet at its front.  It is stated in terms
of the bytes alone, and it is exactly the case in which `front` finds none.
-/

/-! ## Commands on the wire -/

namespace CommandPacket

/-- The packet that carries a command. -/
def packet (command : CommandPacket) : Packet := ⟨command.bytes⟩

theorem length_bytes (command : CommandPacket) :
    command.bytes.length = headerSize + command.command.data.length := by
  simp only [bytes, List.length_append, Word.length_toBytes, wordBytes32, List.length_cons,
    List.length_nil]
  rfl

theorem packet_complete {command : CommandPacket}
    (small : headerSize + command.command.data.length ≤ maxPacketSize) :
    command.packet.Complete := by
  have size : maxPacketSize < 256 ^ 4 := by decide
  refine ⟨?_, ?_, ?_⟩
  · rw [packet, length_bytes]
    exact Nat.le_add_right _ _
  · rwa [packet, length_bytes]
  · rw [packet, length_bytes, Packet.announcedSize, bytes]
    simp only [List.append_assoc]
    rw [List.take_left' (Word.length_toBytes 4 _), Word.ofBytes_toBytes]
    exact Nat.mod_eq_of_lt (by omega)

theorem packet_id (command : CommandPacket) : command.packet.id = command.id := by
  have size := Word.length_toBytes 4 (headerSize + command.command.data.length)
  have width := Word.length_toBytes 4 command.id.toNat
  have read := Word.ofBytes_toBytes 4 command.id.toNat
  have small := command.id.toNat_lt
  apply UInt32.toNat_inj.mp
  simp only [Packet.id, packet, bytes, wordBytes32, List.append_assoc]
  rw [List.drop_left' size, List.take_left' width, UInt32.toNat_ofNat']
  omega

/-- The flag byte of a command is zero. -/
theorem packet_isReply (command : CommandPacket) : command.packet.isReply = false := by
  have size := Word.length_toBytes 4 (headerSize + command.command.data.length)
  have width := Word.length_toBytes 4 command.id.toNat
  have flag : command.packet.bytes[8]? = some 0 := by
    simp only [packet, bytes, wordBytes32, List.append_assoc]
    rw [List.getElem?_append_right (by omega), List.getElem?_append_right (by omega), size, width]
    rfl
  rw [Packet.isReply, flag]
  rfl

end CommandPacket

/-! ## What is written -/

/-- A packet as one of the two sides means it. -/
inductive Written where
  | command (asked : CommandPacket)
  | reply (answered : Reply)
  deriving DecidableEq, Repr

namespace Written

def id : Written -> UInt32
  | .command asked => asked.id
  | .reply answered => answered.id

def isReply : Written -> Bool
  | .command _ => false
  | .reply _ => true

def bytes : Written -> List UInt8
  | .command asked => asked.bytes
  | .reply answered => answered.bytes

/-- What is written, as it comes off the stream. -/
def packet (written : Written) : Packet := ⟨written.bytes⟩

theorem packet_complete {written : Written} (small : written.bytes.length ≤ maxPacketSize) :
    written.packet.Complete := by
  cases written with
  | command asked =>
      rw [bytes, CommandPacket.length_bytes] at small
      exact CommandPacket.packet_complete small
  | reply answered =>
      rw [bytes, Reply.length_bytes] at small
      exact Reply.packet_complete small

theorem packet_id (written : Written) : written.packet.id = written.id := by
  cases written with
  | command asked => exact asked.packet_id
  | reply answered => exact answered.packet_id

theorem packet_isReply (written : Written) : written.packet.isReply = written.isReply := by
  cases written with
  | command asked => exact asked.packet_isReply
  | reply answered => exact answered.packet_isReply

end Written

namespace Packet

/-! ## Where there is no packet -/

/-- Too few bytes for a header, a size out of bounds, or too few bytes for the size. -/
def Stuck (stream : List UInt8) : Prop :=
  stream.length < headerSize
    ∨ announcedSize stream < headerSize ∨ maxPacketSize < announcedSize stream
    ∨ stream.length < announcedSize stream

theorem not_stuck_of_packet {stream rest : List UInt8} {packet : Packet}
    (found : front stream = .packet packet rest) : ¬ Stuck stream := by
  rcases front_eq_packet_iff.mp found with ⟨complete, rfl⟩
  have header := complete.header
  have bounded := complete.bounded
  have announced := announcedSize_append header rest
  rw [complete.announced] at announced
  unfold Stuck
  rw [announced, List.length_append]
  omega

theorem stuck_of_incomplete {stream : List UInt8} (found : front stream = .incomplete) :
    Stuck stream := by
  simp only [front] at found
  by_cases short : stream.length < headerSize
  · exact Or.inl short
  · by_cases bounds : announcedSize stream < headerSize ∨ maxPacketSize < announcedSize stream
    · simp [short, bounds] at found
    · by_cases cutOff : stream.length < announcedSize stream
      · exact Or.inr (Or.inr (Or.inr cutOff))
      · simp [short, bounds, cutOff] at found

theorem stuck_of_illegal {stream : List UInt8} (found : front stream = .illegal) :
    Stuck stream := by
  rcases front_eq_illegal_iff.mp found with ⟨-, small | large⟩
  · exact Or.inr (Or.inl small)
  · exact Or.inr (Or.inr (Or.inl large))

/-! ## Reading what was written -/

theorem split_flatMap_append {packets : List Packet}
    (complete : forall packet, packet ∈ packets -> packet.Complete) (rest : List UInt8) :
    split (packets.flatMap Packet.bytes ++ rest)
      = ⟨packets ++ (split rest).packets, (split rest).remainder⟩ := by
  induction packets with
  | nil => rfl
  | cons packet packets ih =>
      have first := complete packet (List.mem_cons_self ..)
      have others := ih fun other member => complete other (List.mem_cons_of_mem _ member)
      rw [List.flatMap_cons, List.append_assoc, split_complete_append first, others]
      rfl

/-- Packets that are all complete are cut apart again, and nothing is left over. -/
theorem split_flatMap {packets : List Packet}
    (complete : forall packet, packet ∈ packets -> packet.Complete) :
    split (packets.flatMap Packet.bytes) = ⟨packets, some []⟩ := by
  have cut := split_flatMap_append complete []
  rwa [List.append_nil, split_nil, List.append_nil] at cut

/-- The packets are a front part of the stream, and where they end the stream is stuck. -/
theorem exists_stuck_rest (stream : List UInt8) :
    exists rest, stream = (split stream).packets.flatMap Packet.bytes ++ rest ∧ Stuck rest := by
  cases found : front stream with
  | incomplete =>
      rw [split_of_incomplete found]
      exact ⟨stream, rfl, stuck_of_incomplete found⟩
  | illegal =>
      rw [split_of_illegal found]
      exact ⟨stream, rfl, stuck_of_illegal found⟩
  | packet packet further =>
      -- The recursion follows `split`, which goes on with what the first packet leaves.
      rcases exists_stuck_rest further with ⟨rest, whole, stuck⟩
      rw [split_of_packet found]
      refine ⟨rest, ?_, stuck⟩
      rw [List.flatMap_cons, List.append_assoc, ← whole]
      exact (front_eq_packet_iff.mp found).2
termination_by stream.length
decreasing_by exact length_lt_of_front found

/-- A stream that begins with a complete packet is not stuck. -/
theorem not_stuck_of_complete {packet : Packet} (complete : packet.Complete)
    (rest : List UInt8) : ¬ Stuck (packet.bytes ++ rest) :=
  not_stuck_of_packet (front_eq_packet_iff.mpr ⟨complete, rfl⟩)

end Packet

open Packet in
/-- Whatever commands and replies are written, each no longer than ten mebibytes, exactly
these packets are read, with their ids and kinds, and nothing is left over when the stream
ends.  Of any stream, the packets that are read are a front part; each has between 11 and
10485760 bytes and announces as many; and a boundary between them is the last one exactly if
the stream is stuck there. -/
theorem what_is_written_is_read (sent : List Written)
    (small : forall written, written ∈ sent -> written.bytes.length ≤ maxPacketSize) :
    split (sent.flatMap Written.bytes) = ⟨sent.map Written.packet, some []⟩
      ∧ (forall written, written ∈ sent -> written.packet.bytes = written.bytes
        ∧ written.packet.id = written.id ∧ written.packet.isReply = written.isReply
        ∧ forall reply, written = .reply reply ->
          Reply.ofBytes written.packet.bytes = .ok reply)
      ∧ forall stream, exists rest,
        stream = (split stream).packets.flatMap Packet.bytes ++ rest
          ∧ (forall packet, packet ∈ (split stream).packets ->
            announcedSize packet.bytes = packet.bytes.length
              ∧ 11 ≤ packet.bytes.length ∧ packet.bytes.length ≤ 10485760)
          ∧ forall earlier later, (split stream).packets = earlier ++ later ->
            (later = [] ↔ Stuck (later.flatMap Packet.bytes ++ rest)) := by
  refine ⟨?readBack, ?meant, ?anyStream⟩
  case readBack =>
    have complete : forall packet, packet ∈ sent.map Written.packet -> packet.Complete := by
      intro packet member
      rcases List.mem_map.mp member with ⟨written, present, rfl⟩
      exact Written.packet_complete (small written present)
    have cut := split_flatMap complete
    rwa [List.flatMap_map] at cut
  case meant =>
    intro written _
    refine ⟨rfl, written.packet_id, written.packet_isReply, ?_⟩
    rintro reply rfl
    exact reply.ofBytes_bytes
  case anyStream =>
    intro stream
    rcases exists_stuck_rest stream with ⟨rest, whole, stuck⟩
    have complete : forall packet, packet ∈ (split stream).packets -> packet.Complete :=
      fun _ member => complete_of_mem_split member
    refine ⟨rest, whole, ?_, ?_⟩
    · intro packet member
      have read := complete packet member
      exact ⟨read.announced, read.header, read.bounded⟩
    · intro earlier later cut
      constructor
      · rintro rfl
        exact stuck
      · intro ends
        cases later with
        | nil => rfl
        | cons packet later =>
            have present : packet ∈ (split stream).packets := by
              rw [cut]
              exact List.mem_append_right _ (List.mem_cons_self ..)
            rw [List.flatMap_cons, List.append_assoc] at ends
            exact absurd ends (not_stuck_of_complete (complete packet present) _)

/-- A command with data, a reply without and a reply with an error code. -/
def conversation : List Written :=
  [.command ⟨7, ⟨1, 9, [1, 2, 3]⟩⟩, .reply ⟨7, 0, []⟩, .reply ⟨128, 112, [0x80]⟩]

/-- A header that announces ten bytes, one less than a header has. -/
def shortHeader : List UInt8 := [0, 0, 0, 10, 0, 0, 0, 0, 0, 0, 0]

open Packet in
theorem conversation_is_read :
    (forall written, written ∈ conversation -> written.bytes.length ≤ maxPacketSize)
      ∧ split (conversation.flatMap Written.bytes)
        = ⟨conversation.map Written.packet, some []⟩
      ∧ split (conversation.flatMap Written.bytes ++ shortHeader)
        = ⟨conversation.map Written.packet, none⟩ := by
  have small : forall written, written ∈ conversation ->
      written.bytes.length ≤ maxPacketSize := by decide
  have read := (what_is_written_is_read conversation small).1
  have stops : split shortHeader = ⟨[], none⟩ := split_of_illegal (by decide)
  have cut := split_append_of_some (congrArg Cut.remainder read) shortHeader
  rw [List.nil_append, stops, read, List.append_nil] at cut
  exact ⟨small, read, cut⟩

end Wire
end LineDebugger
