import LineDebugger.Wire.Packet
import Mathlib.Data.List.Induction

namespace LineDebugger
namespace Wire

/-!
# Cutting a stream, whatever has come of it so far

A packet is complete if it has a header, is no longer than allowed, and announces its own
size.  The front of a stream is a packet exactly when the stream begins with the bytes of a
complete packet, and what comes after those bytes has no say in that.  The same holds of a
length out of bounds.  Only a front that is incomplete can change its nature as the stream
goes on.

From this follows the law by which a stream can be cut piece by piece: `split_append` cuts
the bytes that have come, keeps what is left over, and goes on from there.

The last section is about replies.  A complete packet with the flag byte of replies is the
written form of one reply, and reading gives that reply back.
-/

-- Powers are those of the core library, whatever else is in scope.
attribute [local instance (high)] instPowNat

/-! ## Words -/

namespace Word

/-- A word is written with the bytes from which it was read. -/
theorem toBytes_ofBytes (bytes : List UInt8) :
    toBytes bytes.length (ofBytes bytes) = bytes := by
  induction bytes using List.reverseRecOn with
  | nil => rfl
  | append_singleton bytes byte ih =>
      have small : byte.toNat < 256 := byte.toNat_lt
      have quotient : (ofBytes bytes * 256 + byte.toNat) / 256 = ofBytes bytes := by omega
      have lowest : UInt8.ofNat (ofBytes bytes * 256 + byte.toNat) = byte := by
        apply UInt8.toNat_inj.mp
        rw [UInt8.toNat_ofNat']
        omega
      rw [ofBytes_append_singleton, List.length_append, List.length_singleton, toBytes,
        quotient, lowest, ih]

theorem ofBytes_lt (bytes : List UInt8) : ofBytes bytes < 256 ^ bytes.length := by
  induction bytes using List.reverseRecOn with
  | nil => exact Nat.one_pos
  | append_singleton bytes byte ih =>
      have small : byte.toNat < 256 := byte.toNat_lt
      rw [ofBytes_append_singleton, List.length_append, List.length_singleton, Nat.pow_succ]
      omega

end Word

theorem wordBytes32_ofBytes {bytes : List UInt8} (width : bytes.length = 4) :
    wordBytes32 (UInt32.ofNat (Word.ofBytes bytes)) = bytes := by
  have small : Word.ofBytes bytes < 256 ^ 4 := width ▸ Word.ofBytes_lt bytes
  have written := Word.toBytes_ofBytes bytes
  rw [width] at written
  rw [wordBytes32, UInt32.toNat_ofNat', Nat.mod_eq_of_lt (by omega), written]

theorem wordBytes16_ofBytes {bytes : List UInt8} (width : bytes.length = 2) :
    wordBytes16 (UInt16.ofNat (Word.ofBytes bytes)) = bytes := by
  have small : Word.ofBytes bytes < 256 ^ 2 := width ▸ Word.ofBytes_lt bytes
  have written := Word.toBytes_ofBytes bytes
  rw [width] at written
  rw [wordBytes16, UInt16.toNat_ofNat', Nat.mod_eq_of_lt (by omega), written]

namespace Packet

/-! ## Complete packets at the front of a stream -/

/-- A packet that is all there and announces as much. -/
structure Complete (packet : Packet) : Prop where
  header : headerSize ≤ packet.bytes.length
  bounded : packet.bytes.length ≤ maxPacketSize
  announced : announcedSize packet.bytes = packet.bytes.length

/-- The announced size stands in the header and nowhere else. -/
theorem announcedSize_append {bytes : List UInt8} (header : headerSize ≤ bytes.length)
    (rest : List UInt8) : announcedSize (bytes ++ rest) = announcedSize bytes := by
  rw [announcedSize, announcedSize, List.take_append_of_le_length]
  exact Nat.le_trans (by decide) header

theorem front_eq_packet_iff {stream rest : List UInt8} {packet : Packet} :
    front stream = .packet packet rest ↔ packet.Complete ∧ stream = packet.bytes ++ rest := by
  constructor
  · intro found
    simp only [front] at found
    by_cases short : stream.length < headerSize
    · simp [short] at found
    · by_cases bounds : announcedSize stream < headerSize ∨ maxPacketSize < announcedSize stream
      · simp [short, bounds] at found
      · by_cases cutOff : stream.length < announcedSize stream
        · simp [short, bounds, cutOff] at found
        · simp only [short, bounds, cutOff, if_false, Front.packet.injEq] at found
          obtain ⟨rfl, rfl⟩ := found
          have size : (stream.take (announcedSize stream)).length = announcedSize stream := by
            rw [List.length_take]
            omega
          have header : headerSize ≤ (stream.take (announcedSize stream)).length := by omega
          have announced := announcedSize_append header (stream.drop (announcedSize stream))
          rw [List.take_append_drop] at announced
          refine ⟨⟨header, ?_, ?_⟩, (List.take_append_drop _ _).symm⟩
          · change (stream.take (announcedSize stream)).length ≤ maxPacketSize
            omega
          · change announcedSize (stream.take (announcedSize stream))
              = (stream.take (announcedSize stream)).length
            rw [size, ← announced]
  · rintro ⟨complete, rfl⟩
    have header := complete.header
    have bounded := complete.bounded
    have size : announcedSize (packet.bytes ++ rest) = packet.bytes.length := by
      rw [announcedSize_append header, complete.announced]
    have enough : ¬ (packet.bytes ++ rest).length < headerSize := by
      rw [List.length_append]
      omega
    have whole : ¬ (packet.bytes ++ rest).length < packet.bytes.length := by
      rw [List.length_append]
      omega
    have inBounds : ¬ (packet.bytes.length < headerSize
        ∨ maxPacketSize < packet.bytes.length) := by
      omega
    simp only [front, size, enough, whole, inBounds, if_false, List.take_left', List.drop_left']

theorem front_eq_illegal_iff {stream : List UInt8} :
    front stream = .illegal ↔ headerSize ≤ stream.length
      ∧ (announcedSize stream < headerSize ∨ maxPacketSize < announcedSize stream) := by
  simp only [front]
  by_cases short : stream.length < headerSize
  · simp only [short, if_true, reduceCtorEq, false_iff]
    omega
  · by_cases bounds : announcedSize stream < headerSize ∨ maxPacketSize < announcedSize stream
    · simp only [short, bounds, if_false, if_true, true_iff, and_true]
      omega
    · by_cases cutOff : stream.length < announcedSize stream <;>
        simp [short, bounds, cutOff]

theorem front_append_of_packet {stream rest : List UInt8} {packet : Packet}
    (found : front stream = .packet packet rest) (later : List UInt8) :
    front (stream ++ later) = .packet packet (rest ++ later) := by
  obtain ⟨complete, rfl⟩ := front_eq_packet_iff.mp found
  exact front_eq_packet_iff.mpr ⟨complete, List.append_assoc _ _ _⟩

theorem front_append_of_illegal {stream : List UInt8} (found : front stream = .illegal)
    (later : List UInt8) : front (stream ++ later) = .illegal := by
  obtain ⟨header, bounds⟩ := front_eq_illegal_iff.mp found
  refine front_eq_illegal_iff.mpr ⟨?_, ?_⟩
  · rw [List.length_append]
    omega
  · rwa [announcedSize_append header]

/-! ## The cut of a whole stream -/

theorem split_of_incomplete {stream : List UInt8} (found : front stream = .incomplete) :
    split stream = ⟨[], some stream⟩ := by
  rw [split]
  split <;> simp_all

theorem split_of_illegal {stream : List UInt8} (found : front stream = .illegal) :
    split stream = ⟨[], none⟩ := by
  rw [split]
  split <;> simp_all

theorem split_of_packet {stream rest : List UInt8} {packet : Packet}
    (found : front stream = .packet packet rest) :
    split stream = ⟨packet :: (split rest).packets, (split rest).remainder⟩ := by
  rw [split]
  split <;> simp_all

/-- What is cut off first stands at the front. -/
theorem front_of_split {stream : List UInt8} {packet : Packet} {others : List Packet}
    (packets : (split stream).packets = packet :: others) :
    exists rest, front stream = .packet packet rest ∧ (split rest).packets = others := by
  cases found : front stream with
  | incomplete =>
      rw [split_of_incomplete found] at packets
      cases packets
  | illegal =>
      rw [split_of_illegal found] at packets
      cases packets
  | packet first rest =>
      rw [split_of_packet found] at packets
      cases packets
      exact ⟨rest, rfl, rfl⟩

theorem split_nil : split [] = ⟨[], some []⟩ := split_of_incomplete rfl

theorem split_complete_append {packet : Packet} (complete : packet.Complete)
    (rest : List UInt8) :
    split (packet.bytes ++ rest) = ⟨packet :: (split rest).packets, (split rest).remainder⟩ :=
  split_of_packet (front_eq_packet_iff.mpr ⟨complete, rfl⟩)

theorem split_complete {packet : Packet} (complete : packet.Complete) :
    split packet.bytes = ⟨[packet], some []⟩ := by
  have cut := split_complete_append complete []
  rwa [List.append_nil, split_nil] at cut

/-- Nothing that comes later changes the packets that have been cut off.  Where bytes were
left over, the cut goes on from them, and where a length was out of bounds it goes on no
more. -/
theorem split_append (stream later : List UInt8) :
    split (stream ++ later)
      = match (split stream).remainder with
        | some rest => ⟨(split stream).packets ++ (split (rest ++ later)).packets,
            (split (rest ++ later)).remainder⟩
        | none => split stream := by
  cases found : front stream with
  | incomplete => simp only [split_of_incomplete found, List.nil_append]
  | illegal =>
      rw [split_of_illegal found, split_of_illegal (front_append_of_illegal found later)]
  | packet packet rest =>
      rw [split_of_packet found, split_of_packet (front_append_of_packet found later)]
      simp only
      rw [split_append rest later]
      cases leftOver : (split rest).remainder with
      | some further => rfl
      | none => simp only [leftOver]
termination_by stream.length
decreasing_by exact length_lt_of_front found

theorem split_append_of_some {stream rest : List UInt8}
    (leftOver : (split stream).remainder = some rest) (later : List UInt8) :
    split (stream ++ later) = ⟨(split stream).packets ++ (split (rest ++ later)).packets,
      (split (rest ++ later)).remainder⟩ := by
  rw [split_append, leftOver]

theorem split_append_of_none {stream : List UInt8}
    (stuck : (split stream).remainder = none) (later : List UInt8) :
    split (stream ++ later) = split stream := by
  rw [split_append, stuck]

theorem complete_of_mem_split {stream : List UInt8} {packet : Packet}
    (member : packet ∈ (split stream).packets) : packet.Complete := by
  cases found : front stream with
  | incomplete =>
      rw [split_of_incomplete found] at member
      cases member
  | illegal =>
      rw [split_of_illegal found] at member
      cases member
  | packet first rest =>
      rw [split_of_packet found] at member
      rcases List.mem_cons.mp member with rfl | later
      · exact (front_eq_packet_iff.mp found).1
      · exact complete_of_mem_split later
termination_by stream.length
decreasing_by exact length_lt_of_front found

end Packet

/-! ## Replies -/

namespace Reply

/-- The packet that carries a reply. -/
def packet (reply : Reply) : Packet := ⟨reply.bytes⟩

/-- The bytes of a reply, with its header spelled out. -/
theorem bytes_eq (reply : Reply) :
    exists s₁ s₂ s₃ s₄ i₁ i₂ i₃ i₄ e₁ e₂,
      reply.bytes = s₁ :: s₂ :: s₃ :: s₄ :: i₁ :: i₂ :: i₃ :: i₄ :: replyFlag :: e₁ :: e₂
        :: reply.data
      ∧ UInt32.ofNat (Word.ofBytes [i₁, i₂, i₃, i₄]) = reply.id
      ∧ UInt16.ofNat (Word.ofBytes [e₁, e₂]) = reply.errorCode := by
  refine ⟨_, _, _, _, _, _, _, _, _, _, rfl, ?_, ?_⟩
  · apply UInt32.toNat_inj.mp
    have read := Word.ofBytes_toBytes 4 reply.id.toNat
    have small := reply.id.toNat_lt
    rw [UInt32.toNat_ofNat']
    change Word.ofBytes (Word.toBytes 4 reply.id.toNat) % 2 ^ 32 = reply.id.toNat
    omega
  · apply UInt16.toNat_inj.mp
    have read := Word.ofBytes_toBytes 2 reply.errorCode.toNat
    have small := reply.errorCode.toNat_lt
    rw [UInt16.toNat_ofNat']
    change Word.ofBytes (Word.toBytes 2 reply.errorCode.toNat) % 2 ^ 16 = reply.errorCode.toNat
    omega

theorem ofBytes_bytes (reply : Reply) : ofBytes reply.bytes = .ok reply := by
  obtain ⟨s₁, s₂, s₃, s₄, i₁, i₂, i₃, i₄, e₁, e₂, written, id, errorCode⟩ := reply.bytes_eq
  rw [written]
  simp only [ofBytes, id, errorCode, bne_self_eq_false, Bool.false_eq_true, if_false]

theorem packet_isReply (reply : Reply) : reply.packet.isReply = true := by
  obtain ⟨s₁, s₂, s₃, s₄, i₁, i₂, i₃, i₄, e₁, e₂, written, -, -⟩ := reply.bytes_eq
  simp only [packet, Packet.isReply, written]
  rfl

theorem packet_id (reply : Reply) : reply.packet.id = reply.id := by
  obtain ⟨s₁, s₂, s₃, s₄, i₁, i₂, i₃, i₄, e₁, e₂, written, id, -⟩ := reply.bytes_eq
  simp only [packet, Packet.id, written]
  exact id

theorem length_bytes (reply : Reply) : reply.bytes.length = headerSize + reply.data.length := by
  simp only [bytes, List.length_append, Word.length_toBytes, wordBytes32, wordBytes16,
    List.length_singleton]
  rfl

/-- A reply that is not too long is sent in a complete packet. -/
theorem packet_complete {reply : Reply}
    (small : headerSize + reply.data.length ≤ maxPacketSize) : reply.packet.Complete := by
  have size : maxPacketSize < 256 ^ 4 := by decide
  refine ⟨?_, ?_, ?_⟩
  · rw [packet, length_bytes]
    exact Nat.le_add_right _ _
  · rwa [packet, length_bytes]
  · rw [packet, length_bytes, Packet.announcedSize, bytes]
    simp only [List.append_assoc]
    rw [List.take_left' (Word.length_toBytes 4 _), Word.ofBytes_toBytes]
    exact Nat.mod_eq_of_lt (by omega)

end Reply

namespace Packet

/-- The error code in the header, if the packet is a reply. -/
def errorCode (packet : Packet) : UInt16 :=
  UInt16.ofNat (Word.ofBytes ((packet.bytes.drop 9).take 2))

/-- The reply in a packet: the id and the error code from its header, and what follows. -/
def reply (packet : Packet) : Reply := ⟨packet.id, packet.errorCode, packet.body⟩

end Packet

theorem Reply.reply_packet (reply : Reply) : reply.packet.reply = reply := by
  obtain ⟨s₁, s₂, s₃, s₄, i₁, i₂, i₃, i₄, e₁, e₂, written, -, errorCode⟩ := reply.bytes_eq
  rw [Packet.reply, reply.packet_id]
  simp only [Packet.errorCode, Packet.body, packet, written]
  change Reply.mk reply.id (UInt16.ofNat (Word.ofBytes [e₁, e₂])) reply.data = reply
  rw [errorCode]

/-- A complete packet with the flag byte of replies carries a reply: that with the packet's
id, and with its error code and data. -/
theorem Packet.Complete.carries_reply {packet : Packet} (complete : packet.Complete)
    (flagged : packet.isReply = true) : exists reply : Reply, packet = reply.packet := by
  obtain ⟨bytes⟩ := packet
  have header : 11 ≤ bytes.length := complete.header
  obtain ⟨s₁, s₂, s₃, s₄, i₁, i₂, i₃, i₄, flag, e₁, e₂, data, rfl⟩ :
      exists s₁ s₂ s₃ s₄ i₁ i₂ i₃ i₄ flag e₁ e₂ data,
        bytes = s₁ :: s₂ :: s₃ :: s₄ :: i₁ :: i₂ :: i₃ :: i₄ :: flag :: e₁ :: e₂ :: data := by
    rcases bytes with _ | ⟨s₁, _ | ⟨s₂, _ | ⟨s₃, _ | ⟨s₄, _ | ⟨i₁, _ | ⟨i₂, _ | ⟨i₃, _ | ⟨i₄,
      _ | ⟨flag, _ | ⟨e₁, _ | ⟨e₂, data⟩⟩⟩⟩⟩⟩⟩⟩⟩⟩⟩ <;>
      first
      | exact ⟨_, _, _, _, _, _, _, _, _, _, _, _, rfl⟩
      | exact absurd header (by simp)
  have isFlag : flag = replyFlag := by simpa [Packet.isReply] using flagged
  subst isFlag
  have size : Word.ofBytes [s₁, s₂, s₃, s₄] = headerSize + data.length := by
    have announced := complete.announced
    simp only [Packet.announcedSize, List.take_succ_cons, List.take_zero, List.length_cons]
      at announced
    rw [announced, headerSize]
    omega
  have front : Word.toBytes 4 (headerSize + data.length) = [s₁, s₂, s₃, s₄] := by
    rw [← size]
    exact Word.toBytes_ofBytes [s₁, s₂, s₃, s₄]
  have id : wordBytes32 (UInt32.ofNat (Word.ofBytes [i₁, i₂, i₃, i₄])) = [i₁, i₂, i₃, i₄] :=
    wordBytes32_ofBytes rfl
  have code : wordBytes16 (UInt16.ofNat (Word.ofBytes [e₁, e₂])) = [e₁, e₂] :=
    wordBytes16_ofBytes rfl
  refine ⟨⟨UInt32.ofNat (Word.ofBytes [i₁, i₂, i₃, i₄]),
    UInt16.ofNat (Word.ofBytes [e₁, e₂]), data⟩, ?_⟩
  simp only [Reply.packet, Reply.bytes, id, code, front, List.cons_append, List.nil_append]

end Wire
end LineDebugger
