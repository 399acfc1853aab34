import LineDebugger.Wire.Fault
import LineDebugger.Wire.Word

namespace LineDebugger
namespace Wire

/-!
# Packets

Everything after the handshake travels in packets: a length that counts the whole
packet, an id, a flag byte that tells replies from commands, two more bytes of header,
and data.  `Packet.split` cuts a byte stream into packets.  What it reads is always a
front part of the stream, and it stops where too few bytes remain or where a length is
out of bounds; after a length out of bounds nothing can be found again.
-/

/-- The size of a packet's header. -/
def headerSize : Nat := 11

/-- The greatest size of a packet: ten mebibytes. -/
def maxPacketSize : Nat := 10 * 1024 * 1024

/-- The flag byte of replies.  A packet with any other flag byte is a command. -/
def replyFlag : UInt8 := 0x80

/-! ## Commands -/

/-- A command: its set, its code within the set, and its operands. -/
structure Command where
  set : UInt8
  code : UInt8
  data : List UInt8
  deriving DecidableEq, Repr

/-- A command under the id that its reply will carry. -/
structure CommandPacket where
  id : UInt32
  command : Command
  deriving DecidableEq, Repr

/-- The bytes of a command packet. -/
def CommandPacket.bytes (packet : CommandPacket) : List UInt8 :=
  Word.toBytes 4 (headerSize + packet.command.data.length) ++ wordBytes32 packet.id
    ++ [0x00, packet.command.set, packet.command.code] ++ packet.command.data

/-! ## Replies -/

/-- A reply: the id of the command it answers, an error code, and data. -/
structure Reply where
  id : UInt32
  errorCode : UInt16
  data : List UInt8
  deriving DecidableEq, Repr

namespace Reply

/-- The bytes of a reply packet. -/
def bytes (reply : Reply) : List UInt8 :=
  Word.toBytes 4 (headerSize + reply.data.length) ++ wordBytes32 reply.id
    ++ [replyFlag] ++ wordBytes16 reply.errorCode ++ reply.data

/-- The reply in the bytes of a packet.  The length field is not looked at: whoever cut
the packet from the stream has done so. -/
def ofBytes : List UInt8 -> Except Malformed Reply
  | _ :: _ :: _ :: _ :: i₁ :: i₂ :: i₃ :: i₄ :: flag :: e₁ :: e₂ :: data =>
      if flag != replyFlag then .error (.badReplyFlag flag)
      else .ok {
        id := UInt32.ofNat (Word.ofBytes [i₁, i₂, i₃, i₄])
        errorCode := UInt16.ofNat (Word.ofBytes [e₁, e₂])
        data }
  | _ => .error .shortReply

/-- Whether the command was rejected. -/
def isError (reply : Reply) : Bool := reply.errorCode != ErrorCode.none

/-- A reply with an error code is a fault whatever its data. -/
def check (reply : Reply) : Except Fault Unit :=
  if reply.isError then .error (.ofCode reply.errorCode) else .ok ()

end Reply

/-! ## Cutting a stream into packets -/

/-- A packet as it came off the stream, header included. -/
structure Packet where
  bytes : List UInt8
  deriving DecidableEq, Repr

namespace Packet

/-- The size that the header announces. -/
def announcedSize (bytes : List UInt8) : Nat := Word.ofBytes (bytes.take 4)

/-- The id in the header. -/
def id (packet : Packet) : UInt32 :=
  UInt32.ofNat (Word.ofBytes ((packet.bytes.drop 4).take 4))

/-- Whether the flag byte marks a reply. -/
def isReply (packet : Packet) : Bool := packet.bytes[8]? == some replyFlag

/-- What follows the header. -/
def body (packet : Packet) : List UInt8 := packet.bytes.drop headerSize

/-- What can be said of the front of a stream. -/
inductive Front where
  | packet (packet : Packet) (rest : List UInt8)
  | incomplete
  | illegal
  deriving DecidableEq, Repr

/-- Look at the front of a stream.  The announced size is judged as soon as the header
is there. -/
def front (stream : List UInt8) : Front :=
  if stream.length < headerSize then .incomplete
  else
    let size := announcedSize stream
    if size < headerSize ∨ maxPacketSize < size then .illegal
    else if stream.length < size then .incomplete
    else .packet ⟨stream.take size⟩ (stream.drop size)

theorem length_lt_of_front {stream rest : List UInt8} {packet : Packet}
    (found : front stream = .packet packet rest) : rest.length < stream.length := by
  simp only [front, headerSize] at found
  by_cases short : stream.length < 11
  · simp [short] at found
  · by_cases bounds : announcedSize stream < 11 ∨ maxPacketSize < announcedSize stream
    · simp [short, bounds] at found
    · by_cases cutOff : stream.length < announcedSize stream
      · simp [short, bounds, cutOff] at found
      · simp only [short, bounds, cutOff, if_false, Front.packet.injEq] at found
        rw [← found.2, List.length_drop]
        omega

/-- A stream cut as far as it goes: the packets, and the bytes that are not yet a whole
packet, or `none` in their place if a length was out of bounds. -/
structure Cut where
  packets : List Packet
  remainder : Option (List UInt8)
  deriving DecidableEq, Repr

/-- Cut a stream into packets. -/
def split (stream : List UInt8) : Cut :=
  match _found : front stream with
  | .incomplete => ⟨[], some stream⟩
  | .illegal => ⟨[], none⟩
  | .packet packet rest =>
      let further := split rest
      ⟨packet :: further.packets, further.remainder⟩
termination_by stream.length
decreasing_by exact length_lt_of_front _found

end Packet
end Wire
end LineDebugger
