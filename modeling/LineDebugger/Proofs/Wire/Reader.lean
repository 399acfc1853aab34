import LineDebugger.Proofs.Text.Utf8
import LineDebugger.Proofs.Wire.Packet
import LineDebugger.Wire.Location

namespace LineDebugger
namespace Wire

open Text

/-!
# Reading back what was written

A reader reads some bytes as a value if it takes exactly these bytes from the front of any
payload and gives the value.  Readers that do so for their parts do so for the whole, so the
layout of a record is read back by following the layout.

The other direction is a statement about all payloads.  A reader that gives a value has taken some
bytes from the front, and these are the bytes with which the value is written: there is no other
way to write it.  `Takes` says this of a reader, and follows the layout in the same way.

Two things on the wire have a size of their own that must fit: the length of a text, in 32
bits, and the count of a list, in 31.
-/

-- Powers are those of the core library, whatever else is in scope.
attribute [local instance (high)] instPowNat

/-- From any payload that begins with the bytes, the reader takes them and gives the value. -/
def Reader.Reads {α : Type} (reader : Reader α) (bytes : List UInt8) (value : α) : Prop :=
  forall rest, reader (bytes ++ rest) = ⟨.ok value, rest⟩

namespace Reader

variable {α β : Type}

theorem Reads.done (value : α) : Reads (pure value) [] value := fun _ => rfl

theorem Reads.andThen {first : Reader α} {next : α -> Reader β} {front back : List UInt8}
    {value : α} {result : β} (early : first.Reads front value)
    (late : (next value).Reads back result) : (first >>= next).Reads (front ++ back) result := by
  intro rest
  change Reader.andThen first next (front ++ back ++ rest) = _
  rw [List.append_assoc, Reader.andThen, early]
  exact late rest

/-- What is made of a value takes no bytes. -/
theorem Reads.map {reader : Reader α} {bytes : List UInt8} {value : α}
    (reads : reader.Reads bytes value) (f : α -> β) :
    (reader >>= fun value => pure (f value)).Reads bytes (f value) := by
  have whole : (reader >>= fun value => pure (f value)).Reads (bytes ++ []) (f value) :=
    reads.andThen (Reads.done (f value))
  rwa [List.append_nil] at whole

/-- Exactly the bytes of the wanted width are taken. -/
theorem take_reads (item : Item) {width : Nat} {bytes : List UInt8}
    (size : bytes.length = width) : (Reader.take item width).Reads bytes bytes := by
  intro rest
  have enough : width ≤ (bytes ++ rest).length := by
    rw [List.length_append]
    omega
  rw [Reader.take, splitFront_eq, if_pos enough, List.take_left' size, List.drop_left' size]

/-- A number that fits into its width is read back. -/
theorem number_reads (item : Item) (width : Nat) {value : Nat} (fits : value < 256 ^ width) :
    (Reader.number item width).Reads (Word.toBytes width value) value := by
  have taken := (take_reads item (Word.length_toBytes width value)).map Word.ofBytes
  rwa [Word.ofBytes_toBytes, Nat.mod_eq_of_lt fits] at taken

theorem repeated_reads {entry : Reader α} {bytes : α -> List UInt8} {entries : List α}
    (each : forall value, value ∈ entries -> entry.Reads (bytes value) value) :
    (entry.repeated entries.length).Reads (entries.flatMap bytes) entries := by
  induction entries with
  | nil => exact Reads.done []
  | cons first others ih =>
      rcases List.forall_mem_cons.mp each with ⟨reads, later⟩
      rw [List.flatMap_cons]
      exact reads.andThen ((ih later).map (first :: ·))

end Reader

/-! ## Words -/

theorem readByte_reads (value : UInt8) : Reader.Reads readByte (byteBytes value) value := by
  have read := (Reader.number_reads .u8 1 value.toNat_lt).map UInt8.ofNat
  have written : Word.toBytes 1 value.toNat = byteBytes value := by
    simp [Word.toBytes, byteBytes]
  rwa [UInt8.ofNat_toNat, written] at read

theorem readWord32_reads (value : UInt32) :
    Reader.Reads readWord32 (wordBytes32 value) value := by
  have read := (Reader.number_reads .u32 4 value.toNat_lt).map UInt32.ofNat
  rwa [UInt32.ofNat_toNat] at read

theorem readSigned32_reads (value : Int32) :
    Reader.Reads readSigned32 (signedBytes32 value) value := by
  have read := (Reader.number_reads .i32 4 value.toUInt32.toNat_lt).map
    fun number => (UInt32.ofNat number).toInt32
  rwa [UInt32.ofNat_toNat, Int32.toInt32_toUInt32] at read

theorem readWord64_reads (value : UInt64) :
    Reader.Reads readWord64 (wordBytes64 value) value := by
  have read := (Reader.number_reads .u64 8 value.toNat_lt).map UInt64.ofNat
  rwa [UInt64.ofNat_toNat] at read

theorem readLocation_reads (location : Location) :
    Reader.Reads readLocation location.bytes location := by
  unfold readLocation Location.bytes
  simp only [List.append_assoc]
  refine (readByte_reads _).andThen ((readWord64_reads _).andThen ((readWord64_reads _).andThen ?_))
  exact (readWord64_reads location.index).map _

/-! ## Texts and lists -/

/-- The text has a length that can be written. -/
def Writable (text : String) : Prop := (Utf8.encode text).length < UInt32.size

theorem readText_reads {text : String} (writable : Writable text) :
    Reader.Reads readText (textBytes text) text := by
  have length : (UInt32.ofNat (Utf8.encode text).length).toNat = (Utf8.encode text).length :=
    UInt32.toNat_ofNat_of_lt' writable
  have front := readWord32_reads (UInt32.ofNat (Utf8.encode text).length)
  rw [wordBytes32, length] at front
  refine front.andThen ?_
  intro rest
  have taken := Reader.take_reads .text length.symm rest
  dsimp only
  rw [taken]
  dsimp only
  rw [Utf8.decode_encode]

/-- The greatest count that can be written, in 31 bits. -/
def maxCount : Nat := 0x7fffffff

theorem readCount_reads {count : Nat} (fits : count ≤ maxCount) :
    Reader.Reads readCount (countBytes count) count := by
  have small : count < 2 ^ 31 := Nat.lt_succ_of_le fits
  have signed : (Int32.ofNat count).toInt = count := Int32.toInt_ofNat_of_lt small
  have front := readSigned32_reads (Int32.ofNat count)
  have written : signedBytes32 (Int32.ofNat count) = countBytes count := by
    have word : (Int32.ofNat count).toUInt32.toNat = count := by
      simp only [Int32.toUInt32_ofNat', UInt32.toNat_ofNat']
      omega
    rw [signedBytes32, wordBytes32, word, countBytes]
  rw [written] at front
  have onward : Reader.Reads (if (Int32.ofNat count).toInt < 0
      then Reader.refuse (.negativeCount (Int32.ofNat count))
      else pure (Int32.ofNat count).toInt.toNat) [] count := by
    rw [signed, if_neg (by omega)]
    exact Reader.Reads.done count
  have whole : Reader.Reads readCount (countBytes count ++ []) count := front.andThen onward
  rwa [List.append_nil] at whole

theorem readList_reads {α : Type} {entry : Reader α} {bytes : α -> List UInt8} {entries : List α}
    (fits : entries.length ≤ maxCount)
    (each : forall value, value ∈ entries -> entry.Reads (bytes value) value) :
    Reader.Reads (readList entry) (listBytes bytes entries) entries :=
  (readCount_reads fits).andThen (Reader.repeated_reads each)

/-! ## What must have been written -/

/-- Whenever the reader gives a value, it has taken bytes from the front of the payload that
meet the goal for this value. -/
def Reader.Takes {α : Type} (reader : Reader α) (goal : α -> List UInt8 -> Prop) : Prop :=
  forall payload value rest, reader payload = ⟨.ok value, rest⟩ ->
    exists taken, payload = taken ++ rest ∧ goal value taken

namespace Reader

variable {α β : Type}

theorem Takes.done {value : α} {goal : α -> List UInt8 -> Prop} (met : goal value []) :
    Takes (pure value) goal := by
  intro payload other rest read
  cases read
  exact ⟨[], rfl, met⟩

theorem Takes.refuse (cause : Malformed) (goal : α -> List UInt8 -> Prop) :
    Takes (Reader.refuse cause) goal := by
  intro payload value rest read
  cases read

/-- What follows a value is judged together with the bytes that the value has taken. -/
theorem Takes.andThen {first : Reader α} {next : α -> Reader β}
    {middle : α -> List UInt8 -> Prop} {goal : β -> List UInt8 -> Prop}
    (early : first.Takes middle)
    (late : forall value front, middle value front ->
      (next value).Takes fun result back => goal result (front ++ back)) :
    (first >>= next).Takes goal := by
  intro payload result rest read
  change Reader.andThen first next payload = _ at read
  unfold Reader.andThen at read
  cases came : first payload with
  | mk outcome between =>
      rw [came] at read
      cases outcome with
      | error cause => cases read
      | ok value =>
          rcases early payload value between came with ⟨front, rfl, met⟩
          rcases late value front met between result rest read with ⟨back, rfl, whole⟩
          exact ⟨front ++ back, (List.append_assoc _ _ _).symm, whole⟩

theorem take_takes (item : Item) (width : Nat) :
    (Reader.take item width).Takes fun bytes taken => taken = bytes ∧ bytes.length = width := by
  intro payload bytes rest read
  rw [Reader.take, splitFront_eq] at read
  by_cases enough : width ≤ payload.length
  · rw [if_pos enough] at read
    cases read
    exact ⟨payload.take width, (List.take_append_drop width payload).symm, rfl,
      List.length_take_of_le enough⟩
  · rw [if_neg enough] at read
    cases read

/-- A number is read from the bytes with which it is written, and it fits into their width. -/
theorem number_takes (item : Item) (width : Nat) :
    (Reader.number item width).Takes fun value taken =>
      taken = Word.toBytes width value ∧ value < 256 ^ width := by
  refine (take_takes item width).andThen fun bytes front met => ?_
  rcases met with ⟨rfl, rfl⟩
  refine Takes.done ⟨?_, Word.ofBytes_lt front⟩
  rw [List.append_nil, Word.toBytes_ofBytes]

end Reader

theorem readByte_takes : readByte.Takes fun value taken => taken = byteBytes value := by
  refine (Reader.number_takes .u8 1).andThen fun number front met => ?_
  rcases met with ⟨rfl, -⟩
  exact Reader.Takes.done (by simp [Word.toBytes, byteBytes])

theorem readWord32_takes : readWord32.Takes fun value taken => taken = wordBytes32 value := by
  refine (Reader.number_takes .u32 4).andThen fun number front met => ?_
  rcases met with ⟨rfl, small⟩
  have same : (UInt32.ofNat number).toNat = number := UInt32.toNat_ofNat_of_lt' small
  exact Reader.Takes.done (by rw [List.append_nil, wordBytes32, same])

theorem readSigned32_takes :
    readSigned32.Takes fun value taken => taken = signedBytes32 value := by
  refine (Reader.number_takes .i32 4).andThen fun number front met => ?_
  rcases met with ⟨rfl, small⟩
  have same : (UInt32.ofNat number).toNat = number := UInt32.toNat_ofNat_of_lt' small
  apply Reader.Takes.done
  rw [List.append_nil, signedBytes32, UInt32.toUInt32_toInt32, wordBytes32, same]

theorem readWord64_takes : readWord64.Takes fun value taken => taken = wordBytes64 value := by
  refine (Reader.number_takes .u64 8).andThen fun number front met => ?_
  rcases met with ⟨rfl, small⟩
  have same : (UInt64.ofNat number).toNat = number := UInt64.toNat_ofNat_of_lt' small
  exact Reader.Takes.done (by rw [List.append_nil, wordBytes64, same])

theorem readLocation_takes :
    readLocation.Takes fun location taken => taken = location.bytes := by
  refine readByte_takes.andThen fun typeTag _ tagged => ?_
  refine readWord64_takes.andThen fun classId _ owned => ?_
  refine readWord64_takes.andThen fun methodId _ placed => ?_
  refine readWord64_takes.andThen fun index _ indexed => ?_
  apply Reader.Takes.done
  rw [tagged, owned, placed, indexed]
  simp only [Location.bytes, List.append_nil, List.append_assoc]

/-- A text is read from its own encoding, with a length that can be written. -/
theorem readText_takes :
    readText.Takes fun text taken => taken = textBytes text ∧ Writable text := by
  refine readWord32_takes.andThen fun length _ measured => ?_
  rw [measured]
  intro payload text rest read
  cases came : Reader.take .text length.toNat payload with
  | mk outcome between =>
      simp only [came] at read
      cases outcome with
      | error cause => cases read
      | ok bytes =>
          rcases Reader.take_takes .text length.toNat payload bytes between came with
            ⟨taken, rfl, same, size⟩
          subst same
          cases decoded : Utf8.decode taken with
          | error fault =>
              simp only [decoded] at read
              cases read
          | ok found =>
              simp only [decoded] at read
              cases read
              have encoded := Utf8.encode_of_decode decoded
              refine ⟨taken, rfl, ?_, ?_⟩
              · rw [textBytes, encoded, size, wordBytes32]
              · rw [Writable, encoded, size]
                exact length.toNat_lt

theorem readCount_takes :
    readCount.Takes fun count taken => taken = countBytes count ∧ count ≤ maxCount := by
  refine readSigned32_takes.andThen fun count _ counted => ?_
  rw [counted]
  by_cases negative : count.toInt < 0
  · rw [if_pos negative]
    exact Reader.Takes.refuse _ _
  · rw [if_neg negative]
    apply Reader.Takes.done
    have unsigned : count.toUInt32.toNat = count.toInt.toNat := by
      have signed := BitVec.toInt_eq_toNat_cond count.toBitVec
      have small := count.toUInt32.toNat_lt
      change count.toInt = if 2 * count.toUInt32.toNat < 2 ^ 32 then (count.toUInt32.toNat : Int)
        else (count.toUInt32.toNat : Int) - (2 ^ 32 : Nat) at signed
      split at signed <;> omega
    rw [List.append_nil, signedBytes32, wordBytes32, unsigned]
    refine ⟨rfl, ?_⟩
    have := count.toInt_lt
    unfold maxCount
    omega

end Wire
end LineDebugger
