import LineDebugger.Proofs.Wire.Reader
import LineDebugger.Wire.Value

namespace LineDebugger
namespace Wire

/-!
# Values and texts are read as they were written

A value is written as its tag and its payload, and a stretch of an array as one tag, a count and
the elements: bare payloads if the tag is that of a primitive type, and whole values, each with a
tag of its own, if it is that of a reference.  Reading gives back the same bits, whatever comes
after them.

For texts more is said, since the bytes of a text come from the other side.  A text is read from
a length and that many bytes of well-formed UTF-8, and from nothing else.
-/

open Text

/-! ## Payloads -/

theorem readWord16_reads (value : UInt16) :
    Reader.Reads readWord16 (wordBytes16 value) value := by
  have read := (Reader.number_reads .u16 2 value.toNat_lt).map UInt16.ofNat
  rwa [UInt16.ofNat_toNat] at read

theorem readBool_reads (value : Bool) :
    Reader.Reads readBool (byteBytes (if value then 1 else 0)) value := by
  have read := (readByte_reads (if value then 1 else 0)).map (· != 0)
  cases value with
  | true => exact read
  | false => exact read

/-- A payload is read back under the tag that announces it. -/
theorem readData_reads {value : Value} (fits : value.Matches) :
    (readData value.tag).Reads value.data.bytes value.data := by
  obtain ⟨tag, data⟩ := value
  cases data with
  | byte value =>
      obtain rfl : tag = .byte := fits
      have read := (Reader.number_reads .byte 1 value.toUInt8.toNat_lt).map
        fun number => ValueData.byte (UInt8.ofNat number).toInt8
      have written : Word.toBytes 1 value.toUInt8.toNat = byteBytes value.toUInt8 := by
        simp [Word.toBytes, byteBytes]
      rwa [UInt8.ofNat_toNat, Int8.toInt8_toUInt8, written] at read
  | char unit =>
      obtain rfl : tag = .char := fits
      exact (readWord16_reads unit).map ValueData.char
  | float bits =>
      obtain rfl : tag = .float := fits
      have read := (Reader.number_reads .float 4 bits.toNat_lt).map
        fun number => ValueData.float (UInt32.ofNat number)
      rwa [UInt32.ofNat_toNat] at read
  | double bits =>
      obtain rfl : tag = .double := fits
      have read := (Reader.number_reads .double 8 bits.toNat_lt).map
        fun number => ValueData.double (UInt64.ofNat number)
      rwa [UInt64.ofNat_toNat] at read
  | int value =>
      obtain rfl : tag = .int := fits
      exact (readSigned32_reads value).map ValueData.int
  | long value =>
      obtain rfl : tag = .long := fits
      have read := (Reader.number_reads .long 8 value.toUInt64.toNat_lt).map
        fun number => ValueData.long (UInt64.ofNat number).toInt64
      rwa [UInt64.ofNat_toNat, Int64.toInt64_toUInt64] at read
  | short value =>
      obtain rfl : tag = .short := fits
      have read := (Reader.number_reads .short 2 value.toUInt16.toNat_lt).map
        fun number => ValueData.short (UInt16.ofNat number).toInt16
      rwa [UInt16.ofNat_toNat, Int16.toInt16_toUInt16] at read
  | boolean value =>
      obtain rfl : tag = .boolean := fits
      exact (readBool_reads value).map ValueData.boolean
  | object id =>
      have read := (readWord64_reads id).map ValueData.object
      cases tag <;> first | exact read | cases fits
  | void =>
      obtain rfl : tag = .void := fits
      exact Reader.Reads.done _

/-! ## Values and stretches of arrays -/

theorem readTag_reads (tag : TypeTag) : readTag.Reads [tag.toByte] tag := by
  change readTag.Reads ([tag.toByte] ++ []) tag
  refine (readByte_reads tag.toByte).andThen ?_
  rw [TypeTag.ofByte?_toByte]
  exact Reader.Reads.done tag

theorem readUntagged_reads {value : Value} (fits : value.Matches) :
    (readUntagged value.tag).Reads value.data.bytes value :=
  (readData_reads fits).map fun data => (⟨value.tag, data⟩ : Value)

theorem readTagged_reads {value : Value} (fits : value.Matches) :
    readTagged.Reads value.taggedBytes value :=
  (readTag_reads value.tag).andThen (readUntagged_reads fits)

theorem readRegion_reads (tag : TypeTag) {bytes : Value -> List UInt8} {values : List Value}
    (size : values.length ≤ maxCount)
    (each : forall value, value ∈ values ->
      (if tag.isReference then readTagged else readUntagged tag).Reads (bytes value) value) :
    readRegion.Reads (tag.toByte :: listBytes bytes values) values :=
  (readTag_reads tag).andThen (readList_reads size each)

/-! ## Texts -/

/-- A text is read from its length and its well-formed bytes.  The length counts bytes. -/
theorem readText_eq_ok_iff {payload rest : List UInt8} {text : String} :
    readText payload = ⟨.ok text, rest⟩ ↔
      exists (length : UInt32) (bytes : List UInt8),
        payload = wordBytes32 length ++ bytes ++ rest ∧ bytes.length = length.toNat ∧
        Utf8.WellFormed (text.toList.map Char.toNat) bytes := by
  constructor
  · intro read
    rcases readText_takes payload text rest read with ⟨taken, rfl, rfl, writable⟩
    have length : (UInt32.ofNat (Utf8.encode text).length).toNat = (Utf8.encode text).length :=
      UInt32.toNat_ofNat_of_lt' writable
    refine ⟨UInt32.ofNat (Utf8.encode text).length, Utf8.encode text, ?_, length.symm, ?_⟩
    · rw [textBytes, wordBytes32, length]
    · exact Utf8.decode_eq_ok_iff.mp (Utf8.decode_encode text)
  · rintro ⟨length, bytes, rfl, size, wellFormed⟩
    have decoded := Utf8.decode_eq_ok_iff.mpr wellFormed
    obtain rfl := Utf8.encode_of_decode decoded
    have writable : Writable text := by
      rw [Writable, size]
      exact length.toNat_lt
    have written : wordBytes32 length ++ Utf8.encode text = textBytes text := by
      rw [textBytes, size, wordBytes32]
    rw [written]
    exact readText_reads writable rest

/-- Values, stretches of arrays and texts are read back from what was written, and exactly what
was written is taken. -/
theorem values_and_texts_are_read_as_written :
    (forall value : Value, value.Matches -> readTagged.Reads value.taggedBytes value) ∧
    (forall (tag : TypeTag) (values : List Value), tag.isReference = false ->
      values.length ≤ maxCount ->
      (forall value, value ∈ values -> value.tag = tag ∧ value.Matches) ->
      readRegion.Reads (tag.toByte :: listBytes (fun value => value.data.bytes) values) values) ∧
    (forall (tag : TypeTag) (values : List Value), tag.isReference = true ->
      values.length ≤ maxCount -> (forall value, value ∈ values -> value.Matches) ->
      readRegion.Reads (tag.toByte :: listBytes Value.taggedBytes values) values) ∧
    (forall text : String, Writable text -> readText.Reads (textBytes text) text) ∧
    forall (payload rest : List UInt8) (text : String), readText payload = ⟨.ok text, rest⟩ ↔
      exists (length : UInt32) (bytes : List UInt8),
        payload = wordBytes32 length ++ bytes ++ rest ∧ bytes.length = length.toNat ∧
        Utf8.WellFormed (text.toList.map Char.toNat) bytes := by
  refine ⟨fun value => readTagged_reads, ?_, ?_, fun text => readText_reads,
    fun payload rest text => readText_eq_ok_iff⟩
  · intro tag values primitive size each
    refine readRegion_reads tag size fun value member => ?_
    obtain ⟨rfl, fits⟩ := each value member
    rw [primitive, if_neg Bool.false_ne_true]
    exact readUntagged_reads fits
  · intro tag values reference size each
    refine readRegion_reads tag size fun value member => ?_
    rw [reference, if_pos rfl]
    exact readTagged_reads (each value member)

/-- A float that is not a number, two short numbers, two references of different types, and a
text of one letter that takes two bytes. -/
theorem a_nan_two_stretches_and_a_letter_are_read_as_written :
    readTagged.Reads [0x46, 0xFF, 0xC0, 0, 1] ⟨.float, .float 0xFFC00001⟩ ∧
    readRegion.Reads [0x53, 0, 0, 0, 2, 0xFF, 0xFF, 0, 5]
      [⟨.short, .short (-1)⟩, ⟨.short, .short 5⟩] ∧
    readRegion.Reads [0x4C, 0, 0, 0, 2, 0x73, 0, 0, 0, 0, 0, 0, 0, 5, 0x5B, 0, 0, 0, 0, 0, 0, 1, 0]
      [⟨.string, .object 5⟩, ⟨.array, .object 256⟩] ∧
    readText.Reads [0, 0, 0, 2, 0xC3, 0xA9] "é" := by
  obtain ⟨tagged, primitive, reference, text, -⟩ := values_and_texts_are_read_as_written
  have writable : (Utf8.encode "é").length < UInt32.size := by decide
  refine ⟨tagged ⟨.float, .float 0xFFC00001⟩ rfl, ?_, ?_, text "é" writable⟩
  · have read := primitive .short [⟨.short, .short (-1)⟩, ⟨.short, .short 5⟩] rfl (by decide)
      (by simp [Value.Matches])
    exact read
  · have read := reference .object [⟨.string, .object 5⟩, ⟨.array, .object 256⟩] rfl (by decide)
      (by simp [Value.Matches, TypeTag.isReference])
    exact read

end Wire
end LineDebugger
