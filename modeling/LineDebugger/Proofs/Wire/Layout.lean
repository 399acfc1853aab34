import LineDebugger.Proofs.Wire.Locality
import LineDebugger.Proofs.Wire.Value
import LineDebugger.Wire.Record

namespace LineDebugger
namespace Wire

/-!
# Layouts

A layout says which bytes stand for which values.  A reader accepts a layout if it reads a value
from each of its encodings and from nothing else, and never looks past the encoding.  The layout
of a record is made from the layouts of its fields just as the reader is made from their readers,
so whether a reader accepts a layout is decided field by field.

A layout is a relation and not a function, since there may be several ways to write a value: every
byte but zero means true.  For all other values on the wire there is one way, the one that the
writers beside the readers follow.  A text too long for its length field, and a list with more
entries than its count can tell, cannot be written at all.
-/

open Text

/-- Which bytes stand for which values. -/
def Layout (α : Type) : Type := α -> List UInt8 -> Prop

namespace Layout

variable {α β : Type}

/-- One way to write each value. -/
def writtenBy (bytes : α -> List UInt8) : Layout α := fun value encoding => encoding = bytes value

/-- One way to write each value that fits. -/
def writtenIf (fits : α -> Prop) (bytes : α -> List UInt8) : Layout α := fun value encoding =>
  encoding = bytes value ∧ fits value

/-- A value, and then one whose layout may depend on it. -/
def andThen (early : Layout α) (late : α -> Layout β) : Layout β := fun result encoding =>
  exists value front back, encoding = front ++ back ∧ early value front ∧ late value result back

/-- Something that is made of a value and takes no bytes of its own. -/
def map (layout : Layout α) (f : α -> β) : Layout β := fun result encoding =>
  exists value, result = f value ∧ layout value encoding

/-- The count of the entries, and then the entries in order. -/
def list (entry : Layout α) : Layout (List α) := fun entries encoding =>
  entries.length ≤ maxCount ∧ exists parts, List.Forall₂ entry entries parts ∧
    encoding = countBytes entries.length ++ parts.flatten

end Layout

/-- The reader gives a value for each of its encodings, whatever follows, and for nothing else,
and it does not look at what follows. -/
structure Reader.Accepts {α : Type} (reader : Reader α) (layout : Layout α) : Prop where
  reads : forall {value encoding}, layout value encoding -> reader.Reads encoding value
  takes : reader.Takes layout
  isLocal : reader.Local

namespace Reader

section Sequence

variable {α β : Type} {first : Reader α} {payload rest : List UInt8}

/-- What is read after a value is read from what follows it. -/
theorem bind_of_reads {bytes : List UInt8} {value : α} (reads : first.Reads bytes value)
    {next : α -> Reader β} : (first >>= next) (bytes ++ rest) = next value rest := by
  change Reader.andThen first next (bytes ++ rest) = _
  rw [Reader.andThen, reads]

/-- Nothing is read after a refusal. -/
theorem bind_of_error {cause : Malformed} (refused : first payload = ⟨.error cause, rest⟩)
    (next : α -> Reader β) : (first >>= next) payload = ⟨.error cause, rest⟩ := by
  change Reader.andThen first next payload = _
  rw [Reader.andThen, refused]

end Sequence

namespace Accepts

variable {α β : Type} {reader : Reader α} {layout : Layout α}

theorem of_iff {other : Layout α} (accepts : reader.Accepts layout)
    (same : forall value encoding, layout value encoding ↔ other value encoding) :
    reader.Accepts other where
  reads encoded := accepts.reads ((same _ _).mpr encoded)
  takes := by
    intro payload value rest read
    rcases accepts.takes payload value rest read with ⟨taken, whole, encoded⟩
    exact ⟨taken, whole, (same _ _).mp encoded⟩
  isLocal := accepts.isLocal

theorem andThen {next : α -> Reader β} {late : α -> Layout β} (accepts : reader.Accepts layout)
    (onward : forall value, (next value).Accepts (late value)) :
    (reader >>= next).Accepts (layout.andThen late) where
  reads := by
    rintro result encoding ⟨value, front, back, rfl, early, later⟩
    exact (accepts.reads early).andThen ((onward value).reads later)
  takes := by
    refine accepts.takes.andThen fun value front early => ?_
    intro payload result rest read
    rcases (onward value).takes payload result rest read with ⟨back, whole, later⟩
    exact ⟨back, whole, value, front, back, rfl, early, later⟩
  isLocal := accepts.isLocal.andThen fun value => (onward value).isLocal

theorem map (accepts : reader.Accepts layout) (f : α -> β) :
    (reader >>= fun value => pure (f value)).Accepts (layout.map f) where
  reads := by
    rintro result encoding ⟨value, rfl, encoded⟩
    exact (accepts.reads encoded).map f
  takes := by
    refine accepts.takes.andThen fun value front encoded => Takes.done ?_
    rw [List.append_nil]
    exact ⟨value, rfl, encoded⟩
  isLocal := accepts.isLocal.map f

/-! ## Lists -/

/-- The induction is on the entries that were written. -/
theorem repeated_reads (accepts : reader.Accepts layout) {entries : List α}
    {parts : List (List UInt8)} (encoded : List.Forall₂ layout entries parts) :
    (reader.repeated entries.length).Reads parts.flatten entries := by
  induction encoded with
  | nil => exact Reads.done []
  | cons first later ih => exact (accepts.reads first).andThen (ih.map _)

/-- The induction is on the number of entries that are read. -/
theorem repeated_takes (accepts : reader.Accepts layout) (count : Nat) :
    (reader.repeated count).Takes fun entries taken =>
      entries.length = count ∧ exists parts, List.Forall₂ layout entries parts ∧
        taken = parts.flatten := by
  induction count with
  | zero => exact Takes.done ⟨rfl, [], .nil, rfl⟩
  | succ count ih =>
      refine accepts.takes.andThen fun first front encoded => ?_
      refine ih.andThen fun others back later => Takes.done ?_
      rcases later with ⟨rfl, parts, each, rfl⟩
      refine ⟨rfl, front :: parts, .cons encoded each, ?_⟩
      rw [List.append_nil, List.flatten_cons]

theorem list (accepts : reader.Accepts layout) : (readList reader).Accepts layout.list where
  reads := by
    rintro entries encoding ⟨fits, parts, encoded, rfl⟩
    exact (readCount_reads fits).andThen (accepts.repeated_reads encoded)
  takes := by
    refine readCount_takes.andThen fun count front counted => ?_
    rcases counted with ⟨rfl, fits⟩
    intro payload entries rest read
    rcases accepts.repeated_takes count payload entries rest read with
      ⟨taken, rfl, rfl, parts, encoded, rfl⟩
    exact ⟨parts.flatten, rfl, fits, parts, encoded, rfl⟩
  isLocal := readList_local accepts.isLocal

end Accepts
end Reader

/-! ## Words, texts and positions -/

open Reader

theorem readWord32_accepts : readWord32.Accepts (.writtenBy wordBytes32) where
  reads := by
    rintro value _ rfl
    exact readWord32_reads value
  takes := readWord32_takes
  isLocal := readWord32_local

theorem readSigned32_accepts : readSigned32.Accepts (.writtenBy signedBytes32) where
  reads := by
    rintro value _ rfl
    exact readSigned32_reads value
  takes := readSigned32_takes
  isLocal := readSigned32_local

theorem readWord64_accepts : readWord64.Accepts (.writtenBy wordBytes64) where
  reads := by
    rintro value _ rfl
    exact readWord64_reads value
  takes := readWord64_takes
  isLocal := readWord64_local

theorem readText_accepts : readText.Accepts (.writtenIf Writable textBytes) where
  reads := by
    rintro text _ ⟨rfl, writable⟩
    exact readText_reads writable
  takes := readText_takes
  isLocal := readText_local

theorem readLocation_accepts : readLocation.Accepts (.writtenBy Location.bytes) where
  reads := by
    rintro location _ rfl
    exact readLocation_reads location
  takes := readLocation_takes
  isLocal := readLocation_local

/-! ## Records -/

/-- The texts of a method can be written. -/
def MethodInfo.Fits (method : MethodInfo) : Prop :=
  Writable method.name ∧ Writable method.signature

/-- The texts of a field can be written. -/
def FieldInfo.Fits (field : FieldInfo) : Prop := Writable field.name ∧ Writable field.signature

/-- The texts of a variable can be written. -/
def Variable.Fits (var : Variable) : Prop := Writable var.name ∧ Writable var.signature

theorem readMethod_accepts : readMethod.Accepts (.writtenIf MethodInfo.Fits MethodInfo.bytes) := by
  refine (readWord64_accepts.andThen fun id => readText_accepts.andThen fun name =>
    readText_accepts.andThen fun signature => readSigned32_accepts.map _).of_iff ?_
  intro method encoding
  constructor
  · rintro ⟨id, _, _, rfl, rfl, name, _, _, rfl, ⟨rfl, named⟩, signature, _, _, rfl, ⟨rfl, signed⟩,
      modifierBits, rfl, rfl⟩
    refine ⟨?_, named, signed⟩
    simp only [MethodInfo.bytes, List.append_assoc]
  · rintro ⟨rfl, named, signed⟩
    exact ⟨_, _, _, by simp only [MethodInfo.bytes, List.append_assoc], rfl,
      _, _, _, rfl, ⟨rfl, named⟩, _, _, _, rfl, ⟨rfl, signed⟩, _, rfl, rfl⟩

theorem readField_accepts : readField.Accepts (.writtenIf FieldInfo.Fits FieldInfo.bytes) := by
  refine (readWord64_accepts.andThen fun id => readText_accepts.andThen fun name =>
    readText_accepts.andThen fun signature => readSigned32_accepts.map _).of_iff ?_
  intro field encoding
  constructor
  · rintro ⟨id, _, _, rfl, rfl, name, _, _, rfl, ⟨rfl, named⟩, signature, _, _, rfl, ⟨rfl, signed⟩,
      modifierBits, rfl, rfl⟩
    refine ⟨?_, named, signed⟩
    simp only [FieldInfo.bytes, List.append_assoc]
  · rintro ⟨rfl, named, signed⟩
    exact ⟨_, _, _, by simp only [FieldInfo.bytes, List.append_assoc], rfl,
      _, _, _, rfl, ⟨rfl, named⟩, _, _, _, rfl, ⟨rfl, signed⟩, _, rfl, rfl⟩

theorem readLineEntry_accepts : readLineEntry.Accepts (.writtenBy LineEntry.bytes) := by
  refine (readWord64_accepts.andThen fun codeIndex => readSigned32_accepts.map _).of_iff ?_
  intro entry encoding
  constructor
  · rintro ⟨codeIndex, _, _, rfl, rfl, line, rfl, rfl⟩
    rfl
  · rintro rfl
    exact ⟨_, _, _, rfl, rfl, _, rfl, rfl⟩

theorem readVariable_accepts : readVariable.Accepts (.writtenIf Variable.Fits Variable.bytes) := by
  refine (readWord64_accepts.andThen fun codeIndex => readText_accepts.andThen fun name =>
    readText_accepts.andThen fun signature => readWord32_accepts.andThen fun length =>
      readWord32_accepts.map _).of_iff ?_
  intro var encoding
  constructor
  · rintro ⟨codeIndex, _, _, rfl, rfl, name, _, _, rfl, ⟨rfl, named⟩, signature, _, _, rfl,
      ⟨rfl, signed⟩, length, _, _, rfl, rfl, slot, rfl, rfl⟩
    refine ⟨?_, named, signed⟩
    simp only [Variable.bytes, List.append_assoc]
  · rintro ⟨rfl, named, signed⟩
    exact ⟨_, _, _, by simp only [Variable.bytes, List.append_assoc], rfl,
      _, _, _, rfl, ⟨rfl, named⟩, _, _, _, rfl, ⟨rfl, signed⟩, _, _, _, rfl, rfl, _, rfl, rfl⟩

theorem readFrame_accepts : readFrame.Accepts (.writtenBy Frame.bytes) := by
  refine (readWord64_accepts.andThen fun id => readLocation_accepts.map _).of_iff ?_
  intro frame encoding
  constructor
  · rintro ⟨id, _, _, rfl, rfl, location, rfl, rfl⟩
    rfl
  · rintro rfl
    exact ⟨_, _, _, rfl, rfl, _, rfl, rfl⟩

/-! ## Tables -/

/-- The range of code that the table is about, and then its entries. -/
def LineTable.layout : Layout LineTable := fun table encoding =>
  exists entries, Layout.list (.writtenBy LineEntry.bytes) table.entries entries ∧
    encoding = wordBytes64 table.start ++ wordBytes64 table.finish ++ entries

theorem readLineTable_accepts : readLineTable.Accepts LineTable.layout := by
  refine (readWord64_accepts.andThen fun start => readWord64_accepts.andThen fun finish =>
    readLineEntry_accepts.list.map _).of_iff ?_
  intro table encoding
  constructor
  · rintro ⟨start, _, _, rfl, rfl, finish, _, _, rfl, rfl, entries, rfl, encoded⟩
    exact ⟨_, encoded, (List.append_assoc _ _ _).symm⟩
  · rintro ⟨entries, encoded, rfl⟩
    exact ⟨_, _, _, List.append_assoc _ _ _, rfl, _, _, _, rfl, rfl, _, rfl, encoded⟩

/-- The width of the arguments, whatever it is, and then the variables. -/
def Variable.tableLayout : Layout (List Variable) := fun table encoding =>
  exists argumentWidth entries,
    Layout.list (.writtenIf Variable.Fits Variable.bytes) table entries ∧
      encoding = signedBytes32 argumentWidth ++ entries

theorem readVariableTable_accepts : readVariableTable.Accepts Variable.tableLayout := by
  refine (readSigned32_accepts.andThen fun _ => readVariable_accepts.list).of_iff ?_
  intro table encoding
  constructor
  · rintro ⟨argumentWidth, _, entries, rfl, rfl, encoded⟩
    exact ⟨argumentWidth, entries, encoded, rfl⟩
  · rintro ⟨argumentWidth, entries, encoded, rfl⟩
    exact ⟨argumentWidth, _, entries, rfl, rfl, encoded⟩

/-! ## Values -/

/-- How a payload is written: any byte but zero means true, and nothing else has two forms. -/
def ValueData.layout : Layout ValueData := fun data encoding =>
  match data with
  | .boolean true => exists byte : UInt8, byte ≠ 0 ∧ encoding = byteBytes byte
  | data => encoding = data.bytes

/-- The tag of a value, and then a payload of the kind that the tag announces. -/
def Value.layout : Layout Value := fun value encoding =>
  value.Matches ∧ exists payload, value.data.layout payload ∧
    encoding = value.tag.toByte :: payload

theorem readWord16_takes : readWord16.Takes fun value taken => taken = wordBytes16 value := by
  refine (number_takes .u16 2).andThen fun number _ met => ?_
  rcases met with ⟨rfl, small⟩
  have same : (UInt16.ofNat number).toNat = number := UInt16.toNat_ofNat_of_lt' small
  exact Takes.done (by rw [List.append_nil, wordBytes16, same])

theorem readBool_takes : readBool.Takes fun value taken =>
    (ValueData.boolean value).layout taken := by
  refine readByte_takes.andThen fun byte _ written => Takes.done ?_
  rw [written, List.append_nil]
  by_cases zero : byte = 0
  · subst zero
    rfl
  · rw [bne_iff_ne.mpr zero]
    exact ⟨byte, zero, rfl⟩

theorem readData_reads_layout {value : Value} {encoding : List UInt8} (fits : value.Matches)
    (written : value.data.layout encoding) : (readData value.tag).Reads encoding value.data := by
  obtain ⟨tag, data⟩ := value
  cases data with
  | boolean value =>
      cases value with
      | true =>
          obtain rfl : tag = .boolean := fits
          rcases written with ⟨byte, isTrue, rfl⟩
          have read := ((readByte_reads byte).map (· != 0)).map ValueData.boolean
          rwa [bne_iff_ne.mpr isTrue] at read
      | false =>
          obtain rfl : encoding = _ := written
          exact readData_reads fits
  | _ =>
      obtain rfl : encoding = _ := written
      exact readData_reads fits

/-- One case for each width of a payload; references of every kind share one. -/
theorem readData_takes (tag : TypeTag) : (readData tag).Takes fun data taken =>
    (⟨tag, data⟩ : Value).Matches ∧ data.layout taken := by
  cases tag with
  | byte =>
      refine (number_takes .byte 1).andThen fun number _ met => Takes.done ⟨rfl, ?_⟩
      rcases met with ⟨rfl, small⟩
      simp [ValueData.layout, ValueData.bytes, Word.toBytes, byteBytes]
  | char =>
      refine readWord16_takes.andThen fun unit _ written => Takes.done ⟨rfl, ?_⟩
      rw [written, List.append_nil]
      rfl
  | double =>
      refine (number_takes .double 8).andThen fun number _ met => Takes.done ⟨rfl, ?_⟩
      rcases met with ⟨rfl, small⟩
      have same : (UInt64.ofNat number).toNat = number := UInt64.toNat_ofNat_of_lt' small
      change _ = Word.toBytes 8 (UInt64.ofNat number).toNat
      rw [List.append_nil, same]
  | float =>
      refine (number_takes .float 4).andThen fun number _ met => Takes.done ⟨rfl, ?_⟩
      rcases met with ⟨rfl, small⟩
      have same : (UInt32.ofNat number).toNat = number := UInt32.toNat_ofNat_of_lt' small
      change _ = Word.toBytes 4 (UInt32.ofNat number).toNat
      rw [List.append_nil, same]
  | int =>
      refine readSigned32_takes.andThen fun value _ written => Takes.done ⟨rfl, ?_⟩
      rw [written, List.append_nil]
      rfl
  | long =>
      refine (number_takes .long 8).andThen fun number _ met => Takes.done ⟨rfl, ?_⟩
      rcases met with ⟨rfl, small⟩
      have same : (UInt64.ofNat number).toNat = number := UInt64.toNat_ofNat_of_lt' small
      change _ = Word.toBytes 8 (UInt64.ofNat number).toInt64.toUInt64.toNat
      rw [List.append_nil, UInt64.toUInt64_toInt64, same]
  | short =>
      refine (number_takes .short 2).andThen fun number _ met => Takes.done ⟨rfl, ?_⟩
      rcases met with ⟨rfl, small⟩
      have same : (UInt16.ofNat number).toNat = number := UInt16.toNat_ofNat_of_lt' small
      change _ = Word.toBytes 2 (UInt16.ofNat number).toInt16.toUInt16.toNat
      rw [List.append_nil, UInt16.toUInt16_toInt16, same]
  | boolean =>
      refine readBool_takes.andThen fun value _ written => Takes.done ⟨rfl, ?_⟩
      rwa [List.append_nil]
  | void => exact Takes.done ⟨rfl, rfl⟩
  | _ =>
      refine readWord64_takes.andThen fun id _ written => Takes.done ⟨rfl, ?_⟩
      rw [written, List.append_nil]
      rfl

theorem readTag_takes : readTag.Takes fun tag taken => taken = [tag.toByte] := by
  refine readByte_takes.andThen fun byte _ written => ?_
  cases found : TypeTag.ofByte? byte with
  | none => exact Takes.refuse _ _
  | some tag =>
      have same : tag.toByte = byte := by simpa using List.find?_some found
      exact Takes.done (by rw [written, List.append_nil, same, byteBytes])

theorem readTagged_accepts : readTagged.Accepts Value.layout where
  reads := by
    rintro value _ ⟨fits, payload, written, rfl⟩
    have payloadRead :=
      (readData_reads_layout fits written).map fun data => (⟨value.tag, data⟩ : Value)
    exact (readTag_reads value.tag).andThen payloadRead
  takes := by
    refine readTag_takes.andThen fun tag _ tagged => ?_
    refine (readData_takes tag).andThen fun data payload written => Takes.done ?_
    refine ⟨written.1, payload, written.2, ?_⟩
    rw [tagged, List.append_nil, List.singleton_append]
  isLocal := readTagged_local

/-! ## Stretches of arrays -/

/-- A payload of the kind that a tag announces, where the tag itself is not written. -/
def Value.untaggedLayout (tag : TypeTag) : Layout Value := fun value encoding =>
  value.tag = tag ∧ value.Matches ∧ value.data.layout encoding

/-- How the elements of an array are written, given the tag in front of them all. -/
def Value.elementLayout (tag : TypeTag) : Layout Value :=
  if tag.isReference then Value.layout else Value.untaggedLayout tag

/-- One tag, and then the elements, each with a tag of its own if they are references. -/
def Value.regionLayout : Layout (List Value) :=
  (Layout.writtenBy fun tag : TypeTag => [tag.toByte]).andThen fun tag =>
    Layout.list (Value.elementLayout tag)

theorem readTag_accepts : readTag.Accepts (.writtenBy fun tag => [tag.toByte]) where
  reads := by
    rintro tag _ rfl
    exact readTag_reads tag
  takes := readTag_takes
  isLocal := readTag_local

theorem readUntagged_accepts (tag : TypeTag) :
    (readUntagged tag).Accepts (Value.untaggedLayout tag) where
  reads := by
    rintro value encoding ⟨rfl, fits, written⟩
    exact (readData_reads_layout fits written).map fun data => (⟨value.tag, data⟩ : Value)
  takes := by
    refine (readData_takes tag).andThen fun data payload written => Takes.done ?_
    rw [List.append_nil]
    exact ⟨rfl, written⟩
  isLocal := readUntagged_local tag

theorem readElement_accepts (tag : TypeTag) :
    (if tag.isReference then readTagged else readUntagged tag).Accepts
      (Value.elementLayout tag) := by
  unfold Value.elementLayout
  split
  · exact readTagged_accepts
  · exact readUntagged_accepts tag

theorem readRegion_accepts : readRegion.Accepts Value.regionLayout :=
  readTag_accepts.andThen fun tag => (readElement_accepts tag).list

end Wire
end LineDebugger
