import LineDebugger.Proofs.Wire.Reader
import LineDebugger.Wire.Value

namespace LineDebugger
namespace Wire

/-!
# Readers see nothing but what they consume

A payload is read by one reader after the other, and none of them knows how much is still to
come.  What a reader makes of the front of a payload must therefore not depend on the rest, and
a front that has been cut off must not pass for a whole.

Two properties are enough, and both are inherited by whatever is put together from readers: the
bytes that are left are the end of the payload, also after a failure, and a value that has been
read is read again from the same bytes, whatever follows them.  A reader with both refuses every
part of the bytes from which it reads a value: if it made something of the part it would make
the same of the whole, and leave a rest.
-/

namespace Reader

variable {α β : Type}

/-- What a reader leaves is the end of the payload, and what it makes of the bytes that it
takes does not depend on those that it leaves. -/
structure Local (reader : Reader α) : Prop where
  leaves : forall payload, (reader payload).rest <:+ payload
  steady : forall {taken rest : List UInt8} {value : α},
    reader (taken ++ rest) = ⟨.ok value, rest⟩ -> reader.Reads taken value

/-- A local reader for which no part of a whole is a whole. -/
structure Delimited (reader : Reader α) : Prop extends Local reader where
  refuses : forall {taken : List UInt8} {value : α}, reader.Reads taken value ->
    forall part, part <+: taken -> part ≠ taken ->
      exists cause, (reader part).result = .error cause

namespace Local

/-! ## Parts -/

theorem done (value : α) : Local (pure value) where
  leaves payload := List.suffix_refl payload
  steady := by
    intro taken rest other read
    have nothing : taken ++ rest = [] ++ rest := congrArg Reading.rest read
    cases List.append_cancel_right nothing
    cases congrArg Reading.result read
    exact Reads.done value

theorem refuse (cause : Malformed) : Local (Reader.refuse cause : Reader α) where
  leaves payload := List.suffix_refl payload
  steady := by
    intro taken rest value read
    cases congrArg Reading.result read

theorem andThen {first : Reader α} {next : α -> Reader β} (early : first.Local)
    (late : forall value, (next value).Local) : (first >>= next).Local where
  leaves payload := by
    change (Reader.andThen first next payload).rest <:+ payload
    unfold Reader.andThen
    dsimp only
    cases (first payload).result with
    | ok value => exact ((late value).leaves _).trans (early.leaves payload)
    | error cause => exact early.leaves payload
  steady := by
    intro taken rest result read
    change Reader.andThen first next (taken ++ rest) = _ at read
    unfold Reader.andThen at read
    cases came : first (taken ++ rest) with
    | mk outcome between =>
        rw [came] at read
        cases outcome with
        | error cause => cases congrArg Reading.result read
        | ok value =>
            dsimp only at read
            have later := (late value).leaves between
            rw [read] at later
            rcases later with ⟨back, rfl⟩
            have earlier := early.leaves (taken ++ rest)
            rw [came] at earlier
            rcases earlier with ⟨front, whole⟩
            rw [← List.append_assoc] at whole
            cases List.append_cancel_right whole
            rw [List.append_assoc] at came
            exact (early.steady came).andThen ((late value).steady read)

/-- What is made of a value depends on nothing else. -/
theorem map {reader : Reader α} (isLocal : reader.Local) (f : α -> β) :
    (reader >>= fun value => pure (f value)).Local :=
  isLocal.andThen fun value => done (f value)

theorem take (item : Item) (width : Nat) : (Reader.take item width).Local where
  leaves payload := by
    rw [Reader.take, splitFront_eq]
    by_cases enough : width ≤ payload.length
    · simp only [if_pos enough]
      exact List.drop_suffix width payload
    · simp only [if_neg enough]
      exact List.suffix_refl payload
  steady := by
    intro taken rest bytes read
    rcases take_takes item width (taken ++ rest) bytes rest read with ⟨front, whole, rfl, size⟩
    cases List.append_cancel_right whole
    exact take_reads item size

theorem number (item : Item) (width : Nat) : (Reader.number item width).Local :=
  (take item width).map Word.ofBytes

/-- The induction is on the number of entries. -/
theorem repeated {entry : Reader α} (isLocal : entry.Local) (count : Nat) :
    (entry.repeated count).Local := by
  induction count with
  | zero => exact done []
  | succ count ih => exact isLocal.andThen fun first => ih.map (first :: ·)

/-! ## Parts of a whole -/

/-- A value read from a part would be read from the whole too, and leave a rest. -/
theorem delimited {reader : Reader α} (isLocal : reader.Local) : reader.Delimited where
  toLocal := isLocal
  refuses := by
    intro taken value reads part isPart strict
    cases came : reader part with
    | mk outcome left =>
        cases outcome with
        | error cause => exact ⟨cause, rfl⟩
        | ok other =>
            refine absurd ?_ strict
            have isEnd := isLocal.leaves part
            rw [came] at isEnd
            rcases isEnd with ⟨front, rfl⟩
            rcases isPart with ⟨more, rfl⟩
            have again := isLocal.steady came (left ++ more)
            have whole := reads []
            rw [List.append_nil, List.append_assoc, again] at whole
            have nothing : left ++ more = [] := congrArg Reading.rest whole
            rw [(List.append_eq_nil_iff.mp nothing).2, List.append_nil]

end Local

theorem Delimited.andThen {first : Reader α} {next : α -> Reader β} (early : first.Delimited)
    (late : forall value, (next value).Delimited) : (first >>= next).Delimited :=
  (early.toLocal.andThen fun value => (late value).toLocal).delimited

end Reader

/-! ## Words, counts and texts -/

open Reader

theorem readByte_local : readByte.Local := (Local.number .u8 1).map UInt8.ofNat

theorem readBool_local : readBool.Local := readByte_local.map (· != 0)

theorem readWord16_local : readWord16.Local := (Local.number .u16 2).map UInt16.ofNat

theorem readWord32_local : readWord32.Local := (Local.number .u32 4).map UInt32.ofNat

theorem readSigned32_local : readSigned32.Local :=
  (Local.number .i32 4).map fun number => (UInt32.ofNat number).toInt32

theorem readWord64_local : readWord64.Local := (Local.number .u64 8).map UInt64.ofNat

theorem readCount_local : readCount.Local := by
  refine readSigned32_local.andThen fun count => ?_
  split
  · exact Local.refuse _
  · exact Local.done _

theorem readList_local {α : Type} {entry : Reader α} (isLocal : entry.Local) :
    (readList entry).Local :=
  readCount_local.andThen isLocal.repeated

/-- The bytes of a text are looked at only if all of them are there. -/
theorem readText_local : readText.Local := by
  refine readWord32_local.andThen fun length => ⟨fun payload => ?_, ?_⟩
  · have isEnd := (Local.take .text length.toNat).leaves payload
    dsimp only
    split
    · exact List.suffix_refl payload
    · split
      · exact isEnd
      · exact List.suffix_refl payload
  · intro taken rest text read
    cases came : Reader.take .text length.toNat (taken ++ rest) with
    | mk outcome between =>
        simp only [came] at read
        cases outcome with
        | error cause => cases congrArg Reading.result read
        | ok bytes =>
            cases decoded : Text.Utf8.decode bytes with
            | error fault =>
                simp only [decoded] at read
                cases congrArg Reading.result read
            | ok found =>
                simp only [decoded] at read
                cases read
                intro other
                have again := (Local.take .text length.toNat).steady came other
                simp only [again, decoded]

theorem readLocation_local : readLocation.Local :=
  readByte_local.andThen fun _ => readWord64_local.andThen fun _ =>
    readWord64_local.andThen fun _ => readWord64_local.map _

/-! ## Values -/

theorem readTag_local : readTag.Local := by
  refine readByte_local.andThen fun byte => ?_
  split
  · exact Local.done _
  · exact Local.refuse _

/-- One case for each width of a payload; references of every kind share one. -/
theorem readData_local (tag : TypeTag) : (readData tag).Local := by
  cases tag with
  | byte => exact (Local.number .byte 1).map _
  | char => exact readWord16_local.map _
  | double => exact (Local.number .double 8).map _
  | float => exact (Local.number .float 4).map _
  | int => exact readSigned32_local.map _
  | long => exact (Local.number .long 8).map _
  | short => exact (Local.number .short 2).map _
  | boolean => exact readBool_local.map _
  | void => exact Local.done _
  | _ => exact readWord64_local.map _

theorem readUntagged_local (tag : TypeTag) : (readUntagged tag).Local :=
  (readData_local tag).map _

theorem readTagged_local : readTagged.Local := readTag_local.andThen readUntagged_local

theorem readRegion_local : readRegion.Local := by
  refine readTag_local.andThen fun tag => readList_local ?_
  split
  · exact readTagged_local
  · exact readUntagged_local tag

/-- Every reader of payloads is delimited, and so is every sequence of readers that are, even
if what is read next depends on what has been read. -/
theorem payload_readers_are_delimited :
    readByte.Delimited ∧ readBool.Delimited ∧ readWord16.Delimited ∧ readWord32.Delimited ∧
    readSigned32.Delimited ∧ readWord64.Delimited ∧ readCount.Delimited ∧ readText.Delimited ∧
    readLocation.Delimited ∧ readTag.Delimited ∧ (forall tag, (readUntagged tag).Delimited) ∧
    readTagged.Delimited ∧ readRegion.Delimited ∧
    forall (α β : Type) (first : Reader α) (next : α -> Reader β), first.Delimited ->
      (forall value, (next value).Delimited) -> (first >>= next).Delimited := by
  refine ⟨readByte_local.delimited, readBool_local.delimited, readWord16_local.delimited,
    readWord32_local.delimited, readSigned32_local.delimited, readWord64_local.delimited,
    readCount_local.delimited, readText_local.delimited, readLocation_local.delimited,
    readTag_local.delimited, fun tag => (readUntagged_local tag).delimited,
    readTagged_local.delimited, readRegion_local.delimited, ?_⟩
  exact fun _ _ first next early late => early.andThen late

/-- A byte and a text are read from six bytes whatever follows, and not from five of them. -/
theorem a_text_cut_short_is_refused :
    Reader.Reads (readByte >>= fun _ => readText) [7, 0, 0, 0, 1, 0x61] "a" ∧
      exists cause, ((readByte >>= fun _ => readText) [7, 0, 0, 0, 1]).result = .error cause := by
  obtain ⟨byte, -, -, -, -, -, -, text, -, -, -, -, -, sequence⟩ := payload_readers_are_delimited
  have delimited := sequence UInt8 String readByte (fun _ => readText) byte fun _ => text
  have writable : (Text.Utf8.encode "a").length < UInt32.size := by decide
  have reads : Reader.Reads (readByte >>= fun _ => readText) [7, 0, 0, 0, 1, 0x61] "a" :=
    (readByte_reads 7).andThen (readText_reads writable)
  exact ⟨reads, delimited.refuses reads [7, 0, 0, 0, 1] ⟨[0x61], rfl⟩ (by decide)⟩

end Wire
end LineDebugger
