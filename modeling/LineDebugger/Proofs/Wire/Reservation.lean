import Mathlib.Data.List.Forall2
import LineDebugger.Proofs.Wire.EventSet
import LineDebugger.Proofs.Wire.Extent
import LineDebugger.Wire.Reservation

namespace LineDebugger
namespace Wire

open Reader

/-!
# Room is made once and is enough

Room for the entries of a list is made when the count is known and no entry has been read.  It is
never more than the bytes behind the count can fill, whatever the count says.  And it is never too
little: every entry that is read has taken its bytes from the payload, and no entry is shorter
than was laid down.  This holds after each entry, so also if a later one turns out to be malformed.

An event of a foreign kind has no fields at all, and the set ends with it.  Its kind and its
request are there, and nothing more is needed.
-/

/-! ## Capacities -/

theorem boundedCapacity_mul_le (count available entrySize : Nat) :
    boundedCapacity count available entrySize * entrySize ≤ available := by
  have width : entrySize ≤ max entrySize 1 := Nat.le_max_left entrySize 1
  calc
    boundedCapacity count available entrySize * entrySize
        ≤ available / max entrySize 1 * max entrySize 1 :=
      Nat.mul_le_mul (Nat.min_le_right _ _) width
    _ ≤ available := Nat.div_mul_le_self _ _

/-- No more entries are there than were announced, and they fit. -/
theorem le_boundedCapacity {number count available entrySize : Nat} (sized : 0 < entrySize)
    (announced : number ≤ count) (fits : entrySize * number ≤ available) :
    number ≤ boundedCapacity count available entrySize := by
  have width : max entrySize 1 = entrySize := Nat.max_eq_left sized
  rw [boundedCapacity, width]
  rw [Nat.mul_comm] at fits
  exact Nat.le_min.mpr ⟨announced, (Nat.le_div_iff_mul_le sized).mpr fits⟩

/-! ## The bytes of entries -/

theorem length_wordBytes32 (value : UInt32) : (wordBytes32 value).length = 4 :=
  Word.length_toBytes 4 _

theorem length_signedBytes32 (value : Int32) : (signedBytes32 value).length = 4 :=
  length_wordBytes32 _

theorem length_wordBytes64 (value : UInt64) : (wordBytes64 value).length = 8 :=
  Word.length_toBytes 8 _

theorem length_textBytes (text : String) :
    (textBytes text).length = 4 + (Text.Utf8.encode text).length := by
  rw [textBytes, List.length_append, Word.length_toBytes]

theorem Location.length_bytes (location : Location) : location.bytes.length = 25 := by
  simp only [Location.bytes, byteBytes, List.length_append, List.length_singleton,
    length_wordBytes64]

theorem Event.length_bytes (event : Event) :
    event.bytes.length = 5 + event.details.bytes.length := by
  simp only [Event.bytes, byteBytes, List.length_append, List.length_singleton,
    length_signedBytes32]

namespace CountedList

/-- The layout of an entry. -/
def layout : (list : CountedList) -> Layout list.Entry
  | .events => .writtenBy Event.bytes
  | .methods => .writtenIf MethodInfo.Fits MethodInfo.bytes
  | .fields => .writtenIf FieldInfo.Fits FieldInfo.bytes
  | .lines => .writtenBy LineEntry.bytes
  | .locals => .writtenIf Variable.Fits Variable.bytes
  | .frames => .writtenBy Frame.bytes

/-- No entry is shorter than was laid down. -/
theorem layout_atLeast (list : CountedList) : list.layout.AtLeast list.entrySize := by
  intro entry encoding written
  cases list with
  | events =>
      obtain rfl : encoding = entry.bytes := written
      rw [Event.length_bytes]
      exact Nat.le_add_right 5 _
  | methods =>
      rcases written with ⟨rfl, -⟩
      simp only [entrySize, MethodInfo.bytes, List.length_append, length_wordBytes64,
        length_textBytes, length_signedBytes32]
      omega
  | fields =>
      rcases written with ⟨rfl, -⟩
      simp only [entrySize, FieldInfo.bytes, List.length_append, length_wordBytes64,
        length_textBytes, length_signedBytes32]
      omega
  | lines =>
      obtain rfl : encoding = entry.bytes := written
      simp only [entrySize, LineEntry.bytes, List.length_append, length_wordBytes64,
        length_signedBytes32]
      omega
  | locals =>
      rcases written with ⟨rfl, -⟩
      simp only [entrySize, Variable.bytes, List.length_append, length_wordBytes64,
        length_textBytes, length_wordBytes32]
      omega
  | frames =>
      obtain rfl : encoding = entry.bytes := written
      simp only [entrySize, Frame.bytes, List.length_append, length_wordBytes64,
        Location.length_bytes]
      omega

theorem entrySize_pos (list : CountedList) : 0 < list.entrySize := by
  cases list <;> decide

/-! ## Entries that are read -/

/-- Entries in their layout, one after the other, and no more of them than wanted. -/
def Filled (list : CountedList) (wanted : Nat) (entries : List list.Entry)
    (taken : List UInt8) : Prop :=
  entries.length ≤ wanted ∧
    exists parts, List.Forall₂ list.layout entries parts ∧ taken = parts.flatten

theorem filled_of_repeated {list : CountedList} {reader : Reader list.Entry}
    (accepts : reader.Accepts list.layout) (wanted : Nat) :
    (reader.repeated wanted).Takes (list.Filled wanted) := by
  intro payload entries rest read
  rcases accepts.repeated_takes wanted payload entries rest read with
    ⟨taken, whole, number, parts, each, same⟩
  exact ⟨taken, whole, Nat.le_of_eq number, parts, each, same⟩

theorem filled_of_listed {wanted : Nat} {events : List Event} (listed : Listed wanted events) :
    CountedList.events.Filled wanted events (events.flatMap Event.bytes) := by
  refine ⟨?_, events.map Event.bytes, ?_, List.flatMap_def⟩
  · rcases (listed_iff_fills wanted events).mp listed with ⟨number, -⟩ | ⟨number, -⟩
    · exact Nat.le_of_eq number
    · exact number
  · exact List.forall₂_map_right_iff.mpr (List.forall₂_same.mpr fun _ _ => rfl)

/-- Whatever the entries are, they are read from their own bytes. -/
theorem readEntries_takes (list : CountedList) (wanted : Nat) :
    (list.readEntries wanted).Takes (list.Filled wanted) := by
  cases list with
  | events =>
      intro payload events rest read
      rcases readEvents_takes wanted payload events rest read with ⟨taken, whole, rfl, listed⟩
      exact ⟨_, whole, filled_of_listed listed⟩
  | methods => exact filled_of_repeated readMethod_accepts wanted
  | fields => exact filled_of_repeated readField_accepts wanted
  | lines => exact filled_of_repeated readLineEntry_accepts wanted
  | locals => exact filled_of_repeated readVariable_accepts wanted
  | frames => exact filled_of_repeated readFrame_accepts wanted

/-- For the entries that have been read at any time there is room. -/
theorem length_le_room {list : CountedList} {wanted count : Nat} {rest left : List UInt8}
    {entries : List list.Entry} (announced : wanted ≤ count)
    (read : list.readEntries wanted rest = ⟨.ok entries, left⟩) :
    entries.length ≤ list.room count rest := by
  rcases list.readEntries_takes wanted rest entries left read with
    ⟨taken, rfl, number, parts, each, rfl⟩
  have bound := list.layout_atLeast.parts each
  apply le_boundedCapacity list.entrySize_pos (Nat.le_trans number announced)
  rw [List.length_append]
  exact Nat.le_add_right_of_le bound

end CountedList

/-! ## The count and then the entries -/

section Sequence

variable {α β γ δ : Type} {first : Reader α} {next : α -> Reader β} {payload left : List UInt8}

theorem Reader.bind_eq_ok_iff {result : β} : (first >>= next) payload = ⟨.ok result, left⟩ ↔
    exists value rest,
      first payload = ⟨.ok value, rest⟩ ∧ next value rest = ⟨.ok result, left⟩ := by
  change Reader.andThen first next payload = _ ↔ _
  unfold Reader.andThen
  cases came : first payload with
  | mk outcome between =>
      cases outcome with
      | error cause =>
          constructor
          · intro impossible
            cases impossible
          · rintro ⟨value, rest, impossible, -⟩
            cases impossible
      | ok value =>
          constructor
          · intro read
            exact ⟨value, between, rfl, read⟩
          · rintro ⟨other, rest, same, read⟩
            cases same
            exact read

/-- Two readers come to the same as long as they go on alike after the same beginning. -/
theorem Reader.map_result_bind {other : α -> Reader γ} {f : β -> δ} {g : γ -> δ}
    (alike : forall value rest, (next value rest).result.map f = (other value rest).result.map g) :
    ((first >>= next) payload).result.map f = ((first >>= other) payload).result.map g := by
  change (Reader.andThen first next payload).result.map f
    = (Reader.andThen first other payload).result.map g
  unfold Reader.andThen
  cases first payload with
  | mk outcome rest =>
      cases outcome with
      | error cause => rfl
      | ok value => exact alike value rest

/-- What is made of a value can be left out of account, as far as the value itself tells it. -/
theorem Reader.map_result_pure {made : α -> β} {f : β -> δ} {g : α -> δ}
    (same : forall value, f (made value) = g value) :
    ((first >>= fun value => pure (made value)) payload).result.map f
      = (first payload).result.map g := by
  change (Reader.andThen first (fun value => pure (made value)) payload).result.map f = _
  unfold Reader.andThen
  cases first payload with
  | mk outcome rest =>
      cases outcome with
      | error cause => rfl
      | ok value => exact congrArg Except.ok (same value)

theorem Reader.bind_assoc {last : β -> Reader γ} :
    (first >>= next >>= last) payload = (first >>= fun value => next value >>= last) payload := by
  change Reader.andThen (Reader.andThen first next) last payload
    = Reader.andThen first (fun value => Reader.andThen (next value) last) payload
  unfold Reader.andThen
  dsimp only
  cases first payload with
  | mk outcome rest => cases outcome <;> rfl

end Sequence

/-- The reader reads the count of the list and then its entries, so what it makes of a payload has
as many entries as have been read, and there has been room for all of them.  If it refuses the
payload, it is the count or an entry that it refuses. -/
structure CountedList.Governs {α : Type} (list : CountedList) (reader : Reader α)
    (number : α -> Nat) : Prop where
  reads : forall payload, (reader payload).result.map number
    = ((list.readCount >>= list.readEntries) payload).result.map List.length
  enough : forall payload value left, reader payload = ⟨.ok value, left⟩ ->
    exists count rest, list.readCount payload = ⟨.ok count, rest⟩ ∧
      number value ≤ list.room count rest

theorem CountedList.governs_of_reads {α : Type} {list : CountedList} {reader : Reader α}
    {number : α -> Nat} (reads : forall payload, (reader payload).result.map number
      = ((list.readCount >>= list.readEntries) payload).result.map List.length) :
    list.Governs reader number where
  reads := reads
  enough := by
    intro payload value left read
    have found := reads payload
    rw [read] at found
    cases came : (list.readCount >>= list.readEntries) payload with
    | mk outcome after =>
        rw [came] at found
        cases outcome with
        | error cause => cases found
        | ok entries =>
            obtain ⟨count, rest, counted, listed⟩ := bind_eq_ok_iff.mp came
            have same : number value = entries.length := Except.ok.inj found
            exact ⟨count, rest, counted, same ▸ length_le_room (Nat.le_refl count) listed⟩

theorem readEventSet_governed :
    CountedList.events.Governs readEventSet fun set => set.events.length := by
  apply CountedList.governs_of_reads
  intro payload
  rw [CountedList.readCount, bind_assoc]
  apply map_result_bind
  intro policy rest
  apply map_result_bind
  intro count rest
  exact map_result_pure fun events => rfl

theorem readLineTable_governed :
    CountedList.lines.Governs readLineTable fun table => table.entries.length := by
  apply CountedList.governs_of_reads
  intro payload
  rw [CountedList.readCount, bind_assoc]
  apply map_result_bind
  intro start rest
  rw [bind_assoc]
  apply map_result_bind
  intro finish rest
  exact map_result_pure fun entries => rfl

theorem readVariableTable_governed :
    CountedList.locals.Governs readVariableTable List.length := by
  apply CountedList.governs_of_reads
  intro payload
  rw [CountedList.readCount, bind_assoc]
  rfl

theorem Call.readAnswer_governed {question : Call} {list : CountedList}
    (counted : question.countedList? = some list) :
    list.Governs question.readAnswer question.entryCount := by
  cases question with
  | methods | fields | frames =>
      cases counted
      exact CountedList.governs_of_reads fun _ => rfl
  | lineTable type method =>
      cases counted
      exact readLineTable_governed
  | variableTable type method =>
      cases counted
      exact readVariableTable_governed
  | _ => cases counted

/-- Once the count of a list is known, room is made for no more entries than the bytes behind it
can fill, and there is room for as many entries as can be read from them, up to the count.  So
whatever set of events is read, and whatever answer with such a list, there has been room for its
entries from the beginning. -/
theorem room_is_bounded_and_enough :
    (forall (list : CountedList) payload count rest,
      list.readCount payload = ⟨.ok count, rest⟩ ->
      list.room count rest * list.entrySize ≤ rest.length ∧
      forall wanted entries left, wanted ≤ count ->
        list.readEntries wanted rest = ⟨.ok entries, left⟩ ->
        entries.length ≤ list.room count rest) ∧
    CountedList.events.Governs readEventSet (fun set => set.events.length) ∧
    forall (question : Call) list, question.countedList? = some list ->
      list.Governs question.readAnswer question.entryCount := by
  refine ⟨?_, readEventSet_governed, fun _ _ => Call.readAnswer_governed⟩
  intro list payload count rest _
  refine ⟨boundedCapacity_mul_le count rest.length list.entrySize, ?_⟩
  exact fun wanted entries left announced read => CountedList.length_le_room announced read

/-- Three events are announced in front of ten bytes.  They are enough for two events, and the
second one is of a foreign kind.  A table of two lines fills its room as well. -/
theorem a_set_cut_short_fills_its_room :
    let rest : List UInt8 := [99, 0, 0, 0, 1, 42, 0, 0, 0, 2]
    let set : EventSet := ⟨0, [⟨99, 1, .machineDeath⟩, ⟨42, 2, .unknown 42⟩]⟩
    let table : LineTable := ⟨0, 9, [⟨4, 7⟩, ⟨6, 8⟩]⟩
    CountedList.events.readCount ([0, 0, 0, 0, 3] ++ rest) = ⟨.ok 3, rest⟩ ∧
      CountedList.events.room 3 rest * CountedList.events.entrySize ≤ rest.length ∧
      2 ≤ 3 ∧ CountedList.events.readEntries 2 rest = ⟨.ok set.events, []⟩ ∧
      set.events.length ≤ CountedList.events.room 3 rest ∧
      CountedList.events.room 3 rest = 2 ∧
      readEventSet ([0, 0, 0, 0, 3] ++ rest) = ⟨.ok set, []⟩ ∧
      (exists count left, CountedList.events.readCount ([0, 0, 0, 0, 3] ++ rest)
        = ⟨.ok count, left⟩ ∧ set.events.length ≤ CountedList.events.room count left) ∧
      (Call.lineTable 1 2).countedList? = some .lines ∧
      (Call.lineTable 1 2).readAnswer table.bytes = ⟨.ok table, []⟩ ∧
      exists count left, CountedList.lines.readCount table.bytes = ⟨.ok count, left⟩ ∧
        (Call.lineTable 1 2).entryCount table ≤ CountedList.lines.room count left := by
  intro rest set table
  obtain ⟨rooms, sets, answers⟩ := room_is_bounded_and_enough
  have counted : CountedList.events.readCount ([0, 0, 0, 0, 3] ++ rest) = ⟨.ok 3, rest⟩ := by rfl
  have entries : CountedList.events.readEntries 2 rest = ⟨.ok set.events, []⟩ := by rfl
  have read : readEventSet ([0, 0, 0, 0, 3] ++ rest) = ⟨.ok set, []⟩ := by rfl
  have encoded : (Call.lineTable 1 2).layout table table.bytes :=
    ⟨_, ⟨by decide, [_, _], .cons rfl (.cons rfl .nil), rfl⟩, rfl⟩
  have answered : (Call.lineTable 1 2).readAnswer table.bytes = ⟨.ok table, []⟩ := by
    have lists : (Call.lineTable 1 2).lists = true := rfl
    have reads := (Call.readAnswer_accepts lists).reads encoded []
    rwa [List.append_nil] at reads
  have room := rooms _ _ _ _ counted
  refine ⟨counted, room.1, by decide, entries, room.2 2 _ _ (by decide) entries, by decide, read,
    sets.enough _ _ _ read, rfl, answered, ?_⟩
  exact (answers (.lineTable 1 2) .lines rfl).enough _ _ _ answered

end Wire
end LineDebugger
