import LineDebugger.Proofs.Wire.Reader
import LineDebugger.Wire.EventSet

namespace LineDebugger
namespace Wire

/-!
# The language of event sets

An event set is a policy, a count and as many events, and each event has the fields of its kind.
The reader accepts this language and no other.  Nothing in it marks where an event ends, so an
event of a kind that the debugger does not know cannot be passed over.  It is kept as the last
event of the set, and the count in front of it then promises more than there is.

`Listed` follows the reader event by event.  For a known event it is enough to look at its
fields, once for each of the seven kinds.  What is said of whole sets is an induction on the
count.
-/

/-- The kinds whose fields are known. -/
def EventKind.known : List UInt8 := [1, 2, 6, 7, 8, 90, 99]

namespace EventDetails

/-- The fields are those of a known kind. -/
def Known : EventDetails -> Prop
  | .unknown _ => False
  | _ => True

/-- The texts among the fields have lengths that can be written. -/
def Fits : EventDetails -> Prop
  | .classPrepare _ _ _ signature _ => Writable signature
  | _ => True

end EventDetails

namespace Event

/-- The event is of a known kind, and its fields are those of this kind and can be written. -/
structure Known (event : Event) : Prop where
  details : event.details.Known
  fits : event.details.Fits
  kind_eq : event.kind = event.details.kind

/-- The event is recorded by its kind alone, which is not a known one. -/
def Foreign (event : Event) : Prop :=
  event.kind ∉ EventKind.known ∧ event.details = .unknown event.kind

end Event

/-! ## The fields of a kind -/

theorem readDetails_eq_none_iff (kind : UInt8) :
    readDetails kind = none ↔ kind ∉ EventKind.known := by
  unfold readDetails EventKind.known
  simp only [EventKind.breakpoint, EventKind.singleStep, EventKind.classPrepare,
    EventKind.machineStart, EventKind.machineDeath, EventKind.threadStart,
    EventKind.threadDeath]
  grind

/-- The fields of a known kind are read back. -/
theorem readDetails_reads {details : EventDetails} (known : details.Known) (fits : details.Fits) :
    exists reader, readDetails details.kind = some reader
      ∧ reader.Reads details.bytes details := by
  cases details with
  | machineStart thread => exact ⟨_, rfl, (readWord64_reads thread).map _⟩
  | machineDeath => exact ⟨_, rfl, Reader.Reads.done _⟩
  | threadStart thread => exact ⟨_, rfl, (readWord64_reads thread).map _⟩
  | threadDeath thread => exact ⟨_, rfl, (readWord64_reads thread).map _⟩
  | classPrepare thread typeTag typeId signature status =>
      refine ⟨_, rfl, ?_⟩
      unfold EventDetails.bytes
      simp only [List.append_assoc]
      refine (readWord64_reads thread).andThen ((readByte_reads typeTag).andThen
        ((readWord64_reads typeId).andThen ((readText_reads fits).andThen ?_)))
      exact (readSigned32_reads status).map _
  | breakpoint thread location =>
      exact ⟨_, rfl, (readWord64_reads thread).andThen ((readLocation_reads location).map _)⟩
  | step thread location =>
      exact ⟨_, rfl, (readWord64_reads thread).andThen ((readLocation_reads location).map _)⟩
  | unknown kind => exact known.elim

/-- What can be said of the fields that have been read for a kind. -/
def EventDetails.ReadFor (kind : UInt8) (details : EventDetails) (taken : List UInt8) : Prop :=
  taken = details.bytes ∧ details.kind = kind ∧ details.Known ∧ details.Fits

/-- The thread at the front of the fields, and what is made of it. -/
theorem readThread_takes {kind : UInt8} (details : UInt64 -> EventDetails)
    (known : forall thread, (details thread).kind = kind ∧ (details thread).Known
      ∧ (details thread).Fits)
    (written : forall thread, (details thread).bytes = wordBytes64 thread) :
    (do return details (← readWord64)).Takes (EventDetails.ReadFor kind) := by
  refine readWord64_takes.andThen fun thread _ taken => Reader.Takes.done ?_
  exact ⟨by rw [taken, written, List.append_nil], known thread⟩

/-- The thread and the place at the front of the fields, and what is made of them. -/
theorem readPlace_takes {kind : UInt8} (details : UInt64 -> Location -> EventDetails)
    (known : forall thread location, (details thread location).kind = kind
      ∧ (details thread location).Known ∧ (details thread location).Fits)
    (written : forall thread location,
      (details thread location).bytes = wordBytes64 thread ++ location.bytes) :
    (do return details (← readWord64) (← readLocation)).Takes (EventDetails.ReadFor kind) := by
  refine readWord64_takes.andThen fun thread _ taken => ?_
  refine readLocation_takes.andThen fun location _ placed => Reader.Takes.done ?_
  exact ⟨by rw [taken, placed, written, List.append_nil], known thread location⟩

/-- The fields that are read for a kind are those of this kind, as they are written. -/
theorem readDetails_takes {kind : UInt8} {reader : Reader EventDetails}
    (known : readDetails kind = some reader) :
    reader.Takes (EventDetails.ReadFor kind) := by
  -- The kinds are taken in the order in which the reader asks for them.
  unfold readDetails at known
  split at known
  case isTrue same =>
    cases known
    subst same
    exact readPlace_takes .breakpoint (fun _ _ => ⟨rfl, trivial, trivial⟩) fun _ _ => rfl
  split at known
  case isTrue same =>
    cases known
    subst same
    exact readPlace_takes .step (fun _ _ => ⟨rfl, trivial, trivial⟩) fun _ _ => rfl
  split at known
  case isTrue same =>
    cases known
    subst same
    refine readWord64_takes.andThen fun thread _ taken => ?_
    refine readByte_takes.andThen fun typeTag _ tagged => ?_
    refine readWord64_takes.andThen fun typeId _ named => ?_
    refine readText_takes.andThen fun signature _ signed => ?_
    refine readSigned32_takes.andThen fun status _ stated => Reader.Takes.done ?_
    refine ⟨?_, rfl, trivial, signed.2⟩
    rw [taken, tagged, named, signed.1, stated]
    simp only [EventDetails.bytes, List.append_nil, List.append_assoc]
  split at known
  case isTrue same =>
    cases known
    subst same
    exact readThread_takes .machineStart (fun _ => ⟨rfl, trivial, trivial⟩) fun _ => rfl
  split at known
  case isTrue same =>
    cases known
    subst same
    exact Reader.Takes.done ⟨rfl, rfl, trivial, trivial⟩
  split at known
  case isTrue same =>
    cases known
    subst same
    exact readThread_takes .threadStart (fun _ => ⟨rfl, trivial, trivial⟩) fun _ => rfl
  split at known
  case isTrue same =>
    cases known
    subst same
    exact readThread_takes .threadDeath (fun _ => ⟨rfl, trivial, trivial⟩) fun _ => rfl
  cases known

/-! ## The events of a set -/

/-- The events are what can be read for a count: as many known events, or some known ones and a
foreign one that ends the reading. -/
inductive Listed : Nat -> List Event -> Prop
  | none : Listed 0 []
  | foreign (count : Nat) {event : Event} (foreign : event.Foreign) : Listed (count + 1) [event]
  | known {count : Nat} {event : Event} {others : List Event} (known : event.Known)
      (later : Listed count others) : Listed (count + 1) (event :: others)

/-- What was written for a count is read for it. -/
theorem readEvents_reads {count : Nat} {events : List Event} (listed : Listed count events) :
    (readEvents count).Reads (events.flatMap Event.bytes) events := by
  induction listed with
  | none => exact Reader.Reads.done []
  | @foreign count event foreign =>
      rcases event with ⟨kind, request, details⟩
      rcases foreign with ⟨unknown, same⟩
      change details = .unknown kind at same
      subst same
      have stop : readDetails kind = none := (readDetails_eq_none_iff kind).mpr unknown
      simp only [List.flatMap_cons, List.flatMap_nil, List.append_nil, Event.bytes,
        EventDetails.bytes]
      refine (readByte_reads kind).andThen ?_
      simp only [stop]
      exact (readSigned32_reads request).map _
  | @known count event others known later ih =>
      rcases event with ⟨kind, request, details⟩
      rcases known with ⟨known, fits, same⟩
      change kind = details.kind at same
      subst same
      rcases readDetails_reads known fits with ⟨reader, found, reads⟩
      simp only [List.flatMap_cons, Event.bytes, List.append_assoc]
      refine (readByte_reads _).andThen ((readSigned32_reads request).andThen ?_)
      simp only [found]
      exact reads.andThen (ih.map _)

/-- What is read for a count was written for it. -/
theorem readEvents_takes (count : Nat) :
    (readEvents count).Takes fun events taken =>
      taken = events.flatMap Event.bytes ∧ Listed count events := by
  induction count with
  | zero => exact Reader.Takes.done ⟨rfl, .none⟩
  | succ count ih =>
      refine readByte_takes.andThen fun kind _ tagged => ?_
      refine readSigned32_takes.andThen fun request _ asked => ?_
      rw [tagged, asked]
      -- An event of a foreign kind has no fields, and the count is not looked at again.
      cases found : readDetails kind with
      | none =>
          refine Reader.Takes.done ⟨?_, .foreign count ⟨(readDetails_eq_none_iff kind).mp found, rfl⟩⟩
          simp only [List.flatMap_cons, List.flatMap_nil, List.append_nil, Event.bytes,
            EventDetails.bytes]
      | some reader =>
          refine (readDetails_takes found).andThen fun details _ fields => ?_
          rcases fields with ⟨rfl, rfl, known, fits⟩
          refine ih.andThen fun others _ later => Reader.Takes.done ?_
          rcases later with ⟨rfl, listed⟩
          refine ⟨?_, .known ⟨known, fits, rfl⟩ listed⟩
          simp only [List.flatMap_cons, List.append_nil, List.append_assoc, Event.bytes]

/-- There are exactly as many events as the count says, and all are known; or there are at most
so many, and exactly the last one is foreign. -/
def Fills (count : Nat) (events : List Event) : Prop :=
  (events.length = count ∧ forall event, event ∈ events -> event.Known)
    ∨ (events.length ≤ count ∧ exists earlier last, events = earlier ++ [last]
      ∧ last.Foreign ∧ forall event, event ∈ earlier -> event.Known)

theorem listed_iff_fills (count : Nat) (events : List Event) :
    Listed count events ↔ Fills count events := by
  constructor
  · intro listed
    induction listed with
    | none => exact .inl ⟨rfl, by simp⟩
    | @foreign count event foreign =>
        exact .inr ⟨by simp, [], event, rfl, foreign, by simp⟩
    | @known count event others known later ih =>
        rcases ih with ⟨length, all⟩ | ⟨length, earlier, last, rfl, foreign, all⟩
        · exact .inl ⟨by simp [length], List.forall_mem_cons.mpr ⟨known, all⟩⟩
        · exact .inr ⟨by simpa using length, event :: earlier, last, rfl, foreign,
            List.forall_mem_cons.mpr ⟨known, all⟩⟩
  · intro fills
    rcases fills with ⟨rfl, all⟩ | ⟨length, earlier, last, rfl, foreign, all⟩
    · induction events with
      | nil => exact .none
      | cons event others ih =>
          rcases List.forall_mem_cons.mp all with ⟨known, later⟩
          exact .known known (ih later)
    · induction earlier generalizing count with
      | nil =>
          rcases Nat.exists_eq_add_one_of_ne_zero (Nat.ne_of_gt length) with ⟨others, rfl⟩
          exact .foreign others foreign
      | cons event earlier ih =>
          rcases List.forall_mem_cons.mp all with ⟨known, later⟩
          rcases Nat.exists_eq_add_one_of_ne_zero
            (Nat.ne_of_gt (Nat.lt_of_lt_of_le (Nat.succ_pos _) length)) with ⟨others, rfl⟩
          exact .known known (ih others (Nat.le_of_succ_le_succ length) later)

/-! ## Whole sets -/

/-- The payload begins with the policy of the set, a count and the bytes of the events, and the
events fill the count. -/
def EventSet.Opens (set : EventSet) (payload : List UInt8) : Prop :=
  exists count rest, count ≤ maxCount ∧ Fills count set.events
    ∧ payload = byteBytes set.suspendPolicy ++ countBytes count
      ++ set.events.flatMap Event.bytes ++ rest

theorem readEventSet_reads {count : Nat} {set : EventSet} (fits : count ≤ maxCount)
    (fills : Fills count set.events) :
    readEventSet.Reads
      (byteBytes set.suspendPolicy ++ (countBytes count ++ set.events.flatMap Event.bytes)) set := by
  have listed : Listed count set.events := (listed_iff_fills count set.events).mpr fills
  refine (readByte_reads _).andThen ((readCount_reads fits).andThen ?_)
  exact (readEvents_reads listed).map _

/-- A set that opens the payload is read from it. -/
theorem EventSet.Opens.ofBytes_eq {set : EventSet} {payload : List UInt8}
    (opens : set.Opens payload) : EventSet.ofBytes payload = .ok set := by
  rcases opens with ⟨count, rest, fits, fills, rfl⟩
  have read := readEventSet_reads fits fills rest
  simp only [List.append_assoc] at read ⊢
  exact congrArg Reading.result read

/-- What is read as a set opens with this set. -/
theorem readEventSet_takes : readEventSet.Takes fun set taken => set.Opens taken := by
  refine readByte_takes.andThen fun policy _ tagged => ?_
  refine readCount_takes.andThen fun count _ counted => ?_
  refine (readEvents_takes count).andThen fun events _ listed => Reader.Takes.done ?_
  refine ⟨count, [], counted.2, (listed_iff_fills count events).mp listed.2, ?_⟩
  simp only [tagged, counted.1, listed.1, List.append_nil, List.append_assoc]

theorem EventSet.opens_of_ofBytes {set : EventSet} {payload : List UInt8}
    (read : EventSet.ofBytes payload = .ok set) : set.Opens payload := by
  cases came : readEventSet payload with
  | mk outcome rest =>
      have found : outcome = .ok set := by
        rw [EventSet.ofBytes, came] at read
        exact read
      rw [found] at came
      rcases readEventSet_takes payload set rest came with
        ⟨taken, rfl, count, behind, fits, fills, rfl⟩
      exact ⟨count, behind ++ rest, fits, fills, List.append_assoc _ _ _⟩

/-- The bytes of a set of known events open with this set, whatever follows them. -/
theorem EventSet.bytes_opens {set : EventSet} (known : forall event, event ∈ set.events -> event.Known)
    (fits : set.events.length ≤ maxCount) (rest : List UInt8) : set.Opens (set.bytes ++ rest) := by
  refine ⟨set.events.length, rest, fits, .inl ⟨rfl, known⟩, ?_⟩
  simp only [EventSet.bytes, listBytes, List.append_assoc]

/-- A set of known events is read from its own bytes, whatever follows them; what is read from a
payload is what opens it; and a payload that no set opens is refused as malformed. -/
theorem event_sets_are_read_as_written :
    (forall (set : EventSet) (rest : List UInt8),
      (forall event, event ∈ set.events -> event.Known) -> set.events.length ≤ maxCount ->
        EventSet.ofBytes (set.bytes ++ rest) = .ok set)
    ∧ (forall (payload : List UInt8) (set : EventSet),
      EventSet.ofBytes payload = .ok set ↔ set.Opens payload)
    ∧ (forall payload : List UInt8,
      (exists cause, EventSet.ofBytes payload = .error cause)
        ↔ forall set : EventSet, Not (set.Opens payload)) := by
  refine ⟨?_, ?_, ?_⟩
  · intro set rest known small
    exact (EventSet.bytes_opens known small rest).ofBytes_eq
  · intro payload set
    exact ⟨EventSet.opens_of_ofBytes, EventSet.Opens.ofBytes_eq⟩
  · intro payload
    constructor
    · intro refused set opens
      rcases refused with ⟨cause, refused⟩
      rw [opens.ofBytes_eq] at refused
      cases refused
    · intro closed
      cases read : EventSet.ofBytes payload with
      | error cause => exact ⟨cause, rfl⟩
      | ok set => exact absurd (EventSet.opens_of_ofBytes read) (closed set)

/-- A class is prepared and the machine dies; and of three promised events the first is of an
unknown kind. -/
theorem a_prepared_class_is_read_as_written :
    let set : EventSet :=
      ⟨2, [⟨8, 4, .classPrepare 1 1 7 "LMain;" 3⟩, ⟨99, 0, .machineDeath⟩]⟩
    let foreign : Event := ⟨42, 5, .unknown 42⟩
    (forall event, event ∈ set.events -> event.Known) ∧ set.events.length ≤ maxCount
      ∧ EventSet.ofBytes (set.bytes ++ [255, 0]) = .ok set
      ∧ EventSet.ofBytes ([0, 0, 0, 0, 3] ++ foreign.bytes ++ [7, 7]) = .ok ⟨0, [foreign]⟩ := by
  intro set foreign
  have known : forall event, event ∈ set.events -> event.Known := by
    intro event among
    rcases List.mem_cons.mp among with rfl | among
    · have writable : (Text.Utf8.encode "LMain;").length < UInt32.size := by decide
      exact ⟨trivial, writable, rfl⟩
    · rcases List.mem_singleton.mp among with rfl
      exact ⟨trivial, trivial, rfl⟩
  refine ⟨known, by decide, ?_, ?_⟩
  · exact event_sets_are_read_as_written.1 set [255, 0] known (by decide)
  · apply (event_sets_are_read_as_written.2.1 _ ⟨0, [foreign]⟩).mpr
    refine ⟨3, [7, 7], by decide, .inr ⟨by decide, [], foreign, rfl, ⟨by decide, rfl⟩, by simp⟩, ?_⟩
    decide

end Wire
end LineDebugger
