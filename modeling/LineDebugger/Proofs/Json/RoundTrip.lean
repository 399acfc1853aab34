import LineDebugger.Json.Record
import LineDebugger.Proofs.Json.Recovery

namespace LineDebugger
namespace Json

/-!
# Records survive their JSON text

A form is faithful if its decoder recovers whatever it writes, and if what it writes can be told
apart.  Then every value is read back from its text, so no two values have the same text.
Locations, frames, methods, fields, line tables, variables and event sets all have faithful forms.
The form of values does not: JSON shows no more of a value than its payload.
-/

open Wire

/-! ## Faithful forms -/

namespace Form

variable {α : Type}

/-- What is read of a text is what is decoded from the document that the text is parsed to. -/
theorem read_of_shows {form : Form α} {value other : α} {document : Document} {datum : Datum}
    (shows : (form.toDatum value).Shows document) (decodes : form.decoder document = .ok datum)
    (taken : form.ofDatum? datum = some other) : form.read (form.write value) = .ok other := by
  rw [read, write, Decoder.decode_of_shows shows decodes]
  dsimp only [bind, Except.bind]
  rw [taken]
  rfl

/-- What the form writes is recovered by its decoder and taken back for the same value. -/
structure Faithful (form : Form α) (levels : Nat) : Prop where
  recovers : forall value, exists document,
    form.decoder.Recovers levels (form.toDatum value) document
  returns : forall value, form.ofDatum? (form.toDatum value) = some value

/-- Every value is read back from its text, so different values have different texts. -/
def Invertible (form : Form α) : Prop :=
  (forall value, form.read (form.write value) = .ok value) ∧ Function.Injective form.write

namespace Faithful

variable {form : Form α} {levels : Nat}

theorem read_write (faithful : form.Faithful levels) (value : α) :
    form.read (form.write value) = .ok value := by
  rcases faithful.recovers value with ⟨document, recovers⟩
  exact read_of_shows recovers.shows recovers.decodes (faithful.returns value)

theorem invertible (faithful : form.Faithful levels) : form.Invertible := by
  refine ⟨faithful.read_write, fun first second same => ?_⟩
  have readFirst := faithful.read_write first
  rw [same, faithful.read_write] at readFirst
  exact (Except.ok.inj readFirst).symm

/-- The induction is on the values. -/
theorem recovers_list (faithful : form.Faithful levels) (values : List α) : exists documents,
    List.Forall₂ (form.decoder.Recovers levels) (values.map form.toDatum) documents := by
  induction values with
  | nil => exact ⟨[], .nil⟩
  | cons value others ih =>
      rcases faithful.recovers value with ⟨document, recovers⟩
      rcases ih with ⟨documents, later⟩
      exact ⟨document :: documents, .cons recovers later⟩

/-- The induction is on the values. -/
theorem returns_list (faithful : form.Faithful levels) (values : List α) :
    (Datum.list (values.map form.toDatum)).listOf? form.ofDatum? = some values := by
  rw [Datum.listOf?]
  induction values with
  | nil => rfl
  | cons value others ih =>
      rw [List.map_cons, List.mapM_cons, faithful.returns, ih]
      rfl

end Faithful
end Form

/-! ## Words -/

section Words

open Decoder

/-- A whole number without sign, in a word of at most 64 bits. -/
theorem unsigned_recovers {size value : Nat} (small : value < size) (fits : size ≤ UInt64.size) :
    (integer 0 (size - 1)).Recovers 0 (.integer value)
      (.number (.ok (Datum.numberOf value))) := by
  refine integer_recovers (by omega) (by omega) ?_ ?_
  · change -2 ^ 63 ≤ (value : Int)
    omega
  · change (value : Int) ≤ 2 ^ 64 - 1
    change size ≤ 2 ^ 64 at fits
    omega

theorem word64_recovers (value : UInt64) :
    word64.Recovers 0 (ofWord64 value) (.number (.ok (Datum.numberOf value.toNat))) :=
  unsigned_recovers value.toNat_lt (by decide)

theorem word32_recovers (value : UInt32) :
    word32.Recovers 0 (ofWord32 value) (.number (.ok (Datum.numberOf value.toNat))) :=
  unsigned_recovers value.toNat_lt (by decide)

theorem word8_recovers (value : UInt8) :
    word8.Recovers 0 (ofWord8 value) (.number (.ok (Datum.numberOf value.toNat))) :=
  unsigned_recovers value.toNat_lt (by decide)

theorem signed32_recovers (value : Int32) :
    signed32.Recovers 0 (ofSigned32 value) (.number (.ok (Datum.numberOf value.toInt))) := by
  have low := value.le_toInt
  have high := value.toInt_lt
  refine integer_recovers ?_ ?_ ?_ ?_
  · change -2 ^ 31 ≤ value.toInt
    omega
  · change value.toInt ≤ 2 ^ 31 - 1
    omega
  · change -2 ^ 63 ≤ value.toInt
    omega
  · change value.toInt ≤ 2 ^ 64 - 1
    omega

end Words

namespace Datum

@[simp] theorem word64?_ofWord64 (value : UInt64) : (ofWord64 value).word64? = some value :=
  congrArg some UInt64.ofNat_toNat

@[simp] theorem word32?_ofWord32 (value : UInt32) : (ofWord32 value).word32? = some value :=
  congrArg some UInt32.ofNat_toNat

@[simp] theorem word8?_ofWord8 (value : UInt8) : (ofWord8 value).word8? = some value :=
  congrArg some UInt8.ofNat_toNat

@[simp] theorem signed32?_ofSigned32 (value : Int32) :
    (ofSigned32 value).signed32? = some value :=
  congrArg some (Int32.ofInt_toInt value)

end Datum

/-! ## The forms of records -/

section Forms

open Decoder (RecoversFields text_recovers list_recovers)

/-- A location, whether it is a part of a document that has been read as a whole or not. -/
theorem location_recovers (whole : Bool) (location : Location) : exists document,
    (Decoder.record whole "Location" locationForm.fields).Recovers 1
      (locationForm.toDatum location) document :=
  ⟨_, RecoversFields.record (.cons (word8_recovers _) <| .cons (word64_recovers _) <|
    .cons (word64_recovers _) <| .cons (word64_recovers _) .nil) (by decide) whole "Location"⟩

theorem locationForm_faithful : locationForm.Faithful 1 where
  recovers := location_recovers false
  returns location := by simp [locationForm]

theorem frameForm_faithful : frameForm.Faithful 2 where
  recovers := by
    intro frame
    rcases location_recovers false frame.location with ⟨document, location⟩
    exact ⟨_, RecoversFields.record (.cons ((word64_recovers _).mono (Nat.zero_le 1)) <|
      .cons location .nil) (by decide) false "Frame"⟩
  returns frame := by simp [frameForm, locationForm_faithful.returns]

theorem methodForm_faithful : methodForm.Faithful 1 where
  recovers method := ⟨_, RecoversFields.record (.cons (word64_recovers _) <|
    .cons (text_recovers _) <| .cons (text_recovers _) <| .cons (signed32_recovers _) .nil)
    (by decide) false "MethodInfo"⟩
  returns method := by simp [methodForm, Datum.text?]

theorem fieldForm_faithful : fieldForm.Faithful 1 where
  recovers field := ⟨_, RecoversFields.record (.cons (word64_recovers _) <|
    .cons (text_recovers _) <| .cons (text_recovers _) <| .cons (signed32_recovers _) .nil)
    (by decide) false "FieldInfo"⟩
  returns field := by simp [fieldForm, Datum.text?]

theorem lineEntryForm_faithful : lineEntryForm.Faithful 1 where
  recovers entry := ⟨_, RecoversFields.record (.cons (word64_recovers _) <|
    .cons (signed32_recovers _) .nil) (by decide) false "LineTableEntry"⟩
  returns entry := by simp [lineEntryForm]

theorem lineTableForm_faithful : lineTableForm.Faithful 3 where
  recovers := by
    intro table
    rcases lineEntryForm_faithful.recovers_list table.entries with ⟨documents, entries⟩
    exact ⟨_, RecoversFields.record (.cons ((word64_recovers _).mono (Nat.zero_le 2)) <|
      .cons ((word64_recovers _).mono (Nat.zero_le 2)) <| .cons (list_recovers entries) .nil)
      (by decide) false "LineTable"⟩
  returns table := by simp [lineTableForm, lineEntryForm_faithful.returns_list]

theorem variableForm_faithful : variableForm.Faithful 1 where
  recovers var := ⟨_, RecoversFields.record (.cons (word64_recovers _) <|
    .cons (text_recovers _) <| .cons (text_recovers _) <| .cons (word32_recovers _) <|
    .cons (word32_recovers _) .nil) (by decide) false "Variable"⟩
  returns var := by simp [variableForm, Datum.text?]

/-! ## Events -/

/-- An alternative that reports a thread. -/
theorem thread_recovers {name : String} {depth : Nat} (thread : UInt64)
    (known : detailsAlternatives.lookup name = some detailsAlternatives.thread) :
    exists document, (Decoder.tagged depth detailsAlternatives).Recovers 1
      (.tagged name [("thread", ofWord64 thread)]) document :=
  ⟨_, RecoversFields.tagged (.cons (word64_recovers _) .nil) (by decide) (by decide)
    (Nat.zero_le depth) known⟩

/-- An alternative that reports a thread and where it is. -/
theorem place_recovers {name : String} {depth : Nat} (deep : 1 ≤ depth) (thread : UInt64)
    (location : Location)
    (known : detailsAlternatives.lookup name = some detailsAlternatives.place) :
    exists document, (Decoder.tagged depth detailsAlternatives).Recovers 2
      (.tagged name [("thread", ofWord64 thread), ("location", locationForm.toDatum location)])
      document := by
  rcases location_recovers true location with ⟨document, location⟩
  exact ⟨_, RecoversFields.tagged (.cons ((word64_recovers _).mono (Nat.zero_le 1)) <|
    .cons location .nil) (by decide) (by decide) deep known⟩

theorem details_recovers {depth : Nat} (deep : 1 ≤ depth) (details : EventDetails) :
    exists document, (Decoder.tagged depth detailsAlternatives).Recovers 2 (ofDetails details)
      document := by
  have further {datum : Datum} (recovered : exists document,
      (Decoder.tagged depth detailsAlternatives).Recovers 1 datum document) :
      exists document, (Decoder.tagged depth detailsAlternatives).Recovers 2 datum document :=
    recovered.imp fun _ recovers => recovers.mono (Nat.le_succ 1)
  cases details with
  | machineStart thread => exact further (thread_recovers thread rfl)
  | threadStart thread => exact further (thread_recovers thread rfl)
  | threadDeath thread => exact further (thread_recovers thread rfl)
  | breakpoint thread location => exact place_recovers deep thread location rfl
  | step thread location => exact place_recovers deep thread location rfl
  | machineDeath =>
      exact further ⟨_, RecoversFields.tagged .nil (by decide) (by decide) (Nat.zero_le depth) rfl⟩
  | classPrepare thread typeTag typeId signature status =>
      exact further ⟨_, RecoversFields.tagged (.cons (word64_recovers _) <|
        .cons (word8_recovers _) <| .cons (word64_recovers _) <| .cons (text_recovers _) <|
        .cons (signed32_recovers _) .nil) (by decide) (by decide) (Nat.zero_le depth) rfl⟩
  | unknown kind =>
      exact further ⟨_, RecoversFields.tagged (.cons (word8_recovers _) .nil) (by decide)
        (by decide) (Nat.zero_le depth) rfl⟩

/-- Each alternative is taken back for itself, with all its fields. -/
theorem details_returns (details : EventDetails) : details? (ofDetails details) = some details := by
  cases details <;>
    simp [ofDetails, details?, Datum.text?, locationForm_faithful.returns]

theorem eventForm_faithful : eventForm.Faithful 3 where
  recovers := by
    intro event
    rcases details_recovers (show 1 ≤ maxDepth - 4 by decide) event.details with
      ⟨document, details⟩
    exact ⟨_, RecoversFields.record (.cons ((word8_recovers _).mono (Nat.zero_le 2)) <|
      .cons ((signed32_recovers _).mono (Nat.zero_le 2)) <| .cons details .nil)
      (by decide) false "Event"⟩
  returns event := by simp [eventForm, details_returns]

theorem eventSetForm_faithful : eventSetForm.Faithful 5 where
  recovers := by
    intro set
    rcases eventForm_faithful.recovers_list set.events with ⟨documents, events⟩
    exact ⟨_, RecoversFields.record (.cons ((word8_recovers _).mono (Nat.zero_le 4)) <|
      .cons (list_recovers events) .nil) (by decide) false "EventSet"⟩
  returns set := by simp [eventSetForm, eventForm_faithful.returns_list]

/-- Event sets and the records beside them are read back from their JSON texts as they were, so
two of them that differ have different texts. -/
theorem records_survive_their_text :
    eventSetForm.Invertible ∧ locationForm.Invertible ∧ variableForm.Invertible ∧
      lineTableForm.Invertible ∧ methodForm.Invertible ∧ fieldForm.Invertible ∧
      frameForm.Invertible :=
  ⟨eventSetForm_faithful.invertible, locationForm_faithful.invertible,
    variableForm_faithful.invertible, lineTableForm_faithful.invertible,
    methodForm_faithful.invertible, fieldForm_faithful.invertible,
    frameForm_faithful.invertible⟩

/-- The name of the alternative stands in front of its fields. -/
example : eventSetForm.write ⟨1, [⟨90, -2, .machineStart 7⟩]⟩
    = "\x7b\"suspend_policy\":1,\"events\":[\x7b\"kind\":90,\"request_id\":-2,"
      ++ "\"details\":\x7b\"type\":\"VMStart\",\"thread\":7\x7d\x7d]\x7d" := by
  decide +kernel

end Forms
end Json
end LineDebugger
