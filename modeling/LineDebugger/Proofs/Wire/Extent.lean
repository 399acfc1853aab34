import LineDebugger.Proofs.Wire.Listing

namespace LineDebugger
namespace Wire

open Reader

/-!
# How many bytes a list takes

A count is a number that comes from the other side, and nothing keeps it small.  What keeps a list
small is that its entries take bytes: if each one takes at least so many, then a payload holds only
so many entries, and a count that says more is refused when the payload is used up.  `AtLeast` is
this bound for a layout, and a list inherits it from its entries.

A stretch of an array is such a list, and its elements take a byte each, with one exception.  The
payload of a void is empty, and the elements of a stretch with the tag of void have no tags of
their own.  Five bytes are then read as any number of them.
-/

/-! ## A bound for a layout -/

/-- All encodings have at least so many bytes. -/
def Layout.AtLeast {α : Type} (layout : Layout α) (size : Nat) : Prop :=
  forall value encoding, layout value encoding -> size ≤ encoding.length

section Lists

variable {α : Type} {layout : Layout α} {reader : Reader α} {size : Nat}

theorem Layout.AtLeast.parts (least : layout.AtLeast size) {entries : List α}
    {parts : List (List UInt8)} (encoded : List.Forall₂ layout entries parts) :
    size * entries.length ≤ parts.flatten.length := by
  -- The induction is on the entries, each of which brings a part with its own bytes.
  induction encoded with
  | nil => simp
  | cons first others inductionHypothesis =>
      have front := least _ _ first
      rw [List.length_cons, List.flatten_cons, List.length_append, Nat.mul_succ]
      omega

/-- A list takes four bytes for its count, and then the bytes of its entries. -/
theorem Layout.AtLeast.list (least : layout.AtLeast size) {entries : List α}
    {encoding : List UInt8} (encoded : layout.list entries encoding) :
    4 + size * entries.length ≤ encoding.length := by
  rcases encoded with ⟨-, parts, each, rfl⟩
  have bound := least.parts each
  rw [List.length_append, countBytes, Word.length_toBytes]
  omega

/-- A payload that is too short for so many entries is refused. -/
theorem Reader.Accepts.repeated_short (accepts : reader.Accepts layout)
    (least : layout.AtLeast size) {count : Nat} {payload : List UInt8}
    (short : payload.length < size * count) :
    exists cause, (reader.repeated count payload).result = .error cause := by
  cases read : reader.repeated count payload with
  | mk result rest =>
      cases result with
      | error cause => exact ⟨cause, rfl⟩
      | ok entries =>
          rcases accepts.repeated_takes count payload entries rest read with
            ⟨taken, rfl, rfl, parts, each, rfl⟩
          have bound := least.parts each
          rw [List.length_append] at short
          omega

/-- The count of a list settles how many entries are read, or that there are none. -/
theorem readList_counted (entry : Reader α) (count : Int32) (rest : List UInt8) :
    readList entry (signedBytes32 count ++ rest)
      = if count.toInt < 0 then ⟨.error (.negativeCount count), rest⟩
        else entry.repeated count.toInt.toNat rest := by
  by_cases negative : count.toInt < 0
  · rw [if_pos negative, Call.readList_negative entry negative]
  · have counted : readCount (signedBytes32 count ++ rest) = ⟨.ok count.toInt.toNat, rest⟩ := by
      rw [readCount, bind_of_reads (readSigned32_reads count), if_neg negative]
      rfl
    rw [if_neg negative]
    change Reader.andThen readCount entry.repeated _ = _
    rw [Reader.andThen, counted]

/-- A count that the payload has no bytes for is refused. -/
theorem Reader.Accepts.list_short (accepts : reader.Accepts layout) (least : layout.AtLeast size)
    {count : Int32} {rest : List UInt8} (short : (rest.length : Int) < size * count.toInt) :
    exists cause, (readList reader (signedBytes32 count ++ rest)).result = .error cause := by
  rw [readList_counted]
  by_cases negative : count.toInt < 0
  · rw [if_pos negative]
    exact ⟨_, rfl⟩
  · rw [if_neg negative]
    apply accepts.repeated_short least
    have whole : (count.toInt.toNat : Int) = count.toInt := Int.toNat_of_nonneg (by omega)
    rw [← whole] at short
    exact_mod_cast short

end Lists

/-! ## Elements of arrays -/

/-- Only the payload of a void is empty. -/
theorem ValueData.layout_length {data : ValueData} {encoding : List UInt8}
    (written : data.layout encoding) (present : data ≠ .void) : 1 ≤ encoding.length := by
  cases data with
  | boolean value =>
      cases value with
      | true =>
          rcases written with ⟨byte, -, rfl⟩
          exact Nat.le_refl 1
      | false =>
          cases written
          exact Nat.le_refl 1
  | void => exact absurd rfl present
  | _ =>
      cases written
      simp [ValueData.bytes, byteBytes, wordBytes16, signedBytes32, wordBytes32, wordBytes64,
        Word.length_toBytes]

theorem Value.layout_atLeast : Value.layout.AtLeast 1 := by
  rintro value encoding ⟨-, payload, -, rfl⟩
  rw [List.length_cons]
  omega

theorem Value.elementLayout_atLeast {tag : TypeTag} (sized : tag ≠ .void) :
    (Value.elementLayout tag).AtLeast 1 := by
  intro value encoding written
  unfold Value.elementLayout at written
  split at written
  · exact Value.layout_atLeast value encoding written
  · rcases written with ⟨rfl, fits, written⟩
    apply ValueData.layout_length written
    intro void
    apply sized
    rw [Matches, void] at fits
    exact fits

/-- Under the tag of void there is one element, and no bytes stand for it. -/
theorem Value.elementLayout_void {value : Value} {encoding : List UInt8}
    (written : Value.elementLayout .void value encoding) :
    value = ⟨.void, .void⟩ ∧ encoding = [] := by
  rcases written with ⟨tagged, fits, written⟩
  obtain ⟨tag, data⟩ := value
  cases tagged
  cases data with
  | void => exact ⟨rfl, written⟩
  | _ => cases fits

theorem void_elements {values : List Value} {parts : List (List UInt8)}
    (written : List.Forall₂ (Value.elementLayout .void) values parts) :
    values = List.replicate values.length ⟨.void, .void⟩ ∧ parts.flatten = [] := by
  induction written with
  | nil => exact ⟨rfl, rfl⟩
  | cons first others inductionHypothesis =>
      rcases Value.elementLayout_void first with ⟨rfl, rfl⟩
      rcases inductionHypothesis with ⟨alike, empty⟩
      exact ⟨congrArg (⟨.void, .void⟩ :: ·) alike, empty⟩

/-! ## Stretches of arrays -/

/-- A stretch with a byte for each of its elements, besides the five of its tag and its count. -/
def Paid (values : List Value) (encoding : List UInt8) : Prop :=
  5 + values.length ≤ encoding.length

/-- A stretch of voids: a tag and a count, and nothing for the elements. -/
def Voids (values : List Value) (encoding : List UInt8) : Prop :=
  values = List.replicate values.length ⟨.void, .void⟩ ∧
    encoding = TypeTag.void.toByte :: countBytes values.length

theorem region_paid_or_voids {values : List Value} {encoding : List UInt8}
    (encoded : Value.regionLayout values encoding) :
    Paid values encoding ∨ Voids values encoding := by
  rcases encoded with ⟨tag, _, back, rfl, rfl, listed⟩
  by_cases void : tag = .void
  · -- The tag stands once, in front of the count, so nothing at all is left for the elements.
    subst void
    rcases listed with ⟨-, parts, each, rfl⟩
    rcases void_elements each with ⟨alike, empty⟩
    right
    exact ⟨alike, by rw [empty, List.append_nil, List.singleton_append]⟩
  · have bound := (Value.elementLayout_atLeast void).list listed
    left
    rw [Paid, List.singleton_append, List.length_cons]
    omega

/-- A stretch that has fewer bytes than elements is refused, unless it is one of voids. -/
theorem readRegion_short {tag : TypeTag} (sized : tag ≠ .void) {count : Int32}
    {rest : List UInt8} (short : (rest.length : Int) < count.toInt) :
    exists cause,
      (readRegion (tag.toByte :: (signedBytes32 count ++ rest))).result = .error cause := by
  rw [readRegion, ← List.singleton_append, bind_of_reads (readTag_reads tag)]
  apply (readElement_accepts tag).list_short (Value.elementLayout_atLeast sized)
  omega

/-- Of voids as many are read as the count says. -/
theorem readRegion_voids {count : Nat} (fits : count ≤ maxCount) :
    readRegion.Reads (TypeTag.void.toByte :: countBytes count)
      (List.replicate count ⟨.void, .void⟩) := by
  have size : (List.replicate count (⟨.void, .void⟩ : Value)).length = count :=
    List.length_replicate
  have empty : (List.replicate count (⟨.void, .void⟩ : Value)).flatMap
      (fun value => value.data.bytes) = [] := by
    apply List.flatMap_eq_nil_iff.mpr
    intro value member
    rw [List.eq_of_mem_replicate member]
    rfl
  have each : forall value, value ∈ List.replicate count (⟨.void, .void⟩ : Value) ->
      (readUntagged .void).Reads value.data.bytes value := by
    intro value member
    obtain rfl := List.eq_of_mem_replicate member
    have fits : (⟨.void, .void⟩ : Value).Matches := rfl
    exact readUntagged_reads fits
  have read := readRegion_reads .void (size.symm ▸ fits) each
  rw [listBytes, size, empty, List.append_nil] at read
  exact read

/-! ## Replies -/

open Connection

/-- A stretch of an array takes a byte for each of its elements, besides the five of its tag and
its count, and one that is too short for its count is refused.  With the tag of void it takes the
five bytes and no more, whatever the count.  So the values that a call comes to are as few as the
bytes of the reply, and a short reply is malformed, unless the reply begins with this tag. -/
theorem regions_take_a_byte_for_each_element_unless_void {τ : Type} (link : Link τ) (state : τ) :
    (forall payload values rest, readRegion payload = ⟨.ok values, rest⟩ ->
      exists taken, payload = taken ++ rest ∧ (Paid values taken ∨ Voids values taken)) ∧
    (forall (tag : TypeTag) (count : Int32) (rest : List UInt8), tag ≠ .void ->
      (rest.length : Int) < count.toInt ->
      exists cause,
        (readRegion (tag.toByte :: (signedBytes32 count ++ rest))).result = .error cause) ∧
    (forall count, count ≤ maxCount ->
      readRegion.Reads (TypeTag.void.toByte :: countBytes count)
        (List.replicate count ⟨.void, .void⟩)) ∧
    forall array first length reply,
      (link.send (Call.arrayValues array first length).command state).outcome = .ok reply ->
      (forall values, (link.call (.arrayValues array first length) state).outcome = .ok values ->
        5 + values.length ≤ reply.data.length ∨
          reply.data.head? = some TypeTag.void.toByte) ∧
      (forall (tag : TypeTag) (count : Int32) (rest : List UInt8), reply.errorCode = 0 ->
        reply.data = tag.toByte :: (signedBytes32 count ++ rest) -> tag ≠ .void ->
        (rest.length : Int) < count.toInt ->
        exists cause, (link.call (.arrayValues array first length) state).outcome
          = .failed (.malformed cause)) := by
  have taken : readRegion.Takes fun values taken => Paid values taken ∨ Voids values taken := by
    intro payload values rest read
    rcases readRegion_accepts.takes payload values rest read with ⟨taken, whole, encoded⟩
    exact ⟨taken, whole, region_paid_or_voids encoded⟩
  refine ⟨taken, fun tag count rest sized short => readRegion_short sized short,
    fun count => readRegion_voids, ?_⟩
  intro array first length reply replied
  constructor
  · intro values answered
    rcases Call.reply_of_call answered with ⟨same, rest, alsoReplied, -, read⟩
    obtain rfl : reply = same := Outcome.ok.inj (replied.symm.trans alsoReplied)
    rcases taken _ _ _ read with ⟨front, data, paid | voids⟩
    · left
      rw [data, List.length_append]
      exact Nat.le_add_right_of_le paid
    · right
      rw [data, voids.2]
      rfl
  · intro tag count rest accepted data sized short
    rcases readRegion_short sized short with ⟨cause, refused⟩
    refine ⟨cause, ?_⟩
    rw [Call.call_of_accepted replied accepted, data, Call.readAnswer, refused]
    rfl

/-- Two bytes are a reply too short for three elements of a byte each. -/
theorem two_bytes_are_too_short_for_three :
    let reply : Reply := ⟨1, 0, [0x42, 0, 0, 0, 3, 7, 8]⟩
    (Call.settledLink.send (Call.arrayValues 9 0 3).command reply).outcome = .ok reply ∧
      TypeTag.byte ≠ .void ∧ (([7, 8] : List UInt8).length : Int) < (3 : Int32).toInt ∧
      (exists cause, (readRegion reply.data).result = .error cause) ∧
      exists cause, (Call.settledLink.call (.arrayValues 9 0 3) reply).outcome
        = .failed (.malformed cause) := by
  intro reply
  have bounds := regions_take_a_byte_for_each_element_unless_void Call.settledLink reply
  have short : (([7, 8] : List UInt8).length : Int) < (3 : Int32).toInt := by decide
  refine ⟨rfl, by decide, short, ?_, ?_⟩
  · exact bounds.2.1 .byte 3 [7, 8] (by decide) short
  · exact (bounds.2.2.2 9 0 3 reply rfl).2 .byte 3 [7, 8] rfl rfl (by decide) short

/-- Five bytes stand for as many voids as their count says, here for five. -/
theorem five_bytes_are_read_as_five_voids :
    ¬ forall payload values rest, readRegion payload = ⟨.ok values, rest⟩ ->
      exists taken, payload = taken ++ rest ∧ 5 + values.length ≤ taken.length := by
  intro bounded
  have read := readRegion_voids (show 5 ≤ maxCount by decide) []
  rcases bounded _ _ _ read with ⟨taken, whole, bound⟩
  rw [List.append_nil, List.append_nil] at whole
  subst whole
  revert bound
  decide

end Wire
end LineDebugger
