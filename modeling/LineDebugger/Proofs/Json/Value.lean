import LineDebugger.Proofs.Json.RoundTrip

namespace LineDebugger
namespace Json

/-!
# Values do not survive their JSON text

JSON shows the tag of a value and then its payload, but not the kind of the payload.  The tag would
tell the kind, yet the reader does not look at it: it takes the first kind that fits what is shown.
For an integer the kinds that come first are bytes, characters and floating-point numbers of 32
bits, and since any number can be rounded to one of the latter, no kind behind them is ever found.

So what is read of a value is its tag with a payload that has been guessed.  The guess is right for
bytes, truth values, voids and all characters above 127.  It is wrong for the other characters and
for everything else that is shown as an integer, and then tag and payload no longer agree.
-/

open Wire

/-! ## The guess -/

/-- The integer that a payload is shown as. -/
def integer? : ValueData -> Option Int
  | .byte value => some value.toInt
  | .char unit => some unit.toNat
  | .int value => some value.toInt
  | .long value => some value.toInt
  | .short value => some value.toInt
  | .object id => some id.toNat
  | .float _ | .double _ | .boolean _ | .void => none

/-- Whether a payload is shown as a number with a fraction or an exponent. -/
def isFloating : ValueData -> Bool
  | .float _ | .double _ => true
  | _ => false

/-- The bits of the floating-point number of 32 bits that is nearest to an integer. -/
def nearestSingle (value : Int) : UInt32 :=
  UInt32.ofNat (Decimal.BinaryFormat.single.encode (value < 0) value.natAbs 1)

/-- The payload that is read of an integer: a byte if it is small, else a character if it is one,
else a floating-point number. -/
def guessInteger (value : Int) : ValueData :=
  if Int8.minValue.toInt ≤ value ∧ value ≤ Int8.maxValue.toInt then .byte (Int8.ofInt value)
  else if 0 ≤ value ∧ value ≤ UInt16.size - 1 then .char (UInt16.ofNat value.toNat)
  else .float (nearestSingle value)

/-- The payload that is read of what a payload is shown as. -/
def guess (data : ValueData) : ValueData :=
  match integer? data with
  | some value => guessInteger value
  | none => data

/-- The payloads that are guessed right. -/
def Guessable : ValueData -> Prop
  | .byte _ | .boolean _ | .void => True
  | .char unit => 127 < unit.toNat
  | _ => False

/-! ## The first kind that fits -/

section FirstOf

variable {document : Document}

/-- Decoders that refuse are passed over, and the first one that accepts decides. -/
theorem firstOf_accepts {depth : Nat} (before : List Decoder) {after : List Decoder}
    {decoder : Decoder} {datum : Datum} (flawless : document.faultReading depth = none)
    (refused : forall other, other ∈ before -> exists fault, other document = .error fault)
    (accepts : decoder document = .ok datum) :
    Decoder.firstOf depth (before ++ decoder :: after) document = .ok datum := by
  have passed : (before.findSome? fun decode => (decode document).toOption) = none := by
    apply List.findSome?_eq_none_iff.mpr
    intro other member
    rcases refused other member with ⟨fault, refuses⟩
    rw [refuses]
    rfl
  rw [Decoder.firstOf, flawless, List.findSome?_append, passed, List.findSome?_cons, accepts]
  rfl

theorem wrapping_accepts (name : String) {decoder : Decoder} {content : Datum}
    (accepts : decoder document = .ok content) :
    wrapping name decoder document = .ok (.wrapped name content) := by
  rw [wrapping, accepts]
  rfl

theorem wrapping_refuses (name : String) {decoder : Decoder} {fault : Fault}
    (refuses : decoder document = .error fault) :
    wrapping name decoder document = .error fault := by
  rw [wrapping, refuses]
  rfl

end FirstOf

/-! ## What is made of an integer -/

section Integers

/-- An integer out of the bounds is refused, if zero is within them. -/
theorem integer_refuses {low high value : Int} (lowZero : low ≤ 0) (highZero : 0 ≤ high)
    (outside : ¬ (low ≤ value ∧ value ≤ high)) :
    Decoder.integer low high (.number (.ok (Datum.numberOf value))) = .error .mismatch := by
  rw [Datum.numberOf]
  by_cases natural : 0 ≤ value
  · have same : (value.toNat : Int) = value := Int.toNat_of_nonneg natural
    rw [if_pos natural, Decoder.integer, same, if_neg (by omega)]
  · rw [if_neg natural, Decoder.integer, if_neg (by omega)]

theorem singleDecoder_decodes (value : Int) :
    singleDecoder (.number (.ok (Datum.numberOf value))) = .ok (.single (nearestSingle value)) := by
  rw [Datum.numberOf]
  by_cases natural : 0 ≤ value
  · have same : value.natAbs = value.toNat := by omega
    rw [if_pos natural, singleDecoder, nearestSingle, same, decide_eq_false (by omega)]
  · rw [if_neg natural, singleDecoder, nearestSingle, decide_eq_true (by omega)]

theorem dataDecoders_integer (value : Int) : exists datum,
    Decoder.firstOf (maxDepth - 1) dataDecoders (.number (.ok (Datum.numberOf value)))
        = .ok datum ∧
      data? datum = some (guessInteger value) := by
  rw [guessInteger]
  -- The cases are the kinds in the order in which they are tried.  The third one takes any integer.
  by_cases small : Int8.minValue.toInt ≤ value ∧ value ≤ Int8.maxValue.toInt
  · rw [if_pos small]
    exact ⟨_, firstOf_accepts [] rfl (List.forall_mem_nil _)
      (wrapping_accepts "Byte" (Decoder.integer_decodes small.1 small.2)), rfl⟩
  · have noByte := wrapping_refuses "Byte" (integer_refuses (by decide) (by decide) small)
    rw [if_neg small]
    by_cases unit : 0 ≤ value ∧ value ≤ UInt16.size - 1
    · rw [if_pos unit]
      exact ⟨_, firstOf_accepts [_] rfl (List.forall_mem_singleton.mpr ⟨_, noByte⟩)
        (wrapping_accepts "Char" (Decoder.integer_decodes unit.1 unit.2)), rfl⟩
    · have noChar := wrapping_refuses "Char" (integer_refuses (Int.le_refl 0) (by decide) unit)
      rw [if_neg unit]
      refine ⟨_, firstOf_accepts [_, _] rfl ?_
        (wrapping_accepts "Float" (singleDecoder_decodes value)), rfl⟩
      exact List.forall_mem_cons.mpr
        ⟨⟨_, noByte⟩, List.forall_mem_singleton.mpr ⟨_, noChar⟩⟩

end Integers

/-! ## What is made of a value -/

/-- The payload is shown as a document of which the decoders make the guess. -/
def Guessed (data : ValueData) : Prop :=
  exists document datum, (ofData data).Shows document ∧
    Decoder.firstOf (maxDepth - 1) dataDecoders document = .ok datum ∧
    data? datum = some (guess data)

/-- A payload that is shown as an integer of 64 bits, with or without a sign. -/
theorem guessed_of_integer {data : ValueData} {name : String} {value : Int}
    (shown : ofData data = .wrapped name (.integer value))
    (guessed : guess data = guessInteger value)
    (least : Int64.minValue.toInt ≤ value) (most : value ≤ Numeral.maxWord) : Guessed data := by
  rcases dataDecoders_integer value with ⟨datum, decodes, taken⟩
  refine ⟨_, datum, ?_, decodes, guessed ▸ taken⟩
  rw [shown]
  exact Datum.shows_wrapped name (Datum.shows_integer least most)

theorem data_guessed {data : ValueData} (exact : isFloating data = false) : Guessed data := by
  have least : Int64.minValue.toInt = -9223372036854775808 := by decide
  have most : (Numeral.maxWord : Int) = 18446744073709551615 := by decide
  cases data with
  | byte value =>
      have low := value.le_toInt
      have high := value.toInt_lt
      exact guessed_of_integer rfl rfl (by omega) (by omega)
  | short value =>
      have low := value.le_toInt
      have high := value.toInt_lt
      exact guessed_of_integer rfl rfl (by omega) (by omega)
  | int value =>
      have low := value.le_toInt
      have high := value.toInt_lt
      exact guessed_of_integer rfl rfl (by omega) (by omega)
  | long value =>
      have low := value.le_toInt
      have high := value.toInt_lt
      exact guessed_of_integer rfl rfl (by omega) (by omega)
  | char unit =>
      have high := unit.toNat_lt
      exact guessed_of_integer rfl rfl (by omega) (by omega)
  | object id =>
      have high := id.toNat_lt
      exact guessed_of_integer rfl rfl (by omega) (by omega)
  | boolean value =>
      exact ⟨_, .wrapped "Boolean" (.boolean value),
        Datum.shows_wrapped "Boolean" (Datum.shows_boolean value), rfl, rfl⟩
  | void => exact ⟨_, .absent "Void", Datum.shows_absent "Void", rfl, rfl⟩
  | float bits => cases exact
  | double bits => cases exact

theorem choice_decodes (tag : TypeTag) :
    Decoder.choice (TypeTag.all.map TypeTag.name) (.text (.ok tag.name))
      = .ok (.choice tag.name) := by
  cases tag <;> rfl

theorem ofName?_name (tag : TypeTag) : TypeTag.ofName? tag.name = some tag := by
  cases tag <;> rfl

/-- A value is decoded by its two members, the tag as it is and the payload as it is guessed. -/
theorem value_decodes (tag : TypeTag) {document : Document} {datum : Datum}
    (decodes : Decoder.firstOf (maxDepth - 1) dataDecoders document = .ok datum) :
    valueForm.decoder
        (.object [(.ok "tag", .text (.ok tag.name)), (.ok "data", document)] .closed)
      = .ok (.record "Value" [("tag", .choice tag.name), ("data", datum)]) := by
  have found : Decoder.fieldsByName
      [("tag", Decoder.choice (TypeTag.all.map TypeTag.name)),
        ("data", Decoder.firstOf (maxDepth - 1) dataDecoders)] []
      [(.ok "tag", .text (.ok tag.name)), (.ok "data", document)]
      = .ok [("tag", .choice tag.name), ("data", datum)] := by
    simp [Decoder.fieldsByName, choice_decodes, decodes, bind, Except.bind, List.lookup_cons]
  simp only [valueForm, Decoder.record, Decoder.fieldValues, found]
  rfl

/-- The tag is read as it is, and the payload as it is guessed. -/
theorem read_write_guess {value : Value} (exact : isFloating value.data = false) :
    valueForm.read (valueForm.write value) = .ok ⟨value.tag, guess value.data⟩ := by
  rcases data_guessed exact with ⟨document, datum, shows, decodes, taken⟩
  have members : (valueForm.toDatum value).Shows
      (.object [(.ok "tag", .text (.ok value.tag.name)), (.ok "data", document)] .closed) :=
    Datum.shows_record (.cons ⟨rfl, Datum.shows_choice _⟩ (.cons ⟨rfl, shows⟩ .nil))
  apply Form.read_of_shows members (value_decodes value.tag decodes)
  simp [valueForm, ofName?_name, taken]

/-! ## When the guess is right -/

theorem guessInteger_byte (value : Int8) : guessInteger value.toInt = .byte value := by
  have small : Int8.minValue.toInt ≤ value.toInt ∧ value.toInt ≤ Int8.maxValue.toInt :=
    ⟨value.minValue_le_toInt, value.toInt_le⟩
  rw [guessInteger, if_pos small, Int8.ofInt_toInt]

theorem guessInteger_char {unit : UInt16} (large : 127 < unit.toNat) :
    guessInteger unit.toNat = .char unit := by
  have greatest : Int8.maxValue.toInt = 127 := by decide
  have fits : (0 : Int) ≤ unit.toNat ∧ (unit.toNat : Int) ≤ UInt16.size - 1 := by
    have bound := unit.toNat_lt
    have size : UInt16.size = 65536 := rfl
    omega
  rw [guessInteger, if_neg (by omega), if_pos fits, Int.toNat_natCast, UInt16.ofNat_toNat]

/-- No kind behind the floating-point numbers of 32 bits is ever found for an integer. -/
theorem guessInteger_name (value : Int) :
    (guessInteger value).name ∈ ["Byte", "Char", "Float"] := by
  unfold guessInteger
  split_ifs <;> simp [ValueData.name]

theorem guess_of_guessable {data : ValueData} (guessable : Guessable data) :
    guess data = data := by
  cases data with
  | byte value => exact guessInteger_byte value
  | char unit => exact guessInteger_char guessable
  | boolean value => rfl
  | void => rfl
  | _ => cases guessable

/-- Where the guess is wrong, it is even of another kind. -/
theorem guessable_of_name {data : ValueData} (exact : isFloating data = false)
    (same : (guess data).name = data.name) : Guessable data := by
  cases data with
  | byte value => trivial
  | boolean value => trivial
  | void => trivial
  | char unit =>
      by_contra small
      have isByte : guess (.char unit) = .byte (Int8.ofInt unit.toNat) := by
        have least : Int8.minValue.toInt = -128 := by decide
        have greatest : Int8.maxValue.toInt = 127 := by decide
        have bound : ¬ 127 < unit.toNat := small
        exact if_pos (by omega)
      rw [isByte] at same
      simp [ValueData.name] at same
  | float bits => cases exact
  | double bits => cases exact
  | int value => exact absurd (same ▸ guessInteger_name value.toInt) (by simp [ValueData.name])
  | long value => exact absurd (same ▸ guessInteger_name value.toInt) (by simp [ValueData.name])
  | short value => exact absurd (same ▸ guessInteger_name value.toInt) (by simp [ValueData.name])
  | object id => exact absurd (same ▸ guessInteger_name id.toNat) (by simp [ValueData.name])

/-- The name of the kind of payload that a tag announces. -/
def announced (tag : TypeTag) : String := if tag.isReference then "Object" else tag.name

theorem name_of_matches {value : Value} (fits : value.Matches) :
    value.data.name = announced value.tag := by
  obtain ⟨tag, data⟩ := value
  cases data with
  | object id => exact (if_pos fits).symm
  | _ =>
      cases (show tag = _ from fits)
      rfl

/-- A value is read back with its tag and a guessed payload.  It is the value that was written if
its payload is a byte, a truth value, void or a character above 127, and only then; and only then
do tag and payload still agree. -/
theorem values_are_read_back_as_guessed (value : Value) (exact : isFloating value.data = false) :
    valueForm.read (valueForm.write value) = .ok ⟨value.tag, guess value.data⟩ ∧
    (valueForm.read (valueForm.write value) = .ok value ↔ Guessable value.data) ∧
    (value.Matches ->
      ((⟨value.tag, guess value.data⟩ : Value).Matches ↔ Guessable value.data)) := by
  have read := read_write_guess exact
  refine ⟨read, ?_, ?_⟩
  · rw [read]
    constructor
    · intro same
      have right : guess value.data = value.data := congrArg Value.data (Except.ok.inj same)
      exact guessable_of_name exact (congrArg ValueData.name right)
    · intro guessable
      rw [guess_of_guessable guessable]
  · intro fits
    constructor
    · intro fitsToo
      apply guessable_of_name exact
      exact (name_of_matches fitsToo).trans (name_of_matches fits).symm
    · intro guessable
      rw [guess_of_guessable guessable]
      exact fits

/-- The letter A comes back as a byte, and the letter é as it was. -/
theorem two_letters_are_read_back :
    isFloating (.char 65) = false ∧ isFloating (.char 233) = false ∧
    valueForm.read (valueForm.write ⟨.char, .char 65⟩) = .ok ⟨.char, .byte 65⟩ ∧
    valueForm.read (valueForm.write ⟨.char, .char 233⟩) = .ok ⟨.char, .char 233⟩ := by
  refine ⟨rfl, rfl, ?_, ?_⟩
  · exact (values_are_read_back_as_guessed ⟨.char, .char 65⟩ rfl).1
  · have large : 127 < (233 : UInt16).toNat := by decide
    exact (values_are_read_back_as_guessed ⟨.char, .char 233⟩ rfl).2.1.mpr large

/-- The number five comes back as a byte under the tag of an integer of 32 bits. -/
theorem five_is_read_back_as_a_byte :
    ¬ forall value : Value, value.Matches -> isFloating value.data = false ->
      valueForm.read (valueForm.write value) = .ok value := by
  intro survives
  have same := survives ⟨.int, .int 5⟩ rfl rfl
  rw [read_write_guess rfl] at same
  cases same

end Json
end LineDebugger
