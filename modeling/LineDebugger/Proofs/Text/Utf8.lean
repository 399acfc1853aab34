import LineDebugger.Text.Utf8

namespace LineDebugger
namespace Text
namespace Utf8

/-!
# Reading back what was encoded

Every character is encoded in one to four bytes, and a decoder that meets these bytes finds the
character again, whatever comes after it.  The leading byte says how many there are.  The
decoder is stricter than that: it refuses a lead that would be too long for what it encodes, and
the bytes of surrogates.  None of these are ever written, since no character is a surrogate and
each is written in the shortest form.

For the same reason nothing else is decoded.  Bytes that are decoded to a text at all are its
encoding.  Well-formed bytes are described on their own, by the number that a sequence spells and
the numbers that no sequence may spell, and the decoder accepts these bytes and no others.
-/

/-! ## Sequences of one, two, three and four bytes -/

section Sequences

variable {index a b c d : Nat} (rest : List UInt8)

private theorem toNat_byte {n : Nat} (small : n < 256) : (UInt8.ofNat n).toNat = n :=
  UInt8.toNat_ofNat_of_lt' small

private theorem byte_lt_iff {n : Nat} (small : n < 256) (bound : UInt8) :
    UInt8.ofNat n < bound ↔ n < bound.toNat := by
  rw [UInt8.lt_iff_toNat_lt, toNat_byte small]

private theorem byte_within_iff {n : Nat} (small : n < 256) (low high : UInt8) :
    (low ≤ UInt8.ofNat n && UInt8.ofNat n ≤ high) = true ↔ low.toNat ≤ n ∧ n ≤ high.toNat := by
  simp only [Bool.and_eq_true, decide_eq_true_eq, UInt8.le_iff_toNat_le, toNat_byte small]

private theorem byte_eq_iff {n : Nat} (small : n < 256) (byte : UInt8) :
    UInt8.ofNat n = byte ↔ n = byte.toNat := by
  rw [← UInt8.toNat_inj, toNat_byte small]

private theorem continues (small : b < 64) : isContinuation (UInt8.ofNat (b + 128)) = true :=
  (byte_within_iff (by omega) 0x80 0xBF).mpr
    ⟨Nat.le_add_left 128 b, Nat.add_le_add_right (Nat.le_of_lt_succ small) 128⟩

private theorem payload_continuation (small : b < 64) : payload (UInt8.ofNat (b + 128)) = b := by
  rw [payload, toNat_byte (by omega)]
  omega

theorem decodeFrom_one (small : a < 128) :
    decodeFrom index (UInt8.ofNat a :: rest)
      = (decodeFrom (index + 1) rest).map (Char.ofNat a :: ·) := by
  have plain : UInt8.ofNat a < 0x80 := (byte_lt_iff (by omega) 0x80).mpr small
  rw [decodeFrom.eq_def]
  dsimp only
  rw [if_pos plain, toNat_byte (by omega)]

/-- Two bytes, of which the first is not the lead of an overlong form. -/
theorem decodeFrom_two (shortest : 2 ≤ a) (lead : a < 32) (second : b < 64) :
    decodeFrom index (UInt8.ofNat (a + 192) :: UInt8.ofNat (b + 128) :: rest)
      = (decodeFrom (index + 2) rest).map (Char.ofNat (a * 64 + b) :: ·) := by
  have notOne : ¬ UInt8.ofNat (a + 192) < 0x80 := by
    rw [byte_lt_iff (by omega)]
    change ¬ a + 192 < 128
    omega
  have two : (0xC2 ≤ UInt8.ofNat (a + 192) && UInt8.ofNat (a + 192) ≤ 0xDF) = true := by
    rw [byte_within_iff (by omega)]
    change 194 ≤ a + 192 ∧ a + 192 ≤ 223
    omega
  have bits : (a + 192) % 32 = a := by omega
  rw [decodeFrom.eq_def]
  dsimp only
  rw [if_neg notOne, if_pos two]
  simp only [continues second, Bool.not_true, Bool.false_eq_true, if_false,
    toNat_byte (n := a + 192) (by omega), bits, payload_continuation second]

/-- Three bytes, of which the second is neither that of an overlong form nor that of a
surrogate. -/
theorem decodeFrom_three (lead : a < 16) (second : b < 64) (third : c < 64)
    (shortest : a = 0 -> 32 ≤ b) (noSurrogate : a = 13 -> b < 32) :
    decodeFrom index
        (UInt8.ofNat (a + 224) :: UInt8.ofNat (b + 128) :: UInt8.ofNat (c + 128) :: rest)
      = (decodeFrom (index + 3) rest).map (Char.ofNat (a * 4096 + b * 64 + c) :: ·) := by
  have notOne : ¬ UInt8.ofNat (a + 224) < 0x80 := by
    rw [byte_lt_iff (by omega)]
    change ¬ a + 224 < 128
    omega
  have notTwo : ¬ (0xC2 ≤ UInt8.ofNat (a + 224) && UInt8.ofNat (a + 224) ≤ 0xDF) = true := by
    rw [byte_within_iff (by omega)]
    change ¬ (194 ≤ a + 224 ∧ a + 224 ≤ 223)
    omega
  have three : (0xE0 ≤ UInt8.ofNat (a + 224) && UInt8.ofNat (a + 224) ≤ 0xEF) = true := by
    rw [byte_within_iff (by omega)]
    change 224 ≤ a + 224 ∧ a + 224 ≤ 239
    omega
  have allowed : allowsSecondOfThree (UInt8.ofNat (a + 224)) (UInt8.ofNat (b + 128)) = true := by
    unfold allowsSecondOfThree
    split
    case isTrue overlong =>
      have none : a + 224 = 224 := (byte_eq_iff (by omega) 0xE0).mp overlong
      rw [byte_within_iff (by omega)]
      change 160 ≤ b + 128 ∧ b + 128 ≤ 191
      omega
    case isFalse =>
      split
      case isTrue surrogates =>
        have high : a + 224 = 237 := (byte_eq_iff (by omega) 0xED).mp surrogates
        rw [byte_within_iff (by omega)]
        change 128 ≤ b + 128 ∧ b + 128 ≤ 159
        omega
      case isFalse => exact continues second
  have bits : (a + 224) % 16 = a := by omega
  rw [decodeFrom.eq_def]
  dsimp only
  rw [if_neg notOne, if_neg notTwo, if_pos three]
  simp only [allowed, continues third, Bool.not_true, Bool.false_eq_true, if_false,
    toNat_byte (n := a + 224) (by omega), bits, payload_continuation second,
    payload_continuation third]

/-- Four bytes, of which the second is neither that of an overlong form nor that of a number
beyond all characters. -/
theorem decodeFrom_four (lead : a < 5) (second : b < 64) (third : c < 64) (fourth : d < 64)
    (shortest : a = 0 -> 16 ≤ b) (inRange : a = 4 -> b < 16) :
    decodeFrom index (UInt8.ofNat (a + 240) :: UInt8.ofNat (b + 128) :: UInt8.ofNat (c + 128)
        :: UInt8.ofNat (d + 128) :: rest)
      = (decodeFrom (index + 4) rest).map
        (Char.ofNat (a * 262144 + b * 4096 + c * 64 + d) :: ·) := by
  have notOne : ¬ UInt8.ofNat (a + 240) < 0x80 := by
    rw [byte_lt_iff (by omega)]
    change ¬ a + 240 < 128
    omega
  have notTwo : ¬ (0xC2 ≤ UInt8.ofNat (a + 240) && UInt8.ofNat (a + 240) ≤ 0xDF) = true := by
    rw [byte_within_iff (by omega)]
    change ¬ (194 ≤ a + 240 ∧ a + 240 ≤ 223)
    omega
  have notThree : ¬ (0xE0 ≤ UInt8.ofNat (a + 240) && UInt8.ofNat (a + 240) ≤ 0xEF) = true := by
    rw [byte_within_iff (by omega)]
    change ¬ (224 ≤ a + 240 ∧ a + 240 ≤ 239)
    omega
  have four : (0xF0 ≤ UInt8.ofNat (a + 240) && UInt8.ofNat (a + 240) ≤ 0xF4) = true := by
    rw [byte_within_iff (by omega)]
    change 240 ≤ a + 240 ∧ a + 240 ≤ 244
    omega
  have allowed : allowsSecondOfFour (UInt8.ofNat (a + 240)) (UInt8.ofNat (b + 128)) = true := by
    unfold allowsSecondOfFour
    split
    case isTrue overlong =>
      have none : a + 240 = 240 := (byte_eq_iff (by omega) 0xF0).mp overlong
      rw [byte_within_iff (by omega)]
      change 144 ≤ b + 128 ∧ b + 128 ≤ 191
      omega
    case isFalse =>
      split
      case isTrue highest =>
        have high : a + 240 = 244 := (byte_eq_iff (by omega) 0xF4).mp highest
        rw [byte_within_iff (by omega)]
        change 128 ≤ b + 128 ∧ b + 128 ≤ 143
        omega
      case isFalse => exact continues second
  have bits : (a + 240) % 8 = a := by omega
  rw [decodeFrom.eq_def]
  dsimp only
  rw [if_neg notOne, if_neg notTwo, if_neg notThree, if_pos four]
  simp only [allowed, continues third, continues fourth, Bool.not_true, Bool.false_eq_true,
    if_false, toNat_byte (n := a + 240) (by omega), bits, payload_continuation second,
    payload_continuation third, payload_continuation fourth]

end Sequences

/-! ## Well-formed sequences -/

/-- The bytes spell the number: the lead announces how many there are and has the highest bits of
the number, and the others continue with six bits each. -/
inductive Spells : Nat -> List UInt8 -> Prop where
  | one {a : Nat} : a < 128 -> Spells a [UInt8.ofNat a]
  | two {a b : Nat} : a < 32 -> b < 64 ->
      Spells (a * 64 + b) [UInt8.ofNat (a + 192), UInt8.ofNat (b + 128)]
  | three {a b c : Nat} : a < 16 -> b < 64 -> c < 64 ->
      Spells (a * 4096 + b * 64 + c)
        [UInt8.ofNat (a + 224), UInt8.ofNat (b + 128), UInt8.ofNat (c + 128)]
  | four {a b c d : Nat} : a < 8 -> b < 64 -> c < 64 -> d < 64 ->
      Spells (a * 262144 + b * 4096 + c * 64 + d)
        [UInt8.ofNat (a + 240), UInt8.ofNat (b + 128), UInt8.ofNat (c + 128),
          UInt8.ofNat (d + 128)]

/-- The least number that needs so many bytes. -/
def leastOfLength : Nat -> Nat
  | 2 => 0x80
  | 3 => 0x800
  | 4 => 0x10000
  | _ => 0

/-- The bytes are the one way to write a character. -/
structure Sequence (number : Nat) (bytes : List UInt8) : Prop where
  spelled : Spells number bytes
  notOverlong : leastOfLength bytes.length ≤ number
  noSurrogate : ¬ (0xD800 ≤ number ∧ number ≤ 0xDFFF)
  inRange : number ≤ 0x10FFFF

/-- The bytes are one well-formed sequence after the other, for these numbers. -/
inductive WellFormed : List Nat -> List UInt8 -> Prop where
  | nil : WellFormed [] []
  | cons {number : Nat} {numbers : List Nat} {front rest : List UInt8} :
      Sequence number front -> WellFormed numbers rest ->
      WellFormed (number :: numbers) (front ++ rest)

/-- A well-formed sequence is decoded to its character, whatever comes after it. -/
theorem decodeFrom_sequence {number : Nat} {front : List UInt8} (sequence : Sequence number front)
    (rest : List UInt8) (index : Nat) :
    exists next, decodeFrom index (front ++ rest)
      = (decodeFrom next rest).map (Char.ofNat number :: ·) := by
  have shortest := sequence.notOverlong
  have noSurrogate := sequence.noSurrogate
  have inRange := sequence.inRange
  cases sequence.spelled with
  | one small => exact ⟨_, decodeFrom_one rest small⟩
  | two lead second =>
      change 0x80 ≤ _ at shortest
      exact ⟨_, decodeFrom_two rest (by omega) lead second⟩
  | three lead second third =>
      change 0x800 ≤ _ at shortest
      exact ⟨_, decodeFrom_three rest lead second third (by omega) (by omega)⟩
  | four lead second third fourth =>
      change 0x10000 ≤ _ at shortest
      exact ⟨_, decodeFrom_four rest (by omega) second third fourth (by omega) (by omega)⟩

/-- Every character is encoded as a well-formed sequence. -/
theorem encodeChar_sequence (c : Char) : Sequence c.toNat (String.utf8EncodeChar c) := by
  have valid : c.val.toNat < 55296 ∨ (57343 < c.val.toNat ∧ c.val.toNat < 1114112) := c.valid
  change Sequence c.val.toNat _
  unfold String.utf8EncodeChar
  generalize c.val.toNat = v at valid
  dsimp only
  split
  case isTrue one => exact ⟨.one (by omega), Nat.zero_le v, by omega, by omega⟩
  case isFalse more =>
    split
    case isTrue two =>
      have spelled : Spells (v / 64 % 32 * 64 + v % 64) _ := .two (by omega) (by omega)
      have value : v / 64 % 32 * 64 + v % 64 = v := by omega
      rw [value] at spelled
      exact ⟨spelled, Nat.lt_of_not_le more, by omega, by omega⟩
    case isFalse more =>
      split
      case isTrue three =>
        have spelled : Spells (v / 4096 % 16 * 4096 + v / 64 % 64 * 64 + v % 64) _ :=
          .three (by omega) (by omega) (by omega)
        have value : v / 4096 % 16 * 4096 + v / 64 % 64 * 64 + v % 64 = v := by omega
        rw [value] at spelled
        exact ⟨spelled, Nat.lt_of_not_le more, by omega, by omega⟩
      case isFalse more =>
        have spelled : Spells
            (v / 262144 % 8 * 262144 + v / 4096 % 64 * 4096 + v / 64 % 64 * 64 + v % 64) _ :=
          .four (by omega) (by omega) (by omega) (by omega)
        have value :
            v / 262144 % 8 * 262144 + v / 4096 % 64 * 4096 + v / 64 % 64 * 64 + v % 64 = v := by
          omega
        rw [value] at spelled
        exact ⟨spelled, Nat.lt_of_not_le more, by omega, by omega⟩

/-! ## Texts -/

theorem decodeFrom_wellFormed {numbers : List Nat} {bytes : List UInt8}
    (wellFormed : WellFormed numbers bytes) (index : Nat) :
    decodeFrom index bytes = .ok (numbers.map Char.ofNat) := by
  induction wellFormed generalizing index with
  | nil => rfl
  | cons sequence _ ih =>
      rcases decodeFrom_sequence sequence _ index with ⟨next, read⟩
      rw [read, ih]
      rfl

theorem encode_wellFormed (chars : List Char) :
    WellFormed (chars.map Char.toNat) (chars.flatMap String.utf8EncodeChar) := by
  induction chars with
  | nil => exact .nil
  | cons c chars ih => exact .cons (encodeChar_sequence c) ih

private theorem characters_of_numbers (chars : List Char) :
    (chars.map Char.toNat).map Char.ofNat = chars := by
  rw [List.map_map]
  exact (List.map_congr_left fun c _ => c.ofNat_toNat).trans (List.map_id' chars)

theorem decodeFrom_encode (chars : List Char) (index : Nat) :
    decodeFrom index (chars.flatMap String.utf8EncodeChar) = .ok chars := by
  rw [decodeFrom_wellFormed (encode_wellFormed chars) index, characters_of_numbers]

/-- Every text is decoded from its encoding. -/
theorem decode_encode (text : String) : decode (encode text) = .ok text := by
  rw [decode, encode, decodeFrom_encode]
  exact congrArg Except.ok text.ofList_toList

/-! ## Encoding what was decoded -/

section Converse

variable {lead second third fourth : UInt8}

private theorem within_iff {low byte high : UInt8} :
    (low ≤ byte && byte ≤ high) = true ↔ low.toNat ≤ byte.toNat ∧ byte.toNat ≤ high.toNat := by
  simp only [Bool.and_eq_true, decide_eq_true_eq, UInt8.le_iff_toNat_le]

private theorem ofNat_eq {n : Nat} (byte : UInt8) (same : n = byte.toNat) :
    UInt8.ofNat n = byte := by
  rw [same, UInt8.ofNat_toNat]

private theorem number_ofNat {n : Nat} (valid : n.isValidChar) :
    (Char.ofNat n).val.toNat = n := by
  rw [Char.ofNat, dif_pos valid]
  rfl

theorem encodeChar_one (one : lead < 0x80) :
    String.utf8EncodeChar (Char.ofNat lead.toNat) = [lead] := by
  have small : lead.toNat < 128 := UInt8.lt_iff_toNat_lt.mp one
  have number := number_ofNat (n := lead.toNat) (Or.inl (by omega))
  unfold String.utf8EncodeChar
  rw [number]
  dsimp only
  rw [if_pos (by omega), UInt8.ofNat_toNat]

theorem encodeChar_two (two : (0xC2 ≤ lead && lead ≤ 0xDF) = true)
    (continues : isContinuation second = true) :
    String.utf8EncodeChar (Char.ofNat (lead.toNat % 32 * 64 + payload second))
      = [lead, second] := by
  have first : 194 ≤ lead.toNat ∧ lead.toNat ≤ 223 := within_iff.mp two
  have last : 128 ≤ second.toNat ∧ second.toNat ≤ 191 := within_iff.mp continues
  have number := number_ofNat (n := lead.toNat % 32 * 64 + payload second)
    (Or.inl (by unfold payload; omega))
  unfold String.utf8EncodeChar
  rw [number]
  unfold payload
  dsimp only
  rw [if_neg (by omega), if_pos (by omega), ofNat_eq lead (by omega),
    ofNat_eq second (by omega)]

theorem encodeChar_three (three : (0xE0 ≤ lead && lead ≤ 0xEF) = true)
    (allowed : allowsSecondOfThree lead second = true) (continues : isContinuation third = true) :
    String.utf8EncodeChar
        (Char.ofNat (lead.toNat % 16 * 4096 + payload second * 64 + payload third))
      = [lead, second, third] := by
  have first : 224 ≤ lead.toNat ∧ lead.toNat ≤ 239 := within_iff.mp three
  have last : 128 ≤ third.toNat ∧ third.toNat ≤ 191 := within_iff.mp continues
  -- The narrower ranges keep the number out of the two-byte range and off the surrogates.
  have middle : 128 ≤ second.toNat ∧ second.toNat ≤ 191
      ∧ (lead.toNat = 224 -> 160 ≤ second.toNat)
      ∧ (lead.toNat = 237 -> second.toNat ≤ 159) := by
    unfold allowsSecondOfThree at allowed
    split at allowed
    case isTrue overlong =>
      have bounds : 160 ≤ second.toNat ∧ second.toNat ≤ 191 := within_iff.mp allowed
      have same : lead.toNat = 224 := congrArg UInt8.toNat overlong
      omega
    case isFalse plain =>
      have notOverlong : lead.toNat ≠ 224 := fun same => plain (UInt8.toNat_inj.mp same)
      split at allowed
      case isTrue surrogates =>
        have bounds : 128 ≤ second.toNat ∧ second.toNat ≤ 159 := within_iff.mp allowed
        omega
      case isFalse regular =>
        have bounds : 128 ≤ second.toNat ∧ second.toNat ≤ 191 := within_iff.mp allowed
        have notSurrogates : lead.toNat ≠ 237 := fun same => regular (UInt8.toNat_inj.mp same)
        omega
  have number := number_ofNat
    (n := lead.toNat % 16 * 4096 + payload second * 64 + payload third)
    (by unfold payload Nat.isValidChar; omega)
  unfold String.utf8EncodeChar
  rw [number]
  unfold payload
  dsimp only
  rw [if_neg (by omega), if_neg (by omega), if_pos (by omega),
    ofNat_eq lead (by omega), ofNat_eq second (by omega),
    ofNat_eq third (by omega)]

theorem encodeChar_four (four : (0xF0 ≤ lead && lead ≤ 0xF4) = true)
    (allowed : allowsSecondOfFour lead second = true) (continues : isContinuation third = true)
    (continuesToo : isContinuation fourth = true) :
    String.utf8EncodeChar (Char.ofNat (lead.toNat % 8 * 262144 + payload second * 4096
        + payload third * 64 + payload fourth))
      = [lead, second, third, fourth] := by
  have first : 240 ≤ lead.toNat ∧ lead.toNat ≤ 244 := within_iff.mp four
  have next : 128 ≤ third.toNat ∧ third.toNat ≤ 191 := within_iff.mp continues
  have last : 128 ≤ fourth.toNat ∧ fourth.toNat ≤ 191 := within_iff.mp continuesToo
  -- The narrower ranges keep the number above the three-byte range and below the last character.
  have middle : 128 ≤ second.toNat ∧ second.toNat ≤ 191
      ∧ (lead.toNat = 240 -> 144 ≤ second.toNat)
      ∧ (lead.toNat = 244 -> second.toNat ≤ 143) := by
    unfold allowsSecondOfFour at allowed
    split at allowed
    case isTrue overlong =>
      have bounds : 144 ≤ second.toNat ∧ second.toNat ≤ 191 := within_iff.mp allowed
      have same : lead.toNat = 240 := congrArg UInt8.toNat overlong
      omega
    case isFalse plain =>
      have notOverlong : lead.toNat ≠ 240 := fun same => plain (UInt8.toNat_inj.mp same)
      split at allowed
      case isTrue highest =>
        have bounds : 128 ≤ second.toNat ∧ second.toNat ≤ 143 := within_iff.mp allowed
        omega
      case isFalse regular =>
        have bounds : 128 ≤ second.toNat ∧ second.toNat ≤ 191 := within_iff.mp allowed
        have notHighest : lead.toNat ≠ 244 := fun same => regular (UInt8.toNat_inj.mp same)
        omega
  have number := number_ofNat (n := lead.toNat % 8 * 262144 + payload second * 4096
      + payload third * 64 + payload fourth) (by unfold payload Nat.isValidChar; omega)
  unfold String.utf8EncodeChar
  rw [number]
  unfold payload
  dsimp only
  rw [if_neg (by omega), if_neg (by omega), if_neg (by omega),
    ofNat_eq lead (by omega), ofNat_eq second (by omega),
    ofNat_eq third (by omega), ofNat_eq fourth (by omega)]

end Converse

private theorem ok_of_map {c : Char} {result : Except Fault (List Char)} {chars : List Char}
    (read : result.map (c :: ·) = .ok chars) :
    exists later, result = .ok later ∧ chars = c :: later := by
  cases result with
  | ok later =>
      cases read
      exact ⟨later, rfl, rfl⟩
  | error fault => cases read

/-- What is decoded has the encoding from which it was decoded.  There is no other. -/
theorem encode_of_decodeFrom {index : Nat} {bytes : List UInt8} {chars : List Char}
    (read : decodeFrom index bytes = .ok chars) :
    chars.flatMap String.utf8EncodeChar = bytes := by
  fun_induction decodeFrom index bytes generalizing chars with
  | case1 index =>
      cases read
      rfl
  | case2 index lead rest one ih =>
      rcases ok_of_map read with ⟨later, onward, rfl⟩
      rw [List.flatMap_cons, encodeChar_one one, ih onward]
      rfl
  | case5 index lead _ two second rest continues ih =>
      rcases ok_of_map read with ⟨later, onward, rfl⟩
      rw [List.flatMap_cons, encodeChar_two two (by simpa using continues), ih onward]
      rfl
  | case10 index lead _ _ three second allowed third rest continues ih =>
      rcases ok_of_map read with ⟨later, onward, rfl⟩
      rw [List.flatMap_cons, encodeChar_three three (by simpa using allowed)
        (by simpa using continues), ih onward]
      rfl
  | case17 index lead _ _ _ four second allowed third continues fourth rest continuesToo ih =>
      rcases ok_of_map read with ⟨later, onward, rfl⟩
      rw [List.flatMap_cons, encodeChar_four four (by simpa using allowed)
        (by simpa using continues) (by simpa using continuesToo), ih onward]
      rfl
  | _ => cases read

/-- No other bytes are decoded to a text than its encoding. -/
theorem encode_of_decode {bytes : List UInt8} {text : String} (read : decode bytes = .ok text) :
    encode text = bytes := by
  unfold decode at read
  cases decoded : decodeFrom 0 bytes with
  | error fault =>
      rw [decoded] at read
      cases read
  | ok chars =>
      rw [decoded] at read
      cases read
      rw [encode, String.toList_ofList, encode_of_decodeFrom decoded]

/-- The bytes that are decoded to a text are the well-formed ones for its characters. -/
theorem decode_eq_ok_iff {bytes : List UInt8} {text : String} :
    decode bytes = .ok text ↔ WellFormed (text.toList.map Char.toNat) bytes := by
  constructor
  · intro read
    rw [← encode_of_decode read]
    exact encode_wellFormed text.toList
  · intro wellFormed
    rw [decode, decodeFrom_wellFormed wellFormed 0, characters_of_numbers]
    exact congrArg Except.ok text.ofList_toList

end Utf8
end Text
end LineDebugger
