import LineDebugger.Text.Numeral

namespace LineDebugger
namespace Text

/-!
# What a numeral is

The reader of a numeral goes through it once.  Here it is said what it accepts, in terms of the
characters as a whole: they are digits, perhaps after a sign, and the number is the one that
these digits stand for.  Nothing is said about leading zeros, since nothing depends on them.
-/

/-- One or more ASCII digits, with the number that they stand for. -/
structure Digits (chars : List Char) (number : Nat) : Prop where
  present : chars ≠ []
  digits : forall c, c ∈ chars -> c.isDigit = true
  number_eq : number = Nat.ofDigitChars 10 chars 0

/-- Digits with or without a plus sign, with the number that they stand for. -/
inductive UnsignedDigits : List Char -> Nat -> Prop where
  | bare {chars : List Char} {number : Nat} : Digits chars number -> UnsignedDigits chars number
  | plus {chars : List Char} {number : Nat} :
      Digits chars number -> UnsignedDigits ('+' :: chars) number

/-- Digits with or without a sign, with the integer that they stand for. -/
inductive SignedDigits : List Char -> Int -> Prop where
  | bare {chars : List Char} {number : Nat} : Digits chars number -> SignedDigits chars number
  | plus {chars : List Char} {number : Nat} :
      Digits chars number -> SignedDigits ('+' :: chars) number
  | minus {chars : List Char} {number : Nat} :
      Digits chars number -> SignedDigits ('-' :: chars) (-(number : Int))

/-- The decimal digits of a number stand for it. -/
theorem toDigits_digits (number : Nat) : Digits (Nat.toDigits 10 number) number where
  present := Nat.toDigits_ne_nil
  digits := fun _ member => Nat.isDigit_of_mem_toDigits (by decide) (Nat.le_refl 10) member
  number_eq := Nat.ofDigitChars_ten_toDigits.symm

/-- A character that is neither a digit nor a plus sign stands in no numeral. -/
theorem UnsignedDigits.not_mem {chars : List Char} {number : Nat} {c : Char}
    (numeral : UnsignedDigits chars number) (noDigit : c.isDigit = false) (noSign : c ≠ '+') :
    c ∉ chars := by
  cases numeral with
  | bare digits =>
      intro member
      rw [digits.digits c member] at noDigit
      contradiction
  | plus digits =>
      intro member
      rcases List.mem_cons.mp member with sign | member
      · exact noSign sign
      · rw [digits.digits c member] at noDigit
        contradiction

namespace Numeral

theorem digit?_of_isDigit {c : Char} (isDigit : c.isDigit = true) :
    digit? c = some (c.toNat - '0'.toNat) := by
  rw [digit?]
  exact if_pos isDigit

theorem digit?_of_not_isDigit {c : Char} (other : c.isDigit ≠ true) : digit? c = none := by
  rw [digit?]
  exact if_neg other

/-- The induction is on the digits that are left. -/
theorem readDigits_eq_some_iff {chars : List Char} : forall {value number : Nat},
    readDigits value chars = some number ↔
      (forall c, c ∈ chars -> c.isDigit = true) ∧ number = Nat.ofDigitChars 10 chars value := by
  induction chars with
  | nil =>
      intro value number
      rw [readDigits, Option.some_inj, eq_comm]
      exact ⟨fun same => ⟨List.forall_mem_nil _, same⟩, fun read => read.2⟩
  | cons c others inductionHypothesis =>
      intro value number
      rw [readDigits, List.forall_mem_cons, Nat.ofDigitChars_cons]
      by_cases isDigit : c.isDigit = true
      · rw [digit?_of_isDigit isDigit, Option.bind_some, inductionHypothesis, Nat.mul_comm 10]
        exact ⟨fun read => ⟨⟨isDigit, read.1⟩, read.2⟩, fun read => ⟨read.1.2, read.2⟩⟩
      · rw [digit?_of_not_isDigit isDigit, Option.bind_none]
        exact ⟨nofun, fun read => absurd read.1.1 isDigit⟩

theorem digits?_eq_some_iff {chars : List Char} {number : Nat} :
    digits? chars = some number ↔ Digits chars number := by
  cases chars with
  | nil => exact ⟨nofun, fun digits => absurd rfl digits.present⟩
  | cons c others =>
      rw [digits?, readDigits_eq_some_iff]
      exact ⟨fun read => ⟨List.cons_ne_nil c others, read.1, read.2⟩,
        fun digits => ⟨digits.digits, digits.number_eq⟩⟩

theorem map_digits?_eq_some_iff {chars : List Char} {f : Nat -> Int} {value : Int} :
    (digits? chars).map f = some value ↔ exists number, Digits chars number ∧ f number = value := by
  simp only [Option.map_eq_some_iff, digits?_eq_some_iff]

/-- A plus sign is no digit, so the two ways to write a numeral exclude one another. -/
theorem natural?_eq_some_iff {bound value : Nat} {text : String} :
    natural? bound text = some value ↔ UnsignedDigits text.toList value ∧ value ≤ bound := by
  rw [natural?, Option.filter_eq_some_iff, decide_eq_true_eq]
  apply and_congr_left
  intro _
  constructor
  · intro read
    split at read
    · next rest front => exact front ▸ .plus (digits?_eq_some_iff.mp read)
    · exact .bare (digits?_eq_some_iff.mp read)
  · intro numeral
    generalize text.toList = chars at numeral
    cases numeral with
    | bare digits =>
        split
        · exact absurd (digits.digits '+' List.mem_cons_self) (by decide)
        · exact digits?_eq_some_iff.mpr digits
    | plus digits => exact digits?_eq_some_iff.mpr digits

/-- A word of 16 bits is read from the numerals of its value, and from nothing else. -/
theorem word16?_eq_some_iff {text : String} {word : UInt16} :
    word16? text = some word ↔ UnsignedDigits text.toList word.toNat := by
  rw [word16?, Option.map_eq_some_iff]
  constructor
  · rintro ⟨value, read, rfl⟩
    rcases natural?_eq_some_iff.mp read with ⟨numeral, bounded⟩
    rw [UInt16.toNat_ofNat_of_lt' (Nat.lt_succ_of_le bounded)]
    exact numeral
  · intro numeral
    refine ⟨word.toNat, natural?_eq_some_iff.mpr ⟨numeral, ?_⟩, UInt16.ofNat_toNat⟩
    exact Nat.le_pred_of_lt word.toNat_lt

/-- A word of 32 bits is read from the numerals of its value, and from nothing else. -/
theorem word32?_eq_some_iff {text : String} {word : UInt32} :
    word32? text = some word ↔ UnsignedDigits text.toList word.toNat := by
  rw [word32?, Option.map_eq_some_iff]
  constructor
  · rintro ⟨value, read, rfl⟩
    rcases natural?_eq_some_iff.mp read with ⟨numeral, bounded⟩
    rw [UInt32.toNat_ofNat_of_lt' (Nat.lt_succ_of_le bounded)]
    exact numeral
  · intro numeral
    refine ⟨word.toNat, natural?_eq_some_iff.mpr ⟨numeral, ?_⟩, UInt32.ofNat_toNat⟩
    exact Nat.le_pred_of_lt word.toNat_lt

/-- A sign is no digit, so the three ways to write a numeral exclude one another. -/
theorem integer?_eq_some_iff {low high value : Int} {text : String} :
    integer? low high text = some value ↔
      SignedDigits text.toList value ∧ low ≤ value ∧ value ≤ high := by
  rw [integer?, Option.filter_eq_some_iff, Bool.and_eq_true, decide_eq_true_eq, decide_eq_true_eq]
  refine and_congr_left fun _ => ?_
  constructor
  · intro read
    split at read
    · next rest front =>
        obtain ⟨number, digits, rfl⟩ := map_digits?_eq_some_iff.mp read
        exact front ▸ .plus digits
    · next rest front =>
        obtain ⟨number, digits, rfl⟩ := map_digits?_eq_some_iff.mp read
        exact front ▸ .minus digits
    · obtain ⟨number, digits, rfl⟩ := map_digits?_eq_some_iff.mp read
      exact .bare digits
  · intro numeral
    generalize text.toList = chars at numeral
    cases numeral with
    | @bare _ number digits =>
        split
        · exact absurd (digits.digits '+' List.mem_cons_self) (by decide)
        · exact absurd (digits.digits '-' List.mem_cons_self) (by decide)
        · exact map_digits?_eq_some_iff.mpr ⟨number, digits, rfl⟩
    | @plus _ number digits => exact map_digits?_eq_some_iff.mpr ⟨number, digits, rfl⟩
    | @minus _ number digits => exact map_digits?_eq_some_iff.mpr ⟨number, digits, rfl⟩

/-- A signed word of 64 bits is read from the numerals of its value, and from nothing else. -/
theorem signed64?_eq_some_iff {text : String} {word : Int64} :
    signed64? text = some word ↔ SignedDigits text.toList word.toInt := by
  rw [signed64?, Option.map_eq_some_iff]
  constructor
  · rintro ⟨value, read, rfl⟩
    obtain ⟨numeral, low, high⟩ := integer?_eq_some_iff.mp read
    rw [Int64.toInt_minValue] at low
    rw [Int64.toInt_maxValue] at high
    rw [Int64.toInt_ofInt_of_le low (by omega)]
    exact numeral
  · intro numeral
    exact ⟨word.toInt, integer?_eq_some_iff.mpr ⟨numeral, word.minValue_le_toInt, word.toInt_le⟩,
      Int64.ofInt_toInt word⟩

theorem signed64?_eq_none_iff {text : String} :
    signed64? text = none ↔ forall word : Int64, ¬ SignedDigits text.toList word.toInt := by
  rw [Option.eq_none_iff_forall_ne_some]
  exact forall_congr' fun word => not_congr signed64?_eq_some_iff

end Numeral

/-- A numeral stands for one word. -/
theorem SignedDigits.unique {text : String} {word other : Int64}
    (numeral : SignedDigits text.toList word.toInt)
    (alsoNumeral : SignedDigits text.toList other.toInt) : word = other :=
  Option.some.inj ((Numeral.signed64?_eq_some_iff.mpr numeral).symm.trans
    (Numeral.signed64?_eq_some_iff.mpr alsoNumeral))

end Text
end LineDebugger
