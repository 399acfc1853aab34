import LineDebugger.Json.Datum
import LineDebugger.Json.Parser
import LineDebugger.Proofs.Text.Numeral
import Mathlib.Tactic.SplitIfs

namespace LineDebugger
namespace Json

/-!
# How texts and integers are spelled

A text is spelled character by character, with escapes for quotes, backslashes and controls.
Whoever reads the spelling of a character finds that character, whatever comes behind it, and
whoever passes over it comes out behind it.  So both meet the closing quote at the same place.

An integer is spelled by its decimal digits, without zeros in front of them.  A numeral has no
closing sign: it ends where something stands that no numeral goes on with.  In a document that is
a comma, a closing bracket, or the end.
-/

/-! ## Texts -/

/-- The ways to spell a character inside a text. -/
inductive Spells (c : Char) : List Char -> Prop where
  /-- Neither a quote, nor a backslash, nor a control. -/
  | plain (notQuote : c ≠ '"') (notSlash : c ≠ '\\') (notControl : 0x20 ≤ c.toNat) : Spells c [c]
  /-- A letter after a backslash. -/
  | letter {letter : Char} (notUnit : letter ≠ 'u') (stands : escapedChar? letter = some c) :
      Spells c ['\\', letter]
  /-- The number of the character, which is no half of a pair. -/
  | unit {i j k l : Char} (number : hexUnit? i j k l = some c.toNat) (whole : c.toNat < 0xD800) :
      Spells c ['\\', 'u', i, j, k, l]

namespace Spells

variable {c : Char} {spelling : List Char}

theorem read (spells : Spells c spelling) (rest : List Char) :
    readText (spelling ++ rest) = (readText rest).map (c :: ·) := by
  cases spells with
  | plain notQuote notSlash notControl =>
      rw [List.singleton_append, readText.eq_def]
      dsimp only
      rw [if_neg notQuote, if_neg (Nat.not_lt.mpr notControl), if_pos notSlash]
  | @letter letter notUnit stands =>
      rw [List.cons_append, List.singleton_append, readText.eq_def]
      dsimp only
      rw [if_neg (by decide), if_neg (by decide), if_neg (by decide), if_neg notUnit, stands]
  | unit number whole =>
      have notTrailing : isTrailing c.toNat = false := by
        rw [isTrailing, Bool.and_eq_false_iff, decide_eq_false_iff_not]
        omega
      have notLeading : isLeading c.toNat = false := by
        rw [isLeading, Bool.and_eq_false_iff, decide_eq_false_iff_not]
        omega
      simp only [List.cons_append, List.nil_append]
      rw [readText.eq_def]
      dsimp only
      rw [if_neg (by decide), if_neg (by decide), if_neg (by decide), if_pos rfl, number]
      dsimp only
      rw [notTrailing, notLeading, if_neg Bool.false_ne_true, if_neg Bool.false_ne_true,
        Char.ofNat_toNat]

theorem pass (spells : Spells c spelling) (rest : List Char) :
    passText (spelling ++ rest) = passText rest := by
  cases spells with
  | plain notQuote notSlash notControl =>
      rw [List.singleton_append, passText.eq_def]
      dsimp only
      rw [if_neg notQuote, if_neg (Nat.not_lt.mpr notControl), if_pos notSlash]
  | letter notUnit stands =>
      rw [List.cons_append, List.singleton_append, passText.eq_def]
      dsimp only
      rw [if_neg (by decide), if_neg (by decide), if_neg (by decide), if_neg notUnit, stands]
      rfl
  | unit number whole =>
      simp only [List.cons_append, List.nil_append]
      rw [passText.eq_def]
      dsimp only
      rw [if_neg (by decide), if_neg (by decide), if_neg (by decide), if_pos rfl, number]
      rfl

end Spells

theorem hexDigit?_digitChar :
    forall digit, digit < 16 -> hexDigit? (Nat.digitChar digit) = some digit := by
  decide

/-- The numbers of controls have two digits after the zeros in front. -/
theorem paddedHex_control {number : Nat} (control : number < 0x20) :
    (Text.Numeral.paddedHex 4 number).toList
      = ['0', '0', Nat.digitChar (number / 16), Nat.digitChar (number % 16)] := by
  rw [Text.Numeral.paddedHex, String.toList_ofList]
  by_cases one : number < 16
  · rw [Nat.toDigits_of_lt_base one, Nat.div_eq_of_lt one, Nat.mod_eq_of_lt one]
    rfl
  · have upper : number / 16 < 16 := by omega
    rw [Nat.toDigits_of_base_le (by decide) (by omega), Nat.toDigits_of_lt_base upper]
    rfl

theorem control_spells {c : Char} (control : c.toNat < 0x20) :
    Spells c ("\\u" ++ Text.Numeral.paddedHex 4 c.toNat).toList := by
  rw [String.toList_append, paddedHex_control control]
  refine .unit ?_ (Nat.lt_trans control (by decide))
  rw [hexUnit?, show hexDigit? '0' = some 0 from rfl, hexDigit?_digitChar _ (by omega),
    hexDigit?_digitChar _ (by omega)]
  refine congrArg some ?_
  omega

theorem jsonChar_spells (c : Char) : Spells c (Datum.jsonChar c).toList := by
  rw [Datum.jsonChar]
  split_ifs with quote slash backspace feed line carriage tab control
  · exact quote ▸ .letter (by decide) rfl
  · exact slash ▸ .letter (by decide) rfl
  · exact backspace ▸ .letter (by decide) rfl
  · exact feed ▸ .letter (by decide) rfl
  · exact line ▸ .letter (by decide) rfl
  · exact carriage ▸ .letter (by decide) rfl
  · exact tab ▸ .letter (by decide) rfl
  · exact control_spells control
  · rw [String.toList_singleton]
    exact .plain quote slash (Nat.le_of_not_lt control)

/-- The characters between the quotes of a text. -/
def spelling (characters : List Char) : List Char :=
  characters.flatMap fun c => (Datum.jsonChar c).toList

theorem toList_jsonText (text : String) :
    (Datum.jsonText text).toList = '"' :: (spelling text.toList ++ ['"']) := by
  rw [Datum.jsonText, String.toList_append, String.toList_append, String.toList_join,
    List.flatMap_map]
  rfl

/-- The induction is on the characters of the text. -/
theorem readText_spelling (characters rest : List Char) :
    readText (spelling characters ++ '"' :: rest) = .ok characters := by
  induction characters with
  | nil => rw [spelling, List.flatMap_nil, List.nil_append, readText.eq_def]; rfl
  | cons c others ih =>
      rw [spelling, List.flatMap_cons, List.append_assoc, (jsonChar_spells c).read]
      change (readText (spelling others ++ '"' :: rest)).map _ = _
      rw [ih]
      rfl

/-- The induction is on the characters of the text. -/
theorem passText_spelling (characters rest : List Char) :
    passText (spelling characters ++ '"' :: rest) = .ok rest := by
  induction characters with
  | nil => rw [spelling, List.flatMap_nil, List.nil_append, passText.eq_def]; rfl
  | cons c others ih =>
      rw [spelling, List.flatMap_cons, List.append_assoc, (jsonChar_spells c).pass]
      exact ih

/-! ## Integers -/

/-- What may stand behind a value: nothing, a comma or a closing bracket. -/
def Ends (rest : List Char) : Prop :=
  forall c, rest.head? = some c -> c = ',' ∨ c = ']' ∨ c = '\x7d'

theorem ends_nil : Ends [] := fun _ nothing => nomatch nothing

theorem ends_cons {c : Char} (ending : c = ',' ∨ c = ']' ∨ c = '\x7d') (rest : List Char) :
    Ends (c :: rest) := by
  intro first same
  cases same
  exact ending

/-- The value of a character that is a digit. -/
def digitValue (c : Char) : Nat := c.toNat - '0'.toNat

theorem eq_zero_of_digitValue {c : Char} (isDigit : c.isDigit = true) (zero : digitValue c = 0) :
    c = '0' := by
  rw [Char.isDigit, Bool.and_eq_true, decide_eq_true_eq, decide_eq_true_eq, ge_iff_le,
    UInt32.le_iff_toNat_le] at isDigit
  have low : '0'.toNat ≤ c.toNat := isDigit.1
  have same : c.toNat = '0'.toNat := Nat.le_antisymm (Nat.sub_eq_zero_iff_le.mp zero) low
  rw [← Char.ofNat_toNat c, same]
  rfl

/-- The digits at the front are taken up to the end of the numeral.  The induction is on the
digits. -/
theorem takeDigits_append {digits rest : List Char} (all : forall c, c ∈ digits -> c.isDigit = true)
    (ends : Ends rest) : takeDigits (digits ++ rest) = (digits.map digitValue, rest) := by
  induction digits with
  | nil =>
      cases rest with
      | nil => rfl
      | cons c others =>
          have none : Text.Numeral.digit? c = none := by
            rcases ends c rfl with rfl | rfl | rfl <;> rfl
          rw [List.nil_append, takeDigits, none]
          rfl
  | cons c others ih =>
      rw [List.cons_append, takeDigits,
        Text.Numeral.digit?_of_isDigit (all c List.mem_cons_self),
        ih fun other later => all other (List.mem_cons_of_mem c later)]
      rfl

namespace Numeral

/-- The values of the digits of a number. -/
def digitsOf (number : Nat) : List Nat := (Nat.toDigits 10 number).map digitValue

theorem digitsValue_digitsOf (number : Nat) : digitsValue (digitsOf number) = number := by
  rw [digitsValue, digitsOf, List.foldl_map]
  refine Eq.trans ?_ (Nat.ofDigitChars_ten_toDigits (n := number))
  rw [Nat.ofDigitChars]
  refine congrArg (fun step => List.foldl step 0 _) (funext fun value => funext fun c => ?_)
  rw [Nat.mul_comm]
  rfl

end Numeral

/-- No number but zero has a zero in front.  The induction follows the division by ten. -/
theorem toDigits_zero_front {number : Nat} {others : List Char}
    (front : Nat.toDigits 10 number = '0' :: others) : others = [] := by
  induction number using Nat.strongRecOn generalizing others with
  | ind number ih =>
      by_cases one : number < 10
      · rw [Nat.toDigits_of_lt_base one] at front
        exact (List.cons.inj front).2.symm
      · rw [Nat.toDigits_of_base_le (by decide) (by omega)] at front
        cases upper : Nat.toDigits 10 (number / 10) with
        | nil => exact absurd upper Nat.toDigits_ne_nil
        | cons c later =>
            rw [upper, List.cons_append] at front
            cases (List.cons.inj front).1
            cases ih (number / 10) (by omega) upper
            have zero : number / 10 = 0 := by
              rw [← Nat.ofDigitChars_ten_toDigits (n := number / 10), upper]
              rfl
            omega

theorem isDigit_of_mem {number : Nat} {c : Char} (present : c ∈ Nat.toDigits 10 number) :
    c.isDigit = true :=
  Nat.isDigit_of_mem_toDigits (by decide) (by decide) present

theorem scanFraction_of_ends (numeral : Numeral) {rest : List Char} (ends : Ends rest) :
    scanFraction numeral rest = .ok (numeral, rest) := by
  cases rest with
  | nil => rfl
  | cons c others => rcases ends c rfl with rfl | rfl | rfl <;> rfl

theorem scanNumeral_digits (negative : Bool) (number : Nat) {rest : List Char} (ends : Ends rest) :
    scanNumeral negative (Nat.toDigits 10 number ++ rest)
      = .ok ({ negative, whole := Numeral.digitsOf number }, rest) := by
  have all : forall c, c ∈ Nat.toDigits 10 number -> c.isDigit = true :=
    fun _ => isDigit_of_mem
  rw [scanNumeral, takeDigits_append all ends, Numeral.digitsOf]
  cases digits : Nat.toDigits 10 number with
  | nil => exact absurd digits Nat.toDigits_ne_nil
  | cons c others =>
      rw [digits] at all
      rw [List.map_cons]
      split
      · next empty => cases empty
      · next front =>
          injection front with whole _
          injection whole with zero more
          cases eq_zero_of_digitValue (all c List.mem_cons_self) zero
          rw [toDigits_zero_front digits] at more
          cases more
      · next _ whole rest' _ _ whole =>
          cases whole
          exact scanFraction_of_ends _ ends

namespace Numeral

/-- A numeral without sign is a natural number if it fits into 64 bits. -/
theorem value_natural {number : Nat} (fits : number ≤ maxWord) :
    value { negative := false, whole := digitsOf number } = .ok (.natural number) := by
  rw [value, if_pos ⟨rfl, rfl⟩]
  dsimp only
  rw [digitsValue_digitsOf, if_neg Bool.false_ne_true, if_pos fits]

/-- A numeral with a sign is a negative number if it fits into 64 bits. -/
theorem value_negative {number : Nat} (positive : 0 < number)
    (fits : Int64.minValue.toInt ≤ -(number : Int)) :
    value { negative := true, whole := digitsOf number } = .ok (.negative (-(number : Int))) := by
  rw [value, if_pos ⟨rfl, rfl⟩]
  dsimp only
  rw [digitsValue_digitsOf, if_pos rfl, if_pos ⟨positive, fits⟩]

end Numeral
end Json
end LineDebugger
