import LineDebugger.Decimal.Shortest

namespace LineDebugger
namespace Decimal

/-!
# Writing decimals

How a number is laid out is decided by a `Layout`: when the digits stand around a plain
decimal point and when an exponent follows them, what marks a whole number, and what is
written for values that are no finite numbers.  The three layouts in use are given at
the end.
-/

/-- The decisions of one way to write numbers. -/
structure Layout where
  /-- Whether a number with this scientific exponent is written without exponent. -/
  positional : Int -> Bool
  /-- What follows a whole number. -/
  wholeMark : String
  /-- What precedes an exponent that is not negative. -/
  plusMark : String
  tie : Tie
  infinity : String
  notANumber : String
  signsInfinity : Bool

namespace Layout

/-- Digits around a plain decimal point. -/
def positionalText (layout : Layout) (decimal : Digits) : String :=
  let digits := Nat.toDigits 10 decimal.digits
  let point : Int := digits.length + decimal.exponent
  if 0 ≤ decimal.exponent then
    String.ofList (digits ++ List.replicate decimal.exponent.toNat '0') ++ layout.wholeMark
  else if 0 < point then
    String.ofList (digits.take point.toNat ++ '.' :: digits.drop point.toNat)
  else
    String.ofList ('0' :: '.' :: (List.replicate (-point).toNat '0' ++ digits))

/-- One digit before the point and an exponent after the others. -/
def scientificText (layout : Layout) (decimal : Digits) : String :=
  let digits := Nat.toDigits 10 decimal.digits
  let exponent : Int := decimal.exponent + digits.length - 1
  let mantissa := match digits with
    | [] => []
    | [digit] => [digit]
    | digit :: others => digit :: '.' :: others
  let sign := if 0 ≤ exponent then layout.plusMark else "-"
  String.ofList mantissa ++ "e" ++ sign ++ String.ofList (Nat.toDigits 10 exponent.natAbs)

/-- A decimal that is not negative. -/
def magnitudeText (layout : Layout) (decimal : Digits) : String :=
  if layout.positional (decimal.exponent + digitCount decimal.digits - 1) then
    layout.positionalText decimal
  else layout.scientificText decimal

/-- The text of a value, by the fewest digits that read back. -/
def text (layout : Layout) (format : BinaryFormat) (bits : Nat) : String :=
  let sign (negative : Bool) := if negative then "-" else ""
  match format.decode bits with
  | .notANumber => layout.notANumber
  | .infinite negative =>
      (if layout.signsInfinity then sign negative else "") ++ layout.infinity
  | .finite negative significand exponent =>
      let decimal :=
        if significand = 0 then ⟨0, 0⟩
        else shortest format layout.tie significand exponent
      sign negative ++ layout.magnitudeText decimal

end Layout

/-- What the operator sees: never an exponent, and no mark on whole numbers. -/
def plain : Layout where
  positional _ := true
  wholeMark := ""
  plusMark := ""
  tie := .upward
  infinity := "inf"
  notANumber := "NaN"
  signsInfinity := true

/-- What diagnostics of records show: an exponent outside of a band around one. -/
def diagnostic : Layout where
  positional exponent := -4 ≤ exponent && exponent < 16
  wholeMark := ".0"
  plusMark := ""
  tie := .upward
  infinity := "inf"
  notANumber := "NaN"
  signsInfinity := true

/-- What the JSON form of a value of 32 bits shows.  JSON has no words for infinities
and for values that are no numbers. -/
def exchange : Layout where
  positional exponent := -6 ≤ exponent && exponent ≤ 12
  wholeMark := ".0"
  plusMark := "+"
  tie := .toEven
  infinity := "null"
  notANumber := "null"
  signsInfinity := false

/-- The operator's text of a value of 64 bits. -/
def doubleText (bits : UInt64) : String := plain.text .double bits.toNat

end Decimal
end LineDebugger
