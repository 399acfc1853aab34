namespace LineDebugger
namespace Text

/-!
# Decimal and hexadecimal numerals

A numeral that an operator or a command line may write is an optional sign and one or
more ASCII digits, nothing else.  Its value is read as an unbounded number first and
compared with the bound afterwards, so any number of leading zeros is harmless.
-/

namespace Numeral

/-- The value of a digit, for ASCII digits only. -/
def digit? (c : Char) : Option Nat :=
  if '0' ≤ c && c ≤ '9' then some (c.toNat - '0'.toNat) else none

/-- Read further digits after those that make up `value`. -/
def readDigits (value : Nat) : List Char -> Option Nat
  | [] => some value
  | c :: rest => (digit? c).bind fun d => readDigits (value * 10 + d) rest

/-- The number written by one or more digits. -/
def digits? : List Char -> Option Nat
  | [] => none
  | c :: rest => readDigits 0 (c :: rest)

/-- An unsigned numeral not above `bound`.  A plus sign is allowed, a minus sign is
not, not even before zero. -/
def natural? (bound : Nat) (text : String) : Option Nat :=
  let value := match text.toList with
    | '+' :: rest => digits? rest
    | chars => digits? chars
  value.filter (· ≤ bound)

/-- A signed numeral between `low` and `high`, both included. -/
def integer? (low high : Int) (text : String) : Option Int :=
  let value : Option Int := match text.toList with
    | '+' :: rest => (digits? rest).map Int.ofNat
    | '-' :: rest => (digits? rest).map fun n => -(Int.ofNat n)
    | chars => (digits? chars).map Int.ofNat
  value.filter fun n => low ≤ n && n ≤ high

/-- A line number, port or other word of 32 bits. -/
def word32? (text : String) : Option UInt32 :=
  (natural? (UInt32.size - 1) text).map UInt32.ofNat

/-- A word of 16 bits. -/
def word16? (text : String) : Option UInt16 :=
  (natural? (UInt16.size - 1) text).map UInt16.ofNat

/-- A signed word of 64 bits. -/
def signed64? (text : String) : Option Int64 :=
  (integer? Int64.minValue.toInt Int64.maxValue.toInt text).map Int64.ofInt

/-- Lower-case hexadecimal, without leading zeros. -/
def hex (value : Nat) : String := String.ofList (Nat.toDigits 16 value)

/-- Lower-case hexadecimal with at least `width` digits. -/
def paddedHex (width value : Nat) : String :=
  let digits := Nat.toDigits 16 value
  String.ofList (List.replicate (width - digits.length) '0' ++ digits)

end Numeral
end Text
end LineDebugger
