import LineDebugger.Decimal.Binary
import LineDebugger.Json.Document

namespace LineDebugger
namespace Json

open Decimal

/-!
# Numbers in JSON

A numeral is cut into its parts first.  Integers that fit into 64 bits keep their exact
value.  Every other number becomes a floating-point number in two rounding steps: as
many leading digits as fit into 64 bits are taken as a whole number, which is then
multiplied or divided by a power of ten.  A result that is too large is a fault.
-/

-- Powers are those of the core library, whatever else is in scope.
attribute [local instance (high)] instPowNat

/-- The parts of a numeral: digits of the whole part and of the fraction, and the sign
and digits of the exponent. -/
structure Numeral where
  negative : Bool
  whole : List Nat
  fraction : List Nat := []
  exponent : Option (Bool × List Nat) := none
  deriving DecidableEq, Repr

namespace Numeral

/-- The greatest whole number of 64 bits. -/
def maxWord : Nat := UInt64.size - 1

/-- Append digits to a whole number as long as it fits into 64 bits.  The digits that no
longer fit are left. -/
def absorb (significand : Nat) : List Nat -> Nat × List Nat
  | [] => (significand, [])
  | digit :: others =>
      if maxWord < significand * 10 + digit then (significand, digit :: others)
      else absorb (significand * 10 + digit) others

/-- The number that digits write, whatever its size. -/
def digitsValue (digits : List Nat) : Nat :=
  digits.foldl (fun value digit => value * 10 + digit) 0

/-- The greatest power of ten among the floating-point numbers. -/
def greatestPower : Nat := 308

/-- A floating-point number times or divided by a power of ten not above the greatest. -/
def scaleOnce (bits : Nat) (divide : Bool) (power : Nat) : Nat :=
  let factor := BinaryFormat.double.encode false (10 ^ power) 1
  match BinaryFormat.double.decode bits, BinaryFormat.double.decode factor with
  | .finite _ left leftExponent, .finite _ right rightExponent =>
      let (num, den) :=
        if divide then
          let (num, den) := scaleByTwo left right (leftExponent - rightExponent)
          (num, den)
        else scaleByTwo (left * right) 1 (leftExponent + rightExponent)
      BinaryFormat.double.encode false num den
  | _, _ => bits

/-- Scale by a power of ten of any size, at most the greatest at a time.  Zero stays
zero and needs no further step. -/
def scale (bits : Nat) (exponent : Int) : (fuel : Nat) -> Except Fault Nat
  | 0 => .ok bits
  | fuel + 1 =>
      if exponent.natAbs ≤ greatestPower then
        let scaled := scaleOnce bits (exponent < 0) exponent.natAbs
        if scaled = BinaryFormat.double.infinityBits false then .error .malformed
        else .ok scaled
      else if bits = 0 then .ok bits
      else if 0 ≤ exponent then .error .malformed
      else scale (scaleOnce bits true greatestPower) (exponent + greatestPower) fuel

/-- The floating-point number with this sign, significand and decimal exponent. -/
def float (negative : Bool) (significand : Nat) (exponent : Int) : Except Fault Number := do
  let bits := BinaryFormat.double.encode false significand 1
  let magnitude ← scale bits exponent (exponent.natAbs / greatestPower + 1)
  return .float (UInt64.ofNat (BinaryFormat.double.signBits negative + magnitude))

/-- The greatest exponent that is taken at its word. -/
def maxExponent : Nat := 0x7fffffff

/-- The value of a numeral with fraction or exponent, or of an integer that does not fit. -/
def floatValue (numeral : Numeral) : Except Fault Number :=
  let (significand, overflow) := absorb 0 numeral.whole
  let (significand, unread) := absorb significand numeral.fraction
  let shift : Int := (overflow.length : Int) - (numeral.fraction.length - unread.length : Nat)
  match numeral.exponent with
  | none => float numeral.negative significand shift
  | some (minus, digits) =>
      let exponent := digitsValue digits
      if maxExponent < exponent then
        if significand ≠ 0 ∧ !minus then .error .malformed
        else float numeral.negative 0 0
      else float numeral.negative significand
        (if minus then shift - exponent else shift + exponent)

/-- The value of a numeral.  Minus zero is no integer. -/
def value (numeral : Numeral) : Except Fault Number :=
  if numeral.fraction.isEmpty ∧ numeral.exponent.isNone then
    let magnitude := digitsValue numeral.whole
    if numeral.negative then
      if 0 < magnitude ∧ Int64.minValue.toInt ≤ -(magnitude : Int) then
        .ok (.negative (-(magnitude : Int)))
      else numeral.floatValue
    else if magnitude ≤ maxWord then .ok (.natural magnitude)
    else numeral.floatValue
  else numeral.floatValue

end Numeral
end Json
end LineDebugger
