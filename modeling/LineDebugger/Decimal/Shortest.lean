import LineDebugger.Decimal.Binary

namespace LineDebugger
namespace Decimal

/-!
# The fewest digits that read back

A finite binary value stands for an interval of real numbers: all those that round to
it.  Its shortest decimal is the one with the fewest digits in that interval, and of
those the nearest to the value.  The search tries one digit, two digits, and so on; on
each decimal grid only the two neighbours of the value need to be tried, since a grid
point in the interval implies a neighbour in it.
-/

-- Powers are those of the core library, whatever else is in scope.
attribute [local instance (high)] instPowNat

/-- Which of two equally near decimals is taken. -/
inductive Tie where
  | upward
  | toEven
  deriving DecidableEq, Repr

/-- A decimal: its digits as a whole number, times ten to the exponent. -/
structure Digits where
  digits : Nat
  exponent : Int
  deriving DecidableEq, Repr

/-- The interval of reals that round to a value, over a common denominator: its lower
end, the value itself and its upper end, and whether the ends belong to it. -/
structure Interval where
  low : Nat
  value : Nat
  high : Nat
  den : Nat
  closed : Bool
  deriving DecidableEq, Repr

namespace Interval

/-- The interval of a positive finite value.  Below a power of two the neighbouring
value is only half as far away as above it. -/
def of (format : BinaryFormat) (significand : Nat) (exponent : Int) : Interval :=
  let nearerBelow := significand = 2 ^ format.fractionBits
    ∧ format.lowestExponent < exponent
  let quarters := 4 * significand
  let (unit, den) := scaleByTwo 1 1 (exponent - 2)
  { low := (quarters - if nearerBelow then 1 else 2) * unit
    value := quarters * unit
    high := (quarters + 2) * unit
    den
    closed := significand % 2 = 0 }

/-- Whether a point with this numerator lies in the interval. -/
def contains (interval : Interval) (num : Nat) : Bool :=
  if interval.closed then interval.low ≤ num && num ≤ interval.high
  else interval.low < num && num < interval.high

/-- The interval with every number multiplied by ten to a power, numerators and
denominator apart, so that points of the grid are whole multiples of the denominator. -/
def onGrid (interval : Interval) (exponent : Int) : Interval :=
  if 0 ≤ exponent then { interval with den := interval.den * 10 ^ exponent.toNat }
  else
    let factor := 10 ^ (-exponent).toNat
    { interval with
      low := interval.low * factor
      value := interval.value * factor
      high := interval.high * factor }

/-- The better of the two grid points next to the value, if either reads back. -/
def nearest (interval : Interval) (tie : Tie) : Option Nat :=
  let below := interval.value / interval.den
  let above := below + 1
  let gap := 2 * (interval.value % interval.den)
  match interval.contains (below * interval.den), interval.contains (above * interval.den) with
  | false, false => none
  | true, false => some below
  | false, true => some above
  | true, true =>
      if gap < interval.den then some below
      else if interval.den < gap then some above
      else match tie with
        | .upward => some above
        | .toEven => some (if below % 2 = 0 then below else above)

end Interval

/-- The count of decimal digits of a number. -/
def digitCount (n : Nat) : Nat := (Nat.toDigits 10 n).length

/-- The greatest power of ten not above a positive quotient. -/
def floorLog10 (num den : Nat) : Int :=
  let guess : Int := (digitCount num : Int) - digitCount den
  let reached :=
    if 0 ≤ guess then den * 10 ^ guess.toNat ≤ num
    else den ≤ num * 10 ^ (-guess).toNat
  if reached then guess else guess - 1

/-- Take the zeros off the end of the digits. -/
def dropZeros (digits : Nat) (exponent : Int) : (fuel : Nat) -> Digits
  | 0 => ⟨digits, exponent⟩
  | fuel + 1 =>
      if digits % 10 = 0 ∧ digits ≠ 0 then dropZeros (digits / 10) (exponent + 1) fuel
      else ⟨digits, exponent⟩

/-- Try `count` digits, then one more, as often as `tries` says. -/
def searchFrom (interval : Interval) (tie : Tie) (top : Int) (count : Nat) :
    (tries : Nat) -> Option Digits
  | 0 => none
  | tries + 1 =>
      let exponent := top - count + 1
      match (interval.onGrid exponent).nearest tie with
      | some digits => some (dropZeros digits exponent (digitCount digits))
      | none => searchFrom interval tie top (count + 1) tries

/-- The shortest decimal of a positive finite value.  Seventeen digits are enough for
every value of either format. -/
def shortest (format : BinaryFormat) (tie : Tie) (significand : Nat) (exponent : Int) :
    Digits :=
  let interval := Interval.of format significand exponent
  let top := floorLog10 interval.value interval.den
  (searchFrom interval tie top 1 17).getD ⟨0, 0⟩

end Decimal
end LineDebugger
