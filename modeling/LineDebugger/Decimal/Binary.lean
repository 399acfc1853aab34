namespace LineDebugger
namespace Decimal

/-!
# Binary floating-point formats

A format says how many bits hold the fraction and how many the exponent.  `decode`
takes bits apart exactly, into a whole number times a power of two.  `encode` rounds a
quotient of whole numbers to the nearest value of the format, a tie to the one with an
even last bit.  All arithmetic is on whole numbers, so nothing depends on the machine.
-/

-- Powers are those of the core library, whatever else is in scope.
attribute [local instance (high)] instPowNat

/-- A binary interchange format. -/
structure BinaryFormat where
  fractionBits : Nat
  exponentBits : Nat
  deriving DecidableEq, Repr

namespace BinaryFormat

/-- The format of 32 bits. -/
def single : BinaryFormat := ⟨23, 8⟩

/-- The format of 64 bits. -/
def double : BinaryFormat := ⟨52, 11⟩

/-- The exponent of the last place of the smallest values. -/
def lowestExponent (format : BinaryFormat) : Int :=
  2 - 2 ^ (format.exponentBits - 1) - format.fractionBits

/-- The exponent field of infinities and of values that are no numbers. -/
def specialField (format : BinaryFormat) : Nat := 2 ^ format.exponentBits - 1

end BinaryFormat

/-- What bits mean.  A finite number is its significand times two to the exponent. -/
inductive Decoded where
  | notANumber
  | infinite (negative : Bool)
  | finite (negative : Bool) (significand : Nat) (exponent : Int)
  deriving DecidableEq, Repr

namespace BinaryFormat

/-- Take bits apart. -/
def decode (format : BinaryFormat) (bits : Nat) : Decoded :=
  let fraction := bits % 2 ^ format.fractionBits
  let field := bits / 2 ^ format.fractionBits % 2 ^ format.exponentBits
  let negative := bits / 2 ^ (format.fractionBits + format.exponentBits) % 2 == 1
  if field = format.specialField then
    if fraction = 0 then .infinite negative else .notANumber
  else if field = 0 then .finite negative fraction format.lowestExponent
  else
    .finite negative (2 ^ format.fractionBits + fraction)
      (format.lowestExponent + (field - 1 : Nat))

/-- The bits of the sign. -/
def signBits (format : BinaryFormat) (negative : Bool) : Nat :=
  if negative then 2 ^ (format.fractionBits + format.exponentBits) else 0

end BinaryFormat

/-- The whole number nearest to a quotient, a tie going to the even one. -/
def roundQuotient (num den : Nat) : Nat :=
  let whole := num / den
  let rest := 2 * (num % den)
  if rest < den then whole
  else if den < rest then whole + 1
  else whole + whole % 2

/-- A quotient times two to a power, as a quotient. -/
def scaleByTwo (num den : Nat) (exponent : Int) : Nat × Nat :=
  if 0 ≤ exponent then (num * 2 ^ exponent.toNat, den) else (num, den * 2 ^ (-exponent).toNat)

/-- The greatest power of two not above a positive quotient. -/
def floorLog2 (num den : Nat) : Int :=
  let guess : Int := (Nat.log2 num : Int) - Nat.log2 den
  let (num, den) := scaleByTwo num den (-guess)
  if num < den then guess - 1 else guess

namespace BinaryFormat

/-- The bits of the value nearest to a quotient.  Too large a quotient becomes an
infinity. -/
def encode (format : BinaryFormat) (negative : Bool) (num den : Nat) : Nat :=
  if num = 0 then format.signBits negative
  else
    let exponent := max format.lowestExponent (floorLog2 num den - format.fractionBits)
    let (num, den) := scaleByTwo num den (-exponent)
    let magnitude := (exponent - format.lowestExponent).toNat * 2 ^ format.fractionBits
      + roundQuotient num den
    let infinity := format.specialField * 2 ^ format.fractionBits
    format.signBits negative + min magnitude infinity

/-- The bits of an infinity. -/
def infinityBits (format : BinaryFormat) (negative : Bool) : Nat :=
  format.signBits negative + format.specialField * 2 ^ format.fractionBits

/-- The bits of a value that is no number. -/
def notANumberBits (format : BinaryFormat) : Nat :=
  format.specialField * 2 ^ format.fractionBits + 2 ^ (format.fractionBits - 1)

/-- Restate a value in another format, rounding if it does not fit. -/
def convert (source destination : BinaryFormat) (bits : Nat) : Nat :=
  match source.decode bits with
  | .notANumber => destination.notANumberBits
  | .infinite negative => destination.infinityBits negative
  | .finite negative significand exponent =>
      let (num, den) := scaleByTwo significand 1 exponent
      destination.encode negative num den

end BinaryFormat

/-- The value of 64 bits that equals a value of 32 bits. -/
def widen (bits : UInt32) : UInt64 :=
  UInt64.ofNat (BinaryFormat.single.convert .double bits.toNat)

/-- The value of 32 bits nearest to a value of 64 bits. -/
def narrow (bits : UInt64) : UInt32 :=
  UInt32.ofNat (BinaryFormat.double.convert .single bits.toNat)

end Decimal
end LineDebugger
