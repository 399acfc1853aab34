namespace LineDebugger
namespace Wire

/-!
# Big-endian words

Every number on the wire is a fixed count of bytes, the most significant first.
Both directions go through natural numbers: signed words are written by the unsigned
word with the same bits.
-/

-- Powers are those of the core library, whatever else is in scope.
attribute [local instance (high)] instPowNat

namespace Word

/-- The number whose big-endian bytes are given. -/
def ofBytes (bytes : List UInt8) : Nat :=
  bytes.foldl (fun value byte => value * 256 + byte.toNat) 0

/-- The lowest `width` bytes of a number, the most significant first. -/
def toBytes : (width value : Nat) -> List UInt8
  | 0, _ => []
  | width + 1, value => toBytes width (value / 256) ++ [UInt8.ofNat value]

theorem length_toBytes (width value : Nat) : (toBytes width value).length = width := by
  induction width generalizing value with
  | zero => rfl
  | succ width ih => simp [toBytes, ih]

theorem ofBytes_append_singleton (bytes : List UInt8) (byte : UInt8) :
    ofBytes (bytes ++ [byte]) = ofBytes bytes * 256 + byte.toNat := by
  simp [ofBytes, List.foldl_append]

/-- Reading what was written gives the number back up to the bits that fit. -/
theorem ofBytes_toBytes (width value : Nat) :
    ofBytes (toBytes width value) = value % 256 ^ width := by
  induction width generalizing value with
  | zero => simp [toBytes, ofBytes, Nat.mod_one]
  | succ width ih =>
      rw [toBytes, ofBytes_append_singleton, ih, UInt8.toNat_ofNat']
      have split : value % 256 ^ (width + 1)
          = value % 256 + 256 * (value / 256 % 256 ^ width) := by
        rw [Nat.pow_succ', Nat.mod_mul]
      omega

end Word

/-- One byte. -/
def byteBytes (value : UInt8) : List UInt8 := [value]

/-- A word of 16 bits. -/
def wordBytes16 (value : UInt16) : List UInt8 := Word.toBytes 2 value.toNat

/-- A word of 32 bits. -/
def wordBytes32 (value : UInt32) : List UInt8 := Word.toBytes 4 value.toNat

/-- A word of 64 bits. -/
def wordBytes64 (value : UInt64) : List UInt8 := Word.toBytes 8 value.toNat

/-- A signed word of 32 bits. -/
def signedBytes32 (value : Int32) : List UInt8 := wordBytes32 value.toUInt32

end Wire
end LineDebugger
