namespace LineDebugger
namespace Text

/-!
# Reading and writing UTF-8

`encode` is the standard encoding of a text.  `decode` accepts exactly the encodings
of scalar values: no overlong form, no surrogate, nothing above U+10FFFF.  When it
refuses, it says at which byte the first malformed sequence starts and how many bytes
of it are certainly wrong, or that the bytes end inside a sequence that was right so
far.
-/

namespace Utf8

/-- Why bytes are no UTF-8 text.  `invalid` has the number of bytes that belong to the
malformed sequence; `incomplete` means that more bytes could still complete it.  The
index is that of the first byte of the sequence. -/
inductive Fault where
  | invalid (length index : Nat)
  | incomplete (index : Nat)
  deriving DecidableEq, Repr

/-- The sentence that reports a fault. -/
def Fault.message : Fault -> String
  | .invalid length index =>
      s!"invalid utf-8 sequence of {length} bytes from index {index}"
  | .incomplete index => s!"incomplete utf-8 byte sequence from index {index}"

/-- Whether a byte continues a sequence. -/
def isContinuation (byte : UInt8) : Bool := 0x80 ≤ byte && byte ≤ 0xBF

/-- Whether `second` may follow the leading byte of a three-byte sequence.  The
narrower ranges after E0 and ED keep out overlong forms and surrogates. -/
def allowsSecondOfThree (lead second : UInt8) : Bool :=
  if lead = 0xE0 then 0xA0 ≤ second && second ≤ 0xBF
  else if lead = 0xED then 0x80 ≤ second && second ≤ 0x9F
  else isContinuation second

/-- Whether `second` may follow the leading byte of a four-byte sequence.  The
narrower ranges after F0 and F4 keep out overlong forms and values above U+10FFFF. -/
def allowsSecondOfFour (lead second : UInt8) : Bool :=
  if lead = 0xF0 then 0x90 ≤ second && second ≤ 0xBF
  else if lead = 0xF4 then 0x80 ≤ second && second ≤ 0x8F
  else isContinuation second

/-- The six payload bits of a continuation byte. -/
def payload (byte : UInt8) : Nat := byte.toNat % 64

/-- Decode the bytes from `index` on.  Each case consumes one whole sequence, so the
recursion is on the bytes that remain. -/
def decodeFrom (index : Nat) : List UInt8 -> Except Fault (List Char)
  | [] => .ok []
  | lead :: rest =>
      if lead < 0x80 then
        (decodeFrom (index + 1) rest).map (Char.ofNat lead.toNat :: ·)
      else if 0xC2 ≤ lead && lead ≤ 0xDF then
        match rest with
        | [] => .error (.incomplete index)
        | second :: rest =>
            if !isContinuation second then .error (.invalid 1 index)
            else (decodeFrom (index + 2) rest).map
              (Char.ofNat (lead.toNat % 32 * 64 + payload second) :: ·)
      else if 0xE0 ≤ lead && lead ≤ 0xEF then
        match rest with
        | [] => .error (.incomplete index)
        | second :: rest =>
            if !allowsSecondOfThree lead second then .error (.invalid 1 index)
            else match rest with
              | [] => .error (.incomplete index)
              | third :: rest =>
                  if !isContinuation third then .error (.invalid 2 index)
                  else (decodeFrom (index + 3) rest).map
                    (Char.ofNat
                      (lead.toNat % 16 * 4096 + payload second * 64 + payload third) :: ·)
      else if 0xF0 ≤ lead && lead ≤ 0xF4 then
        match rest with
        | [] => .error (.incomplete index)
        | second :: rest =>
            if !allowsSecondOfFour lead second then .error (.invalid 1 index)
            else match rest with
              | [] => .error (.incomplete index)
              | third :: rest =>
                  if !isContinuation third then .error (.invalid 2 index)
                  else match rest with
                    | [] => .error (.incomplete index)
                    | fourth :: rest =>
                        if !isContinuation fourth then .error (.invalid 3 index)
                        else (decodeFrom (index + 4) rest).map
                          (Char.ofNat
                            (lead.toNat % 8 * 262144 + payload second * 4096
                              + payload third * 64 + payload fourth) :: ·)
      else .error (.invalid 1 index)

/-- The text that the bytes encode. -/
def decode (bytes : List UInt8) : Except Fault String :=
  (decodeFrom 0 bytes).map String.ofList

/-- The UTF-8 bytes of a text. -/
def encode (text : String) : List UInt8 :=
  text.toList.flatMap String.utf8EncodeChar

end Utf8
end Text
end LineDebugger
