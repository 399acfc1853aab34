import LineDebugger.Wire.Fault
import LineDebugger.Wire.Word

namespace LineDebugger
namespace Wire

open Text

/-!
# Reading payloads

A reader takes what it needs from the front of a payload and leaves the rest, whether
it succeeds or not.  No reader looks past what it consumes, and a payload that is too
short is reported with the count of bytes needed and the count that is there.  The
writer of each item stands beside its reader.
-/

/-- What a reader made of a payload: the value, or why there is none, and the bytes
that are left. -/
structure Reading (α : Type) where
  result : Except Malformed α
  rest : List UInt8

/-- A function that reads from the front of a payload. -/
def Reader (α : Type) : Type := List UInt8 -> Reading α

/-- The first `count` elements and the others, if there are that many. -/
def splitFront {α : Type} : (count : Nat) -> List α -> Option (List α × List α)
  | 0, rest => some ([], rest)
  | _ + 1, [] => none
  | count + 1, first :: rest =>
      (splitFront count rest).map fun (front, rest) => (first :: front, rest)

theorem splitFront_eq {α : Type} (count : Nat) (list : List α) :
    splitFront count list
      = if count ≤ list.length then some (list.take count, list.drop count) else none := by
  induction count generalizing list with
  | zero => simp [splitFront]
  | succ count ih =>
      cases list with
      | nil => simp [splitFront]
      | cons first rest =>
          simp only [splitFront, ih, List.length_cons, Nat.add_le_add_iff_right,
            List.take_succ_cons, List.drop_succ_cons]
          by_cases enough : count ≤ rest.length <;> simp [enough]

namespace Reader

variable {α β : Type}

/-- Read nothing. -/
def succeed (value : α) : Reader α := fun payload => ⟨.ok value, payload⟩

/-- Refuse, leaving what has not been consumed so far. -/
def refuse (cause : Malformed) : Reader α := fun payload => ⟨.error cause, payload⟩

/-- Read one item, then others that may depend on it. -/
def andThen (first : Reader α) (next : α -> Reader β) : Reader β := fun payload =>
  let early := first payload
  match early.result with
  | .ok value => next value early.rest
  | .error cause => ⟨.error cause, early.rest⟩

instance : Monad Reader where
  pure := succeed
  bind := andThen

/-- Exactly `width` bytes, wanted for `item`. -/
def take (item : Item) (width : Nat) : Reader (List UInt8) := fun payload =>
  match splitFront width payload with
  | some (front, rest) => ⟨.ok front, rest⟩
  | none => ⟨.error (.tooShort item width payload.length), payload⟩

/-- The number in the next `width` bytes. -/
def number (item : Item) (width : Nat) : Reader Nat := do
  return Word.ofBytes (← take item width)

/-- As many entries as `count` says, in order. -/
def repeated (entry : Reader α) : (count : Nat) -> Reader (List α)
  | 0 => pure []
  | count + 1 => do
      let first ← entry
      let others ← repeated entry count
      return first :: others

end Reader

/-! ## Words -/

def readByte : Reader UInt8 := do return UInt8.ofNat (← Reader.number .u8 1)

/-- Any byte but zero means true. -/
def readBool : Reader Bool := do return (← readByte) != 0

def readWord16 : Reader UInt16 := do return UInt16.ofNat (← Reader.number .u16 2)

def readWord32 : Reader UInt32 := do return UInt32.ofNat (← Reader.number .u32 4)

def readSigned32 : Reader Int32 := do
  return (UInt32.ofNat (← Reader.number .i32 4)).toInt32

def readWord64 : Reader UInt64 := do return UInt64.ofNat (← Reader.number .u64 8)

/-! ## Counts -/

/-- The count in front of a list.  Counts are signed on the wire; a negative one is
refused. -/
def readCount : Reader Nat := do
  let count ← readSigned32
  if count.toInt < 0 then Reader.refuse (.negativeCount count)
  else return count.toInt.toNat

/-- The count of a list, as written in front of it. -/
def countBytes (count : Nat) : List UInt8 := Word.toBytes 4 count

/-- How many entries to make room for.  A count comes from the other side and may be
any number, so never more is reserved than `available` bytes can hold when an entry
takes at least `entrySize` of them. -/
def boundedCapacity (count available entrySize : Nat) : Nat :=
  min count (available / max entrySize 1)

/-- A count and that many entries. -/
def readList {α : Type} (entry : Reader α) : Reader (List α) := do
  entry.repeated (← readCount)

/-- The count of the entries and the entries. -/
def listBytes {α : Type} (entryBytes : α -> List UInt8) (entries : List α) : List UInt8 :=
  countBytes entries.length ++ entries.flatMap entryBytes

/-! ## Texts -/

/-- A length of 32 bits and that many bytes of UTF-8.  Bytes that are no UTF-8 are left
unread; the length in front of them has been consumed. -/
def readText : Reader String := do
  let length ← readWord32
  fun payload =>
    let taken := Reader.take .text length.toNat payload
    match taken.result with
    | .error cause => ⟨.error cause, payload⟩
    | .ok bytes =>
        match Utf8.decode bytes with
        | .ok text => ⟨.ok text, taken.rest⟩
        | .error fault => ⟨.error (.badText fault), payload⟩

/-- A text with its length in front. -/
def textBytes (text : String) : List UInt8 :=
  let bytes := Utf8.encode text
  Word.toBytes 4 bytes.length ++ bytes

end Wire
end LineDebugger
